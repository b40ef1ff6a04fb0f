import Conformance.Proofs.Simulation

/-!
# Three ways to ask

A check gives an error or null, `isValid` compares that result with null, and `assertValid` looks
whether it counts as true. The two tests agree on all that a rule of the program can give. A
callable from outside may give a value that is neither null nor true; as a part of a rule such a
value passes and null is given in its place, but as the whole spec it is handed on, and then the
two tests differ.

`isValid` asks at the empty root. To agree with a check at another root, nothing in the spec may
look at the path: keys must extend it, and callables from outside must end alike wherever they are
called at one depth.
-/

namespace Conformance

namespace World

variable {w : World} {options : Options} {v spec root result : Value}

/-! ## What the entry points look at -/

/-- A check gives null exactly when the validator of its spec does at the root. -/
theorem check_null_iff_run : (w.check options v spec root).outcome = .ok .null ↔
    ∃ validator, w.resolve spec = .ok validator ∧
      (w.run options validator v (.rootPath root)).outcome = .ok .null := by
  constructor
  · exact check_ok
  · rintro ⟨validator, resolved, judged⟩
    rw [World.check, resolved, Run.lift_ok, pure_bind, Run.outcome_bind, judged]
    rfl

/-- A value is valid exactly when its check at the empty root gives null. -/
theorem isValid_iff : (w.isValid options v spec).outcome = .ok true ↔
    (w.check options v spec (.str "")).outcome = .ok .null := by
  rw [isValid, Run.outcome_bind, bind_eq_ok_iff]
  simp

/-- An assertion goes through exactly when the check ends with a value that counts as false. -/
theorem assertValid_iff (returned : (w.check options v spec root).outcome = .ok result) :
    (w.assertValid options v spec root).outcome = .ok none ↔ w.store.isTrue result = false := by
  rw [assertValid, Run.outcome_bind, returned, bind_eq_ok_iff]
  constructor
  · rintro ⟨error, same, asserted⟩
    cases same
    split at asserted
    · rw [Run.outcome_bind, bind_eq_ok_iff] at asserted
      obtain ⟨text, _, rejected⟩ := asserted
      cases rejected
    · next falsy => simpa using falsy
  · intro falsy
    exact ⟨result, rfl, by simp [falsy]⟩

/-- A value is valid exactly when an assertion about it at a root goes through. -/
def EntryPointsAgree (w : World) (options : Options) (v spec root : Value) : Prop :=
  (w.isValid options v spec).outcome = .ok true ↔
    (w.assertValid options v spec root).outcome = .ok none

/-- The entry points agree if the check at the empty root gives null just when the one at the other
root gives a value that counts as false. -/
theorem entryPointsAgree_iff (returned : (w.check options v spec root).outcome = .ok result) :
    w.EntryPointsAgree options v spec root ↔
      ((w.check options v spec (.str "")).outcome = .ok .null ↔ w.store.isTrue result = false) := by
  rw [EntryPointsAgree, isValid_iff, assertValid_iff returned]

/-- A shape gives null or something that counts as true, even when its fields are no mapping. -/
theorem judgeShape_null_or_true {check : Validator → Value → Value → Run Value}
    {fields context : Value} {depth : Int} (located : context.depth? = some depth)
    (ended : (w.judgeShape options check fields v context).outcome = .ok result) :
    result = .null ∨ w.store.isTrue result = true := by
  rw [judgeShape] at ended
  split at ended
  · cases ended
    exact .inr rfl
  split at ended
  · cases ended
    exact .inr rfl
  rw [Run.outcome_bind, bind_eq_ok_iff] at ended
  obtain ⟨verdict, entered, ended⟩ := ended
  rcases guardDepth_ok located entered with ⟨_, rfl⟩ | ⟨_, rfl⟩
  · rw [Run.outcome_bind, bind_eq_ok_iff] at ended
    obtain ⟨declared, _, ended⟩ := ended
    rcases Run.firstTrue_ok _ _ _ ended with ⟨rfl, _⟩ | ⟨_, _, _, truthy⟩
    · exact .inl rfl
    · exact .inr truthy
  · cases ended
    exact .inr rfl

/-- A rule gives null or something that counts as true, whatever its parts give. -/
theorem judgeWith_null_or_true {check : Validator → Value → Value → Run Value} {rule : Rule}
    {context : Value} {depth : Int} (located : context.depth? = some depth)
    (ended : (w.judgeWith options check (.rule rule) v context).outcome = .ok result) :
    result = .null ∨ w.store.isTrue result = true := by
  have root := contextOrRoot_of_depth? (w := w) located
  cases rule with
  | shape fields =>
    simp only [judgeWith, root] at ended
    exact judgeShape_null_or_true located ended
  | ofKind _ | equals _ | instanceOf _ _ | oneOf _ | array _ | union _ =>
    exact (judgeWith_ends located (by simp) ended).null_or_true

/-- What a check gives is null or true, unless it is handed on from a callable that is the whole
spec. -/
theorem check_null_or_true (returned : (w.check options v spec root).outcome = .ok result) :
    (result = .null ∨ w.store.isTrue result = true) ∨ w.store.IsForeign spec := by
  obtain ⟨validator, resolved, judged⟩ := check_ok returned
  rcases stands_or_foreign_of_resolve resolved with ⟨rule, rfl, _⟩ | ⟨_, foreign⟩
  · refine .inl ?_
    rw [run] at judged
    generalize w.levelsFor options (.rootPath root) = levels at judged
    cases levels with
    | zero => cases judged
    | succ levels => exact judgeWith_null_or_true (by rfl) judged
  · exact .inr foreign

/-! ## Checks at other roots -/

/-- Two results that a check treats alike: both are null or neither, both count as true or neither,
and both can be listed in the failure of a union or neither. -/
structure Alike (w : World) (result result' : Value) : Prop where
  null : result = .null ↔ result' = .null
  truth : w.store.isTrue result = w.store.isTrue result'
  line : Parallel (fun _ _ => True) (w.alternativeLine result) (w.alternativeLine result')

theorem Alike.refl (result : Value) : w.Alike result result :=
  ⟨Iff.rfl, rfl, .refl (fun _ => trivial) _⟩

/-- A spec for which it makes no difference where a check starts: its keys are no nulls, and if it
is a callable from outside, it ends alike at contexts that are equally deep, whatever the texts of
their paths.

A key that is null would ask for the path instead of extending it. The part is then checked at that
path as its context: the empty one counts as no context, so the check starts afresh there, while any
other text is a context that has no depth and cannot be extended. So two such checks do not keep
step, and if the root is a path itself they can even end differently. Fields that are no mapping are
outside of what a shape is declared to have; they are asked for their items, and these may have any
keys. -/
structure RootBlind (w : World) (spec : Value) : Prop where
  keyed : ∀ fields, w.store.Stands spec (.shape fields) →
    ∃ entries, w.store.entries? fields = some entries ∧ ∀ entry ∈ entries, entry.1 ≠ .null
  outside : w.store.IsForeign spec → ∀ v depth name name' tag tag',
    Parallel w.Alike (w.call spec [v, .path (.text name tag) (.int depth) 0])
      (w.call spec [v, .path (.text name' tag') (.int depth) 0])

/-- A text, plain or not. -/
def IsText (base : Value) : Prop := ∃ name tag, base = .text name tag

theorem isText_str (name : String) : IsText (.str name) := ⟨name, .plain, rfl⟩

/-- A base that is a text can be lengthened. -/
theorem lengthened_of_isText {base : Value} (written : IsText base) (segment : String) :
    ∃ location, w.lengthened base segment = .ok location := by
  obtain ⟨name, tag, rfl⟩ := written
  rw [lengthened, text_of_text]
  split
  · exact ⟨_, rfl⟩
  · exact ⟨_, rfl⟩

/-- Bases that are both texts. -/
def BothTexts (base base' : Value) : Prop := IsText base ∧ IsText base'

/-- Results along paths with texts for bases are treated alike. -/
theorem ResultsAlong.alike {result' : Value} (along : ResultsAlong BothTexts AnyWords result result') :
    w.Alike result result' := by
  refine ⟨?_, along.truth, along.line ?_⟩
  · cases along with
    | null => exact Iff.rfl
    | failure _ _ _ => simp [ownFailure]
  · rintro _ _ ⟨⟨name, tag, rfl⟩, ⟨name', tag', rfl⟩⟩
    rw [text_of_text, text_of_text]
    exact .value trivial

/-- The runs of a spec at two roots that are texts. -/
def rerooting (w : World) (options : Options) : w.Simulation options options where
  bases := BothTexts
  worded := AnyWords
  results := w.Alike
  segments _ := True
  limit := .refl options
  wording _ _ _ := trivial
  rendered := w.rendered_alike options
  numeral _ := trivial
  lengthen := by
    rintro base base' segment ⟨written, written'⟩ _
    obtain ⟨location, further⟩ := lengthened_of_isText (w := w) written segment
    obtain ⟨location', further'⟩ := lengthened_of_isText (w := w) written' segment
    rw [further, further']
    exact .value ⟨isText_str location, isText_str location'⟩
  along along := along.alike
  truth _ _ alike := alike.truth
  line _ _ alike := alike.line

theorem RootBlind.admits (blind : w.RootBlind spec) : (w.rerooting options).Admits spec := by
  constructor
  · intro fields stands
    obtain ⟨entries, held, proper⟩ := blind.keyed fields stands
    exact ⟨entries, held, fun entry member => ⟨proper entry member, fun _ _ => trivial⟩⟩
  · intro _ _ _ _
    trivial
  · rintro foreign v _ _ ⟨⟨⟨name, tag, rfl⟩, ⟨name', tag', rfl⟩⟩, depth⟩
    exact blind.outside foreign v depth name name' tag tag'

/-- Where a check starts decides nothing about what is blind to it. -/
theorem run_null_iff_of_blind {validator : Validator} (resolved : w.resolve spec = .ok validator)
    (blind : w.store.Throughout w.RootBlind spec) (written : IsText root) :
    (w.run options validator v (.rootPath (.str ""))).outcome = .ok .null ↔
      (w.run options validator v (.rootPath root)).outcome = .ok .null := by
  have admitted : w.store.Throughout (w.rerooting options).Admits spec :=
    fun inner reached => (blind inner reached).admits
  obtain ⟨name, tag, rfl⟩ := written
  have placed : (w.rerooting options).bases (.str "") (.text name tag) :=
    ⟨isText_str "", name, tag, rfl⟩
  have parallel := (Simulation.run_parallel (v := v) admitted placed rfl resolved).outcome
  constructor
  · intro ended
    rw [ended] at parallel
    obtain ⟨result', ended', alike⟩ := parallel.ok
    rw [ended', alike.null.mp rfl]
  · intro ended'
    rw [ended'] at parallel
    obtain ⟨result, ended, alike⟩ := parallel.ok_right
    rw [ended, alike.null.mpr rfl]

/-- Wherever a check ends without a fault, the entry points agree, with two provisos. If the whole
spec is a callable from outside, it has to give null or something that counts as true. And if the
check starts at a root of its own, that is a text to which the spec is blind. -/
theorem entry_points_agree (w : World) (options : Options) (v spec root result : Value)
    (returned : (w.check options v spec root).outcome = .ok result)
    (definite : w.store.IsForeign spec → result = .null ∨ w.store.isTrue result = true)
    (placed : root = .str "" ∨ (IsText root ∧ w.store.Throughout w.RootBlind spec)) :
    w.EntryPointsAgree options v spec root := by
  have decided : result = .null ∨ w.store.isTrue result = true := by
    rcases check_null_or_true returned with decided | foreign
    · exact decided
    · exact definite foreign
  have falsy : w.store.isTrue result = false ↔ result = .null := by
    rcases decided with rfl | truthy
    · simp
    · rw [truthy]
      simp only [Bool.true_eq_false, false_iff]
      rintro rfl
      cases truthy
  have moved : (w.check options v spec (.str "")).outcome = .ok .null ↔
      (w.check options v spec root).outcome = .ok .null := by
    rcases placed with rfl | ⟨written, blind⟩
    · exact Iff.rfl
    · rw [check_null_iff_run, check_null_iff_run]
      constructor
      · rintro ⟨validator, resolved, passed⟩
        exact ⟨validator, resolved, (run_null_iff_of_blind resolved blind written).mp passed⟩
      · rintro ⟨validator, resolved, passed⟩
        exact ⟨validator, resolved, (run_null_iff_of_blind resolved blind written).mpr passed⟩
  rw [entryPointsAgree_iff returned, moved, returned, falsy, Except.ok.injEq]

/-- A world with two callables from outside. One answers false to everything, the other rejects
what does not lie at the empty path. There are a mapping with an empty mapping at null, a mapping
of the first callable, and a mapping of a null. -/
def disputed : World where
  store := ⟨#[
    .mapping (.standard "dict" ["Mapping"]) [(.null, .object 1)],
    .mapping (.standard "dict" ["Mapping"]) [],
    .mapping (.standard "dict" ["Mapping"]) [(.str "note", .routine "mute" .user)]]⟩
  external
    | .routine "mute" _, _ => .ok (.bool false)
    | .routine "rooted" _, [_, context] =>
      if context = .rootPath (.str "") then .ok .null
      else .ok (.failure (.str "rejected") context 0)
    | callee, _ => .error (.notCallable (Store.typeName ⟨#[]⟩ callee))
  field _ _ := .ok none
  customs := .regular ⟨#[]⟩

/-- The entry points differ on a callable that answers false, which is neither null nor true; at
another root on a callable that looks at its path; and at a root that is itself a path on a key that
is null, since the check of its part starts at that path and may be too deep from the outset. -/
theorem disputed_disagree :
    ((disputed.check {} .null (.routine "mute" .user) (.str "")).outcome = .ok (.bool false) ∧
      ¬ disputed.EntryPointsAgree {} .null (.routine "mute" .user) (.str "")) ∧
    ((disputed.check {} .null (.routine "rooted" .user) (.str "order")).outcome =
        .ok (ownFailure "rejected" (.rootPath (.str "order"))) ∧
      ¬ disputed.EntryPointsAgree {} .null (.routine "rooted" .user) (.str "order")) ∧
    ((disputed.check {} (.object 0) (.object 0) (.path (.str "order") (.int 100) 0)).outcome =
        .ok (ownFailure (depthMessage 100) (.path (.str "order") (.int 100) 0)) ∧
      ¬ disputed.EntryPointsAgree {} (.object 0) (.object 0)
        (.path (.str "order") (.int 100) 0)) := by
  have mute : (disputed.check {} .null (.routine "mute" .user) (.str "")).outcome =
      .ok (.bool false) := by
    decide +kernel
  have rooted : (disputed.check {} .null (.routine "rooted" .user) (.str "order")).outcome =
      .ok (ownFailure "rejected" (.rootPath (.str "order"))) := by
    decide +kernel
  have deep : (disputed.check {} (.object 0) (.object 0)
      (.path (.str "order") (.int 100) 0)).outcome =
      .ok (ownFailure (depthMessage 100) (.path (.str "order") (.int 100) 0)) := by
    decide +kernel
  refine ⟨⟨mute, ?_⟩, ⟨rooted, ?_⟩, ⟨deep, ?_⟩⟩
  · rw [entryPointsAgree_iff mute]
    decide +kernel
  · rw [entryPointsAgree_iff rooted]
    decide +kernel
  · rw [entryPointsAgree_iff deep]
    decide +kernel

/-- The mapping of the mute callable reaches the callable and nothing else. -/
theorem disputed_reaches {inner : Value} (reached : disputed.store.Reaches (.object 2) inner) :
    inner = .object 2 ∨ inner = .routine "mute" .user := by
  induction reached with
  | refl => exact .inl rfl
  | step _ stands member inductionHypothesis =>
    have resolved := resolve_of_stands (w := disputed) stands
    rcases inductionHypothesis with rfl | rfl
    · cases resolved
      exact .inr (List.mem_singleton.mp member)
    · cases resolved

theorem disputed_blind : disputed.store.Throughout disputed.RootBlind (.object 2) := by
  intro inner reached
  rcases disputed_reaches reached with rfl | rfl
  · constructor
    · intro fields stands
      cases resolve_of_stands (w := disputed) stands
      exact ⟨_, rfl, by simp [Value.str]⟩
    · rintro ⟨callable, _, _⟩
      cases callable
  · constructor
    · intro fields stands
      cases resolve_of_stands (w := disputed) stands
    · intro _ _ _ _ _ _ _
      exact .value (.refl _)

/-- At a root of its own, a mapping passes whose note the mute callable answers false to. The
callable looks at nothing, and as the answer for a part false is as good as null. -/
theorem disputed_agree :
    (disputed.check {} (.object 1) (.object 2) (.str "order")).outcome = .ok .null ∧
      (disputed.store.IsForeign (.object 2) →
        Value.null = .null ∨ disputed.store.isTrue .null = true) ∧
      (IsText (.str "order") ∧ disputed.store.Throughout disputed.RootBlind (.object 2)) ∧
      disputed.EntryPointsAgree {} (.object 1) (.object 2) (.str "order") := by
  have returned : (disputed.check {} (.object 1) (.object 2) (.str "order")).outcome =
      .ok .null := by
    decide +kernel
  have placed : IsText (.str "order") ∧ disputed.store.Throughout disputed.RootBlind (.object 2) :=
    ⟨isText_str "order", disputed_blind⟩
  exact ⟨returned, fun _ => .inl rfl, placed,
    entry_points_agree disputed {} (.object 1) (.object 2) (.str "order") .null returned
      (fun _ => .inl rfl) (.inr placed)⟩

end World

end Conformance
