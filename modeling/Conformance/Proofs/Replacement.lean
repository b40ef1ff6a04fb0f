import Conformance.Proofs.Verdict

/-!
# Replacing parts of a spec

A spec accepts a value if its validator ends with something that counts as false. Shapes and arrays
ask for the acceptance of all their parts, and a union for that of one alternative; nothing is ever
accepted because a part was refused. So if a part of a spec, wherever it occurs, is replaced by one
that accepts at least as much, the spec still accepts what it did, or it faults.

The two specs need not be finite trees. They correspond if some relation holds between them that
can be followed, step by step, through all mappings, lists and unions, until it arrives at the same
spec on both sides or at the replaced part.
-/

namespace Conformance

namespace Run

variable {α ι κ : Type} {isTrue : α → Bool} {run run' : Run α}

/-- A run goes on passing in another if the other passes or faults whenever it passes itself, that
is, ends with a value that counts as false. -/
def KeepsPassing (isTrue : α → Bool) (run run' : Run α) : Prop :=
  ∀ value value', run.outcome = .ok value → isTrue value = false → run'.outcome = .ok value' →
    isTrue value' = false

/-- If every step of a loop that stops at the first true value goes on passing, so does the loop. -/
theorem KeepsPassing.firstTrue {step : ι → Run α} {step' : κ → Run α} {items : List ι}
    {items' : List κ} {otherwise : α} (last : isTrue otherwise = false)
    (each : List.Forall₂ (fun item item' => KeepsPassing isTrue (step item) (step' item'))
      items items') :
    KeepsPassing isTrue (Run.firstTrue isTrue step otherwise [] items)
      (Run.firstTrue isTrue step' otherwise [] items') := by
  intro value value' ended falsy ended'
  rcases firstTrue_ok _ _ _ ended' with ⟨rfl, _⟩ | ⟨item', member', judged', _⟩
  · exact last
  · obtain ⟨item, member, keeps⟩ := exists_mem_of_forall₂ each member'
    rcases firstTrue_ok _ _ _ ended with ⟨_, passed⟩ | ⟨_, _, _, truthy⟩
    · obtain ⟨earlier, judged, falsy'⟩ := passed item member
      exact keeps earlier value' judged falsy' judged'
    · rw [falsy] at truthy
      cases truthy

/-- If every step of a loop that stops at the first value that is not true goes on passing, the
loop stops again if it stopped before. -/
theorem allTrue_none_of_keepsPassing {step : ι → Run α} {step' : κ → Run α} {items : List ι}
    {items' : List κ} {verdict : Option (List α)}
    (each : List.Forall₂ (fun item item' => KeepsPassing isTrue (step item) (step' item'))
      items items')
    (ended : (Run.allTrue isTrue step [] [] items).outcome = .ok none)
    (ended' : (Run.allTrue isTrue step' [] [] items').outcome = .ok verdict) : verdict = none := by
  cases verdict with
  | none => rfl
  | some values =>
    obtain ⟨item, member, value, judged, falsy⟩ := allTrue_none _ _ ended
    obtain ⟨item', member', keeps⟩ := exists_mem_of_forall₂ each.flip member
    obtain ⟨found, _, failed⟩ := allTrue_some _ _ ended'
    obtain ⟨value', judged', truthy⟩ := exists_of_forall₂ failed member'
    have falsy' := keeps value value' judged falsy judged'
    rw [falsy'] at truthy
    cases truthy

/-- A run settles in another if it is the same run, unless it faults. -/
def SettlesIn (run later : Run α) : Prop := ∀ value, run.outcome = .ok value → later = run

theorem congruence_settlesIn : Congruence fun _ run later => run.SettlesIn later where
  refl _ _ _ := rfl
  bind := by
    intro α β run later next next' first followed value ended
    rw [outcome_bind, bind_eq_ok_iff] at ended
    obtain ⟨middle, found, ended⟩ := ended
    rw [first middle found]
    refine bind_congr fun other again => ?_
    cases found.symm.trans again
    exact followed middle found value ended

end Run

namespace World

variable {w : World} {options : Options} {spec spec' v context result : Value}
  {validator validator' : Validator}

/-! ## Results apart from levels -/

/-- A call that ends without a fault runs in the same way through any more levels. -/
theorem judge_settlesIn (call : Call) {levels : Nat} (more : Nat) :
    (w.judge options levels call.validator call.value call.context).SettlesIn
      (w.judge options (levels + more) call.validator call.value call.context) := by
  induction levels generalizing call with
  | zero =>
    intro value ended
    cases ended
  | succ levels inductionHypothesis =>
    have guarded : (w.guardDepth options (w.contextOrRoot call.context)).SettlesIn
        (w.guardDepth { options with maxDepth := options.maxDepth }
          (w.contextOrRoot call.context)) := fun _ _ => rfl
    rw [Nat.succ_add]
    exact judgeWith_related Run.congruence_settlesIn guarded fun next _ => inductionHypothesis next

/-- The validator of a spec, run through enough levels, ends with a result. -/
def RunsTo (w : World) (options : Options) (spec v context result : Value) : Prop :=
  ∃ validator levels, w.resolve spec = .ok validator ∧
    (w.judge options levels validator v context).outcome = .ok result

/-- A spec accepts a value at a context if its validator ends with something that counts as
false. -/
def Accepts (w : World) (options : Options) (spec v context : Value) : Prop :=
  ∃ result, w.RunsTo options spec v context result ∧ w.store.isTrue result = false

/-- A spec ends with one result only, through however many levels it is run. -/
theorem RunsTo.unique {result' : Value} (runs : w.RunsTo options spec v context result)
    (runs' : w.RunsTo options spec v context result') : result' = result := by
  obtain ⟨validator, levels, resolved, ended⟩ := runs
  obtain ⟨validator', levels', resolved', ended'⟩ := runs'
  cases resolved.symm.trans resolved'
  have first := judge_settlesIn ⟨validator, v, context⟩ levels' result ended
  have second := judge_settlesIn ⟨validator, v, context⟩ levels result' ended'
  rw [Nat.add_comm] at second
  have same := first.symm.trans second
  rw [same, ended'] at ended
  exact Except.ok.inj ended

/-- What the run of a spec ends with. -/
theorem runsTo_of_runSpec (ended : (w.runSpec options spec v context).outcome = .ok result) :
    w.RunsTo options spec v context result := by
  rw [runSpec, Run.outcome_bind, bind_eq_ok_iff] at ended
  obtain ⟨validator, resolved, ended⟩ := ended
  exact ⟨validator, _, resolved, ended⟩

/-- Where the run of a spec ends without a fault, it decides whether the spec accepts. -/
theorem accepts_iff_of_runSpec (ended : (w.runSpec options spec v context).outcome = .ok result) :
    w.Accepts options spec v context ↔ w.store.isTrue result = false := by
  have runs := runsTo_of_runSpec ended
  constructor
  · rintro ⟨other, runs', falsy⟩
    rw [runs'.unique runs]
    exact falsy
  · intro falsy
    exact ⟨result, runs, falsy⟩

/-- A kind name accepts the values of that kind, at every context. -/
theorem accepts_kindName_iff (kind : Kind) (tag : Tag) :
    w.Accepts options (.text kind.name tag) v context ↔ w.store.kindOf v = kind := by
  have resolved := resolve_of_stands (w := w) (.kindName kind tag)
  constructor
  · rintro ⟨result, ⟨validator, levels, found, ended⟩, falsy⟩
    cases resolved.symm.trans found
    cases levels with
    | zero => cases ended
    | succ levels =>
      by_contra other
      simp only [judge, judgeWith, judgeLeaf, other, if_false] at ended
      cases ended
      cases falsy
  · intro same
    refine ⟨.null, ⟨_, 1, resolved, ?_⟩, rfl⟩
    simp [judge, judgeWith, judgeLeaf, same]

/-- A union accepts what its first alternative accepts. -/
theorem Accepts.union {first : Value} {others : List Value}
    (stands : w.store.Stands spec (.union (first :: others)))
    (accepted : w.Accepts options first v (w.contextOrRoot context)) :
    w.Accepts options spec v context := by
  obtain ⟨result, ⟨validator, levels, resolved, ended⟩, falsy⟩ := accepted
  refine ⟨.null, ⟨_, levels + 1, resolve_of_stands stands, ?_⟩, rfl⟩
  have judged : (w.judgeAlternative (w.judge options levels) v (w.contextOrRoot context)
      first).outcome = .ok result := by
    rw [judgeAlternative, resolved]
    exact ended
  have looped : (Run.allTrue w.store.isTrue
      (w.judgeAlternative (w.judge options levels) v (w.contextOrRoot context)) [] []
      (first :: others)).outcome = .ok none := by
    rw [Run.allTrue_cons, Run.bind_of_ok judged, falsy]
    rfl
  simp only [judge, judgeWith, judgeUnion]
  rw [Run.bind_of_ok looped]
  rfl

/-! ## Containers that are entered -/

section Containers

variable {check check' : Validator → Value → Value → Run Value}

/-- A guard that stops a check gives a failure, wherever it is asked. -/
theorem guardDepth_true {tooDeep : Value}
    (stopped : (w.guardDepth options context).outcome = .ok (some tooDeep)) :
    w.store.isTrue tooDeep = true := by
  simp only [guardDepth, Run.outcome_bind, bind_eq_ok_iff] at stopped
  obtain ⟨below, _, stopped⟩ := stopped
  cases below with
  | true => cases stopped
  | false =>
    simp only [Bool.false_eq_true, if_false, Run.outcome_bind, bind_eq_ok_iff] at stopped
    obtain ⟨_, _, _, _, _, _, same⟩ := stopped
    cases same
    rfl

/-- What lets a shape check its fields. -/
structure EntersShape (w : World) (options : Options) (v context : Value) : Prop where
  present : v ≠ .null
  object : w.store.kindOf v = .object
  below : (w.guardDepth options context).outcome = .ok none

/-- A shape that passes has checked its fields. -/
theorem entersShape_of_passes {fields : Value}
    (ended : (w.judgeShape options check fields v context).outcome = .ok result)
    (falsy : w.store.isTrue result = false) : w.EntersShape options v context := by
  rw [judgeShape] at ended
  split at ended
  · cases ended
    cases falsy
  next present =>
  split at ended
  · cases ended
    cases falsy
  next object =>
  rw [Run.outcome_bind, bind_eq_ok_iff] at ended
  obtain ⟨verdict, entered, ended⟩ := ended
  cases verdict with
  | none => exact ⟨present, not_not.mp object, entered⟩
  | some tooDeep =>
    cases ended
    rw [guardDepth_true entered] at falsy
    cases falsy

/-- Once its fields are checked, a shape ends as their loop does. -/
theorem EntersShape.outcome (enters : w.EntersShape options v context) {fields : Value}
    {entries : List (Value × Value)} (held : w.store.entries? fields = some entries) :
    (w.judgeShape options check fields v context).outcome =
      (Run.firstTrue w.store.isTrue (fun entry => w.judgeField check v context (.ok entry)) .null []
        entries).outcome := by
  obtain ⟨present, object, below⟩ := enters
  simp only [judgeShape, present, object, if_false, ne_eq, not_true_eq_false, Run.outcome_bind,
    below, declaredFields_of_entries? held, Run.lift_ok, pure_bind, ← Run.firstTrue_map]
  rfl

/-- What lets an array check these items. -/
structure EntersArray (w : World) (options : Options) (v context : Value) (items : List Value) :
    Prop where
  listed : w.store.arrayItems? v = some items
  below : (w.guardDepth options context).outcome = .ok none

/-- An array that passes has checked its items. -/
theorem entersArray_of_passes {element : Value}
    (ended : (w.judgeArray options check element v context).outcome = .ok result)
    (falsy : w.store.isTrue result = false) : ∃ items, w.EntersArray options v context items := by
  rw [judgeArray] at ended
  split at ended
  · cases ended
    cases falsy
  next items listed =>
  rw [Run.outcome_bind, bind_eq_ok_iff] at ended
  obtain ⟨verdict, entered, ended⟩ := ended
  cases verdict with
  | none => exact ⟨items, listed, entered⟩
  | some tooDeep =>
    cases ended
    rw [guardDepth_true entered] at falsy
    cases falsy

/-- Once its items are checked, an array ends as their loop does, if the spec of the items
resolves. -/
theorem EntersArray.outcome {items : List Value} (enters : w.EntersArray options v context items)
    (element : Value) : (w.judgeArray options check element v context).outcome = (do
      let validator ← w.resolve element
      (Run.firstTrue w.store.isTrue (w.judgeItem (check validator) context) .null []
        items.zipIdx).outcome) := by
  obtain ⟨listed, below⟩ := enters
  rw [judgeArray, listed]
  simp only [Run.outcome_bind, below]
  exact Run.outcome_bind (Run.lift (w.resolve element)) _

/-! ## Rules whose parts go on passing -/

/-- A field goes on passing if its spec does. -/
theorem field_keepsPassing {entry entry' : Value × Value} (key : entry'.1 = entry.1)
    (parts : ∀ validator validator' part inner, w.resolve entry.2 = .ok validator →
      w.resolve entry'.2 = .ok validator' →
      Run.KeepsPassing w.store.isTrue (check validator part inner) (check' validator' part inner)) :
    Run.KeepsPassing w.store.isTrue (w.judgeField check v context (.ok entry))
      (w.judgeField check' v context (.ok entry')) := by
  intro value value' judged falsy judged'
  obtain ⟨validator, part, inner, resolved, read, extended, ended⟩ := judgeField_ok judged
  obtain ⟨validator', part', inner', resolved', read', extended', ended'⟩ := judgeField_ok judged'
  rw [key] at read' extended'
  cases read.symm.trans read'
  cases extended.symm.trans extended'
  exact parts validator validator' part inner resolved resolved' value value' ended falsy ended'

/-- A shape goes on passing if its fields do. -/
theorem shape_keepsPassing {fields fields' : Value} {entries entries' : List (Value × Value)}
    (held : w.store.entries? fields = some entries)
    (held' : w.store.entries? fields' = some entries')
    (each : List.Forall₂ (fun entry entry' => Run.KeepsPassing w.store.isTrue
      (w.judgeField check v context (.ok entry)) (w.judgeField check' v context (.ok entry')))
      entries entries') :
    Run.KeepsPassing w.store.isTrue (w.judgeShape options check fields v context)
      (w.judgeShape options check' fields' v context) := by
  intro value value' ended falsy ended'
  have enters := entersShape_of_passes ended falsy
  rw [enters.outcome held] at ended
  rw [enters.outcome held'] at ended'
  exact Run.KeepsPassing.firstTrue rfl each value value' ended falsy ended'

/-- An array goes on passing if the spec of its items does. -/
theorem array_keepsPassing {element element' : Value}
    (parts : ∀ validator validator' part inner, w.resolve element = .ok validator →
      w.resolve element' = .ok validator' →
      Run.KeepsPassing w.store.isTrue (check validator part inner) (check' validator' part inner)) :
    Run.KeepsPassing w.store.isTrue (w.judgeArray options check element v context)
      (w.judgeArray options check' element' v context) := by
  intro value value' ended falsy ended'
  obtain ⟨items, enters⟩ := entersArray_of_passes ended falsy
  rw [enters.outcome, bind_eq_ok_iff] at ended ended'
  obtain ⟨validator, resolved, ended⟩ := ended
  obtain ⟨validator', resolved', ended'⟩ := ended'
  refine Run.KeepsPassing.firstTrue rfl ?_ value value' ended falsy ended'
  refine List.forall₂_same.mpr fun item _ => ?_
  intro earlier later judged passed judged'
  obtain ⟨inner, extended, checked⟩ := judgeItem_ok judged
  obtain ⟨inner', extended', checked'⟩ := judgeItem_ok judged'
  cases extended.symm.trans extended'
  exact parts validator validator' item.1 inner resolved resolved' earlier later checked passed
    checked'

/-- An alternative goes on passing if its spec does. -/
theorem alternative_keepsPassing {alternative alternative' : Value}
    (parts : ∀ validator validator', w.resolve alternative = .ok validator →
      w.resolve alternative' = .ok validator' →
      Run.KeepsPassing w.store.isTrue (check validator v context) (check' validator' v context)) :
    Run.KeepsPassing w.store.isTrue (w.judgeAlternative check v context alternative)
      (w.judgeAlternative check' v context alternative') := by
  intro value value' judged falsy judged'
  obtain ⟨validator, resolved, ended⟩ := judgeAlternative_ok judged
  obtain ⟨validator', resolved', ended'⟩ := judgeAlternative_ok judged'
  exact parts validator validator' resolved resolved' value value' ended falsy ended'

/-- A union goes on passing if its alternatives do, since one of them is enough. -/
theorem union_keepsPassing {alternatives alternatives' : List Value}
    (each : List.Forall₂ (fun alternative alternative' => Run.KeepsPassing w.store.isTrue
      (w.judgeAlternative check v context alternative)
      (w.judgeAlternative check' v context alternative')) alternatives alternatives') :
    Run.KeepsPassing w.store.isTrue (w.judgeUnion check alternatives v context)
      (w.judgeUnion check' alternatives' v context) := by
  intro value value' ended falsy ended'
  rw [judgeUnion, Run.outcome_bind, bind_eq_ok_iff] at ended ended'
  obtain ⟨verdict, looped, ended⟩ := ended
  obtain ⟨verdict', looped', ended'⟩ := ended'
  cases verdict with
  | some errors =>
    obtain ⟨lines, _, same⟩ := bind_eq_ok_iff.mp ended
    cases same
    cases falsy
  | none =>
    cases Run.allTrue_none_of_keepsPassing each looped looped'
    cases ended'
    rfl

end Containers

/-! ## Specs with replaced parts -/

/-- How two specs correspond that differ in a part, given how their sub-specs do: they are the same,
or the part and what replaces it, or they ask for the same fields, for items, or for alternatives
that correspond. -/
inductive ReplacesStep (w : World) (part part' : Value) (R : Value → Value → Prop) :
    Value → Value → Prop
  | same (spec : Value) : ReplacesStep w part part' R spec spec
  | replaced : ReplacesStep w part part' R part part'
  | shape {spec spec' fields fields' : Value} {entries entries' : List (Value × Value)}
      (stands : w.store.Stands spec (.shape fields))
      (stands' : w.store.Stands spec' (.shape fields'))
      (held : w.store.entries? fields = some entries)
      (held' : w.store.entries? fields' = some entries')
      (each : List.Forall₂ (fun entry entry' => entry'.1 = entry.1 ∧ R entry.2 entry'.2)
        entries entries') :
      ReplacesStep w part part' R spec spec'
  | array {spec spec' element element' : Value} (stands : w.store.Stands spec (.array element))
      (stands' : w.store.Stands spec' (.array element')) (inner : R element element') :
      ReplacesStep w part part' R spec spec'
  | union {spec spec' : Value} {alternatives alternatives' : List Value}
      (stands : w.store.Stands spec (.union alternatives))
      (stands' : w.store.Stands spec' (.union alternatives'))
      (each : List.Forall₂ R alternatives alternatives') : ReplacesStep w part part' R spec spec'

/-- One spec is the other with a part replaced at any number of places, at any depth: a relation
holds between them that can be followed through their sub-specs for good. -/
def Replaces (w : World) (part part' spec spec' : Value) : Prop :=
  ∃ R : Value → Value → Prop, R spec spec' ∧
    ∀ inner inner', R inner inner' → w.ReplacesStep part part' R inner inner'

section Replacement

variable {part part' : Value}

theorem ReplacesStep.mono {R S : Value → Value → Prop} (weaker : ∀ inner inner', R inner inner' →
    S inner inner') (step : w.ReplacesStep part part' R spec spec') :
    w.ReplacesStep part part' S spec spec' := by
  cases step with
  | same => exact .same spec
  | replaced => exact .replaced
  | shape stands stands' held held' each =>
    refine .shape stands stands' held held' (each.imp ?_)
    rintro entry entry' ⟨key, inner⟩
    exact ⟨key, weaker _ _ inner⟩
  | array stands stands' inner => exact .array stands stands' (weaker _ _ inner)
  | union stands stands' each => exact .union stands stands' (each.imp weaker)

/-- A part is replaced in a spec if the spec is replaced as a whole, or stays the same, or has the
part replaced in its sub-specs. -/
theorem replaces_iff : w.Replaces part part' spec spec' ↔
    w.ReplacesStep part part' (w.Replaces part part') spec spec' := by
  constructor
  · rintro ⟨R, related, closed⟩
    exact (closed spec spec' related).mono fun inner inner' below => ⟨R, below, closed⟩
  · intro step
    refine ⟨w.ReplacesStep part part' (w.Replaces part part'), step, ?_⟩
    intro inner inner' below
    refine below.mono ?_
    rintro last last' ⟨R, related, closed⟩
    exact (closed last last' related).mono fun further further' again => ⟨R, again, closed⟩

/-- A spec with replaced parts goes on passing, through whatever numbers of levels the two are run.
The induction is over the levels of the first; the second is run as it comes. -/
theorem judge_keepsPassing
    (better : ∀ v context, w.Accepts options part v context → w.Accepts options part' v context)
    {levels levels' : Nat} (replaced : w.Replaces part part' spec spec')
    (resolved : w.resolve spec = .ok validator) (resolved' : w.resolve spec' = .ok validator') :
    Run.KeepsPassing w.store.isTrue (w.judge options levels validator v context)
      (w.judge options levels' validator' v context) := by
  induction levels generalizing spec spec' validator validator' v context levels' with
  | zero =>
    intro value value' ended
    cases ended
  | succ levels inductionHypothesis =>
    intro value value' ended falsy ended'
    have runs : w.RunsTo options spec v context value := ⟨validator, _, resolved, ended⟩
    have runs' : w.RunsTo options spec' v context value' := ⟨validator', _, resolved', ended'⟩
    cases levels' with
    | zero => cases ended'
    | succ levels' =>
      cases replaces_iff.mp replaced with
      | same =>
        rw [runs.unique runs']
        exact falsy
      | replaced =>
        obtain ⟨last, reached, passed⟩ := better v context ⟨value, runs, falsy⟩
        rw [reached.unique runs']
        exact passed
      | shape stands stands' held held' each =>
        cases resolved.symm.trans (resolve_of_stands stands)
        cases resolved'.symm.trans (resolve_of_stands stands')
        simp only [judge, judgeWith] at ended ended'
        refine shape_keepsPassing held held' (each.imp ?_) value value' ended falsy ended'
        rintro entry entry' ⟨key, inner⟩
        refine field_keepsPassing key ?_
        intro _ _ _ _ subResolved subResolved'
        exact inductionHypothesis inner subResolved subResolved'
      | array stands stands' inner =>
        cases resolved.symm.trans (resolve_of_stands stands)
        cases resolved'.symm.trans (resolve_of_stands stands')
        simp only [judge, judgeWith] at ended ended'
        refine array_keepsPassing ?_ value value' ended falsy ended'
        intro _ _ _ _ subResolved subResolved'
        exact inductionHypothesis inner subResolved subResolved'
      | union stands stands' each =>
        cases resolved.symm.trans (resolve_of_stands stands)
        cases resolved'.symm.trans (resolve_of_stands stands')
        simp only [judge, judgeWith] at ended ended'
        refine union_keepsPassing (each.imp ?_) value value' ended falsy ended'
        intro alternative alternative' inner
        refine alternative_keepsPassing ?_
        intro _ _ subResolved subResolved'
        exact inductionHypothesis inner subResolved subResolved'

end Replacement

/-- If a part of a spec is replaced, at any places, by one that accepts whatever the part does, and
the spec accepted a value, then it still does unless its run faults. -/
theorem accepts_of_replaced (w : World) (options : Options) (part part' spec spec' v context : Value)
    (better : ∀ v context, w.Accepts options part v context → w.Accepts options part' v context)
    (replaced : w.Replaces part part' spec spec') (accepted : w.Accepts options spec v context)
    (returned : ∃ result, w.RunsTo options spec' v context result) :
    w.Accepts options spec' v context := by
  obtain ⟨value, ⟨validator, levels, resolved, ended⟩, falsy⟩ := accepted
  obtain ⟨result, runs⟩ := returned
  obtain ⟨validator', levels', resolved', ended'⟩ := runs
  have keeps : Run.KeepsPassing w.store.isTrue (w.judge options levels validator v context)
      (w.judge options levels' validator' v context) :=
    judge_keepsPassing better replaced resolved resolved'
  have passed := keeps value result ended falsy ended'
  exact ⟨result, ⟨validator', levels', resolved', ended'⟩, passed⟩

/-- The ring with a second spec beside its first, which takes null as well where the first takes a
text. -/
def patched : World :=
  { ring with store := ⟨ring.store.cells ++ #[
    .mapping (.standard "dict" ["Mapping"]) [(.str "next", .object 11)],
    .validator (.union [.object 12, .object 9]),
    .list (.standard "list" ["Sequence"]) [.object 10],
    .validator (.union [.str "string", .str "null"])]⟩ }

/-- The specs of the ring beside those that correspond to them in the second spec. -/
def patches : List (Value × Value) :=
  [(.object 0, .object 9), (.object 2, .object 11), (.object 1, .object 10),
    (.str "string", .object 12)]

theorem patched_replaces : patched.Replaces (.str "string") (.object 12) (.object 0) (.object 9) := by
  refine ⟨fun inner inner' => (inner, inner') ∈ patches, by simp [patches], ?_⟩
  intro inner inner' related
  simp only [patches, List.mem_cons, Prod.mk.injEq, List.not_mem_nil, or_false] at related
  rcases related with ⟨rfl, rfl⟩ | ⟨rfl, rfl⟩ | ⟨rfl, rfl⟩ | ⟨rfl, rfl⟩
  · exact .shape (.mapping rfl rfl) (.mapping rfl rfl) rfl rfl
      (.cons ⟨rfl, by simp [patches]⟩ .nil)
  · exact .array (.single rfl rfl) (.single rfl rfl) (by simp [patches])
  · exact .union (.made rfl) (.made rfl)
      (.cons (by simp [patches]) (.cons (by simp [patches]) .nil))
  · exact .replaced

/-- A union that starts with the kind of texts accepts at least the texts. -/
theorem patched_better (v context : Value)
    (accepted : patched.Accepts {} (.str "string") v context) :
    patched.Accepts {} (.object 12) v context := by
  have text : patched.store.kindOf v = .string :=
    (accepts_kindName_iff .string .plain).mp accepted
  have stands : patched.store.Stands (.object 12) (.union [.str "string", .str "null"]) :=
    .made rfl
  exact .union stands ((accepts_kindName_iff .string .plain).mpr text)

/-- The spec of the ring accepts the mapping whose list ends in a text, and where null is as good as
a text the mapping is still accepted, though both specs contain themselves. -/
theorem patched_accepts :
    (∀ v context, patched.Accepts {} (.str "string") v context →
      patched.Accepts {} (.object 12) v context) ∧
      patched.Replaces (.str "string") (.object 12) (.object 0) (.object 9) ∧
      patched.Accepts {} (.object 0) (.object 5) (.rootPath (.str "")) ∧
      (∃ result, patched.RunsTo {} (.object 9) (.object 5) (.rootPath (.str "")) result) ∧
      patched.Accepts {} (.object 9) (.object 5) (.rootPath (.str "")) := by
  have ended : (patched.runSpec {} (.object 0) (.object 5) (.rootPath (.str ""))).outcome =
      .ok .null := by
    decide +kernel
  have accepted := (accepts_iff_of_runSpec ended).mpr rfl
  have ended' : (patched.runSpec {} (.object 9) (.object 5) (.rootPath (.str ""))).outcome =
      .ok .null := by
    decide +kernel
  have returned : ∃ result, patched.RunsTo {} (.object 9) (.object 5) (.rootPath (.str "")) result :=
    ⟨.null, runsTo_of_runSpec ended'⟩
  exact ⟨patched_better, patched_replaces, accepted, returned,
    accepts_of_replaced patched {} (.str "string") (.object 12) (.object 0) (.object 9) (.object 5)
      (.rootPath (.str "")) patched_better patched_replaces accepted returned⟩

end World

end Conformance
