import Conformance.Proofs.Simulation

/-!
# Runs at the same place

A path is where a check has come to, and its depth is how many steps it has made. The depth serves
the guard only. Where the guard never steps in, two runs of the same spec on the same value at paths
with the same base therefore find the same, however deep the paths are and however many levels the
runs have: both pass, or both fail with the same message at paths with one base.

The runs need not make the same number of steps, and one of them may fault where the other does not.
So what is compared are runs that end with a value and without a warning.
-/

namespace Conformance

namespace Run

variable {α β γ δ ι : Type} {R : α → β → Prop} {S : γ → δ → Prop}

/-- A run ends quietly with a value if no guard has warned in it. -/
def EndsQuietly (run : Run α) (value : α) : Prop := run.outcome = .ok value ∧ run.Unwarned

theorem endsQuietly_pure_iff {value value' : α} :
    (Pure.pure value : Run α).EndsQuietly value' ↔ value' = value := by
  constructor
  · rintro ⟨ended, _⟩
    exact (Except.ok.inj ended).symm
  · rintro rfl
    exact ⟨rfl, by simp [Unwarned]⟩

theorem endsQuietly_lift_iff {outcome : Except Fault α} {value : α} :
    (lift outcome).EndsQuietly value ↔ outcome = .ok value := by
  simp [EndsQuietly, Unwarned]

/-- A run that goes on ends quietly exactly when both of its parts do. -/
theorem endsQuietly_bind_iff {run : Run α} {next : α → Run γ} {value : γ} :
    (run >>= next).EndsQuietly value ↔
      ∃ middle, run.EndsQuietly middle ∧ (next middle).EndsQuietly value := by
  constructor
  · rintro ⟨ended, unwarned⟩
    rw [outcome_bind, bind_eq_ok_iff] at ended
    obtain ⟨middle, found, followed⟩ := ended
    refine ⟨middle, ⟨found, ?_⟩, followed, ?_⟩
    · intro event logged
      exact unwarned event (mem_events_bind.mpr (.inl logged))
    · intro event logged
      exact unwarned event (mem_events_bind.mpr (.inr ⟨middle, found, logged⟩))
  · rintro ⟨middle, ⟨found, first⟩, followed, second⟩
    constructor
    · rw [outcome_bind, bind_eq_ok_iff]
      exact ⟨middle, found, followed⟩
    · intro event logged
      rcases mem_events_bind.mp logged with logged | ⟨other, same, logged⟩
      · exact first event logged
      · cases found.symm.trans same
        exact second event logged

/-- Two runs concur if what they end with, should both end quietly, corresponds. -/
def Concurs (R : α → β → Prop) (run : Run α) (run' : Run β) : Prop :=
  ∀ value value', run.EndsQuietly value → run'.EndsQuietly value' → R value value'

namespace Concurs

theorem pure {value : α} {value' : β} (related : R value value') :
    Concurs R (Pure.pure value) (Pure.pure value') := by
  intro other other' ended ended'
  rw [endsQuietly_pure_iff.mp ended, endsQuietly_pure_iff.mp ended']
  exact related

theorem lift {outcome : Except Fault α} {outcome' : Except Fault β}
    (related : ∀ value value', outcome = .ok value → outcome' = .ok value' → R value value') :
    Concurs R (Run.lift outcome) (Run.lift outcome') := by
  intro value value' ended ended'
  exact related value value' (endsQuietly_lift_iff.mp ended) (endsQuietly_lift_iff.mp ended')

/-- What follows two runs that concur concurs if it does so at values that correspond. -/
theorem bind {run : Run α} {run' : Run β} {next : α → Run γ} {next' : β → Run δ}
    (first : Concurs R run run')
    (followed : ∀ value value', R value value' → Concurs S (next value) (next' value')) :
    Concurs S (run >>= next) (run' >>= next') := by
  intro value value' ended ended'
  obtain ⟨middle, found, rest⟩ := endsQuietly_bind_iff.mp ended
  obtain ⟨middle', found', rest'⟩ := endsQuietly_bind_iff.mp ended'
  exact followed middle middle' (first middle middle' found found') value value' rest rest'

/-- What follows the same outcome concurs if it does so at the value of that outcome. -/
theorem next {outcome : Except Fault α} {next : α → Run γ} {next' : α → Run δ}
    (followed : ∀ value, outcome = .ok value → Concurs S (next value) (next' value)) :
    Concurs S (Run.lift outcome >>= next) (Run.lift outcome >>= next') := by
  have same : Concurs (fun value value' => outcome = .ok value ∧ value' = value)
      (Run.lift outcome) (Run.lift outcome) := by
    apply lift
    intro value value' found found'
    exact ⟨found, Except.ok.inj (found'.symm.trans found)⟩
  refine same.bind ?_
  rintro value value' ⟨found, same⟩
  rw [same]
  exact followed value found

section Loops

variable {isTrue : α → Bool} {isTrue' : β → Bool} {step : ι → Run α} {step' : ι → Run β}
  {items : List ι} (truth : ∀ value value', R value value' → isTrue value = isTrue' value')
  (each : ∀ item ∈ items, Concurs R (step item) (step' item))
include truth each

/-- Loops that stop at the first true value concur if their steps do and values that correspond are
true together. -/
theorem firstTrue {otherwise : α} {otherwise' : β} (last : R otherwise otherwise') :
    Concurs R (Run.firstTrue isTrue step otherwise [] items)
      (Run.firstTrue isTrue' step' otherwise' [] items) := by
  induction items with
  | nil => exact pure last
  | cons item rest inductionHypothesis =>
    have later : ∀ other ∈ rest, Concurs R (step other) (step' other) := by
      intro other member
      exact each other (by simp [member])
    rw [firstTrue_cons, firstTrue_cons]
    refine (each item (by simp)).bind ?_
    intro value value' related
    rw [truth value value' related]
    split
    · exact pure related
    · exact inductionHypothesis later

/-- Loops that stop at the first value that is not true concur likewise. -/
theorem allTrue {earlier : List α} {earlier' : List β} (before : List.Forall₂ R earlier earlier') :
    Concurs (Option.Rel (List.Forall₂ R)) (Run.allTrue isTrue step [] earlier items)
      (Run.allTrue isTrue' step' [] earlier' items) := by
  induction items generalizing earlier earlier' with
  | nil => exact pure (.some (List.rel_reverse before))
  | cons item rest inductionHypothesis =>
    have later : ∀ other ∈ rest, Concurs R (step other) (step' other) := by
      intro other member
      exact each other (by simp [member])
    rw [allTrue_cons, allTrue_cons]
    refine (each item (by simp)).bind ?_
    intro value value' related
    rw [truth value value' related]
    split
    · exact inductionHypothesis later (.cons related before)
    · exact pure .none

end Loops

end Concurs

end Run

/-- A spec that is no callable from outside and that, if it describes fields, holds them in a
mapping. -/
structure Store.Inspectable (σ : Store) (spec : Value) : Prop where
  mapped : ∀ fields, σ.Stands spec (.shape fields) → ∃ entries, σ.entries? fields = some entries
  known : ¬ σ.IsForeign spec

namespace World

variable {w : World} {options : Options} {spec v context context' : Value}
  {check check' : Validator → Value → Value → Run Value}

/-! ## Places -/

/-- Two contexts are at the same place if they are the same, or paths with the same base. -/
inductive SamePlace : Value → Value → Prop
  | refl (context : Value) : SamePlace context context
  | paths (base depth depth' : Value) (mark mark' : Nat) :
      SamePlace (.path base depth mark) (.path base depth' mark')

/-- Two results are the same finding if both are null, or failures with the same message at the
same place. -/
inductive SameFinding : Value → Value → Prop
  | pass : SameFinding .null .null
  | fail (message : String) {place place' : Value} (placed : SamePlace place place') :
      SameFinding (ownFailure message place) (ownFailure message place')

theorem SameFinding.truth {result result' : Value} (same : SameFinding result result') :
    w.store.isTrue result = w.store.isTrue result' := by
  cases same <;> rfl

/-- Findings that are the same, given that the first counts as false, are both null. -/
theorem SameFinding.eq_null {result result' : Value} (same : SameFinding result result')
    (falsy : w.store.isTrue result = false) : result' = .null := by
  cases same with
  | pass => rfl
  | fail message placed => cases falsy

/-- A segment extends a path by lengthening its base. -/
theorem call_path_ok {base depth segment inner : Value} {mark : Nat} (proper : segment ≠ .null)
    (extended : w.call (.path base depth mark) [segment] = .ok inner) :
    ∃ text location deep, w.text segment = .ok text ∧ w.lengthened base text = .ok location ∧
      inner = .path (.str location) deep 0 := by
  simp only [call, extendPath, proper, if_false, bind_eq_ok_iff] at extended
  obtain ⟨text, written, extended⟩ := extended
  split at extended
  · next truthy =>
    obtain ⟨shown, said, extended⟩ := bind_eq_ok_iff.mp extended
    obtain ⟨deep, _, same⟩ := bind_eq_ok_iff.mp extended
    refine ⟨text, shown ++ "." ++ text, deep, written, ?_, (Except.ok.inj same).symm⟩
    simp [lengthened, truthy, said, bind, Except.bind, pure, Except.pure]
  · next falsy =>
    obtain ⟨deep, _, same⟩ := bind_eq_ok_iff.mp extended
    refine ⟨text, text, deep, written, ?_, (Except.ok.inj same).symm⟩
    simp [lengthened, falsy, pure, Except.pure]

namespace SamePlace

/-- Contexts at the same place have the same location. -/
theorem location (placed : SamePlace context context') :
    w.call context [] = w.call context' [] := by
  cases placed <;> rfl

theorem root (placed : SamePlace context context') :
    SamePlace (w.contextOrRoot context) (w.contextOrRoot context') := by
  cases placed with
  | refl => exact .refl _
  | paths base depth depth' mark mark' =>
    exact .paths base depth depth' mark mark'

/-- Extended by the same segment, contexts at the same place are so again. -/
theorem extend {inner inner' segment : Value} (placed : SamePlace context context')
    (extended : w.call context [segment] = .ok inner)
    (extended' : w.call context' [segment] = .ok inner') : SamePlace inner inner' := by
  cases placed with
  | refl =>
    cases extended.symm.trans extended'
    exact .refl inner
  | paths base depth depth' mark mark' =>
    by_cases absent : segment = .null
    · simp only [call, extendPath, absent, if_true, Except.ok.injEq] at extended extended'
      rw [← extended, ← extended']
      exact .refl base
    · obtain ⟨text, location, deep, written, further, rfl⟩ := call_path_ok absent extended
      obtain ⟨text', location', deep', written', further', rfl⟩ := call_path_ok absent extended'
      cases written.symm.trans written'
      cases further.symm.trans further'
      exact .paths _ deep deep' 0 0

end SamePlace

/-! ## Rules at the same place -/

/-- A guard that does not warn lets the check pass. -/
theorem eq_none_of_guardDepth {verdict : Option Value}
    (ended : (w.guardDepth options context).EndsQuietly verdict) : verdict = none := by
  rw [guardDepth, Run.endsQuietly_bind_iff] at ended
  obtain ⟨below, _, ended⟩ := ended
  cases below with
  | true => exact Run.endsQuietly_pure_iff.mp ended
  | false =>
    simp only [Bool.false_eq_true, if_false, Run.endsQuietly_bind_iff] at ended
    obtain ⟨location, _, _, ⟨_, unwarned⟩, _⟩ := ended
    cases unwarned _ (List.mem_singleton_self (Event.depthExceeded location options.maxDepth))

/-- Guards concur that there is nothing to report. -/
theorem guardDepth_concurs :
    Run.Concurs (fun verdict verdict' => verdict = none ∧ verdict' = none)
      (w.guardDepth options context) (w.guardDepth options context') := by
  intro verdict verdict' ended ended'
  exact ⟨eq_none_of_guardDepth ended, eq_none_of_guardDepth ended'⟩

/-- Whether a rule without parts passes, and what it says when it does not, depends on the value
alone. -/
theorem leaf_concurs {rule : Rule} (whole : rule.IsLeaf) (placed : SamePlace context context') :
    Run.Concurs SameFinding (Run.lift (w.judgeLeaf options v context rule))
      (Run.lift (w.judgeLeaf options v context' rule)) := by
  have failed (message : String) :
      SameFinding (w.failureAt context message) (w.failureAt context' message) :=
    .fail message placed.root
  have same : Parallel SameFinding (w.judgeLeaf options v context rule)
      (w.judgeLeaf options v context' rule) := by
    cases rule with
    | ofKind kind =>
      simp only [judgeLeaf]
      split
      · exact .value .pass
      · exact .value (failed _)
    | equals _ | oneOf _ =>
      refine .next fun passed _ => ?_
      cases passed with
      | true => exact .value .pass
      | false => exact .next fun _ _ => .next fun _ _ => .value (failed _)
    | instanceOf _ _ =>
      refine .next fun passed _ => ?_
      cases passed with
      | true => exact .value .pass
      | false => exact .next fun _ _ => .value (failed _)
    | shape _ | array _ | union _ => cases whole
  apply Run.Concurs.lift
  intro result result' ended ended'
  rw [ended, ended'] at same
  cases same with
  | value related => exact related

/-- Shapes concur if the checks of their fields' parts do. -/
theorem shape_concurs {fields : Value} {entries : List (Value × Value)}
    (placed : SamePlace context context') (held : w.store.entries? fields = some entries)
    (parts : ∀ entry ∈ entries, ∀ validator part inner inner', w.resolve entry.2 = .ok validator →
      SamePlace inner inner' →
      Run.Concurs SameFinding (check validator part inner) (check' validator part inner')) :
    Run.Concurs SameFinding (w.judgeShape options check fields v context)
      (w.judgeShape options check' fields v context') := by
  simp only [judgeShape, declaredFields_of_entries? held, Run.lift_ok, pure_bind]
  split
  · exact .pure (.fail _ placed)
  split
  · exact .pure (.fail _ placed)
  refine guardDepth_concurs.bind ?_
  rintro _ _ ⟨rfl, rfl⟩
  rw [Run.firstTrue_map, Run.firstTrue_map]
  refine .firstTrue (fun _ _ same => same.truth) ?_ .pass
  intro entry member
  simp only [judgeField, Run.lift_ok, pure_bind]
  refine .next fun validator resolved => ?_
  refine .next fun part _ => ?_
  have deeper : Run.Concurs SamePlace (Run.lift (w.call context [entry.1]))
      (Run.lift (w.call context' [entry.1])) :=
    .lift fun _ _ extended extended' => placed.extend extended extended'
  exact deeper.bind fun inner inner' further =>
    parts entry member validator part inner inner' resolved further

/-- Arrays concur if the checks of their items do. -/
theorem array_concurs {element : Value} (placed : SamePlace context context')
    (parts : ∀ validator part inner inner', w.resolve element = .ok validator →
      SamePlace inner inner' →
      Run.Concurs SameFinding (check validator part inner) (check' validator part inner')) :
    Run.Concurs SameFinding (w.judgeArray options check element v context)
      (w.judgeArray options check' element v context') := by
  simp only [judgeArray]
  split
  · exact .pure (.fail _ placed)
  refine guardDepth_concurs.bind ?_
  rintro _ _ ⟨rfl, rfl⟩
  refine .next fun validator resolved => ?_
  refine .firstTrue (fun _ _ same => same.truth) ?_ .pass
  intro item member
  have deeper : Run.Concurs SamePlace (Run.lift (w.call context [.int item.2]))
      (Run.lift (w.call context' [.int item.2])) :=
    .lift fun _ _ extended extended' => placed.extend extended extended'
  exact deeper.bind fun inner inner' further =>
    parts validator item.1 inner inner' resolved further

/-- The same finding contributes the same line to the failure of a union. -/
theorem SameFinding.line {result result' : Value} (same : SameFinding result result') :
    w.alternativeLine result = w.alternativeLine result' := by
  cases same with
  | pass => rfl
  | fail message placed =>
    simp only [alternativeLine, asPair, parts?, ownFailure, bind, Except.bind, placed.location]

/-- Unions concur if their alternatives do. -/
theorem union_concurs {alternatives : List Value} (placed : SamePlace context context')
    (parts : ∀ alternative ∈ alternatives, ∀ validator, w.resolve alternative = .ok validator →
      Run.Concurs SameFinding (check validator v context) (check' validator v context')) :
    Run.Concurs SameFinding (w.judgeUnion check alternatives v context)
      (w.judgeUnion check' alternatives v context') := by
  have looped : Run.Concurs (Option.Rel (List.Forall₂ SameFinding))
      (Run.allTrue w.store.isTrue (w.judgeAlternative check v context) [] [] alternatives)
      (Run.allTrue w.store.isTrue (w.judgeAlternative check' v context') [] [] alternatives) := by
    refine .allTrue (fun _ _ same => same.truth) ?_ .nil
    intro alternative member
    exact .next (parts alternative member)
  refine looped.bind ?_
  intro verdict verdict' related
  cases related with
  | none => exact .pure .pass
  | some errors =>
    have lines : ∀ {these those : List Value}, List.Forall₂ SameFinding these those →
        these.mapM w.alternativeLine = those.mapM w.alternativeLine := by
      intro these those each
      induction each with
      | nil => rfl
      | cons same _ inductionHypothesis =>
        rw [List.mapM_cons, List.mapM_cons, same.line, inductionHypothesis]
    simp only [unionFailure, lines errors]
    refine .lift ?_
    intro result result' ended ended'
    obtain ⟨written, found, same⟩ := bind_eq_ok_iff.mp ended
    obtain ⟨written', found', same'⟩ := bind_eq_ok_iff.mp ended'
    cases found.symm.trans found'
    cases same
    cases same'
    exact .fail _ placed

/-- Two runs of a spec on the same value at the same place find the same, if both end quietly. The
induction is over the levels of the first run; the parts of a rule are run one level below, at
contexts that are at the same place again. -/
theorem judge_concurs {validator : Validator} {levels levels' : Nat}
    (throughout : w.store.Throughout w.store.Inspectable spec)
    (resolved : w.resolve spec = .ok validator) (placed : SamePlace context context') :
    Run.Concurs SameFinding (w.judge options levels validator v context)
      (w.judge options levels' validator v context') := by
  induction levels generalizing levels' spec validator v context context' with
  | zero =>
    rintro result result' ⟨ended, _⟩
    cases ended
  | succ levels inductionHypothesis =>
    cases levels' with
    | zero =>
      rintro result result' _ ⟨ended, _⟩
      cases ended
    | succ levels' =>
      rcases stands_or_foreign_of_resolve resolved with ⟨rule, rfl, stands⟩ | ⟨rfl, foreign⟩
      · simp only [judge]
        by_cases whole : rule.IsLeaf
        · rw [judgeWith_leaf whole, judgeWith_leaf whole]
          exact leaf_concurs whole placed
        cases rule with
        | ofKind _ | equals _ | instanceOf _ _ | oneOf _ => exact absurd trivial whole
        | shape fields =>
          obtain ⟨entries, held⟩ := throughout.here.mapped fields stands
          refine shape_concurs placed.root held ?_
          intro entry member validator part inner inner' found further
          have below := throughout.sub stands (Rule.mem_subSpecs_shape held member)
          exact inductionHypothesis below found further
        | array element =>
          refine array_concurs placed.root ?_
          intro validator part inner inner' found further
          have below := throughout.sub stands (List.mem_singleton_self element)
          exact inductionHypothesis below found further
        | union alternatives =>
          refine union_concurs placed.root ?_
          intro alternative member validator found
          exact inductionHypothesis (throughout.sub stands member) found placed.root
      · exact absurd foreign throughout.here.known

end World

end Conformance
