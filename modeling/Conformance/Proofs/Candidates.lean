import Conformance.Proofs.EqualityLaws
import Conformance.Proofs.Faults

/-!
# One of several candidates

A check for one of several candidates and a union of equality checks, one for each, look for the
same thing in the same order. Both stop at the first candidate that equals the value, and both fault
at the first that cannot be compared with it. What differs is the message of a failure, which for
the union lists those of its alternatives, and the equality that is asked for: among candidates all
that is not a number is alike, while an equality check never passes it.
-/

namespace Conformance

/-- Two outcomes that are both null, or failures at one context, or the same fault. -/
inductive EndAlike (context : Value) : Except Fault Value → Except Fault Value → Prop
  | passed : EndAlike context (.ok .null) (.ok .null)
  | failed (message message' : String) :
      EndAlike context (.ok (World.ownFailure message context))
        (.ok (World.ownFailure message' context))
  | faulted (fault : Fault) : EndAlike context (.error fault) (.error fault)

namespace World

variable {w : World} {options : Options} {v context : Value} {candidates checks : List Value}

/-! ## The two checks -/

/-- An equality check asks for strict equality, if its message can be rendered. -/
theorem judgeLeaf_equals {expected : Value} (options : Options) (showable : w.Showable v)
    (showable' : w.Showable expected) (context : Value) :
    ∃ message, w.judgeLeaf options v context (.equals expected) =
      (w.store.strictEquals v expected).map fun equal =>
        if equal then .null else ownFailure message (w.contextOrRoot context) := by
  obtain ⟨received, rendered⟩ := exists_rendering showable options
  obtain ⟨shown, rendered'⟩ := exists_rendering showable' options
  simp only [judgeLeaf, rendered, rendered']
  cases w.store.strictEquals v expected with
  | error fault => exact ⟨"", rfl⟩
  | ok equal =>
    cases equal with
    | true => exact ⟨"", rfl⟩
    | false => exact ⟨_, rfl⟩

/-- A check for one of several candidates is a search for one that is the same, if its message can
be rendered. -/
theorem judgeLeaf_oneOf (options : Options) (showable : w.Showable v)
    (showable' : ∀ candidate ∈ candidates, w.Showable candidate) (context : Value) :
    ∃ message, w.judgeLeaf options v context (.oneOf candidates) =
      (candidates.anyM (w.store.sameValueZero v)).map fun found =>
        if found then .null else ownFailure message (w.contextOrRoot context) := by
  obtain ⟨received, rendered⟩ := exists_rendering showable options
  obtain ⟨shown, rendered'⟩ := mapM_ok_of_forall fun candidate member =>
    exists_rendering (showable' candidate member) options
  simp only [judgeLeaf, rendered, rendered']
  cases candidates.anyM (w.store.sameValueZero v) with
  | error fault => exact ⟨"", rfl⟩
  | ok found =>
    cases found with
    | true => exact ⟨"", rfl⟩
    | false => exact ⟨_, rfl⟩

/-- A union of equality checks is a search for a candidate that is strictly equal, if their messages
can be rendered. -/
theorem run_union_of_equalities (options : Options) (showable : w.Showable v)
    (showable' : ∀ candidate ∈ candidates, w.Showable candidate)
    (each : List.Forall₂ (fun check candidate =>
      w.store.rule? check = some (.equals candidate)) checks candidates)
    (located : w.HasLocation (w.contextOrRoot context)) :
    ∃ message, (w.run options (.rule (.union checks)) v context).outcome =
      (candidates.anyM (w.store.strictEquals v)).map fun found =>
        if found then .null else ownFailure message (w.contextOrRoot context) := by
  obtain ⟨levels, enough⟩ := exists_levelsFor w options context
  have messages (candidate : Value) : ∃ message, candidate ∈ candidates →
      w.judgeLeaf options v (w.contextOrRoot context) (.equals candidate) =
        (w.store.strictEquals v candidate).map fun equal =>
          if equal then .null else ownFailure message (w.contextOrRoot context) := by
    by_cases member : candidate ∈ candidates
    · obtain ⟨message, judged⟩ :=
        judgeLeaf_equals options showable (showable' candidate member) (w.contextOrRoot context)
      rw [contextOrRoot_contextOrRoot] at judged
      exact ⟨message, fun _ => judged⟩
    · exact ⟨"", fun inside => absurd inside member⟩
  choose message judged using messages
  have listed := (List.forall₂_and_left _ _).mpr ⟨fun candidate inside => inside, each.flip⟩
  have alternatives : List.Forall₂ (fun check candidate =>
      (w.judgeAlternative (w.judge options (levels + 1)) v (w.contextOrRoot context)
        check).outcome = (w.store.strictEquals v candidate).map fun equal =>
          if equal then .null
          else ownFailure (message candidate) (w.contextOrRoot context)) checks candidates := by
    refine listed.flip.imp ?_
    rintro check candidate ⟨member, held⟩
    have whole : (Rule.equals candidate).IsLeaf := trivial
    rw [judgeAlternative, resolve_of_stands (.made held), Run.lift_ok, pure_bind, judge,
      judgeWith_leaf whole, Run.outcome_lift, judged candidate member]
  have searched := Run.outcome_allTrue_of_search w.store.isTrue _ rfl (fun _ => rfl) alternatives []
  have failures : ∀ error ∈ candidates.map fun candidate =>
      ownFailure (message candidate) (w.contextOrRoot context),
      ∃ message placed, error = ownFailure message placed ∧ w.HasLocation placed := by
    intro error member
    obtain ⟨candidate, _, rfl⟩ := List.mem_map.mp member
    exact ⟨_, _, rfl, located⟩
  obtain ⟨message, written⟩ := unionFailure_ok failures (w.contextOrRoot context)
  refine ⟨message, ?_⟩
  rw [run, enough, judge, judgeWith, judgeUnion, Run.outcome_bind, searched]
  cases candidates.anyM (w.store.strictEquals v) with
  | error fault => rfl
  | ok found =>
    cases found with
    | true => rfl
    | false => exact written

/-- One and a not-a-number, the equality checks for them, and a list of the two checks. -/
def oneOrUndefined : World :=
  ⟨⟨#[
    .tuple Catalogue.tupleClass [.int 1, .float .nan],
    .validator (.equals (.int 1)),
    .validator (.equals (.float .nan)),
    .list Catalogue.listClass [.object 1, .object 2]]⟩,
    fun _ _ => .ok .null, fun _ _ => .ok none, .regular ⟨#[]⟩⟩

/-- No callable has a label there, and that is no fault. -/
theorem oneOrUndefined_showable (v : Value) : oneOrUndefined.Showable v := by
  refine ⟨Customs.regular_formats _, Customs.regular_answers _, ?_⟩
  intro u _ _
  have unlabelled : oneOrUndefined.fieldOrNull u "__name__" = .ok .null := by
    cases u <;> rfl
  exact exists_label_of_field unlabelled

end World

end Conformance
