import Conformance.Proofs.Acceptance

/-!
# Raising the depth limit

A depth limit shows only where a guard finds it reached, and such a guard logs a warning. So a run
without a warning is the same run under every higher limit: the two stay in step, call by call, as
the first guard at which they could part would have warned.

A run with a warning may go on differently under a higher limit, because alternatives that were
cut off are then looked at further. Acceptance is never lost that way, as all that conforms below
one limit conforms below every higher one.
-/

namespace Conformance

namespace Run

variable {α β : Type}

/-- A run persists in another if it is the same run, unless a guard has warned in it. -/
def Persists (run later : Run α) : Prop := run.Unwarned → later = run

/-- Runs that persist can be put together: a warning in one of them is a warning in the whole. -/
theorem congruence_persists : Congruence fun _ run later => run.Persists later where
  refl _ _ := rfl
  bind := by
    intro α β run later next next' first followed unwarned
    have same : later = run := by
      apply first
      intro event logged
      exact unwarned event (mem_events_bind.mpr (.inl logged))
    rw [same]
    apply bind_congr
    intro value found
    apply followed value found
    intro event logged
    exact unwarned event (mem_events_bind.mpr (.inr ⟨value, found, logged⟩))

end Run

namespace World

variable {w : World} {options : Options} {condition : Value → Prop} {call : Call} {depth : Int}
  {limit : Nat}

/-! ## Runs in step -/

/-- A guard lets the same contexts pass under a higher limit, and it warns at all others. -/
theorem guardDepth_persists {context : Value} (located : context.depth? = some depth)
    (raised : options.maxDepth ≤ limit) :
    (w.guardDepth options context).Persists
      (w.guardDepth { options with maxDepth := limit } context) := by
  intro unwarned
  by_cases below : depth < options.maxDepth
  · have still : depth < limit := by omega
    rw [guardDepth_below located below, guardDepth_below located still]
  · obtain ⟨base, _, _, _, guard⟩ := guardDepth_reached (w := w) located below
    have warned : .depthExceeded base options.maxDepth ∈ (w.guardDepth options context).events := by
      simp [guard]
    cases unwarned _ warned

/-- A call persists under every higher limit. The induction follows the calls it makes under the
lower one; without a warning these are all the calls there are. -/
theorem Ready.run_persists (ready : w.Ready condition call depth) (layered : w.store.Layered)
    (raised : options.maxDepth ≤ limit) :
    (w.run options call.validator call.value call.context).Persists
      (w.run { options with maxDepth := limit } call.validator call.value call.context) := by
  induction ready.acc_makes layered options generalizing depth with
  | intro call _ inductionHypothesis =>
    have located := ready.located
    rw [ready.run_eq layered options, ready.run_eq layered { options with maxDepth := limit }]
    refine judgeWith_related Run.congruence_persists ?_ ?_
    · rw [contextOrRoot_of_depth? located]
      exact guardDepth_persists located raised
    · intro next makes
      obtain ⟨_, again, _⟩ := ready.step_need layered makes
      exact inductionHypothesis next makes again

/-- A check of a self-contained spec that logs no warning of the depth guard has the same outcome
and the same events under every higher limit. -/
theorem check_eq_of_unwarned (w : World) (options : Options) (limit : Nat) (v spec root : Value)
    (contained : w.store.SelfContained spec) (layered : w.store.Layered)
    (raised : options.maxDepth ≤ limit) (unwarned : (w.check options v spec root).Unwarned) :
    w.check { options with maxDepth := limit } v spec root = w.check options v spec root := by
  have persists : (w.check options v spec root).Persists
      (w.check { options with maxDepth := limit } v spec root) := by
    refine Run.congruence_persists.next ?_
    intro validator resolved
    have start := ready_check contained resolved v root
    refine Run.congruence_persists.bind (start.run_persists layered raised) ?_
    intro error _
    exact Run.congruence_persists.refl _
  exact persists unwarned

/-- The check of the mapping whose list ends in null fails at depth two, so the limit three does
not show. -/
theorem ring_eq_of_unwarned :
    (ring.check ⟨3, 200, 20⟩ (.object 7) (.object 0) (.str "")).Unwarned ∧
      ring.check ⟨100, 200, 20⟩ (.object 7) (.object 0) (.str "") =
        ring.check ⟨3, 200, 20⟩ (.object 7) (.object 0) (.str "") := by
  have unwarned : (ring.check ⟨3, 200, 20⟩ (.object 7) (.object 0) (.str "")).Unwarned := by
    decide +kernel
  exact ⟨unwarned, check_eq_of_unwarned ring ⟨3, 200, 20⟩ 100 (.object 7) (.object 0) (.str "")
    ring_selfContained ring_layered (by decide) unwarned⟩

/-! ## Acceptance is kept -/

/-- What conforms below one limit conforms below every higher one. -/
theorem Conforms.raise {limit limit' depth : Nat} {spec v : Value}
    (conforms : w.Conforms limit depth spec v) (raised : limit ≤ limit') :
    w.Conforms limit' depth spec v := by
  induction conforms with
  | leaf stands meets => exact .leaf stands meets
  | shape stands held present object below readable _ inductionHypothesis =>
    have still := Nat.lt_of_lt_of_le below raised
    exact .shape stands held present object still readable inductionHypothesis
  | array stands listed below _ inductionHypothesis =>
    have still := Nat.lt_of_lt_of_le below raised
    exact .array stands listed still inductionHypothesis
  | union stands member _ inductionHypothesis => exact .union stands member inductionHypothesis

/-- A check that accepts a value accepts it under every higher limit under which it ends without a
fault, whatever guards have warned. -/
theorem check_accepts_of_raised (w : World) (options : Options) (limit : Nat) (v spec root : Value)
    (contained : w.store.SelfContained spec) (raised : options.maxDepth ≤ limit)
    (accepted : (w.check options v spec root).outcome = .ok .null)
    (returned : ∃ result,
      (w.check { options with maxDepth := limit } v spec root).outcome = .ok result) :
    (w.check { options with maxDepth := limit } v spec root).outcome = .ok .null := by
  obtain ⟨validator, resolved, passed⟩ := check_ok accepted
  have decides : w.Decides options.maxDepth 0 spec v .null :=
    judge_decides contained resolved rfl passed
  have conforms : w.Conforms limit 0 spec v := (decides.conforms_of_false rfl).raise raised
  obtain ⟨result, returned⟩ := returned
  obtain ⟨validator', resolved', ended⟩ := check_ok returned
  have decides' : w.Decides limit 0 spec v result :=
    judge_decides contained resolved' rfl ended
  rcases decides' with ⟨null, _⟩ | ⟨_, differs⟩
  · rw [returned, null]
  · exact absurd conforms differs

/-- A world in which a union asks for a mapping inside a mapping, or else for any object. The
mapping that describes the first alternative is its own example. -/
def fallback : World where
  store := ⟨#[
    .validator (.union [.object 1, .str "object"]),
    .mapping (.standard "dict" ["Mapping"]) [(.str "inner", .object 2)],
    .mapping (.standard "dict" ["Mapping"]) []]⟩
  external _ _ := .error (.notCallable "object")
  field _ _ := .ok none
  customs := .regular ⟨#[]⟩

theorem fallback_selfContained : fallback.store.SelfContained (.object 0) := by
  have enclosed : ∀ spec ∈ [.object 0, .object 1, .object 2, .str "object"],
      fallback.encloses [.object 0, .object 1, .object 2, .str "object"] spec = true := by
    decide +kernel
  exact selfContained_of_encloses enclosed (by simp)

/-- Under the limit one the guard cuts the first alternative off and the second accepts; under the
limit two the first alternative accepts. -/
theorem fallback_accepts_of_raised :
    ¬ (fallback.check ⟨1, 200, 20⟩ (.object 1) (.object 0) (.str "")).Unwarned ∧
      (fallback.check ⟨1, 200, 20⟩ (.object 1) (.object 0) (.str "")).outcome = .ok .null ∧
      (fallback.check ⟨2, 200, 20⟩ (.object 1) (.object 0) (.str "")).outcome = .ok .null := by
  have warned : ¬ (fallback.check ⟨1, 200, 20⟩ (.object 1) (.object 0) (.str "")).Unwarned := by
    decide +kernel
  have accepted :
      (fallback.check ⟨1, 200, 20⟩ (.object 1) (.object 0) (.str "")).outcome = .ok .null := by
    decide +kernel
  have returned : ∃ result,
      (fallback.check ⟨2, 200, 20⟩ (.object 1) (.object 0) (.str "")).outcome = .ok result :=
    ⟨.null, by decide +kernel⟩
  exact ⟨warned, accepted, check_accepts_of_raised fallback ⟨1, 200, 20⟩ 2 (.object 1) (.object 0)
    (.str "") fallback_selfContained (by decide) accepted returned⟩

end World

end Conformance
