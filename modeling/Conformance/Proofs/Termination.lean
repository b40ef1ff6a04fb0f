import Conformance.Check
import Conformance.Proofs.Origins

/-!
# Every check ends, and never deeper than the limit

Spec and value may contain themselves. A check still ends, because every call it makes has a
smaller need, and it never runs out of levels, because each of its calls obeys the equation
without levels. All errors given on the way, also those a union sets aside, lie at contexts no
deeper than the limit; those of the depth guard, and the warnings it logs, lie exactly there.

Nothing is said here about which error is given, or that one is given at all.
-/

namespace Conformance.World

variable {w : World} {options : Options} {condition : Value → Prop} {call next : Call}
  {depth : Int}

/-- The calls in the run of a check, with those that an earlier result made superfluous. -/
def InCheck (w : World) (options : Options) (v spec root : Value) (call : Call) : Prop :=
  ∃ validator, w.resolve spec = .ok validator ∧
    Relation.ReflTransGen (w.Makes options) ⟨validator, v, .rootPath root⟩ call

/-- A call at a depth within the limit stays there: the guard stands before every descent. -/
theorem Ready.reaches (ready : w.Ready condition call depth) (layered : w.store.Layered)
    (within : depth ≤ options.maxDepth)
    (chain : Relation.ReflTransGen (w.Makes options) call next) :
    ∃ inner, w.Ready condition next inner ∧ inner ≤ options.maxDepth := by
  induction chain with
  | refl => exact ⟨depth, ready, within⟩
  | tail _ makes inductionHypothesis =>
    obtain ⟨middle, again, bound⟩ := inductionHypothesis
    rcases again.step layered makes with ⟨_, _, below, _, last⟩ | ⟨_, _, _, last⟩
    · exact ⟨middle + 1, last, by omega⟩
    · exact ⟨middle, last, bound⟩

/-- An error as the limit allows it: at a context no deeper than the limit, and exactly at the
limit when its message is the guard's. -/
def WithinLimit (limit : Nat) (error : Value) : Prop :=
  ∃ message context depth, error = ownFailure message context ∧
    context.depth? = some depth ∧ depth ≤ limit ∧ (message = depthMessage limit → depth = limit)

/-- An expectation is within the limit wherever its context is. -/
theorem withinLimit_of_expectation {message : String} {context : Value} {limit : Nat}
    (located : context.depth? = some depth) (within : depth ≤ limit)
    (expectation : IsExpectation message) : WithinLimit limit (ownFailure message context) := by
  refine ⟨message, context, depth, rfl, located, within, ?_⟩
  rintro rfl
  exact absurd expectation (not_isExpectation_depthMessage limit)

/-- The guard's failure is within the limit where the guard gives it. -/
theorem withinLimit_of_reached {context : Value} {limit : Nat}
    (located : context.depth? = some depth) (within : depth ≤ limit) (reached : ¬ depth < limit) :
    WithinLimit limit (ownFailure (depthMessage limit) context) :=
  ⟨_, context, depth, rfl, located, within, fun _ => by omega⟩

/-- A call of a validator of the program ends with null or with an error within the limit: the call
that gives the error lies within the limit, and at the limit when the error is its guard's. -/
theorem Ready.result_within (ready : w.Ready condition call depth)
    (known : ∀ spec, condition spec → ¬ w.store.IsForeign spec) (layered : w.store.Layered)
    (within : depth ≤ options.maxDepth) {result : Value}
    (ended : (w.run options call.validator call.value call.context).outcome = .ok result) :
    result = .null ∨ WithinLimit options.maxDepth result := by
  rcases ready.error_origin known layered ended with null | ⟨source, chain, own⟩
  · exact .inl null
  · obtain ⟨inner, again, bound⟩ := ready.reaches layered within chain
    cases own with
    | expectation expectation =>
      exact .inr (withinLimit_of_expectation again.located bound expectation)
    | tooDeep _ located reached =>
      have same : inner = _ := Option.some.inj (again.located.symm.trans located)
      exact .inr (withinLimit_of_reached located (same ▸ bound) reached)

/-- Everything a call logs is a warning of the guard at some call reached from it, given at the
limit and with the path of that call. -/
theorem Ready.events_at_limit (ready : w.Ready condition call depth) (layered : w.store.Layered)
    (within : depth ≤ options.maxDepth) {event : Event}
    (logged : event ∈ (w.run options call.validator call.value call.context).events) :
    ∃ source base rest mark, Relation.ReflTransGen (w.Makes options) call source ∧
      source.context = .path base rest mark ∧
      source.context.depth? = some (options.maxDepth : Int) ∧
      event = .depthExceeded base options.maxDepth := by
  obtain ⟨source, chain, own⟩ := ready.event_origin layered logged
  obtain ⟨inner, again, bound⟩ := ready.reaches layered within chain
  cases own with
  | tooDeep _ located reached placed =>
    have same : inner = _ := Option.some.inj (again.located.symm.trans located)
    have exactly : inner = options.maxDepth := by omega
    exact ⟨source, _, _, _, chain, placed, by rw [again.located, exactly], rfl⟩

/-- A warning in the log of a check was logged by the run of its validator. -/
theorem depthExceeded_mem_run {v spec root path : Value} {limit : Nat}
    (logged : .depthExceeded path limit ∈ (w.check options v spec root).events) :
    ∃ validator, w.resolve spec = .ok validator ∧
      .depthExceeded path limit ∈ (w.run options validator v (.rootPath root)).events := by
  simp only [check, Run.mem_events_bind, Run.events_lift, List.not_mem_nil, false_or,
    Run.outcome_lift] at logged
  obtain ⟨validator, resolved, logged | ⟨error, _, logged⟩⟩ := logged
  · exact ⟨validator, resolved, logged⟩
  · split at logged
    · simp [Run.mem_events_bind, Run.log, -bind_pure_comp] at logged
    · simp at logged

/-- A check of a self-contained spec terminates: no chain of its calls goes on for ever, and none
of them is cut off. Every error one of them gives, whether it is returned or set aside by a
union, lies at a context no deeper than the limit, the guard's errors exactly at the limit, and
so do the calls whose guards logged a warning. -/
theorem check_terminates_within_limit (w : World) (options : Options) (v spec root : Value)
    (contained : w.store.SelfContained spec) (layered : w.store.Layered) :
    (∀ call, w.InCheck options v spec root call →
      Acc (fun next call => w.Makes options call next) call ∧
      w.run options call.validator call.value call.context =
        w.judgeWith options (w.run options) call.validator call.value call.context ∧
      ∀ error, (w.run options call.validator call.value call.context).outcome = .ok error →
        error ≠ .null → WithinLimit options.maxDepth error) ∧
    (∀ path limit, .depthExceeded path limit ∈ (w.check options v spec root).events →
      limit = options.maxDepth ∧ ∃ call rest mark, w.InCheck options v spec root call ∧
        call.context = .path path rest mark ∧
        call.context.depth? = some (options.maxDepth : Int)) := by
  have keyed : ∀ spec, w.store.Native spec → w.store.PlainlyKeyed spec := by
    intro spec native
    exact native.keyed
  have known : ∀ spec, w.store.Native spec → ¬ w.store.IsForeign spec := by
    intro spec native
    exact native.known
  constructor
  · rintro call ⟨validator, resolved, chain⟩
    have start := ready_root keyed contained resolved v root
    obtain ⟨depth, ready, within⟩ := start.reaches layered (by omega) chain
    refine ⟨ready.acc_makes layered options, ready.run_eq layered options, ?_⟩
    intro error ended failed
    exact (ready.result_within known layered within ended).resolve_left failed
  · intro path limit logged
    obtain ⟨validator, resolved, logged⟩ := depthExceeded_mem_run logged
    have start := ready_root keyed contained resolved v root
    obtain ⟨call, base, rest, mark, chain, same, located, found⟩ :=
      start.events_at_limit layered (by omega) logged
    cases found
    exact ⟨rfl, call, rest, mark, ⟨validator, resolved, chain⟩, same, located⟩

/-- The check of the value of the ring that contains itself ends, after a warning from its third
depth when that is the limit. -/
theorem ring_terminates_within_limit :
    ring.store.SelfContained (.object 0) ∧ ring.store.Layered ∧
      (∀ call, ring.InCheck ⟨3, 200, 20⟩ (.object 3) (.object 0) (.str "") call →
        Acc (fun next call => ring.Makes ⟨3, 200, 20⟩ call next) call) ∧
      ∃ call rest mark, ring.InCheck ⟨3, 200, 20⟩ (.object 3) (.object 0) (.str "") call ∧
        call.context = .path (.str "next.0.next") rest mark ∧ call.context.depth? = some 3 := by
  obtain ⟨calls, warnings⟩ := check_terminates_within_limit ring ⟨3, 200, 20⟩ (.object 3)
    (.object 0) (.str "") ring_selfContained ring_layered
  have logged : .depthExceeded (.str "next.0.next") 3 ∈
      (ring.check ⟨3, 200, 20⟩ (.object 3) (.object 0) (.str "")).events := by
    decide +kernel
  obtain ⟨_, reached⟩ := warnings _ _ logged
  exact ⟨ring_selfContained, ring_layered, fun call inside => (calls call inside).1, reached⟩

end Conformance.World
