import Conformance.Proofs.Verdict

/-!
# What the log tells about the result

A rejection is logged by the check itself, when it has its result. So it is the last event, and it
is there exactly when there is an error to speak of. Everything before it is a warning, logged by
the guard deep inside the run.

Without unions, the warning and the guard's failure go together. The part that was too deep hands
its failure to the shape or array around it, which stops there and hands it on as it is, and what
was checked before that part has passed without a warning. A union breaks this: it drops the
failure when another alternative passes, and otherwise writes it into one of its own, so nothing
is said about its warnings here.
-/

namespace Conformance

namespace World

variable {w : World} {options : Options} {v spec context result : Value} {depth : Int}
  {limit : Nat}

/-! ## The rejection -/

/-- What a rule can give: null, or a failure of the program's own at a path. -/
inductive IsVerdict : Value → Prop
  | passed : IsVerdict .null
  | failed (message : String) (base rest : Value) (mark : Nat) :
      IsVerdict (ownFailure message (.path base rest mark))

theorem IsVerdict.of_located (located : context.depth? = some depth) (message : String) :
    IsVerdict (ownFailure message context) := by
  obtain ⟨base, tag, mark, mark', rfl⟩ := Value.depth?_eq_some_iff.mp located
  exact .failed message base _ mark'

/-- A run that ends gives a verdict, whatever part of it decided. -/
theorem judge_verdict {levels : Nat} {validator : Validator}
    (contained : w.store.SelfContained spec) (resolved : w.resolve spec = .ok validator)
    (located : context.depth? = some depth)
    (ended : (w.judge options levels validator v context).outcome = .ok result) :
    IsVerdict result := by
  induction levels generalizing spec validator v context depth result with
  | zero => cases ended
  | succ levels inductionHypothesis =>
    obtain ⟨rule, rfl, stands⟩ := contained.here.stands resolved
    have keyed := contained.here.keyed
    have ends := judgeWith_ends located (keyed.mapped stands) ended
    cases ends with
    | passedLeaf | passedFields | passedItems | passedAlternative => exact .passed
    | failedLeaf | nullShape | otherShape | deepShape | otherArray | deepArray
    | failedAlternatives => exact .of_located located _
    | failedField _ _ _ held member judged _ =>
      obtain ⟨other, part, next, subResolved, _, extended, judged⟩ := judgeField_ok judged
      obtain ⟨key, same⟩ := keyed.key stands held member
      obtain ⟨location, rfl⟩ := call_context located (by simp [same, Value.str]) extended
      have subContained := contained.sub stands (Rule.mem_subSpecs_shape held member)
      exact inductionHypothesis subContained subResolved rfl judged
    | failedItem _ _ subResolved _ judged _ =>
      obtain ⟨next, extended, judged⟩ := judgeItem_ok judged
      obtain ⟨location, rfl⟩ := call_context located (by simp [Value.int]) extended
      have subContained := contained.sub stands (List.mem_singleton_self _)
      exact inductionHypothesis subContained subResolved rfl judged

/-- The guard logs nothing but its warning. -/
theorem isWarning_of_mem_guardDepth {event : Event}
    (logged : event ∈ (w.guardDepth options context).events) : event.isWarning = true := by
  simp only [guardDepth, Run.mem_events_bind, Run.events_lift, List.not_mem_nil, false_or,
    Run.outcome_lift] at logged
  obtain ⟨below, _, logged⟩ := logged
  cases below with
  | true => simp at logged
  | false =>
    simp only [Bool.false_eq_true, if_false, Run.mem_events_bind, Run.events_lift,
      List.not_mem_nil, false_or, Run.events_pure, and_false, exists_false, or_false] at logged
    obtain ⟨location, _, logged⟩ := logged
    cases List.mem_singleton.mp logged
    rfl

/-- And so no run logs anything else. -/
theorem isWarning_of_mem_judge {levels : Nat} (call : Call) {event : Event}
    (logged : event ∈ (w.judge options levels call.validator call.value call.context).events) :
    event.isWarning = true := by
  induction levels generalizing call with
  | zero => cases logged
  | succ levels inductionHypothesis =>
    rcases mem_events_judgeWith logged with ⟨_, logged⟩ | ⟨next, _, logged⟩
    · exact isWarning_of_mem_guardDepth logged
    · exact inductionHypothesis next logged

/-- A check that ends is the run of its spec, with the rejection after it if the result is an
error. -/
theorem check_of_verdict {root : Value} {validator : Validator}
    (resolved : w.resolve spec = .ok validator)
    (judged : (w.run options validator v (.rootPath root)).outcome = .ok result)
    (verdict : IsVerdict result) :
    (result = .null ∧ (w.check options v spec root).events =
        (w.run options validator v (.rootPath root)).events) ∨
      ∃ message base rest mark, result = ownFailure message (.path base rest mark) ∧
        (w.check options v spec root).events =
          (w.run options validator v (.rootPath root)).events ++ [.rejected base (.str message)] := by
  rw [World.check, resolved, Run.lift_ok, pure_bind, Run.bind_of_ok judged]
  cases verdict with
  | passed => exact .inl ⟨rfl, List.append_nil _⟩
  | failed message base rest mark => exact .inr ⟨message, base, rest, mark, rfl, rfl⟩

/-! ## The warning -/

/-- The failure of the guard, wherever it stands. No other message of the program begins like that
of the guard. -/
def IsGuardFailure (limit : Nat) (result : Value) : Prop :=
  ∃ context, result = ownFailure (depthMessage limit) context

theorem not_isGuardFailure_null : ¬ IsGuardFailure limit .null := by
  rintro ⟨context, same⟩
  cases same

theorem not_isGuardFailure_of_expectation {message : String} (expectation : IsExpectation message) :
    ¬ IsGuardFailure limit (ownFailure message context) := by
  rintro ⟨other, same⟩
  cases same
  exact not_isExpectation_depthMessage limit expectation

/-- What a rule without unions has logged with a result: the one warning at the same path if the
result is the guard's failure, and nothing otherwise. -/
inductive Disclosed (limit : Nat) : Value → List Event → Prop
  | quiet {result : Value} (ordinary : ¬ IsGuardFailure limit result) : Disclosed limit result []
  | warned (base rest : Value) (mark : Nat) :
      Disclosed limit (ownFailure (depthMessage limit) (.path base rest mark))
        [.depthExceeded base limit]

/-- A run that discloses what the guard did, if it ends. -/
def Discloses (limit : Nat) (run : Run Value) : Prop :=
  ∀ result, run.outcome = .ok result → Disclosed limit result run.events

namespace Discloses

/-- What is given without an event must not be the guard's failure. -/
theorem lift {outcome : Except Fault Value}
    (ordinary : ∀ result, outcome = .ok result → ¬ IsGuardFailure limit result) :
    Discloses limit (Run.lift outcome) := by
  intro result ended
  exact .quiet (ordinary result ended)

theorem null : Discloses limit (pure .null) := by
  intro result ended
  cases ended
  exact .quiet not_isGuardFailure_null

theorem expectation {message : String} (expectation : IsExpectation message) :
    Discloses limit (pure (ownFailure message context)) := by
  intro result ended
  cases ended
  exact .quiet (not_isGuardFailure_of_expectation expectation)

/-- What is worked out before a run, without an event, changes nothing. -/
theorem lift_bind {α : Type} {outcome : Except Fault α} {next : α → Run Value}
    (discloses : ∀ value, outcome = .ok value → Discloses limit (next value)) :
    Discloses limit (Run.lift outcome >>= next) := by
  cases outcome with
  | error fault => exact fun result ended => nomatch ended
  | ok value =>
    rw [Run.lift_ok, pure_bind]
    exact discloses value rfl

/-- The guard and what follows it: the parts below the limit, its own failure elsewhere. -/
theorem guardDepth {next : Option Value → Run Value} (located : context.depth? = some depth)
    (refused : ∀ failure, next (some failure) = pure failure)
    (entered : Discloses options.maxDepth (next none)) :
    Discloses options.maxDepth (w.guardDepth options context >>= next) := by
  by_cases below : depth < options.maxDepth
  · rw [guardDepth_below located below, pure_bind]
    exact entered
  · intro result ended
    rw [Run.outcome_bind, bind_eq_ok_iff] at ended
    obtain ⟨verdict, guarded, ended⟩ := ended
    rcases guardDepth_ok located guarded with ⟨inside, _⟩ | ⟨_, rfl⟩
    · exact absurd inside below
    obtain ⟨base, rest, mark, rfl, guard⟩ := guardDepth_reached (w := w) located below
    rw [Run.bind_of_ok guarded, guard, refused]
    rw [refused] at ended
    cases ended
    exact .warned base rest mark

/-- The loop over the parts hands on the failure of one of them, and those before it have passed
without a warning. -/
theorem firstTrue {ι : Type} {step : ι → Run Value} {items : List ι}
    (each : ∀ item ∈ items, Discloses limit (step item)) :
    Discloses limit (Run.firstTrue w.store.isTrue step .null [] items) := by
  have quiet : ∀ item ∈ items, ∀ value, (step item).outcome = .ok value →
      w.store.isTrue value = false → (step item).events = [] := by
    intro item member value ended falsy
    have disclosed := each item member value ended
    generalize (step item).events = events at disclosed
    cases disclosed with
    | quiet => rfl
    | warned => cases falsy
  rcases Run.firstTrue_eq_step w.store.isTrue step .null quiet with nothing | ⟨item, member, same⟩
  · rw [nothing]
    exact null
  · rw [same]
    exact each item member

end Discloses

/-- A rule without unions discloses what the guard did. The induction follows the levels of the
run, and the specs along with them, of which none has a union. -/
theorem judge_discloses {levels : Nat} {validator : Validator}
    (contained : w.store.SelfContained spec) (unionless : ¬ w.store.HasUnion spec)
    (resolved : w.resolve spec = .ok validator) (located : context.depth? = some depth) :
    Discloses options.maxDepth (w.judge options levels validator v context) := by
  induction levels generalizing spec validator v context depth with
  | zero => exact fun result ended => nomatch ended
  | succ levels inductionHypothesis =>
    obtain ⟨rule, rfl, stands⟩ := contained.here.stands resolved
    have root := contextOrRoot_of_depth? (w := w) located
    rw [judge]
    by_cases whole : rule.IsLeaf
    · rw [judgeWith_leaf whole]
      refine .lift fun result ended => ?_
      rcases judgeLeaf_ok located whole ended with ⟨_, rfl⟩ | ⟨_, message, expectation, rfl⟩
      · exact not_isGuardFailure_null
      · exact not_isGuardFailure_of_expectation expectation
    have below : ∀ inner ∈ rule.subSpecs w.store, ∀ {other part next}, w.resolve inner = .ok other →
        next.depth? = some (depth + 1) →
        Discloses options.maxDepth (w.judge options levels other part next) := by
      intro inner member other part next subResolved placed
      exact inductionHypothesis (contained.sub stands member)
        (Store.not_hasUnion_sub unionless stands member) subResolved placed
    cases rule with
    | ofKind _ | equals _ | instanceOf _ _ | oneOf _ => exact absurd trivial whole
    | shape fields =>
      obtain ⟨entries, held⟩ := contained.here.keyed.mapped stands fields rfl
      simp only [judgeWith, root, judgeShape, declaredFields_of_entries? held]
      split
      · exact .expectation (by simp [IsExpectation])
      split
      · exact .expectation (by simp [IsExpectation, String.toList_append])
      refine .guardDepth located (fun _ => rfl) ?_
      rw [Run.lift_ok, pure_bind, Run.firstTrue_map]
      refine .firstTrue fun entry member => ?_
      obtain ⟨key, same⟩ := contained.here.keyed.key stands held member
      rw [judgeField, Run.lift_ok, pure_bind]
      refine .lift_bind fun other subResolved => .lift_bind fun part _ =>
        .lift_bind fun next extended => ?_
      obtain ⟨location, rfl⟩ := call_context located (by simp [same, Value.str]) extended
      exact below _ (Rule.mem_subSpecs_shape held member) subResolved rfl
    | array element =>
      simp only [judgeWith, root, judgeArray]
      split
      · exact .expectation (by simp [IsExpectation, String.toList_append])
      refine .guardDepth located (fun _ => rfl) (.lift_bind fun other subResolved => ?_)
      refine .firstTrue fun item member => .lift_bind fun next extended => ?_
      obtain ⟨location, rfl⟩ := call_context located (by simp [Value.int]) extended
      exact below _ (List.mem_singleton_self _) subResolved rfl
    | union alternatives => exact absurd ⟨spec, alternatives, .refl, stands⟩ unionless

/-! ## The log of a check -/

/-- A log tells of an error that a check ended with: there is a rejection exactly if there is an
error, and then it comes after everything else, where only warnings are, with the path and the
message of the error. -/
structure TellsError (w : World) (result : Value) (events : List Event) : Prop where
  rejected_iff : (∃ path message, .rejected path message ∈ events) ↔ result ≠ .null
  last : result ≠ .null → ∃ warnings path message,
    events = warnings ++ [.rejected path message] ∧
      (∀ event ∈ warnings, event.isWarning = true) ∧
      w.readField result "path" = .ok (some path) ∧
      w.readField result "message" = .ok (some message)

/-- A log tells of the guard: there is at most one warning, there is one exactly if the guard's
failure is the result, and it names the path of that failure and the limit. -/
structure TellsGuard (w : World) (limit : Nat) (result : Value) (events : List Event) : Prop where
  once : (events.filter Event.isWarning).length ≤ 1
  warned_iff : (∃ path reached, .depthExceeded path reached ∈ events) ↔ IsGuardFailure limit result
  place : ∀ path reached, .depthExceeded path reached ∈ events →
    reached = limit ∧ w.readField result "path" = .ok (some path)

/-- Warnings alone tell that there is no error. -/
theorem TellsError.passed {events : List Event}
    (warnings : ∀ event ∈ events, event.isWarning = true) : w.TellsError .null events := by
  constructor
  · simp only [ne_eq, not_true_eq_false, iff_false]
    rintro ⟨path, message, logged⟩
    cases warnings _ logged
  · exact fun error => absurd rfl error

/-- Warnings and one rejection tell of the error that is rejected. -/
theorem TellsError.failed {events : List Event} {message : String} {base rest : Value} {mark : Nat}
    (warnings : ∀ event ∈ events, event.isWarning = true) :
    w.TellsError (ownFailure message (.path base rest mark))
      (events ++ [.rejected base (.str message)]) := by
  constructor
  · exact ⟨fun _ => nofun, fun _ => ⟨base, .str message, by simp⟩⟩
  · exact fun _ => ⟨events, base, .str message, rfl, warnings, rfl, rfl⟩

/-- What a rule has disclosed of the guard is told by its log, whatever else but warnings is
logged after it. -/
theorem Disclosed.tellsGuard {events later : List Event}
    (disclosed : Disclosed limit result events)
    (others : ∀ event ∈ later, event.isWarning = false) :
    w.TellsGuard limit result (events ++ later) := by
  have unwarned : ∀ path reached, .depthExceeded path reached ∉ later := by
    intro path reached logged
    cases others _ logged
  have nothing : later.filter Event.isWarning = [] := by simpa using others
  cases disclosed with
  | quiet ordinary => exact ⟨by simp [nothing], by simp [unwarned, ordinary], by simp [unwarned]⟩
  | warned base rest mark =>
    refine ⟨?_, ⟨fun _ => ⟨_, rfl⟩, fun _ => ⟨base, limit, by simp⟩⟩, ?_⟩
    · rw [List.filter_append, nothing, List.append_nil]
      exact List.length_filter_le _ _
    · intro path reached logged
      rcases List.mem_append.mp logged with logged | logged
      · cases List.mem_singleton.mp logged
        exact ⟨rfl, rfl⟩
      · exact absurd logged (unwarned path reached)

/-- The log of a check that ends agrees with its result: always about whether there is an error and
what it is, and, if the spec has no union, about the guard as well. -/
theorem log_agrees (w : World) (options : Options) (v spec root result : Value)
    (contained : w.store.SelfContained spec)
    (returned : (w.check options v spec root).outcome = .ok result) :
    w.TellsError result (w.check options v spec root).events ∧
      (¬ w.store.HasUnion spec →
        w.TellsGuard options.maxDepth result (w.check options v spec root).events) := by
  obtain ⟨validator, resolved, judged⟩ := check_ok returned
  have warnings : ∀ event ∈ (w.run options validator v (.rootPath root)).events,
      event.isWarning = true :=
    fun _ logged => isWarning_of_mem_judge ⟨validator, v, .rootPath root⟩ logged
  have disclosed (unionless : ¬ w.store.HasUnion spec) :
      Disclosed options.maxDepth result (w.run options validator v (.rootPath root)).events :=
    judge_discloses contained unionless resolved rfl result judged
  rcases check_of_verdict resolved judged (judge_verdict contained resolved rfl judged) with
    ⟨rfl, events⟩ | ⟨message, base, rest, mark, rfl, events⟩
  · rw [events]
    refine ⟨.passed warnings, fun unionless => ?_⟩
    have told : w.TellsGuard options.maxDepth .null (_ ++ []) :=
      (disclosed unionless).tellsGuard (by simp)
    rwa [List.append_nil] at told
  · rw [events]
    exact ⟨.failed warnings, fun unionless =>
      (disclosed unionless).tellsGuard (by simp [Event.isWarning])⟩

/-- The literal of the ring fails at the list of the mapping that ends in a text when the limit one
keeps it out of it. The log tells the same twice: the guard kept it out there, and that is the
error. -/
theorem ring_log_agrees :
    ring.store.SelfContained (.object 7) ∧ ¬ ring.store.HasUnion (.object 7) ∧
      (ring.check ⟨1, 200, 20⟩ (.object 5) (.object 7) (.str "")).outcome =
        .ok (ownFailure (depthMessage 1) (.path (.str "next") (.int 1) 0)) ∧
      (ring.check ⟨1, 200, 20⟩ (.object 5) (.object 7) (.str "")).events =
        [.depthExceeded (.str "next") 1, .rejected (.str "next") (.str (depthMessage 1))] ∧
      ring.TellsGuard 1 (ownFailure (depthMessage 1) (.path (.str "next") (.int 1) 0))
        (ring.check ⟨1, 200, 20⟩ (.object 5) (.object 7) (.str "")).events := by
  have returned : (ring.check ⟨1, 200, 20⟩ (.object 5) (.object 7) (.str "")).outcome =
      .ok (ownFailure (depthMessage 1) (.path (.str "next") (.int 1) 0)) := by
    decide +kernel
  have agrees := log_agrees ring ⟨1, 200, 20⟩ (.object 5) (.object 7) (.str "") _
    ringLiteral_selfContained returned
  exact ⟨ringLiteral_selfContained, ringLiteral_no_union, returned, by decide +kernel,
    agrees.2 ringLiteral_no_union⟩

end World

end Conformance
