import Conformance.Proofs.Obligations

/-!
# The first failure in document order

A run stops at the first failure, while the list of its obligations goes on to the end. The list
decides the run: the first obligation that does not pass gives the outcome, be it a failure or a
fault, and the obligations after it are not even begun. The proof turns the nested loops of a run
into one loop over the list, from the equation that every run obeys.

Callables from outside may give anything; that they give the same for the same arguments is all
that is used of them.
-/

namespace Conformance.World

/-! ## Settling a list of obligations -/

/-- Runs obligations in turn until one does not pass. -/
def settle (w : World) (obligations : List (Run Value)) : Run Value :=
  Run.firstTrue w.store.isTrue id .null [] obligations

/-- A run with every value that counts as false read as null. -/
def verdict (w : World) (run : Run Value) : Run Value := do
  let value ← run
  return if w.store.isTrue value then value else .null

variable {w : World} {options : Options} {check : Validator → Value → Value → Run Value}
  {parts : Validator → Value → Value → List (Run Value)} {context v : Value} {depth : Int}

theorem settle_nil : w.settle [] = pure .null := rfl

theorem settle_cons (first : Run Value) (rest : List (Run Value)) :
    w.settle (first :: rest) = (do
      let value ← first
      if w.store.isTrue value then return value else w.settle rest) :=
  Run.firstTrue_cons _ _ _ first rest

/-- A list settles part by part. -/
theorem settle_append (first rest : List (Run Value)) :
    w.settle (first ++ rest) = (do
      let value ← w.settle first
      if w.store.isTrue value then return value else w.settle rest) := by
  induction first with
  | nil => simp [settle_nil]
  | cons run others inductionHypothesis =>
    rw [List.cons_append, settle_cons, settle_cons, bind_assoc]
    apply Run.bind_congr
    intro value _
    by_cases truthy : w.store.isTrue value
    · simp [truthy]
    · simp [truthy, inductionHypothesis]

/-- What arises when a test passes is settled after the test. -/
theorem settle_onceMet (test : Run Value) (rest : List (Run Value)) :
    w.settle (w.onceMet test rest) = (do
      let value ← test
      if w.store.isTrue value then return value else w.settle rest) := by
  rw [onceMet, settle_cons]
  apply Run.bind_congr
  intro value ended
  by_cases truthy : w.store.isTrue value
  · simp [truthy]
  · simp [truthy, passes, ended]

/-- What a value leads to is settled at that value. -/
theorem settle_onceKnown {α : Type} (outcome : Except Fault α) (next : α → List (Run Value)) :
    w.settle (onceKnown outcome next) =
      Run.lift outcome >>= fun value => w.settle (next value) := by
  cases outcome with
  | error fault => rfl
  | ok value =>
    simp only [onceKnown, Except.map, settle_cons, Run.lift_ok, pure_bind, Store.isTrue_null,
      Bool.false_eq_true, if_false]

theorem verdict_bind {α : Type} (run : Run α) (next : α → Run Value) :
    w.verdict (run >>= next) = run >>= fun value => w.verdict (next value) := by
  simp only [verdict, bind_assoc]

theorem verdict_pure (value : Value) :
    w.verdict (pure value) = pure (if w.store.isTrue value then value else .null) := by
  simp only [verdict, pure_bind]

/-- Whether a value counts as true is all that matters of it when it is to be settled. -/
theorem verdict_then (run rest : Run Value) :
    (w.verdict run >>= fun value => if w.store.isTrue value then return value else rest) =
      run >>= fun value => if w.store.isTrue value then return value else rest := by
  simp only [verdict, bind_assoc, pure_bind]
  apply Run.bind_congr
  intro value _
  by_cases truthy : w.store.isTrue value
  · simp [truthy]
  · simp [truthy]

/-- Only a true value or null is the result of settling. -/
theorem verdict_settle (obligations : List (Run Value)) :
    w.verdict (w.settle obligations) = w.settle obligations := by
  induction obligations with
  | nil => simp [settle_nil, verdict_pure]
  | cons first rest inductionHypothesis =>
    rw [settle_cons, verdict_bind]
    apply Run.bind_congr
    intro value _
    by_cases truthy : w.store.isTrue value
    · simp [truthy, verdict_pure]
    · simpa [truthy] using inductionHypothesis

/-- A run settles itself as the only obligation. -/
theorem verdict_eq_settle_single (run : Run Value) : w.verdict run = w.settle [run] := by
  rw [settle_cons, settle_nil, verdict]
  apply Run.bind_congr
  intro value _
  by_cases truthy : w.store.isTrue value
  · simp [truthy]
  · simp [truthy]

/-- A loop whose steps settle lists settles these lists one after the other. -/
theorem firstTrue_eq_settle {ι : Type} {step : ι → Run Value} {listed : ι → List (Run Value)}
    {items : List ι} (same : ∀ item ∈ items, w.verdict (step item) = w.settle (listed item)) :
    Run.firstTrue w.store.isTrue step .null [] items = w.settle (items.flatMap listed) := by
  induction items with
  | nil => rfl
  | cons item rest inductionHypothesis =>
    have later : ∀ other ∈ rest, w.verdict (step other) = w.settle (listed other) := by
      intro other member
      exact same other (by simp [member])
    rw [List.flatMap_cons, settle_append, Run.firstTrue_cons, ← same item (by simp), verdict_then,
      inductionHypothesis later]

/-- The first obligation that does not pass decides, and those after it are not begun. -/
theorem settle_cases (obligations : List (Run Value)) :
    (∃ before decisive after, obligations = before ++ decisive :: after ∧
        (∀ earlier ∈ before, w.passes earlier = true) ∧ w.passes decisive = false ∧
        w.settle obligations =
          ⟨(before ++ [decisive]).flatMap Run.events, decisive.outcome⟩) ∨
      ((∀ obligation ∈ obligations, w.passes obligation = true) ∧
        w.settle obligations = ⟨obligations.flatMap Run.events, .ok .null⟩) := by
  induction obligations with
  | nil => exact .inr ⟨by simp, rfl⟩
  | cons first rest inductionHypothesis =>
    rw [settle_cons]
    cases ended : first.outcome with
    | error fault =>
      refine .inl ⟨[], first, rest, rfl, by simp, by simp [passes, ended], ?_⟩
      rw [Run.bind_of_error ended, ended]
      simp
    | ok value =>
      rw [Run.bind_of_ok ended]
      by_cases truthy : w.store.isTrue value
      · refine .inl ⟨[], first, rest, rfl, by simp, by simp [passes, ended, truthy], ?_⟩
        simp [truthy, ended]
      · have passed : w.passes first = true := by simp [passes, ended, truthy]
        rcases inductionHypothesis with
          ⟨before, decisive, after, split, earlier, failed, settled⟩ | ⟨all, settled⟩
        · refine .inl ⟨first :: before, decisive, after, by simp [split], ?_, failed, ?_⟩
          · simpa [passed] using earlier
          · simp [truthy, settled]
        · refine .inr ⟨by simpa [passed] using all, ?_⟩
          simp [truthy, settled]

/-! ## A run settles its obligations -/

/-- Everything that leads to a field is done in the order of its obligations. -/
theorem judgeField_settles {entry : Value × Value}
    (same : ∀ validator part inner, w.resolve entry.2 = .ok validator →
      w.get v entry.1 = .ok part → w.call context [entry.1] = .ok inner →
      w.verdict (check validator part inner) = w.settle (parts validator part inner)) :
    w.verdict (w.judgeField check v context (.ok entry)) =
      w.settle (w.fieldObligations parts v context entry) := by
  simp only [judgeField, fieldObligations, Run.lift_ok, pure_bind, verdict_bind, settle_onceKnown]
  apply Run.bind_congr
  intro validator resolved
  apply Run.bind_congr
  intro part read
  apply Run.bind_congr
  intro inner extended
  exact same validator part inner resolved read extended

theorem judgeItem_settles {validator : Validator} {item : Value × Nat}
    (same : ∀ inner, w.call context [.int item.2] = .ok inner →
      w.verdict (check validator item.1 inner) = w.settle (parts validator item.1 inner)) :
    w.verdict (w.judgeItem (check validator) context item) =
      w.settle (w.itemObligations parts validator context item) := by
  simp only [judgeItem, itemObligations, verdict_bind, settle_onceKnown]
  apply Run.bind_congr
  intro inner extended
  exact same inner extended

/-- What follows the guard is settled when the guard lets the check pass. -/
theorem guard_settles (located : context.depth? = some depth) {body : Run Value}
    {rest : List (Run Value)}
    (same : (w.guardDepth options context).outcome = .ok none → w.verdict body = w.settle rest) :
    w.verdict (do
        match ← w.guardDepth options context with
        | some tooDeep => return tooDeep
        | none => body) =
      w.settle (w.onceMet (w.guardTest options context) rest) := by
  rw [settle_onceMet, guardTest, bind_assoc, verdict_bind]
  apply Run.bind_congr
  intro verdict entered
  rcases guardDepth_ok located entered with ⟨_, rfl⟩ | ⟨_, rfl⟩
  · simpa using same entered
  · simp [verdict_pure]

/-- A shape settles its tests and then its fields. -/
theorem judgeShape_settles {fields : Value} {entries : List (Value × Value)}
    (located : context.depth? = some depth) (held : w.store.entries? fields = some entries)
    (same : (w.guardDepth options context).outcome = .ok none → ∀ entry ∈ entries,
      w.verdict (w.judgeField check v context (.ok entry)) =
        w.settle (w.fieldObligations parts v context entry)) :
    w.verdict (w.judgeShape options check fields v context) =
      w.settle (w.shapeObligations options parts fields v context) := by
  rw [judgeShape, shapeObligations, settle_onceMet, settle_onceMet, nullTest, kindTest, held,
    Option.getD_some]
  by_cases missing : v = .null
  · simp [missing, verdict_pure]
  by_cases object : w.store.kindOf v = .object
  · simp only [missing, object, if_false, ne_eq, not_true_eq_false, pure_bind, Store.isTrue_null,
      Bool.false_eq_true, declaredFields_of_entries? held, Run.lift_ok]
    apply guard_settles located
    intro entered
    have loop := firstTrue_eq_settle (same entered)
    rw [Run.firstTrue_map, loop, verdict_settle]
  · simp [missing, object, verdict_pure]

/-- An array settles its tests, its spec and then its items. -/
theorem judgeArray_settles {element : Value} (located : context.depth? = some depth)
    (same : (w.guardDepth options context).outcome = .ok none → ∀ items validator,
      w.store.arrayItems? v = some items → w.resolve element = .ok validator →
      ∀ item ∈ items.zipIdx, w.verdict (w.judgeItem (check validator) context item) =
        w.settle (w.itemObligations parts validator context item)) :
    w.verdict (w.judgeArray options check element v context) =
      w.settle (w.arrayObligations options parts element v context) := by
  rw [judgeArray, arrayObligations, settle_onceMet, listTest]
  cases listed : w.store.arrayItems? v with
  | none => simp [verdict_pure]
  | some items =>
    simp only [reduceCtorEq, if_false, pure_bind, Store.isTrue_null, Bool.false_eq_true,
      Option.getD_some]
    apply guard_settles located
    intro entered
    rw [verdict_bind, settle_onceKnown]
    apply Run.bind_congr
    intro validator resolved
    have loop := firstTrue_eq_settle (same entered items validator listed resolved)
    rw [loop, verdict_settle]

/-- A call settles its obligations if the deeper calls it makes settle theirs. -/
theorem Ready.settles_of_parts {condition : Value → Prop} {call : Call}
    (ready : w.Ready condition call depth) (layered : w.store.Layered)
    (same : ∀ next, depth < options.maxDepth → w.Ready condition next (depth + 1) →
      w.verdict (w.run options next.validator next.value next.context) =
        w.settle (parts next.validator next.value next.context)) :
    w.verdict (w.run options call.validator call.value call.context) =
      w.settle (w.obligationsWith options parts call.validator call.value call.context) := by
  have equation := ready.run_eq layered options
  have deeper : ∀ next, call.validator.rank = 0 → w.Makes options call next →
      w.verdict (w.run options next.validator next.value next.context) =
        w.settle (parts next.validator next.value next.context) := by
    intro next flat makes
    obtain ⟨below, again⟩ := ready.descends layered makes flat
    exact same next below again
  obtain ⟨located, keyed, spec, throughout, resolved⟩ := ready
  obtain ⟨validator, v, context⟩ := call
  have root := contextOrRoot_of_depth? (w := w) located
  match validator with
  | .rule (.shape fields) =>
    have stands := resolve_eq_rule_iff.mp resolved
    obtain ⟨entries, held, _⟩ := keyed spec throughout.here fields stands
    rw [equation]
    simp only [judgeWith, obligationsWith, root]
    apply judgeShape_settles located held
    intro entered entry member
    apply judgeField_settles
    intro validator part inner subResolved read extended
    rw [← root] at entered extended
    exact deeper ⟨validator, part, inner⟩ rfl (.field entered (declaredFields_of_entries? held)
      (List.mem_map_of_mem member) subResolved read extended)
  | .rule (.array element) =>
    rw [equation]
    simp only [judgeWith, obligationsWith, root]
    apply judgeArray_settles located
    intro entered items validator listed subResolved item member
    apply judgeItem_settles
    intro inner extended
    rw [← root] at entered extended
    exact deeper ⟨validator, item.1, inner⟩ rfl
      (.item entered listed member subResolved extended)
  | .rule (.union _) | .external _ | .rule (.ofKind _) | .rule (.equals _)
  | .rule (.instanceOf _ _) | .rule (.oneOf _) => exact verdict_eq_settle_single _

/-- A call settles its obligations within the depths that are left to it. -/
theorem Ready.settles {condition : Value → Prop} {call : Call} {left : Nat}
    (ready : w.Ready condition call depth) (layered : w.store.Layered)
    (remaining : ((options.maxDepth : Int) - depth).toNat = left) :
    w.verdict (w.run options call.validator call.value call.context) =
      w.settle (w.obligationsWithin options left call.validator call.value call.context) := by
  induction left generalizing call depth with
  | zero =>
    apply ready.settles_of_parts layered
    intro next below _
    omega
  | succ left inductionHypothesis =>
    apply ready.settles_of_parts layered
    intro next below again
    exact inductionHypothesis again (by omega)

/-- A callable from outside is one obligation. -/
theorem obligationsWithin_external (left : Nat) (callee v context : Value) :
    w.obligationsWithin options left (.external callee) v context =
      [w.run options (.external callee) v context] := by
  cases left <;> rfl

/-- The obligations of a rule are those at a fresh root when the context counts as false. -/
theorem obligationsWithin_contextOrRoot (left : Nat) (rule : Rule) (v context : Value) :
    w.obligationsWithin options left (.rule rule) v context =
      w.obligationsWithin options left (.rule rule) v (w.contextOrRoot context) := by
  have alike : ∀ parts, w.obligationsWith options parts (.rule rule) v context =
      w.obligationsWith options parts (.rule rule) v (w.contextOrRoot context) := by
    intro parts
    cases rule with
    | shape _ | array _ => simp [obligationsWith]
    | ofKind _ | equals _ | instanceOf _ _ | oneOf _ | union _ =>
      simp only [obligationsWith]
      rw [run_contextOrRoot]
  cases left with
  | zero => exact alike _
  | succ left => exact alike _

/-- A run at a context of whole depth settles the obligations of its spec. -/
theorem runSpec_settles {spec : Value} (options : Options) (v : Value)
    (keyed : w.store.Throughout w.store.PlainlyKeyed spec)
    (layered : w.store.Layered) (located : (w.contextOrRoot context).depth? = some depth) :
    w.verdict (w.runSpec options spec v context) =
      w.settle (w.obligations options spec v context) := by
  rw [runSpec, obligations, verdict_bind, settle_onceKnown]
  apply Run.bind_congr
  intro validator resolved
  have resolved : w.resolve spec = .ok validator := resolved
  simp only [obligationsOf, located, Option.getD_some]
  cases validator with
  | external callee =>
    rw [obligationsWithin_external]
    exact verdict_eq_settle_single _
  | rule known =>
    have ready : w.Ready w.store.PlainlyKeyed ⟨.rule known, v, w.contextOrRoot context⟩ depth :=
      ⟨located, fun _ plain => plain, spec, keyed, resolved⟩
    rw [run_contextOrRoot, obligationsWithin_contextOrRoot]
    exact ready.settles layered rfl

/-- A run decided by something that does not pass is that decision. -/
theorem eq_of_verdict_eq {run decision : Run Value} (failed : w.passes decision = false)
    (same : w.verdict run = decision) : run = decision := by
  subst same
  cases ended : run.outcome with
  | error fault =>
    rw [verdict, Run.bind_of_error ended]
    exact Run.ext rfl ended
  | ok value =>
    rw [verdict, Run.bind_of_ok ended] at failed ⊢
    by_cases truthy : w.store.isTrue value
    · exact Run.ext (by simp) (by simp [ended, truthy])
    · simp [passes, truthy] at failed

/-- A run whose verdict is null passes, with the same events. -/
theorem passes_of_verdict_eq {run : Run Value} {events : List Event}
    (same : w.verdict run = ⟨events, .ok .null⟩) : w.passes run = true ∧ run.events = events := by
  cases ended : run.outcome with
  | error fault =>
    rw [verdict, Run.bind_of_error ended] at same
    cases same
  | ok value =>
    rw [verdict, Run.bind_of_ok ended] at same
    by_cases truthy : w.store.isTrue value
    · have null : value = .null := by simpa [truthy] using congrArg Run.outcome same
      simp [null] at truthy
    · refine ⟨by simp [passes, ended, truthy], ?_⟩
      simpa using congrArg Run.events same

/-- What passes a spec that is no callable from outside is told so by null. -/
theorem null_of_passes {spec : Value} (keyed : w.store.PlainlyKeyed spec)
    (known : ¬ w.store.IsForeign spec) (located : (w.contextOrRoot context).depth? = some depth)
    (passed : w.passes (w.runSpec options spec v context) = true) :
    (w.runSpec options spec v context).outcome = .ok .null := by
  obtain ⟨value, ended, falsy⟩ := passes_iff.mp passed
  rw [ended]
  simp only [runSpec, Run.outcome_bind, bind_eq_ok_iff, Run.outcome_lift] at ended
  obtain ⟨validator, resolved, ended⟩ := ended
  rcases stands_or_foreign_of_resolve resolved with ⟨rule, rfl, stands⟩ | ⟨_, foreign⟩
  · rw [run_contextOrRoot] at ended
    cases levels : w.levelsFor options (w.contextOrRoot context) with
    | zero =>
      rw [run, levels] at ended
      cases ended
    | succ levels' =>
      rw [run, levels] at ended
      have ends := judgeWith_ends located (keyed.mapped stands) ended
      rcases ends.null_or_true with rfl | truthy
      · rfl
      · simp [truthy] at falsy
  · exact absurd foreign known

/-- The first obligation in document order that does not pass decides a run: the run ends with
the very same failure or fault, and has done nothing but the obligations up to that one. When all
pass, so does the run; a callable from outside passes with whatever it gives, and any other spec
with null. -/
theorem first_failure_decides (w : World) (options : Options) (spec v context : Value)
    (depth : Int) (keyed : w.store.Throughout w.store.PlainlyKeyed spec)
    (layered : w.store.Layered) (located : (w.contextOrRoot context).depth? = some depth) :
    (∃ before decisive after,
        w.obligations options spec v context = before ++ decisive :: after ∧
        (∀ earlier ∈ before, w.passes earlier = true) ∧ w.passes decisive = false ∧
        w.runSpec options spec v context =
          ⟨(before ++ [decisive]).flatMap Run.events, decisive.outcome⟩) ∨
      ((∀ obligation ∈ w.obligations options spec v context, w.passes obligation = true) ∧
        (w.runSpec options spec v context).events =
          (w.obligations options spec v context).flatMap Run.events ∧
        w.passes (w.runSpec options spec v context) = true ∧
        (¬ w.store.IsForeign spec → (w.runSpec options spec v context).outcome = .ok .null)) := by
  have settles := runSpec_settles options v keyed layered located
  rcases w.settle_cases (w.obligations options spec v context) with
    ⟨before, decisive, after, split, earlier, failed, settled⟩ | ⟨all, settled⟩
  · have stops : w.passes ⟨(before ++ [decisive]).flatMap Run.events, decisive.outcome⟩ = false :=
      failed
    have decided := eq_of_verdict_eq stops (settles.trans settled)
    exact .inl ⟨before, decisive, after, split, earlier, failed, decided⟩
  · obtain ⟨passed, logged⟩ := passes_of_verdict_eq (settles.trans settled)
    refine .inr ⟨all, logged, passed, ?_⟩
    intro known
    exact null_of_passes keyed.here known located passed

/-- In the ring, at a context that counts as false, a list that ends in null is decided by one of
its obligations. -/
theorem ring_first_failure :
    ring.store.Throughout ring.store.PlainlyKeyed (.object 0) ∧ ring.store.Layered ∧
      ∃ before decisive after,
        ring.obligations {} (.object 0) (.object 7) .null = before ++ decisive :: after ∧
        (∀ earlier ∈ before, ring.passes earlier = true) ∧ ring.passes decisive = false ∧
        ring.runSpec {} (.object 0) (.object 7) .null =
          ⟨(before ++ [decisive]).flatMap Run.events, decisive.outcome⟩ := by
  have keyed : ring.store.Throughout ring.store.PlainlyKeyed (.object 0) := by
    intro inner reached
    exact (ring_selfContained inner reached).keyed
  refine ⟨keyed, ring_layered, ?_⟩
  have fails : ring.passes (ring.runSpec {} (.object 0) (.object 7) .null) = false := by
    decide +kernel
  rcases first_failure_decides ring {} (.object 0) (.object 7) .null 0 keyed ring_layered rfl with
    found | ⟨_, _, passed, _⟩
  · exact found
  · simp [fails] at passed

end Conformance.World
