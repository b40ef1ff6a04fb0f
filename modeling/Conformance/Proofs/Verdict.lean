import Conformance.Check
import Conformance.Proofs.Levels

/-!
# How a check can end

Every way in which one rule can end without a fault is listed once, with all that is known then:
which test failed, which part decided, or that all parts passed. Statements about results are
case analyses of this list. The list speaks of the parts through the runs that the rule makes, so
it needs no induction.
-/

namespace Conformance

/-! ## Rules that look at the value as a whole -/

namespace Rule

/-- A rule without parts. -/
def IsLeaf : Rule → Prop
  | .ofKind _ | .equals _ | .instanceOf _ _ | .oneOf _ => True
  | .shape _ | .array _ | .union _ => False

end Rule

/-- A value is an instance of a target: of a class, of some target in a tuple, or of some class in
a union of classes. Custom classes are asked. -/
inductive World.InstanceOf (w : World) (v : Value) : Value → Prop
  | cls {c : Class} (above : w.isInstanceOf v c = .ok true) : InstanceOf w v (.cls c)
  | tuple {address : Nat} {c : Class} {targets : List Value} {target : Value}
      (held : w.store.cell? address = some (.tuple c targets)) (member : target ∈ targets)
      (instance_ : InstanceOf w v target) : InstanceOf w v (.object address)
  | classUnion {address : Nat} {classes : List Class} {c : Class}
      (held : w.store.cell? address = some (.classUnion classes)) (member : c ∈ classes)
      (above : w.isInstanceOf v c = .ok true) : InstanceOf w v (.object address)

namespace World

variable {w : World} {options : Options} {check : Validator → Value → Value → Run Value}

/-- The search through nested targets answers whether the value is an instance. -/
theorem isInstance_ok {v target : Value} {levels : Nat} {answer : Bool}
    (ended : w.isInstance v levels target = .ok answer) :
    answer = true ↔ w.InstanceOf v target := by
  induction levels generalizing target answer with
  | zero => cases ended
  | succ levels inductionHypothesis =>
    match target with
    | .cls c =>
      have asked : w.isInstanceOf v c = .ok answer := ended
      constructor
      · rintro rfl
        exact .cls asked
      · rintro ⟨above⟩
        exact Except.ok.inj (asked.symm.trans above)
    | .object address =>
      simp only [isInstance] at ended
      split at ended
      · next c targets held =>
        rcases anyM_ok ended with ⟨rfl, target, member, found⟩ | ⟨rfl, absent⟩
        · have inside := (inductionHypothesis found).mp rfl
          simp only [true_iff]
          exact .tuple held member inside
        · simp only [Bool.false_eq_true, false_iff]
          intro inside
          cases inside with
          | tuple held' member inside =>
            cases held.symm.trans held'
            have contradiction := (inductionHypothesis (absent _ member)).mpr inside
            cases contradiction
          | classUnion held' => cases held.symm.trans held'
      · next classes held =>
        rcases anyM_ok ended with ⟨rfl, c, member, above⟩ | ⟨rfl, absent⟩
        · simp only [true_iff]
          exact .classUnion held member above
        · simp only [Bool.false_eq_true, false_iff]
          intro inside
          cases inside with
          | tuple held' => cases held.symm.trans held'
          | classUnion held' member above =>
            cases held.symm.trans held'
            cases (absent _ member).symm.trans above
      · cases ended
      · cases ended
    | .null | .bool _ | .number _ _ _ | .text _ _ | .bytes _ | .symbol _ _ | .routine _ _
    | .path _ _ _ | .failure _ _ _ => cases ended

/-- What a rule without parts asks of a value. -/
def Meets (w : World) (v : Value) : Rule → Prop
  | .ofKind kind => w.store.kindOf v = kind
  | .equals expected => w.store.strictEquals v expected = .ok true
  | .instanceOf target _ => w.InstanceOf v target
  | .oneOf allowed => ∃ candidate ∈ allowed, w.store.sameValueZero v candidate = .ok true
  | .shape _ | .array _ | .union _ => False

/-- A failure of the program's own, at a context. -/
def ownFailure (message : String) (context : Value) : Value := .failure (.str message) context 0

/-- Apart from the guard's, every message of the program begins with the same letter. -/
def IsExpectation (message : String) : Prop := message.toList.head? = some 'E'

theorem not_isExpectation_depthMessage (limit : Nat) : ¬ IsExpectation (depthMessage limit) := by
  intro expectation
  unfold IsExpectation depthMessage at expectation
  rw [String.toList_append, String.toList_append] at expectation
  simp at expectation

/-- A rule without parts passes a value that meets it and fails any other at the context. -/
theorem judgeLeaf_ok {rule : Rule} {v context result : Value} {depth : Int}
    (located : context.depth? = some depth) (whole : rule.IsLeaf)
    (ended : w.judgeLeaf options v context rule = .ok result) :
    (w.Meets v rule ∧ result = .null) ∨
      (¬ w.Meets v rule ∧ ∃ message, IsExpectation message ∧
        result = ownFailure message context) := by
  have root := contextOrRoot_of_depth? (w := w) located
  cases rule with
  | ofKind kind =>
    simp only [judgeLeaf, failureAt, root] at ended
    split at ended
    · next same =>
      cases ended
      exact .inl ⟨same, rfl⟩
    · next other =>
      cases ended
      exact .inr ⟨other, _, by simp [IsExpectation, String.toList_append], rfl⟩
  | equals expected =>
    simp only [judgeLeaf, failureAt, root, bind_eq_ok_iff] at ended
    obtain ⟨answer, compared, ended⟩ := ended
    cases answer with
    | true =>
      cases ended
      exact .inl ⟨compared, rfl⟩
    | false =>
      obtain ⟨shown, _, ended⟩ := bind_eq_ok_iff.mp ended
      obtain ⟨received, _, ended⟩ := bind_eq_ok_iff.mp ended
      cases ended
      refine .inr ⟨?_, _, by simp [IsExpectation, String.toList_append], rfl⟩
      simp [Meets, compared]
  | instanceOf target label =>
    simp only [judgeLeaf, failureAt, root, bind_eq_ok_iff] at ended
    obtain ⟨answer, searched, ended⟩ := ended
    cases answer with
    | true =>
      cases ended
      exact .inl ⟨(isInstance_ok searched).mp rfl, rfl⟩
    | false =>
      obtain ⟨received, _, ended⟩ := bind_eq_ok_iff.mp ended
      cases ended
      refine .inr ⟨?_, _, by simp [IsExpectation, String.toList_append], rfl⟩
      intro inside
      cases (isInstance_ok searched).mpr inside
  | oneOf allowed =>
    simp only [judgeLeaf, failureAt, root, bind_eq_ok_iff] at ended
    obtain ⟨answer, searched, ended⟩ := ended
    rcases anyM_ok searched with ⟨rfl, found⟩ | ⟨rfl, absent⟩
    · cases ended
      exact .inl ⟨found, rfl⟩
    · obtain ⟨shown, _, ended⟩ := bind_eq_ok_iff.mp ended
      obtain ⟨received, _, ended⟩ := bind_eq_ok_iff.mp ended
      cases ended
      refine .inr ⟨?_, _, by simp [IsExpectation, String.toList_append], rfl⟩
      rintro ⟨candidate, member, same⟩
      simp [absent candidate member] at same
  | shape _ | array _ | union _ => cases whole

theorem judgeWith_leaf {rule : Rule} (whole : rule.IsLeaf) (v context : Value) :
    w.judgeWith options check (.rule rule) v context =
      Run.lift (w.judgeLeaf options v context rule) := by
  cases rule with
  | ofKind _ | equals _ | instanceOf _ _ | oneOf _ => rfl
  | shape _ | array _ | union _ => cases whole

/-- There are always levels for a rule and for the rules right below it. -/
theorem exists_levelsFor (w : World) (options : Options) (context : Value) :
    ∃ levels, w.levelsFor options context = levels + 2 := by
  have enough : 2 ≤ w.levelsFor options context :=
    (Nat.le_add_left 2 w.store.size).trans (Nat.le_mul_of_pos_left _ (Nat.succ_pos _))
  exact ⟨w.levelsFor options context - 2, (Nat.sub_add_cancel enough).symm⟩

theorem run_leaf {rule : Rule} (whole : rule.IsLeaf) (v context : Value) :
    w.run options (.rule rule) v context = Run.lift (w.judgeLeaf options v context rule) := by
  obtain ⟨levels, same⟩ := exists_levelsFor w options context
  rw [run, same]
  exact judgeWith_leaf whole v context

/-! ## All endings -/

/-- The ways in which a rule can end on a value at a context of some depth. -/
inductive Ends (w : World) (options : Options) (check : Validator → Value → Value → Run Value)
    (v context : Value) (depth : Int) : Rule → Value → Prop
  | passedLeaf {rule : Rule} (whole : rule.IsLeaf) (meets : w.Meets v rule) :
      Ends w options check v context depth rule .null
  | failedLeaf {rule : Rule} {message : String} (whole : rule.IsLeaf) (fails : ¬ w.Meets v rule)
      (expectation : IsExpectation message) :
      Ends w options check v context depth rule (ownFailure message context)
  | nullShape {fields : Value} (missing : v = .null) :
      Ends w options check v context depth (.shape fields)
        (ownFailure "Expected value to be a non-null object but received null" context)
  | otherShape {fields : Value} (present : v ≠ .null) (other : w.store.kindOf v ≠ .object) :
      Ends w options check v context depth (.shape fields)
        (ownFailure ("Expected type object but received " ++ w.store.displayKind v) context)
  | deepShape {fields : Value} (present : v ≠ .null) (object : w.store.kindOf v = .object)
      (reached : ¬ depth < options.maxDepth) :
      Ends w options check v context depth (.shape fields)
        (ownFailure (depthMessage options.maxDepth) context)
  | failedField {fields result : Value} {entries : List (Value × Value)} {entry : Value × Value}
      (present : v ≠ .null) (object : w.store.kindOf v = .object)
      (below : depth < options.maxDepth) (held : w.store.entries? fields = some entries)
      (member : entry ∈ entries)
      (judged : (w.judgeField check v context (.ok entry)).outcome = .ok result)
      (truthy : w.store.isTrue result = true) :
      Ends w options check v context depth (.shape fields) result
  | passedFields {fields : Value} {entries : List (Value × Value)} (present : v ≠ .null)
      (object : w.store.kindOf v = .object) (below : depth < options.maxDepth)
      (held : w.store.entries? fields = some entries)
      (passed : ∀ entry ∈ entries, ∃ value,
        (w.judgeField check v context (.ok entry)).outcome = .ok value ∧
          w.store.isTrue value = false) :
      Ends w options check v context depth (.shape fields) .null
  | otherArray {element : Value} (other : w.store.arrayItems? v = none) :
      Ends w options check v context depth (.array element)
        (ownFailure ("Expected type array but received " ++ w.store.displayKind v) context)
  | deepArray {element : Value} {items : List Value} (listed : w.store.arrayItems? v = some items)
      (reached : ¬ depth < options.maxDepth) :
      Ends w options check v context depth (.array element)
        (ownFailure (depthMessage options.maxDepth) context)
  | failedItem {element result : Value} {items : List Value} {validator : Validator}
      {item : Value × Nat} (listed : w.store.arrayItems? v = some items)
      (below : depth < options.maxDepth) (resolved : w.resolve element = .ok validator)
      (member : item ∈ items.zipIdx)
      (judged : (w.judgeItem (check validator) context item).outcome = .ok result)
      (truthy : w.store.isTrue result = true) :
      Ends w options check v context depth (.array element) result
  | passedItems {element : Value} {items : List Value} {validator : Validator}
      (listed : w.store.arrayItems? v = some items) (below : depth < options.maxDepth)
      (resolved : w.resolve element = .ok validator)
      (passed : ∀ item ∈ items.zipIdx, ∃ value,
        (w.judgeItem (check validator) context item).outcome = .ok value ∧
          w.store.isTrue value = false) :
      Ends w options check v context depth (.array element) .null
  | passedAlternative {alternatives : List Value} {alternative value : Value}
      (member : alternative ∈ alternatives)
      (judged : (w.judgeAlternative check v context alternative).outcome = .ok value)
      (falsy : w.store.isTrue value = false) :
      Ends w options check v context depth (.union alternatives) .null
  | failedAlternatives {alternatives errors : List Value} {lines : List String}
      (failed : List.Forall₂ (fun alternative error =>
        (w.judgeAlternative check v context alternative).outcome = .ok error ∧
          w.store.isTrue error = true) alternatives errors)
      (written : errors.mapM w.alternativeLine = .ok lines) :
      Ends w options check v context depth (.union alternatives)
        (ownFailure ("Expected the value to pass one of the provided validators:\n" ++
          "\n".intercalate lines) context)

theorem judgeShape_ends {fields v context result : Value} {entries : List (Value × Value)}
    {depth : Int} (located : context.depth? = some depth)
    (held : w.store.entries? fields = some entries)
    (ended : (w.judgeShape options check fields v context).outcome = .ok result) :
    w.Ends options check v context depth (.shape fields) result := by
  simp only [judgeShape, declaredFields_of_entries? held] at ended
  by_cases missing : v = .null
  · simp only [missing, if_true, Run.outcome_pure, Except.ok.injEq] at ended
    subst ended
    exact .nullShape missing
  by_cases object : w.store.kindOf v = .object
  · simp only [missing, object, if_false, ne_eq, not_true_eq_false, Run.outcome_bind,
      bind_eq_ok_iff] at ended
    obtain ⟨verdict, entered, ended⟩ := ended
    rcases guardDepth_ok located entered with ⟨below, rfl⟩ | ⟨reached, rfl⟩
    · rw [Run.lift_ok, pure_bind] at ended
      rcases Run.firstTrue_ok _ _ _ ended with ⟨rfl, passed⟩ | ⟨field, member, judged, truthy⟩
      · exact .passedFields missing object below held
          (fun entry member => passed _ (List.mem_map_of_mem member))
      · obtain ⟨entry, entryMember, rfl⟩ := List.mem_map.mp member
        exact .failedField missing object below held entryMember judged truthy
    · cases ended
      exact .deepShape missing object reached
  · simp only [missing, object, if_false, if_true, ne_eq, not_false_eq_true, Run.outcome_pure,
      Except.ok.injEq] at ended
    subst ended
    exact .otherShape missing object

theorem judgeArray_ends {element v context result : Value} {depth : Int}
    (located : context.depth? = some depth)
    (ended : (w.judgeArray options check element v context).outcome = .ok result) :
    w.Ends options check v context depth (.array element) result := by
  rw [judgeArray] at ended
  cases listed : w.store.arrayItems? v with
  | none =>
    simp only [listed, Run.outcome_pure, Except.ok.injEq] at ended
    subst ended
    exact .otherArray listed
  | some items =>
    simp only [listed, Run.outcome_bind, bind_eq_ok_iff] at ended
    obtain ⟨verdict, entered, ended⟩ := ended
    rcases guardDepth_ok located entered with ⟨below, rfl⟩ | ⟨reached, rfl⟩
    · simp only [Run.outcome_bind, bind_eq_ok_iff] at ended
      obtain ⟨validator, resolved, ended⟩ := ended
      rcases Run.firstTrue_ok _ _ _ ended with ⟨rfl, passed⟩ | ⟨item, member, judged, truthy⟩
      · exact .passedItems listed below resolved passed
      · exact .failedItem listed below resolved member judged truthy
    · cases ended
      exact .deepArray listed reached

theorem judgeUnion_ends {alternatives : List Value} {v context result : Value} {depth : Int}
    (ended : (w.judgeUnion check alternatives v context).outcome = .ok result) :
    w.Ends options check v context depth (.union alternatives) result := by
  simp only [judgeUnion, Run.outcome_bind, bind_eq_ok_iff] at ended
  obtain ⟨errors, looped, ended⟩ := ended
  cases errors with
  | none =>
    cases ended
    obtain ⟨alternative, member, value, judged, falsy⟩ := Run.allTrue_none _ _ looped
    exact .passedAlternative member judged falsy
  | some errors =>
    obtain ⟨found, same, failed⟩ := Run.allTrue_some _ _ looped
    simp only [List.reverse_nil, List.nil_append] at same
    subst same
    obtain ⟨lines, written, same⟩ := bind_eq_ok_iff.mp ended
    cases same
    exact .failedAlternatives failed written

/-- The list is complete: a rule that ends without a fault ends in one of these ways. -/
theorem judgeWith_ends {rule : Rule} {v context result : Value} {depth : Int}
    (located : context.depth? = some depth)
    (mapped : ∀ fields, rule = .shape fields → ∃ entries, w.store.entries? fields = some entries)
    (ended : (w.judgeWith options check (.rule rule) v context).outcome = .ok result) :
    w.Ends options check v context depth rule result := by
  by_cases whole : rule.IsLeaf
  · rw [judgeWith_leaf whole] at ended
    rcases judgeLeaf_ok located whole ended with ⟨meets, rfl⟩ | ⟨fails, message, expectation, rfl⟩
    · exact .passedLeaf whole meets
    · exact .failedLeaf whole fails expectation
  have root := contextOrRoot_of_depth? (w := w) located
  cases rule with
  | ofKind _ | equals _ | instanceOf _ _ | oneOf _ => exact absurd trivial whole
  | shape fields =>
    obtain ⟨entries, held⟩ := mapped fields rfl
    simp only [judgeWith, root] at ended
    exact judgeShape_ends located held ended
  | array element =>
    simp only [judgeWith, root] at ended
    exact judgeArray_ends located ended
  | union alternatives =>
    simp only [judgeWith, root] at ended
    exact judgeUnion_ends ended

/-- A rule gives null or something that counts as true. -/
theorem Ends.null_or_true {rule : Rule} {v context result : Value} {depth : Int}
    (ends : w.Ends options check v context depth rule result) :
    result = .null ∨ w.store.isTrue result = true := by
  cases ends with
  | passedLeaf | passedFields | passedItems | passedAlternative => exact .inl rfl
  | failedLeaf | nullShape | otherShape | deepShape | otherArray | deepArray
  | failedAlternatives => exact .inr rfl
  | failedField _ _ _ _ _ _ truthy => exact .inr truthy
  | failedItem _ _ _ _ _ truthy => exact .inr truthy

/-! ## The parts of a rule -/

/-- The check of a field that ends has resolved its spec, read its part and extended the
context. -/
theorem judgeField_ok {v context value : Value} {entry : Value × Value}
    (judged : (w.judgeField check v context (.ok entry)).outcome = .ok value) :
    ∃ validator part inner, w.resolve entry.2 = .ok validator ∧ w.get v entry.1 = .ok part ∧
      w.call context [entry.1] = .ok inner ∧ (check validator part inner).outcome = .ok value := by
  simp only [judgeField, Run.lift_ok, pure_bind, Run.outcome_bind, bind_eq_ok_iff,
    Run.outcome_lift] at judged
  obtain ⟨validator, resolved, part, read, inner, extended, checked⟩ := judged
  exact ⟨validator, part, inner, resolved, read, extended, checked⟩

/-- The check of an item that ends has extended the context by its place. -/
theorem judgeItem_ok {check : Value → Value → Run Value} {context value : Value}
    {item : Value × Nat} (judged : (w.judgeItem check context item).outcome = .ok value) :
    ∃ inner, w.call context [.int item.2] = .ok inner ∧
      (check item.1 inner).outcome = .ok value := by
  simpa only [judgeItem, Run.outcome_bind, bind_eq_ok_iff, Run.outcome_lift] using judged

/-- The check of an alternative that ends has resolved its spec. -/
theorem judgeAlternative_ok {v context alternative value : Value}
    (judged : (w.judgeAlternative check v context alternative).outcome = .ok value) :
    ∃ validator, w.resolve alternative = .ok validator ∧
      (check validator v context).outcome = .ok value := by
  simpa only [judgeAlternative, Run.outcome_bind, bind_eq_ok_iff, Run.outcome_lift] using judged

/-- The field that decided a shape was checked by a call the shape makes, with the same result. -/
theorem field_makes {fields v context value : Value} {entries : List (Value × Value)}
    {entry : Value × Value} {depth : Int} (located : context.depth? = some depth)
    (below : depth < options.maxDepth) (held : w.store.entries? fields = some entries)
    (member : entry ∈ entries)
    (judged : (w.judgeField check v context (.ok entry)).outcome = .ok value) :
    ∃ validator part inner, w.resolve entry.2 = .ok validator ∧ w.get v entry.1 = .ok part ∧
      w.call context [entry.1] = .ok inner ∧
      w.Makes options ⟨.rule (.shape fields), v, context⟩ ⟨validator, part, inner⟩ ∧
      (check validator part inner).outcome = .ok value := by
  obtain ⟨validator, part, inner, resolved, read, extended, checked⟩ := judgeField_ok judged
  have root := contextOrRoot_of_depth? (w := w) located
  have entered : (w.guardDepth options (w.contextOrRoot context)).outcome = .ok none := by
    rw [root, guardDepth_below located below]
    rfl
  have makes : w.Makes options ⟨.rule (.shape fields), v, context⟩ ⟨validator, part, inner⟩ :=
    .field entered (declaredFields_of_entries? held) (List.mem_map_of_mem member) resolved read
      (by rw [root]; exact extended)
  exact ⟨validator, part, inner, resolved, read, extended, makes, checked⟩

/-- The item that decided an array was checked by a call the array makes, with the same result. -/
theorem item_makes {element v context value : Value} {items : List Value} {item : Value × Nat}
    {validator : Validator} {depth : Int} (located : context.depth? = some depth)
    (below : depth < options.maxDepth) (listed : w.store.arrayItems? v = some items)
    (resolved : w.resolve element = .ok validator) (member : item ∈ items.zipIdx)
    (judged : (w.judgeItem (check validator) context item).outcome = .ok value) :
    ∃ inner, w.call context [.int item.2] = .ok inner ∧
      w.Makes options ⟨.rule (.array element), v, context⟩ ⟨validator, item.1, inner⟩ ∧
      (check validator item.1 inner).outcome = .ok value := by
  obtain ⟨inner, extended, checked⟩ := judgeItem_ok judged
  have root := contextOrRoot_of_depth? (w := w) located
  have entered : (w.guardDepth options (w.contextOrRoot context)).outcome = .ok none := by
    rw [root, guardDepth_below located below]
    rfl
  have makes : w.Makes options ⟨.rule (.array element), v, context⟩ ⟨validator, item.1, inner⟩ :=
    .item entered listed member resolved (by rw [root]; exact extended)
  exact ⟨inner, extended, makes, checked⟩

/-- A ready call of a native validator that ends does so in one of the listed ways. -/
theorem Ready.ends {condition : Value → Prop} {call : Call} {depth : Int}
    (ready : w.Ready condition call depth)
    (known : ∀ spec, condition spec → ¬ w.store.IsForeign spec) (layered : w.store.Layered)
    {result : Value}
    (ended : (w.run options call.validator call.value call.context).outcome = .ok result) :
    ∃ rule, call.validator = .rule rule ∧
      w.Ends options (w.run options) call.value call.context depth rule result := by
  rw [ready.run_eq layered options] at ended
  obtain ⟨located, keyed, spec, throughout, resolved⟩ := ready
  rcases stands_or_foreign_of_resolve resolved with ⟨rule, same, stands⟩ | ⟨_, foreign⟩
  · rw [same] at ended
    have mapped := (keyed spec throughout.here).mapped stands
    exact ⟨rule, same, judgeWith_ends located mapped ended⟩
  · exact absurd foreign (known spec throughout.here)

/-! ## Specs and checks -/

/-- Resolves a spec and runs its validator. -/
def runSpec (w : World) (options : Options) (spec v context : Value) : Run Value := do
  let validator ← Run.lift (w.resolve spec)
  w.run options validator v context

/-- A check that ends gives what the validator of its spec gave at the root; the log of an error
changes nothing about it. -/
theorem check_ok {v spec root result : Value}
    (ended : (w.check options v spec root).outcome = .ok result) :
    ∃ validator, w.resolve spec = .ok validator ∧
      (w.run options validator v (.rootPath root)).outcome = .ok result := by
  simp only [World.check, Run.outcome_bind, bind_eq_ok_iff, Run.outcome_lift] at ended
  obtain ⟨validator, resolved, error, judged, ended⟩ := ended
  split at ended
  · simp only [Run.outcome_bind, bind_eq_ok_iff, Run.outcome_lift, Run.outcome_pure,
      Except.ok.injEq] at ended
    obtain ⟨_, _, _, _, _, _, rfl⟩ := ended
    exact ⟨validator, resolved, judged⟩
  · cases ended
    exact ⟨validator, resolved, judged⟩

end World

end Conformance
