import Mathlib.Data.Finset.Lattice.Fold
import Mathlib.Data.List.Dedup
import Mathlib.Logic.Relation
import Mathlib.Order.Lattice.Nat
import Mathlib.Tactic.Linarith
import Conformance.Catalogue.Fields
import Conformance.Proofs.Context
import Conformance.Proofs.Growth
import Conformance.Proofs.Parts
import Conformance.Proofs.Spec

/-!
# Levels are never used up

Running a validator makes further calls: one for each field, item or alternative it looks at. A
field or item is one deeper and is reached below the depth limit only; an alternative stays at the
same depth but was made before its union. So a call makes calls of smaller need, where the need
counts the depths left and, within a depth, the unions left.

Levels that cover the need are enough, and how many more there are makes no difference. Hence
`run` obeys the equation of a check without any levels: it is what `judgeWith` makes of `run`
itself.
-/

namespace Conformance

/-! ## Unions hold only what was made before them -/

namespace Rule

/-- How many unions can lie inside one another below a rule. -/
def rank : Rule → Nat
  | .union alternatives => alternatives.toFinset.sup Value.place + 1
  | _ => 0

end Rule

/-- The rank of a validator; a callable from outside has no parts. -/
def Validator.rank : Validator → Nat
  | .rule known => known.rank
  | .external _ => 0

namespace Store

/-- Every alternative of a union was made before the union, as its list of alternatives is fixed
when it is made. -/
def Layered (σ : Store) : Prop :=
  ∀ address alternatives inner, σ.cell? address = some (.validator (.union alternatives)) →
    .object inner ∈ alternatives → inner < address

/-- Whether every alternative of a union has a lower address than the union. -/
def isLayered (σ : Store) : Bool :=
  (List.range σ.size).all fun address =>
    match σ.cell? address with
    | some (.validator (.union alternatives)) =>
      alternatives.all fun alternative => alternative.place ≤ address
    | _ => true

theorem layered_of_isLayered {σ : Store} (ordered : σ.isLayered = true) : σ.Layered := by
  intro address alternatives inner found member
  have inside : address < σ.size := (Array.getElem?_eq_some_iff.mp found).1
  have here := List.all_eq_true.mp ordered address (List.mem_range.mpr inside)
  simp only [found, List.all_eq_true, decide_eq_true_eq] at here
  exact here (.object inner) member

/-- Making an object out of objects that are there keeps unions above their alternatives. -/
theorem Layered.insert {σ : Store} (layered : σ.Layered) {cell : Cell}
    (present : ∀ alternatives inner, cell = .validator (.union alternatives) →
      .object inner ∈ alternatives → inner < σ.size) : (σ.insert cell).1.Layered := by
  intro address alternatives inner found member
  by_cases old : address < σ.size
  · rw [cell?_insert_old old] at found
    exact layered address alternatives inner found member
  · have bound : address < σ.size + 1 := by
      simpa [Store.insert, cell?, size] using (Array.getElem?_eq_some_iff.mp found).1
    have last : address = (σ.insert cell).2 := by
      change address = σ.size
      omega
    subst last
    rw [cell?_insert_new] at found
    exact present alternatives inner (Option.some.inj found) member

/-- Replacing the contents of a list or mapping leaves unions above their alternatives. -/
theorem Layered.replace {σ : Store} (layered : σ.Layered) {cell : Cell}
    (noUnion : ∀ alternatives, cell ≠ .validator (.union alternatives)) (address : Nat) :
    (σ.replace address cell).Layered := by
  intro other alternatives inner found member
  by_cases same : address = other
  · subst same
    by_cases inside : address < σ.cells.size
    · simp [Store.replace, cell?, inside, noUnion] at found
    · simp [Store.replace, cell?, inside] at found
  · rw [cell?_replace_other same] at found
    exact layered other alternatives inner found member

/-- The stores that come about: the one at the start, those with an object more, made out of
values that are there, and those in which a list or mapping holds something else. -/
inductive Arises : Store → Prop
  | initial : Arises Catalogue.initialStore
  | insert {σ : Store} {cell : Cell} (arises : Arises σ)
      (present : ∀ alternatives inner, cell = .validator (.union alternatives) →
        .object inner ∈ alternatives → inner < σ.size) : Arises (σ.insert cell).1
  | replace {σ : Store} {cell : Cell} (arises : Arises σ)
      (noUnion : ∀ alternatives, cell ≠ .validator (.union alternatives)) (address : Nat) :
      Arises (σ.replace address cell)

/-- None of the objects at the start is a validator. -/
theorem initialStore_layered : Catalogue.initialStore.Layered := by
  intro address alternatives inner found
  have member : Cell.validator (.union alternatives) ∈
      Catalogue.lastingObjects ++ Catalogue.blanks := by
    refine List.mem_of_getElem? (i := address) ?_
    simpa [Catalogue.initialStore, cell?] using found
  simp [Catalogue.lastingObjects, Catalogue.blanks] at member

/-- In every store that comes about, unions were made after their alternatives. -/
theorem Arises.layered {σ : Store} (arises : σ.Arises) : σ.Layered := by
  induction arises with
  | initial => exact initialStore_layered
  | insert _ present inductionHypothesis => exact inductionHypothesis.insert present
  | replace _ noUnion address inductionHypothesis =>
    exact inductionHypothesis.replace noUnion address

/-- The rank of a validator object is at most its own address and one. -/
theorem Layered.rank_le_address {σ : Store} (layered : σ.Layered) {address : Nat} {rule : Rule}
    (found : σ.cell? address = some (.validator rule)) : rule.rank ≤ address + 1 := by
  cases rule with
  | union alternatives =>
    have bound : alternatives.toFinset.sup Value.place ≤ address := by
      refine Finset.sup_le ?_
      intro alternative member
      cases alternative with
      | object inner => exact layered address alternatives inner found (by simpa using member)
      | _ => exact Nat.zero_le _
    exact Nat.succ_le_succ bound
  | _ => exact Nat.zero_le _

/-- A rule that a spec stands for has no more unions below it than there are objects. -/
theorem Layered.rank_le_size {σ : Store} (layered : σ.Layered) {spec : Value} {rule : Rule}
    (stands : σ.Stands spec rule) : rule.rank ≤ σ.size := by
  cases stands with
  | made held =>
    obtain ⟨address, rfl, found⟩ := rule?_eq_some_iff.mp held
    have inside : address < σ.size := (Array.getElem?_eq_some_iff.mp found).1
    exact (layered.rank_le_address found).trans inside
  | _ => exact Nat.zero_le _

/-- An alternative of a union has fewer unions below it than the union. -/
theorem Layered.rank_alternative_lt {σ : Store} (layered : σ.Layered) {alternatives : List Value}
    {alternative : Value} {rule : Rule} (member : alternative ∈ alternatives)
    (stands : σ.Stands alternative rule) : rule.rank < (Rule.union alternatives).rank := by
  have below : alternative.place ≤ alternatives.toFinset.sup Value.place :=
    Finset.le_sup (f := Value.place) (by simpa using member)
  refine Nat.lt_succ_of_le ?_
  cases stands with
  | made held =>
    obtain ⟨address, rfl, found⟩ := rule?_eq_some_iff.mp held
    exact (layered.rank_le_address found).trans below
  | _ => exact Nat.zero_le _

end Store

/-- The union of the ring was made after the mapping that is its alternative. -/
theorem World.ring_layered : ring.store.Layered :=
  Store.layered_of_isLayered (by decide +kernel)

/-! ## The calls a call makes -/

/-- A validator about to be run on a value at a context. -/
structure Call where
  validator : Validator
  value : Value
  context : Value

namespace World

/-- The calls that a call may make. Those it does make are among them: a field or item is only
run when all before it have passed, and an alternative when all before it have failed. -/
inductive Makes (w : World) (options : Options) : Call → Call → Prop
  | field {fields v context key spec part inner : Value} {validator : Validator}
      {declared : List (Except Fault (Value × Value))}
      (entered : (w.guardDepth options (w.contextOrRoot context)).outcome = .ok none)
      (listed : w.declaredFields fields = .ok declared) (member : .ok (key, spec) ∈ declared)
      (resolved : w.resolve spec = .ok validator) (read : w.get v key = .ok part)
      (extended : w.call (w.contextOrRoot context) [key] = .ok inner) :
      Makes w options ⟨.rule (.shape fields), v, context⟩ ⟨validator, part, inner⟩
  | item {element v context part inner : Value} {place : Nat} {validator : Validator}
      {items : List Value}
      (entered : (w.guardDepth options (w.contextOrRoot context)).outcome = .ok none)
      (listed : w.store.arrayItems? v = some items) (member : (part, place) ∈ items.zipIdx)
      (resolved : w.resolve element = .ok validator)
      (extended : w.call (w.contextOrRoot context) [.int place] = .ok inner) :
      Makes w options ⟨.rule (.array element), v, context⟩ ⟨validator, part, inner⟩
  | alternative {v context alternative : Value} {validator : Validator} {alternatives : List Value}
      (member : alternative ∈ alternatives) (resolved : w.resolve alternative = .ok validator) :
      Makes w options ⟨.rule (.union alternatives), v, context⟩
        ⟨validator, v, w.contextOrRoot context⟩

/-- The calls that ask the depth guard: those of a shape on an object and those of an array on a
list or tuple. Any other value has failed before the guard is asked. -/
inductive Guarded (w : World) : Call → Prop
  | shape {fields v context : Value} (object : w.store.kindOf v = .object) :
      Guarded w ⟨.rule (.shape fields), v, context⟩
  | array {element v context : Value} {items : List Value}
      (listed : w.store.arrayItems? v = some items) : Guarded w ⟨.rule (.array element), v, context⟩

variable {w : World} {options : Options}

/-- Whatever passes from parts to a whole holds between the runs of a call under two limits, if it
holds between its guards and between the calls it makes. -/
theorem judgeWith_related {R : ∀ ⦃α : Type⦄, Run α → Run α → Prop}
    (congruence : Run.Congruence R) {check check' : Validator → Value → Value → Run Value}
    {call : Call} {limit : Nat}
    (guarded : R (w.guardDepth options (w.contextOrRoot call.context))
      (w.guardDepth { options with maxDepth := limit } (w.contextOrRoot call.context)))
    (parts : ∀ next, w.Makes options call next →
      R (check next.validator next.value next.context)
        (check' next.validator next.value next.context)) :
    R (w.judgeWith options check call.validator call.value call.context)
      (w.judgeWith { options with maxDepth := limit } check' call.validator call.value
        call.context) := by
  obtain ⟨validator, v, context⟩ := call
  match validator with
  | .external callee => exact congruence.refl _
  | .rule (.shape fields) =>
    simp only [judgeWith, judgeShape]
    split
    · exact congruence.refl _
    split
    · exact congruence.refl _
    refine congruence.bind guarded ?_
    intro verdict entered
    cases verdict with
    | some tooDeep => exact congruence.refl _
    | none =>
      refine congruence.next ?_
      intro declared listed
      refine congruence.firstTrue _ _ ?_
      intro field member
      refine congruence.next ?_
      intro entry found
      have found : field = .ok entry := found
      subst found
      refine congruence.next ?_
      intro validator resolved
      refine congruence.next ?_
      intro part read
      refine congruence.next ?_
      intro inner extended
      exact parts ⟨validator, part, inner⟩ (.field entered listed member resolved read extended)
  | .rule (.array element) =>
    simp only [judgeWith, judgeArray]
    split
    · exact congruence.refl _
    · next items listed =>
      refine congruence.bind guarded ?_
      intro verdict entered
      cases verdict with
      | some tooDeep => exact congruence.refl _
      | none =>
        refine congruence.next ?_
        intro validator resolved
        refine congruence.firstTrue _ _ ?_
        intro item member
        refine congruence.next ?_
        intro inner extended
        exact parts ⟨validator, item.1, inner⟩ (.item entered listed member resolved extended)
  | .rule (.union alternatives) =>
    simp only [judgeWith, judgeUnion]
    refine congruence.bind (congruence.allTrue _ _ ?_) ?_
    · intro alternative member
      refine congruence.next ?_
      intro validator resolved
      exact parts ⟨validator, v, _⟩ (.alternative member resolved)
    · intro errors _
      exact congruence.refl _
  | .rule (.ofKind _) | .rule (.equals _) | .rule (.instanceOf _ _) | .rule (.oneOf _) =>
    exact congruence.refl _

/-- What a call gives depends on the calls it makes and on no others. -/
theorem judgeWith_congr {check check' : Validator → Value → Value → Run Value} {call : Call}
    (same : ∀ next, w.Makes options call next →
      check next.validator next.value next.context =
        check' next.validator next.value next.context) :
    w.judgeWith options check call.validator call.value call.context =
      w.judgeWith options check' call.validator call.value call.context := by
  have guarded : w.guardDepth options (w.contextOrRoot call.context) =
      w.guardDepth { options with maxDepth := options.maxDepth } (w.contextOrRoot call.context) :=
    rfl
  exact judgeWith_related Run.congruence_eq guarded same

/-- What a call logs is logged by the guard that it asks at its own context, or by a call it
makes. -/
theorem mem_events_judgeWith {check : Validator → Value → Value → Run Value} {call : Call}
    {event : Event}
    (logged : event ∈
      (w.judgeWith options check call.validator call.value call.context).events) :
    (w.Guarded call ∧ event ∈ (w.guardDepth options (w.contextOrRoot call.context)).events) ∨
      ∃ next, w.Makes options call next ∧
        event ∈ (check next.validator next.value next.context).events := by
  obtain ⟨validator, v, context⟩ := call
  match validator with
  | .external callee => simp [judgeWith] at logged
  | .rule (.shape fields) =>
    simp only [judgeWith, judgeShape] at logged
    split at logged
    · simp at logged
    split at logged
    · simp at logged
    next object =>
    rw [Run.mem_events_bind] at logged
    rcases logged with logged | ⟨verdict, entered, logged⟩
    · exact .inl ⟨.shape (not_not.mp object), logged⟩
    cases verdict with
    | some tooDeep => simp at logged
    | none =>
      simp only [Run.mem_events_bind, Run.events_lift, List.not_mem_nil, false_or,
        Run.outcome_lift] at logged
      obtain ⟨declared, listed, logged⟩ := logged
      obtain ⟨field, member, logged⟩ := Run.mem_events_firstTrue _ _ _ logged
      simp only [judgeField, Run.mem_events_bind, Run.events_lift, List.not_mem_nil, false_or,
        Run.outcome_lift] at logged
      obtain ⟨entry, rfl, validator, resolved, part, read, inner, extended, logged⟩ := logged
      exact .inr ⟨⟨validator, part, inner⟩,
        .field entered listed member resolved read extended, logged⟩
  | .rule (.array element) =>
    simp only [judgeWith, judgeArray] at logged
    split at logged
    · simp at logged
    · next items listed =>
      rw [Run.mem_events_bind] at logged
      rcases logged with logged | ⟨verdict, entered, logged⟩
      · exact .inl ⟨.array listed, logged⟩
      cases verdict with
      | some tooDeep => simp at logged
      | none =>
        simp only [Run.mem_events_bind, Run.events_lift, List.not_mem_nil, false_or,
          Run.outcome_lift] at logged
        obtain ⟨validator, resolved, logged⟩ := logged
        obtain ⟨item, member, logged⟩ := Run.mem_events_firstTrue _ _ _ logged
        simp only [judgeItem, Run.mem_events_bind, Run.events_lift, List.not_mem_nil, false_or,
          Run.outcome_lift] at logged
        obtain ⟨inner, extended, logged⟩ := logged
        exact .inr ⟨⟨validator, item.1, inner⟩,
          .item entered listed member resolved extended, logged⟩
  | .rule (.union alternatives) =>
    simp only [judgeWith, judgeUnion] at logged
    rw [Run.mem_events_bind] at logged
    rcases logged with logged | ⟨errors, looped, logged⟩
    · obtain ⟨alternative, member, logged⟩ := Run.mem_events_allTrue _ _ logged
      simp only [judgeAlternative, Run.mem_events_bind, Run.events_lift, List.not_mem_nil,
        false_or, Run.outcome_lift] at logged
      obtain ⟨validator, resolved, logged⟩ := logged
      exact .inr ⟨⟨validator, v, _⟩, .alternative member resolved, logged⟩
    · cases errors <;> simp at logged
  | .rule (.ofKind _) | .rule (.equals _) | .rule (.instanceOf _ _) | .rule (.oneOf _) =>
    simp [judgeWith] at logged

/-- The declared fields of a mapping are its entries. -/
theorem declaredFields_of_entries? {fields : Value} {entries : List (Value × Value)}
    (held : w.store.entries? fields = some entries) :
    w.declaredFields fields = .ok (entries.map .ok) := by
  simp [declaredFields, held]

/-! ## The need of a call -/

/-- The names by which the specs of a condition ask for fields: the segments of their keys. -/
def Names (w : World) (condition : Value → Prop) (name : String) : Prop :=
  ∃ spec fields entries entry key, condition spec ∧ w.store.Stands spec (.shape fields) ∧
    w.store.entries? fields = some entries ∧ entry ∈ entries ∧ entry.1 = .str key ∧
    name.toList ∈ Text.segments key.toList

theorem names_of_key {condition : Value → Prop} {spec fields : Value}
    {entries : List (Value × Value)} {entry : Value × Value} {key : String}
    (holds : condition spec) (stands : w.store.Stands spec (.shape fields))
    (held : w.store.entries? fields = some entries) (member : entry ∈ entries)
    (same : entry.1 = .str key) :
    ∀ segment ∈ Text.segments key.toList, w.Names condition (String.ofList segment) := by
  intro segment inside
  exact ⟨spec, fields, entries, entry, key, holds, stands, held, member, same,
    by simpa using inside⟩

/-- A call as the program makes it: at a context of the given depth, with a validator that some
spec resolves to. The spec satisfies a condition throughout, by which its mappings are plainly
keyed. -/
structure Ready (w : World) (condition : Value → Prop) (call : Call) (depth : Int) : Prop where
  located : call.context.depth? = some depth
  keyed : ∀ spec, condition spec → w.store.PlainlyKeyed spec
  resolved : ∃ spec, w.store.Throughout condition spec ∧ w.resolve spec = .ok call.validator

variable {condition : Value → Prop} {call next : Call} {depth : Int}

/-- Every validator at the root of a check is ready at depth zero. -/
theorem ready_root {spec : Value} {validator : Validator}
    (keyed : ∀ spec, condition spec → w.store.PlainlyKeyed spec)
    (throughout : w.store.Throughout condition spec) (resolved : w.resolve spec = .ok validator)
    (v root : Value) : w.Ready condition ⟨validator, v, .rootPath root⟩ 0 :=
  ⟨rfl, keyed, spec, throughout, resolved⟩

/-- The validator of a self-contained spec is ready at the root, under all that the spec reaches. -/
theorem ready_check {spec : Value} {validator : Validator} (contained : w.store.SelfContained spec)
    (resolved : w.resolve spec = .ok validator) (v root : Value) :
    w.Ready (w.store.Reaches spec) ⟨validator, v, .rootPath root⟩ 0 := by
  have keyed : ∀ inner, w.store.Reaches spec inner → w.store.PlainlyKeyed inner := by
    intro inner reached
    exact (contained inner reached).keyed
  exact ready_root keyed (fun inner reached => reached) resolved v root

/-- What one step can do: it goes one deeper, at an extension of the context and below the limit
only, to null or to something read off the value, or it stays at the same context with the same
value and leaves a union. Either way the call is ready again. -/
theorem Ready.step (ready : w.Ready condition call depth)
    (layered : w.store.Layered) (makes : w.Makes options call next) :
    (∃ location, next.context = .path (.str location) (.int (depth + 1)) 0 ∧
        depth < options.maxDepth ∧ w.Gives (w.Names condition) call.value next.value ∧
        w.Ready condition next (depth + 1)) ∨
      (next.context = call.context ∧ next.value = call.value ∧
        next.validator.rank < call.validator.rank ∧ w.Ready condition next depth) := by
  obtain ⟨located, keyed, spec, throughout, resolved⟩ := ready
  cases makes with
  | @field fields v context key sub part inner validator declared entered listed member
      subResolved read extended =>
    have stands := resolve_eq_rule_iff.mp resolved
    obtain ⟨entries, held, keys⟩ := keyed spec throughout.here fields stands
    rw [declaredFields_of_entries? held] at listed
    cases listed
    have member : (key, sub) ∈ entries := by simpa using member
    have subMember := Rule.mem_subSpecs_shape held member
    obtain ⟨name, rfl⟩ : ∃ name, key = .str name := keys _ member
    rw [contextOrRoot_of_depth? located] at entered extended
    obtain ⟨location, rfl⟩ := call_context located (by simp [Value.str]) extended
    rcases guardDepth_ok located entered with ⟨below, _⟩ | ⟨_, impossible⟩
    · have named := names_of_key throughout.here stands held member rfl
      exact .inl ⟨location, rfl, below, get_gives named read, by simp, keyed, sub,
        throughout.sub stands subMember, subResolved⟩
    · cases impossible
  | @item element v context part inner place validator items entered listed member
      subResolved extended =>
    have stands := resolve_eq_rule_iff.mp resolved
    rw [contextOrRoot_of_depth? located] at entered extended
    obtain ⟨location, rfl⟩ := call_context located (by simp [Value.int]) extended
    rcases guardDepth_ok located entered with ⟨below, _⟩ | ⟨_, impossible⟩
    · have subMember : element ∈ (Rule.array element).subSpecs w.store := by simp [Rule.subSpecs]
      have yields : w.Yields (w.Names condition) v part :=
        yields_of_arrayItems? listed (List.fst_mem_of_mem_zipIdx member)
      exact .inl ⟨location, rfl, below, .inr (.single yields), by simp, keyed, element,
        throughout.sub stands subMember, subResolved⟩
    · cases impossible
  | @alternative v context alternative validator alternatives member subResolved =>
    have stands := resolve_eq_rule_iff.mp resolved
    have subMember : alternative ∈ (Rule.union alternatives).subSpecs w.store := member
    have same := contextOrRoot_of_depth? (w := w) located
    refine .inr ⟨same, rfl, ?_, by rw [same]; exact located, keyed, alternative,
      throughout.sub stands subMember, subResolved⟩
    rcases stands_or_foreign_of_resolve subResolved with ⟨rule, rfl, subStands⟩ | ⟨rfl, _⟩
    · exact layered.rank_alternative_lt member subStands
    · exact Nat.succ_pos _

/-- Every call reached from a call is ready again, on null or on something that the value holds. -/
theorem Ready.chain (ready : w.Ready condition call depth) (layered : w.store.Layered)
    (chain : Relation.ReflTransGen (w.Makes options) call next) :
    ∃ inner, w.Ready condition next inner ∧
      (next.value = .null ∨ w.Holds (w.Names condition) call.value next.value) := by
  induction chain with
  | refl => exact ⟨depth, ready, .inr .refl⟩
  | tail _ makes inductionHypothesis =>
    obtain ⟨middle, again, held⟩ := inductionHypothesis
    rcases again.step layered makes with ⟨_, _, _, gives, last⟩ | ⟨_, same, _, last⟩
    · exact ⟨middle + 1, last, held_of_gives held gives⟩
    · exact ⟨middle, last, by rw [same]; exact held⟩

/-- A call without alternatives makes calls one deeper only. -/
theorem Ready.descends (ready : w.Ready condition call depth) (layered : w.store.Layered)
    (makes : w.Makes options call next) (flat : call.validator.rank = 0) :
    depth < options.maxDepth ∧ w.Ready condition next (depth + 1) := by
  rcases ready.step layered makes with ⟨_, _, below, _, again⟩ | ⟨_, _, fewer, _⟩
  · exact ⟨below, again⟩
  · omega

/-- The levels a call needs: those of all objects for each depth that is left, and one more than
the unions that are left at its own depth. -/
def need (w : World) (options : Options) (call : Call) (depth : Int) : Nat :=
  ((options.maxDepth : Int) - depth).toNat * (w.store.size + 1) + call.validator.rank + 1

/-- No validator has more unions below it than there are objects. -/
theorem Ready.rank_le_size (ready : w.Ready condition call depth)
    (layered : w.store.Layered) : call.validator.rank ≤ w.store.size := by
  obtain ⟨_, _, spec, _, resolved⟩ := ready
  rcases stands_or_foreign_of_resolve resolved with ⟨rule, same, stands⟩ | ⟨same, _⟩
  · rw [same]
    exact layered.rank_le_size stands
  · rw [same]
    exact Nat.zero_le _

/-- Every call a call makes has a smaller need. -/
theorem Ready.step_need (ready : w.Ready condition call depth)
    (layered : w.store.Layered) (makes : w.Makes options call next) :
    ∃ inner, w.Ready condition next inner ∧
      w.need options next inner < w.need options call depth := by
  rcases ready.step layered makes with ⟨_, _, below, _, again⟩ | ⟨_, _, fewer, again⟩
  · refine ⟨depth + 1, again, ?_⟩
    have rank : next.validator.rank ≤ w.store.size := again.rank_le_size layered
    have left : ((options.maxDepth : Int) - depth).toNat =
        ((options.maxDepth : Int) - (depth + 1)).toNat + 1 := by omega
    simp only [need, left, Nat.add_mul, Nat.one_mul]
    omega
  · exact ⟨depth, again, by simp only [need]; omega⟩

/-- No chain of calls goes on for ever: the need falls with every call. -/
theorem Ready.acc_makes (ready : w.Ready condition call depth)
    (layered : w.store.Layered) (options : Options) :
    Acc (fun next call => w.Makes options call next) call := by
  generalize bound : w.need options call depth = needed
  induction needed using Nat.strong_induction_on generalizing call depth with
  | _ needed inductionHypothesis =>
    subst bound
    constructor
    intro next makes
    obtain ⟨inner, again, less⟩ := ready.step_need layered makes
    exact inductionHypothesis _ less again rfl

/-! ## Enough levels -/

/-- Two numbers of levels that both cover the need of a call give the same run. -/
theorem Ready.judge_eq (ready : w.Ready condition call depth)
    (layered : w.store.Layered) {levels levels' : Nat}
    (enough : w.need options call depth ≤ levels)
    (enough' : w.need options call depth ≤ levels') :
    w.judge options levels call.validator call.value call.context =
      w.judge options levels' call.validator call.value call.context := by
  induction levels generalizing levels' call depth with
  | zero => simp [need] at enough
  | succ levels inductionHypothesis =>
    cases levels' with
    | zero => simp [need] at enough'
    | succ levels' =>
      refine judgeWith_congr fun next makes => ?_
      obtain ⟨inner, again, less⟩ := ready.step_need layered makes
      exact inductionHypothesis again (by omega) (by omega)

/-- The levels that a run is given cover its need. -/
theorem Ready.need_le_levelsFor (ready : w.Ready condition call depth)
    (layered : w.store.Layered) (options : Options) :
    w.need options call depth ≤ w.levelsFor options call.context := by
  have rank : call.validator.rank ≤ w.store.size := ready.rank_le_size layered
  have located : call.context.depth? = some depth := ready.located
  have root := contextOrRoot_of_depth? (w := w) located
  obtain ⟨base, tag, mark, mark', same⟩ := Value.depth?_eq_some_iff.mp located
  have descents : w.descentsFrom options.maxDepth (w.contextOrRoot call.context) =
      ((options.maxDepth : Int) - depth).toNat + 1 +
        w.descentsFrom options.maxDepth base := by
    rw [root, same]
    rfl
  simp only [need, levelsFor, descents]
  nlinarith

/-- A run obeys the equation of a check, with the runs of the parts in place of levels. -/
theorem Ready.run_eq (ready : w.Ready condition call depth)
    (layered : w.store.Layered) (options : Options) :
    w.run options call.validator call.value call.context =
      w.judgeWith options (w.run options) call.validator call.value call.context := by
  have enough := ready.need_le_levelsFor layered options
  cases levels : w.levelsFor options call.context with
  | zero => simp [levels, need] at enough
  | succ levels' =>
    simp only [run, levels, judge]
    refine judgeWith_congr fun next makes => ?_
    obtain ⟨inner, again, less⟩ := ready.step_need layered makes
    exact again.judge_eq layered (by omega) (again.need_le_levelsFor layered options)

end World

end Conformance
