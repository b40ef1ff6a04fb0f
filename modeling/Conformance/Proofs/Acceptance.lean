import Conformance.Proofs.Verdict

/-!
# What a check accepts

Conformance is a relation between specs and values at a depth, given without any order of tests:
all declared fields conform, all items conform, some alternative conforms. Specs and values may
contain themselves; a container conforms below the depth limit only, so the relation is well
founded by the depth that is left and the unions inside one another.

A check of a self-contained spec that ends without a fault accepts exactly the values that
conform. The induction is over the levels of the run, whatever their number: a run that ends has
not used them up.
-/

namespace Conformance.World

/-- A value conforms to a spec at a depth. -/
inductive Conforms (w : World) (limit : Nat) : Nat → Value → Value → Prop
  | leaf {depth : Nat} {spec v : Value} {rule : Rule} (stands : w.store.Stands spec rule)
      (meets : w.Meets v rule) : Conforms w limit depth spec v
  | shape {depth : Nat} {spec v fields : Value} {entries : List (Value × Value)}
      (stands : w.store.Stands spec (.shape fields)) (held : w.store.entries? fields = some entries)
      (present : v ≠ .null) (object : w.store.kindOf v = .object) (below : depth < limit)
      (readable : ∀ entry ∈ entries, ∃ part, w.get v entry.1 = .ok part)
      (conform : ∀ entry ∈ entries, ∀ part, w.get v entry.1 = .ok part →
        Conforms w limit (depth + 1) entry.2 part) : Conforms w limit depth spec v
  | array {depth : Nat} {spec v element : Value} {items : List Value}
      (stands : w.store.Stands spec (.array element)) (listed : w.store.arrayItems? v = some items)
      (below : depth < limit)
      (conform : ∀ item ∈ items, Conforms w limit (depth + 1) element item) :
      Conforms w limit depth spec v
  | union {depth : Nat} {spec v alternative : Value} {alternatives : List Value}
      (stands : w.store.Stands spec (.union alternatives)) (member : alternative ∈ alternatives)
      (conforms : Conforms w limit depth alternative v) : Conforms w limit depth spec v

variable {w : World} {options : Options} {limit depth : Nat} {spec v : Value}

/-! ## The relation, rule by rule -/

/-- A spec for a rule without parts asks what the rule asks. -/
theorem conforms_leaf_iff {rule : Rule} (stands : w.store.Stands spec rule) (whole : rule.IsLeaf) :
    w.Conforms limit depth spec v ↔ w.Meets v rule := by
  constructor
  · intro conforms
    cases conforms with
    | leaf stands' meets => exact stands_unique stands' stands ▸ meets
    | shape stands' =>
      cases stands_unique stands' stands
      cases whole
    | array stands' =>
      cases stands_unique stands' stands
      cases whole
    | union stands' =>
      cases stands_unique stands' stands
      cases whole
  · exact .leaf stands

/-- A spec for fields asks for an object below the limit of which every field conforms. -/
theorem conforms_shape_iff {fields : Value} {entries : List (Value × Value)}
    (stands : w.store.Stands spec (.shape fields)) (held : w.store.entries? fields = some entries) :
    w.Conforms limit depth spec v ↔
      v ≠ .null ∧ w.store.kindOf v = .object ∧ depth < limit ∧
        ∀ entry ∈ entries, ∃ part, w.get v entry.1 = .ok part ∧
          w.Conforms limit (depth + 1) entry.2 part := by
  constructor
  · intro conforms
    cases conforms with
    | leaf stands' meets =>
      cases stands_unique stands' stands
      cases meets
    | shape stands' held' present object below readable conform =>
      cases stands_unique stands' stands
      cases held.symm.trans held'
      refine ⟨present, object, below, ?_⟩
      intro entry member
      obtain ⟨part, read⟩ := readable entry member
      exact ⟨part, read, conform entry member part read⟩
    | array stands' => cases stands_unique stands' stands
    | union stands' => cases stands_unique stands' stands
  · rintro ⟨present, object, below, conform⟩
    refine .shape stands held present object below ?_ ?_
    · intro entry member
      obtain ⟨part, read, _⟩ := conform entry member
      exact ⟨part, read⟩
    · intro entry member part read
      obtain ⟨part', read', conforms⟩ := conform entry member
      cases read.symm.trans read'
      exact conforms

/-- A spec for items asks for a list or tuple below the limit of which every item conforms. -/
theorem conforms_array_iff {element : Value} (stands : w.store.Stands spec (.array element)) :
    w.Conforms limit depth spec v ↔
      ∃ items, w.store.arrayItems? v = some items ∧ depth < limit ∧
        ∀ item ∈ items, w.Conforms limit (depth + 1) element item := by
  constructor
  · intro conforms
    cases conforms with
    | leaf stands' meets =>
      cases stands_unique stands' stands
      cases meets
    | shape stands' => cases stands_unique stands' stands
    | array stands' listed below conform =>
      cases stands_unique stands' stands
      exact ⟨_, listed, below, conform⟩
    | union stands' => cases stands_unique stands' stands
  · rintro ⟨items, listed, below, conform⟩
    exact .array stands listed below conform

/-- A spec for alternatives asks for one of them, at the same depth. -/
theorem conforms_union_iff {alternatives : List Value}
    (stands : w.store.Stands spec (.union alternatives)) :
    w.Conforms limit depth spec v ↔
      ∃ alternative ∈ alternatives, w.Conforms limit depth alternative v := by
  constructor
  · intro conforms
    cases conforms with
    | leaf stands' meets =>
      cases stands_unique stands' stands
      cases meets
    | shape stands' => cases stands_unique stands' stands
    | array stands' => cases stands_unique stands' stands
    | union stands' member conforms =>
      cases stands_unique stands' stands
      exact ⟨_, member, conforms⟩
  · rintro ⟨alternative, member, conforms⟩
    exact .union stands member conforms

/-! ## The verdict of a run -/

/-- What a run says about a value: null if it conforms, and something true if it does not. -/
def Decides (w : World) (limit depth : Nat) (spec v result : Value) : Prop :=
  (result = .null ∧ w.Conforms limit depth spec v) ∨
    (w.store.isTrue result = true ∧ ¬ w.Conforms limit depth spec v)

theorem Decides.conforms_of_false {result : Value} (decides : w.Decides limit depth spec v result)
    (falsy : w.store.isTrue result = false) : w.Conforms limit depth spec v := by
  rcases decides with ⟨_, conforms⟩ | ⟨truthy, _⟩
  · exact conforms
  · simp [truthy] at falsy

theorem Decides.differs_of_true {result : Value} (decides : w.Decides limit depth spec v result)
    (truthy : w.store.isTrue result = true) : ¬ w.Conforms limit depth spec v := by
  rcases decides with ⟨rfl, _⟩ | ⟨_, differs⟩
  · cases truthy
  · exact differs

section Endings

variable {check : Validator → Value → Value → Run Value} {context result : Value}

/-- A rule without parts decides by what it asks. -/
theorem leaf_decides {rule : Rule} (stands : w.store.Stands spec rule) (whole : rule.IsLeaf)
    (ends : w.Ends options check v context depth rule result) :
    w.Decides options.maxDepth depth spec v result := by
  cases ends with
  | passedLeaf _ meets => exact .inl ⟨rfl, .leaf stands meets⟩
  | failedLeaf _ fails _ =>
    refine .inr ⟨rfl, ?_⟩
    rw [conforms_leaf_iff stands whole]
    exact fails
  | nullShape | otherShape | deepShape | failedField | passedFields => cases whole
  | otherArray | deepArray | failedItem | passedItems => cases whole
  | passedAlternative | failedAlternatives => cases whole

/-- A shape decides if every field that is checked decides about its part. -/
theorem shape_decides {fields : Value} {entries : List (Value × Value)}
    (stands : w.store.Stands spec (.shape fields)) (held : w.store.entries? fields = some entries)
    (inner : ∀ entry ∈ entries, ∀ value,
      (w.judgeField check v context (.ok entry)).outcome = .ok value →
      ∃ part, w.get v entry.1 = .ok part ∧
        w.Decides options.maxDepth (depth + 1) entry.2 part value)
    (ends : w.Ends options check v context depth (.shape fields) result) :
    w.Decides options.maxDepth depth spec v result := by
  unfold Decides
  rw [conforms_shape_iff stands held]
  cases ends with
  | passedLeaf whole | failedLeaf whole => cases whole
  | nullShape missing =>
    refine .inr ⟨rfl, ?_⟩
    rintro ⟨present, _⟩
    exact present missing
  | otherShape _ other =>
    refine .inr ⟨rfl, ?_⟩
    rintro ⟨_, object, _⟩
    exact other object
  | deepShape _ _ reached =>
    refine .inr ⟨rfl, ?_⟩
    rintro ⟨_, _, below, _⟩
    omega
  | @failedField _ _ _ entry _ _ _ held' member judged truthy =>
    cases held.symm.trans held'
    obtain ⟨part, read, decides⟩ := inner entry member result judged
    refine .inr ⟨truthy, ?_⟩
    rintro ⟨_, _, _, conform⟩
    obtain ⟨part', read', conforms⟩ := conform entry member
    cases read.symm.trans read'
    exact decides.differs_of_true truthy conforms
  | passedFields present object below held' passed =>
    cases held.symm.trans held'
    refine .inl ⟨rfl, present, object, by omega, ?_⟩
    intro entry member
    obtain ⟨value, judged, falsy⟩ := passed entry member
    obtain ⟨part, read, decides⟩ := inner entry member value judged
    exact ⟨part, read, decides.conforms_of_false falsy⟩

/-- An array decides if every item that is checked does. -/
theorem array_decides {element : Value} (stands : w.store.Stands spec (.array element))
    (inner : ∀ validator, w.resolve element = .ok validator → ∀ item value,
      (w.judgeItem (check validator) context item).outcome = .ok value →
      w.Decides options.maxDepth (depth + 1) element item.1 value)
    (ends : w.Ends options check v context depth (.array element) result) :
    w.Decides options.maxDepth depth spec v result := by
  unfold Decides
  rw [conforms_array_iff stands]
  cases ends with
  | passedLeaf whole | failedLeaf whole => cases whole
  | otherArray other =>
    refine .inr ⟨rfl, ?_⟩
    rintro ⟨items, listed, _⟩
    cases other.symm.trans listed
  | deepArray _ reached =>
    refine .inr ⟨rfl, ?_⟩
    rintro ⟨_, _, below, _⟩
    omega
  | @failedItem _ _ items validator item listed _ resolved member judged truthy =>
    have decides := inner validator resolved item result judged
    refine .inr ⟨truthy, ?_⟩
    rintro ⟨items', listed', _, conform⟩
    cases listed.symm.trans listed'
    exact decides.differs_of_true truthy (conform item.1 (List.fst_mem_of_mem_zipIdx member))
  | @passedItems _ items validator listed below resolved passed =>
    refine .inl ⟨rfl, items, listed, by omega, ?_⟩
    intro item member
    obtain ⟨place, found⟩ := List.mem_iff_getElem?.mp member
    obtain ⟨value, judged, falsy⟩ :=
      passed (item, place) (List.mem_zipIdx_iff_getElem?.mpr found)
    exact (inner validator resolved (item, place) value judged).conforms_of_false falsy

/-- A union decides if every alternative that is checked does. -/
theorem union_decides {alternatives : List Value}
    (stands : w.store.Stands spec (.union alternatives))
    (inner : ∀ alternative ∈ alternatives, ∀ value,
      (w.judgeAlternative check v context alternative).outcome = .ok value →
      w.Decides options.maxDepth depth alternative v value)
    (ends : w.Ends options check v context depth (.union alternatives) result) :
    w.Decides options.maxDepth depth spec v result := by
  unfold Decides
  rw [conforms_union_iff stands]
  cases ends with
  | passedLeaf whole | failedLeaf whole => cases whole
  | passedAlternative member judged falsy =>
    exact .inl ⟨rfl, _, member, (inner _ member _ judged).conforms_of_false falsy⟩
  | failedAlternatives failed _ =>
    refine .inr ⟨rfl, ?_⟩
    rintro ⟨alternative, member, conforms⟩
    obtain ⟨error, judged, truthy⟩ := exists_of_forall₂ failed member
    exact (inner alternative member error judged).differs_of_true truthy conforms

end Endings

/-- A run that ends decides whether its value conforms, at the depth of its context. A part that
was run has decided about itself one level before. -/
theorem judge_decides {levels : Nat} {validator : Validator} {context result : Value}
    (contained : w.store.SelfContained spec) (resolved : w.resolve spec = .ok validator)
    (located : context.depth? = some (depth : Int))
    (ended : (w.judge options levels validator v context).outcome = .ok result) :
    w.Decides options.maxDepth depth spec v result := by
  induction levels generalizing validator context result depth spec v with
  | zero => cases ended
  | succ levels inductionHypothesis =>
    obtain ⟨rule, rfl, stands⟩ := contained.here.stands resolved
    have keyed := contained.here.keyed
    have ends := judgeWith_ends located (keyed.mapped stands) ended
    cases rule with
    | ofKind _ | equals _ | instanceOf _ _ | oneOf _ => exact leaf_decides stands trivial ends
    | shape fields =>
      obtain ⟨entries, held⟩ := keyed.mapped stands fields rfl
      apply shape_decides stands held ?_ ends
      intro entry member value judged
      obtain ⟨other, part, next, subResolved, read, extended, judged⟩ := judgeField_ok judged
      obtain ⟨key, same⟩ := keyed.key stands held member
      obtain ⟨location, rfl⟩ := call_context located (by simp [same, Value.str]) extended
      have subContained := contained.sub stands (Rule.mem_subSpecs_shape held member)
      exact ⟨part, read, inductionHypothesis subContained subResolved (by simp) judged⟩
    | array element =>
      apply array_decides stands ?_ ends
      intro other subResolved item value judged
      obtain ⟨next, extended, judged⟩ := judgeItem_ok judged
      obtain ⟨location, rfl⟩ := call_context located (by simp [Value.int]) extended
      have subContained := contained.sub stands (List.mem_singleton_self element)
      exact inductionHypothesis subContained subResolved (by simp) judged
    | union alternatives =>
      apply union_decides stands ?_ ends
      intro alternative member value judged
      obtain ⟨other, subResolved, judged⟩ := judgeAlternative_ok judged
      exact inductionHypothesis (contained.sub stands member) subResolved located judged

/-- A check of a self-contained spec that ends without a fault gives null exactly when the value
conforms to the spec, at the root of whatever name and for every limit. -/
theorem check_null_iff_conforms (w : World) (options : Options) (v spec root result : Value)
    (contained : w.store.SelfContained spec)
    (returned : (w.check options v spec root).outcome = .ok result) :
    result = .null ↔ w.Conforms options.maxDepth 0 spec v := by
  obtain ⟨validator, resolved, ended⟩ := check_ok returned
  have decides : w.Decides options.maxDepth 0 spec v result :=
    judge_decides contained resolved rfl ended
  constructor
  · rintro rfl
    exact decides.conforms_of_false rfl
  · intro conforms
    rcases decides with ⟨passed, _⟩ | ⟨_, differs⟩
    · exact passed
    · exact absurd conforms differs

/-- The mapping of the ring whose list ends in a text is accepted, and so it conforms. -/
theorem ring_conforms :
    ring.store.SelfContained (.object 0) ∧
      (ring.check {} (.object 5) (.object 0) (.str "")).outcome = .ok .null ∧
      ring.Conforms 100 0 (.object 0) (.object 5) := by
  have returned : (ring.check {} (.object 5) (.object 0) (.str "")).outcome = .ok .null := by
    decide +kernel
  have conforms := (check_null_iff_conforms ring {} (.object 5) (.object 0) (.str "") .null
    ring_selfContained returned).mp rfl
  exact ⟨ring_selfContained, returned, conforms⟩

/-- The mapping whose list ends in null is not accepted, and neither is the one without an end. -/
example : (ring.check {} (.object 7) (.object 0) (.str "")).outcome ≠ .ok .null ∧
    (ring.check ⟨5, 200, 20⟩ (.object 3) (.object 0) (.str "")).outcome ≠ .ok .null := by
  decide +kernel

end Conformance.World
