import Conformance.Proofs.Termination

/-!
# Values that are not too deep

The depth of a context counts the descents of the spec, and a spec may descend for ever. The guard
nevertheless never warns about a value made of lists, tuples and mappings of which no more are
nested in one another than the limit allows: each descent reads at least one step off the value, so
a container met at some depth lies inside as many others.

What a field of a list, a scalar or a callable gives is not part of that nesting. The guard is asked
for such a value as well if it is a container or any other object, so it must be neither. Nor is
what a custom mapping gives, so the mappings are those that are read by their entries.
-/

namespace Conformance

namespace Store

variable {σ : Store} {v : Value}

/-! ## Heights -/

/-- A list, a tuple or a mapping. -/
def IsContainer (σ : Store) (v : Value) : Prop :=
  (σ.arrayItems? v).isSome = true ∨ (σ.entries? v).isSome = true

/-- A value that a shape or an array may enter: a container, or any other object. -/
def IsEnterable (σ : Store) (v : Value) : Prop := σ.IsContainer v ∨ σ.kindOf v = .object

/-- Null, a boolean, a number or a text. -/
def IsAtom (σ : Store) (v : Value) : Prop := σ.kindOf v ≠ .object ∧ σ.kindOf v ≠ .function

/-- A tree of lists, tuples and mappings that ends in atoms, with at most so many containers nested
in one another. -/
inductive HeightAtMost (σ : Store) : Nat → Value → Prop
  | atom {height : Nat} {v : Value} (atom : σ.IsAtom v) : HeightAtMost σ height v
  | array {height : Nat} {v : Value} {items : List Value} (listed : σ.arrayItems? v = some items)
      (inside : ∀ item ∈ items, HeightAtMost σ height item) : HeightAtMost σ (height + 1) v
  | mapping {height : Nat} {v : Value} {entries : List (Value × Value)}
      (held : σ.entries? v = some entries)
      (inside : ∀ entry ∈ entries, HeightAtMost σ height entry.2) : HeightAtMost σ (height + 1) v

theorem HeightAtMost.mono {height height' : Nat} (low : σ.HeightAtMost height v)
    (within : height ≤ height') : σ.HeightAtMost height' v := by
  induction low generalizing height' with
  | atom atom => exact .atom atom
  | array listed _ inductionHypothesis =>
    obtain ⟨rest, rfl⟩ : ∃ rest, height' = rest + 1 := ⟨height' - 1, by omega⟩
    exact .array listed fun item member => inductionHypothesis item member (by omega)
  | mapping held _ inductionHypothesis =>
    obtain ⟨rest, rfl⟩ : ∃ rest, height' = rest + 1 := ⟨height' - 1, by omega⟩
    exact .mapping held fun entry member => inductionHypothesis entry member (by omega)

/-- A value that is no container and no other object is an atom or can be called. -/
theorem atom_or_callable (bare : ¬ σ.IsEnterable v) : σ.IsAtom v ∨ σ.kindOf v = .function := by
  by_cases callable : σ.kindOf v = .function
  · exact .inr callable
  · exact .inl ⟨fun object => bare (.inr object), callable⟩

/-- An object in the store is of one of two kinds. -/
theorem kindOf_object (address : Nat) :
    σ.kindOf (.object address) = .function ∨ σ.kindOf (.object address) = .object := by
  simp only [kindOf]
  split
  · exact .inl rfl
  · exact .inr rfl

/-- An atom is entered by no rule. -/
theorem IsAtom.not_enterable (atom : σ.IsAtom v) : ¬ σ.IsEnterable v := by
  have notHere : ∀ address, v ≠ .object address := by
    rintro address rfl
    rcases kindOf_object (σ := σ) address with function | object
    · exact atom.2 function
    · exact atom.1 object
  rintro ((listed | held) | object)
  · obtain ⟨items, listed⟩ := Option.isSome_iff_exists.mp listed
    obtain ⟨address, _, same, _⟩ := arrayItems?_eq_some_iff.mp listed
    exact notHere address same
  · obtain ⟨entries, held⟩ := Option.isSome_iff_exists.mp held
    obtain ⟨address, _, same, _⟩ := entries?_eq_some_iff.mp held
    exact notHere address same
  · exact atom.1 object

/-- Only what can be entered has items: every sequence but lists and tuples is a plain object. -/
theorem sequenceItem?_of_not_enterable (bare : ¬ σ.IsEnterable v) (place : Nat) :
    σ.sequenceItem? place v = none := by
  cases v with
  | object address =>
    have noList : σ.arrayItems? (.object address) = none := by
      by_contra listed
      exact bare (.inl (.inl (Option.isSome_iff_ne_none.mpr listed)))
    have other : σ.kindOf (.object address) ≠ .object := fun object => bare (.inr object)
    simp only [sequenceItem?]
    split
    · next held => simp [arrayItems?, held] at noList
    · next held => simp [arrayItems?, held] at noList
    all_goals first
      | rfl
      | next held => exact absurd (by simp [kindOf, isCallable, held, Cell.classOf]; rfl) other
  | _ => rfl

/-! ## Values that fit -/

/-- A value that fits into so many levels: a tree that is no higher, or a value that is entered by
no rule. -/
def Fits (σ : Store) (height : Nat) (v : Value) : Prop :=
  σ.HeightAtMost height v ∨ ¬ σ.IsEnterable v

theorem Fits.mono {height height' : Nat} (fits : σ.Fits height v) (within : height ≤ height') :
    σ.Fits height' v := fits.imp_left fun low => low.mono within

theorem fits_null (height : Nat) : σ.Fits height .null :=
  .inl (.atom ⟨by simp [kindOf], by simp [kindOf]⟩)

/-- Nothing that is entered fits into no level. -/
theorem Fits.not_enterable (fits : σ.Fits 0 v) : ¬ σ.IsEnterable v := by
  rcases fits with low | bare
  · cases low with
    | atom atom => exact atom.not_enterable
  · exact bare

end Store

namespace World

variable {w : World} {options : Options} {condition : Value → Prop} {call next : Call}
  {depth : Int} {names : String → Prop} {v source part : Value} {height : Nat}

/-- No field that is read off a list, a tuple, an atom or a callable in a value gives something to
be avoided. -/
def FieldsAvoid (w : World) (names : String → Prop) (avoided : Value → Prop) (v : Value) : Prop :=
  ∀ part, w.Holds names v part →
    (w.store.arrayItems? part).isSome = true ∨ w.store.IsAtom part ∨
      w.store.kindOf part = .function →
    ∀ name field, names name → w.readField part name = .ok (some field) → ¬ avoided field

/-- No mapping in a value is read in the ways of its class. -/
def Tabled (w : World) (names : String → Prop) (v : Value) : Prop :=
  ∀ part, w.Holds names v part → w.store.isCustomMapping part = false

/-- All that can be read off what no rule enters is fields, and no rule enters those. -/
theorem not_enterable_of_yields (spared : w.FieldsAvoid names w.store.IsEnterable v)
    (held : w.Holds names v source) (bare : ¬ w.store.IsEnterable source)
    (yields : w.Yields names source part) : ¬ w.store.IsEnterable part := by
  have noMapping : w.store.entries? source = none :=
    Option.not_isSome_iff_eq_none.mp fun held => bare (.inl (.inr held))
  obtain ⟨noTable, regular⟩ := Store.entries?_eq_none_iff.mp noMapping
  cases yields with
  | entry found member => cases noTable.symm.trans found
  | custom mapping _ => cases regular.symm.trans mapping
  | item found => simp [Store.sequenceItem?_of_not_enterable bare] at found
  | field _ _ named read =>
    exact spared source held (.inr (Store.atom_or_callable bare)) _ _ named read

/-- Each read takes a level off a value that fits. -/
theorem fits_of_yields (spared : w.FieldsAvoid names w.store.IsEnterable v)
    (tabled : w.Tabled names v) (held : w.Holds names v source) (fits : w.store.Fits height source)
    (yields : w.Yields names source part) : w.store.Fits (height - 1) part := by
  rcases fits with low | bare
  · cases low with
    | atom atom => exact .inr (not_enterable_of_yields spared held atom.not_enterable yields)
    | array listed inside =>
      cases yields with
      | entry found _ =>
        cases (Store.entries?_eq_none_of_arrayItems? listed).symm.trans
          (Store.entries?_of_table? found)
      | custom mapping _ => cases (tabled source held).symm.trans mapping
      | item found =>
        rw [sequenceItem?_of_arrayItems? listed] at found
        exact .inl (inside _ (List.mem_of_getElem? found))
      | field _ _ named read =>
        exact .inr (spared source held (.inl (by simp [listed])) _ _ named read)
    | mapping found inside =>
      cases yields with
      | entry found' member =>
        cases found.symm.trans (Store.entries?_of_table? found')
        exact .inl (inside _ member)
      | custom mapping _ => cases (tabled source held).symm.trans mapping
      | item item =>
        obtain ⟨_, _, rfl, cell⟩ := Store.entries?_eq_some_iff.mp found
        simp [Store.sequenceItem?, cell] at item
      | field _ noMapping _ _ => cases found.symm.trans noMapping
  · exact .inr (not_enterable_of_yields spared held bare yields)

/-- However many reads a part takes, it takes a level at least. -/
theorem fits_of_gives (spared : w.FieldsAvoid names w.store.IsEnterable v)
    (tabled : w.Tabled names v) (held : source = .null ∨ w.Holds names v source)
    (fits : w.store.Fits height source) (gives : w.Gives names source part) :
    w.store.Fits (height - 1) part := by
  rcases held with rfl | held
  · rw [eq_null_of_gives gives]
    exact Store.fits_null _
  rcases gives with rfl | further
  · exact Store.fits_null _
  induction further with
  | single yields => exact fits_of_yields spared tabled held fits yields
  | tail earlier yields inductionHypothesis =>
    have further := Relation.ReflTransGen.trans held earlier.to_reflTransGen
    exact (fits_of_yields spared tabled further inductionHypothesis yields).mono (by omega)

/-- Whatever a call reached from a call is run on fits into the depths that are left there. -/
theorem Ready.chain_fits (ready : w.Ready condition call depth) (layered : w.store.Layered)
    (spared : w.FieldsAvoid (w.Names condition) w.store.IsEnterable call.value)
    (tabled : w.Tabled (w.Names condition) call.value)
    (fits : w.store.Fits ((options.maxDepth : Int) - depth).toNat call.value)
    (chain : Relation.ReflTransGen (w.Makes options) call next) :
    ∃ inner, w.Ready condition next inner ∧
      w.store.Fits ((options.maxDepth : Int) - inner).toNat next.value := by
  induction chain with
  | refl => exact ⟨depth, ready, fits⟩
  | tail earlier makes inductionHypothesis =>
    obtain ⟨middle, again, fits⟩ := inductionHypothesis
    obtain ⟨_, _, held⟩ := ready.chain layered earlier
    rcases again.step layered makes with ⟨_, _, _, gives, last⟩ | ⟨_, same, _, last⟩
    · have less : ((options.maxDepth : Int) - (middle + 1)).toNat =
          ((options.maxDepth : Int) - middle).toNat - 1 := by omega
      refine ⟨middle + 1, last, ?_⟩
      rw [less]
      exact fits_of_gives spared tabled held fits gives
    · exact ⟨middle, last, by rw [same]; exact fits⟩

/-- The guard lets a call pass whose value fits into the depths that are left. -/
theorem below_of_fits (guarded : w.Guarded call)
    (fits : w.store.Fits ((options.maxDepth : Int) - depth).toNat call.value) :
    depth < options.maxDepth := by
  by_contra reached
  have none : ((options.maxDepth : Int) - depth).toNat = 0 := by omega
  rw [none] at fits
  apply fits.not_enterable
  cases guarded with
  | shape object => exact .inr object
  | array listed => exact .inl (.inl (by simp [listed]))

section Low

variable {spec root : Value} (contained : w.store.SelfContained spec) (layered : w.store.Layered)
  (low : w.store.HeightAtMost options.maxDepth v)
  (spared : w.FieldsAvoid (w.Names (w.store.Reaches spec)) w.store.IsEnterable v)
  (tabled : w.Tabled (w.Names (w.store.Reaches spec)) v)
include contained layered low spared tabled

/-- No guard that is asked in the check of a low value finds the limit reached. -/
theorem below_of_inCheck (inside : w.InCheck options v spec root call)
    (guarded : w.Guarded call) (located : call.context.depth? = some depth) :
    depth < options.maxDepth := by
  obtain ⟨validator, resolved, chain⟩ := inside
  have start := ready_check contained resolved v root
  have fits : w.store.Fits ((options.maxDepth : Int) - 0).toNat v := .inl (by simpa using low)
  obtain ⟨inner, again, fits⟩ := start.chain_fits layered spared tabled fits chain
  have same : inner = depth := Option.some.inj (again.located.symm.trans located)
  rw [same] at fits
  exact below_of_fits guarded fits

/-- No call in the check of a low value gives the error of the guard. -/
theorem not_tooDeep_of_inCheck (inside : w.InCheck options v spec root call) (context : Value) :
    (w.run options call.validator call.value call.context).outcome ≠
      .ok (ownFailure (depthMessage options.maxDepth) context) := by
  intro ended
  obtain ⟨validator, resolved, chain⟩ := inside
  obtain ⟨depth, ready, _⟩ := (ready_check contained resolved v root).chain layered chain
  rcases ready.error_origin contained.known layered ended with null | ⟨source, further, own⟩
  · cases null
  · generalize same : ownFailure (depthMessage options.maxDepth) context = error at own
    cases own with
    | expectation expectation =>
      cases same
      exact not_isExpectation_depthMessage _ expectation
    | tooDeep guarded located reached =>
      have inside : w.InCheck options v spec root source :=
        ⟨validator, resolved, Relation.ReflTransGen.trans chain further⟩
      exact reached (below_of_inCheck contained layered low spared tabled inside guarded located)

end Low

/-- The check of a self-contained spec on a value that is no higher than the limit never fires the
depth guard, in no call of it, provided that no field which the spec names gives a container or any
other object when it is read off a list, a tuple, an atom or a callable in the value, and that the
mappings in the value are read by their entries. -/
theorem check_unwarned_of_height (w : World) (options : Options) (v spec root : Value)
    (contained : w.store.SelfContained spec) (layered : w.store.Layered)
    (low : w.store.HeightAtMost options.maxDepth v)
    (spared : w.FieldsAvoid (w.Names (w.store.Reaches spec)) w.store.IsEnterable v)
    (tabled : w.Tabled (w.Names (w.store.Reaches spec)) v) :
    (w.check options v spec root).Unwarned ∧
      ∀ call, w.InCheck options v spec root call → ∀ context,
        (w.run options call.validator call.value call.context).outcome ≠
          .ok (ownFailure (depthMessage options.maxDepth) context) := by
  constructor
  · intro event logged
    cases event with
    | rejected _ _ => rfl
    | depthExceeded path limit =>
      obtain ⟨validator, resolved, logged⟩ := depthExceeded_mem_run logged
      have start := ready_check contained resolved v root
      obtain ⟨source, chain, own⟩ := start.event_origin layered logged
      have inside : w.InCheck options v spec root source := ⟨validator, resolved, chain⟩
      cases own with
      | tooDeep guarded located reached =>
        have below := below_of_inCheck contained layered low spared tabled inside guarded located
        exact absurd below reached
  · intro call inside context
    exact not_tooDeep_of_inCheck contained layered low spared tabled inside context

/-- What can be read off the mapping of the ring whose list ends in null: the list and null. -/
theorem ring_holds (held : ring.Holds names (.object 7) part) :
    part = .object 7 ∨ part = .object 8 ∨ part = .null := by
  induction held with
  | refl => exact .inl rfl
  | tail _ yields inductionHypothesis =>
    rcases inductionHypothesis with rfl | rfl | rfl
    · cases yields with
      | entry found member =>
        cases found
        rw [List.mem_singleton.mp member]
        exact .inr (.inl rfl)
      | custom mapping _ => cases mapping
      | item found => cases found
      | field _ _ _ read => cases read
    · cases yields with
      | entry found _ => cases found
      | custom mapping _ => cases mapping
      | @item place _ found =>
        have listed : ring.store.arrayItems? (.object 8) = some [.null] := rfl
        rw [sequenceItem?_of_arrayItems? listed] at found
        exact .inr (.inr (by simpa using List.mem_of_getElem? found))
      | field _ _ _ read => cases read
    · exact absurd yields not_yields_null

/-- The mapping whose list ends in null is two containers high, so the limit two does not show,
although the spec descends for ever. -/
theorem ring_unwarned_of_height :
    ring.store.HeightAtMost 2 (.object 7) ∧
      (ring.check ⟨2, 200, 20⟩ (.object 7) (.object 0) (.str "")).Unwarned := by
  have null : ring.store.HeightAtMost 0 .null := .atom ⟨by decide, by decide⟩
  have list : ring.store.HeightAtMost 1 (.object 8) := by
    have listed : ring.store.arrayItems? (.object 8) = some [.null] := rfl
    exact .array listed (by simpa using null)
  have low : ring.store.HeightAtMost 2 (.object 7) := by
    have found : ring.store.entries? (.object 7) = some [(.str "next", .object 8)] := rfl
    exact .mapping found (by simpa using list)
  have spared : ring.FieldsAvoid (ring.Names (ring.store.Reaches (.object 0)))
      ring.store.IsEnterable (.object 7) := by
    intro part held _ name field _ read
    rcases ring_holds held with rfl | rfl | rfl <;> cases read
  have tabled : ring.Tabled (ring.Names (ring.store.Reaches (.object 0))) (.object 7) := by
    intro part held
    rcases ring_holds held with rfl | rfl | rfl <;> rfl
  exact ⟨low, (check_unwarned_of_height ring ⟨2, 200, 20⟩ (.object 7) (.object 0) (.str "")
    ring_selfContained ring_layered low spared tabled).1⟩

/-- A world in which the class of a number has a field of its own, an object that is no container.
The spec asks for that field by way of the first item of a list. -/
def probing : World where
  store := ⟨#[
    .mapping (.standard "dict" ["Mapping"]) [(.str "0.__class__.real", .object 1)],
    .mapping (.standard "dict" ["Mapping"]) [],
    .list (.standard "list" ["Sequence"]) [.int 5],
    .entity (.standard "getset_descriptor" []) [] (.fixed "<attribute 'real' of 'int' objects>")]⟩
  external _ _ := .error (.notCallable "object")
  field v name :=
    .ok (if v = .int 5 ∧ name = "__class__" then some (.cls .int)
      else if v = .cls .int ∧ name = "real" then some (.object 3)
      else none)
  customs := .regular ⟨#[]⟩

/-- What the world has for a field is one of two values, and neither is a container. -/
theorem probing_field {source field : Value} {name : String}
    (read : probing.field source name = .ok (some field)) :
    field = .cls .int ∨ field = .object 3 := by
  have found := Except.ok.inj read
  split at found
  · exact .inl (Option.some.inj found).symm
  split at found
  · exact .inr (Option.some.inj found).symm
  · cases found

/-- What can be read off the list: its item, the class of the item and the field of the class. -/
theorem probing_holds (held : probing.Holds names (.object 2) part) :
    part ∈ [.object 2, .int 5, .cls .int, .object 3] := by
  induction held with
  | refl => simp
  | @tail _ last _ yields inductionHypothesis =>
    simp only [List.mem_cons, List.not_mem_nil, or_false] at inductionHypothesis ⊢
    cases yields with
    | entry found _ => rcases inductionHypothesis with rfl | rfl | rfl | rfl <;> cases found
    | custom mapping _ => rcases inductionHypothesis with rfl | rfl | rfl | rfl <;> cases mapping
    | item found =>
      rcases inductionHypothesis with rfl | rfl | rfl | rfl
      · have listed : probing.store.arrayItems? (.object 2) = some [.int 5] := rfl
        rw [sequenceItem?_of_arrayItems? listed] at found
        exact .inr (.inl (by simpa using List.mem_of_getElem? found))
      all_goals cases found
    | field _ _ _ read =>
      have found : last = .cls .int ∨ last = .object 3 := by
        rcases inductionHypothesis with rfl | rfl | rfl | rfl <;> exact probing_field read
      exact .inr (.inr found)

/-- It is not enough that no field is a container: the guard is also asked for the field of the
class, which is an object and lies as deep as the spec has descended. The list itself is one
container high. -/
theorem probing_warns :
    probing.store.SelfContained (.object 0) ∧ probing.store.Layered ∧
      probing.store.HeightAtMost 1 (.object 2) ∧
      probing.FieldsAvoid (fun _ => True) probing.store.IsContainer (.object 2) ∧
      ¬ (probing.check ⟨1, 200, 20⟩ (.object 2) (.object 0) (.str "")).Unwarned := by
  have enclosed : ∀ spec ∈ [.object 0, .object 1],
      probing.encloses [.object 0, .object 1] spec = true := by
    decide +kernel
  have layered : probing.store.Layered := Store.layered_of_isLayered (by decide +kernel)
  have listed : probing.store.arrayItems? (.object 2) = some [.int 5] := rfl
  have item : probing.store.HeightAtMost 0 (.int 5) := .atom ⟨by decide, by decide⟩
  have low : probing.store.HeightAtMost 1 (.object 2) := .array listed (by simpa using item)
  refine ⟨selfContained_of_encloses enclosed (by simp), layered, low, ?_, by decide +kernel⟩
  intro part held _ name field _ read
  have found : field = .cls .int ∨ field = .object 3 := by
    have inside := probing_holds held
    simp only [List.mem_cons, List.not_mem_nil, or_false] at inside
    rcases inside with rfl | rfl | rfl | rfl <;> exact probing_field read
  rcases found with rfl | rfl <;> rintro (container | container) <;> cases container

end World

end Conformance
