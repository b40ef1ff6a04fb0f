import Mathlib.Logic.Relation
import Conformance.Catalogue.Classes
import Conformance.Equality
import Conformance.Render
import Conformance.Proofs.Run

/-!
# The same tree in other containers

A tree of lists and mappings can be put into other containers: into tuples for its lists, and for
each of its mappings into another of the standard mappings, with the same entries in the same
order. What is neither a list, a tuple nor a mapping is a leaf and stays what it is.

The two trees are of the same kind, compare alike with scalars and are rendered alike. A rendering
marks a container that is met inside itself, by its identity, which the two trees do not share; but
a tree comes to an end, so none of its containers is ever met inside itself.
-/

namespace Conformance

/-- The standard mappings. -/
def Catalogue.mappingClasses : List Class :=
  [dictClass, orderedDictClass, defaultDictClass, userDictClass, proxyClass]

/-! ## Trees -/

namespace Store

/-- A plain list or a plain tuple of these items. -/
def PlainArray (σ : Store) (address : Nat) (items : List Value) : Prop :=
  σ.cell? address = some (.list Catalogue.listClass items) ∨
    σ.cell? address = some (.tuple Catalogue.tupleClass items)

/-- A standard mapping of these entries. -/
def PlainMapping (σ : Store) (address : Nat) (entries : List (Value × Value)) : Prop :=
  ∃ cls ∈ Catalogue.mappingClasses, σ.cell? address = some (.mapping cls entries)

/-- Two values are the same tree, whichever of the plain containers it is in. -/
inductive SameTree (σ : Store) : Value → Value → Prop
  | leaf {v : Value} (noItems : σ.arrayItems? v = none) (noEntries : σ.entries? v = none) :
      SameTree σ v v
  | array {address address' : Nat} {items items' : List Value} (plain : σ.PlainArray address items)
      (plain' : σ.PlainArray address' items') (complete : items.length = items'.length)
      (each : ∀ pair ∈ items.zip items', SameTree σ pair.1 pair.2) :
      SameTree σ (.object address) (.object address')
  | mapping {address address' : Nat} {entries entries' : List (Value × Value)}
      (plain : σ.PlainMapping address entries) (plain' : σ.PlainMapping address' entries')
      (complete : entries.length = entries'.length)
      (keys : ∀ pair ∈ entries.zip entries', pair.2.1 = pair.1.1)
      (each : ∀ pair ∈ entries.zip entries', SameTree σ pair.1.2 pair.2.2) :
      SameTree σ (.object address) (.object address')

variable {σ : Store} {v v' part : Value} {address : Nat} {items : List Value}
  {entries : List (Value × Value)} {inside inside' : List Nat}

namespace PlainArray

theorem arrayItems? (plain : σ.PlainArray address items) :
    σ.arrayItems? (.object address) = some items := by
  rcases plain with found | found <;> simp [Store.arrayItems?, found]

theorem entries? (plain : σ.PlainArray address items) : σ.entries? (.object address) = none := by
  rcases plain with found | found <;> simp [Store.entries?, found]

theorem silent (plain : σ.PlainArray address items) : σ.isCallable (.object address) = false := by
  rcases plain with found | found <;> simp [isCallable, found, Cell.classOf] <;> rfl

theorem not_overlong (plain : σ.PlainArray address items) :
    σ.isOverlong (.object address) = false := by
  rcases plain with found | found <;> simp [isOverlong, found]

end PlainArray

namespace PlainMapping

theorem table? (plain : σ.PlainMapping address entries) :
    σ.table? (.object address) = some entries := by
  obtain ⟨cls, standard, found⟩ := plain
  have regular : ∀ cls ∈ Catalogue.mappingClasses, cls.custom = false := by decide
  simp [Store.table?, found, regular cls standard]

theorem entries? (plain : σ.PlainMapping address entries) :
    σ.entries? (.object address) = some entries :=
  entries?_of_table? plain.table?

theorem arrayItems? (plain : σ.PlainMapping address entries) :
    σ.arrayItems? (.object address) = none := by
  obtain ⟨cls, _, found⟩ := plain
  simp [Store.arrayItems?, found]

theorem silent (plain : σ.PlainMapping address entries) :
    σ.isCallable (.object address) = false := by
  obtain ⟨cls, standard, found⟩ := plain
  have uncallable : ∀ cls ∈ Catalogue.mappingClasses, cls.callable = false := by decide
  simp [isCallable, found, Cell.classOf, uncallable cls standard]

end PlainMapping

/-- An object that cannot be called is a plain object. -/
theorem kindOf_of_silent (silent : σ.isCallable (.object address) = false) :
    σ.kindOf (.object address) = .object := by
  simp [kindOf, silent]

namespace SameTree

/-- The items of the same array are the same trees, place by place. -/
theorem forall₂_items {items' : List Value} (complete : items.length = items'.length)
    (each : ∀ pair ∈ items.zip items', σ.SameTree pair.1 pair.2) :
    List.Forall₂ σ.SameTree items items' :=
  List.forall₂_iff_zip.mpr ⟨complete, fun pair => each _ pair⟩

/-- The entries of the same mapping are the same trees under the same keys. -/
theorem forall₂_entries {entries' : List (Value × Value)}
    (complete : entries.length = entries'.length)
    (keys : ∀ pair ∈ entries.zip entries', pair.2.1 = pair.1.1)
    (each : ∀ pair ∈ entries.zip entries', σ.SameTree pair.1.2 pair.2.2) :
    List.Forall₂ (fun entry entry' => entry'.1 = entry.1 ∧ σ.SameTree entry.2 entry'.2) entries
      entries' :=
  List.forall₂_iff_zip.mpr ⟨complete, fun pair => ⟨keys _ pair, each _ pair⟩⟩

theorem kindOf_eq (same : σ.SameTree v v') : σ.kindOf v = σ.kindOf v' := by
  cases same with
  | leaf => rfl
  | array plain plain' => rw [kindOf_of_silent plain.silent, kindOf_of_silent plain'.silent]
  | mapping plain plain' => rw [kindOf_of_silent plain.silent, kindOf_of_silent plain'.silent]

theorem displayKind_eq (same : σ.SameTree v v') : σ.displayKind v = σ.displayKind v' := by
  have kind := same.kindOf_eq
  cases same with
  | leaf => rfl
  | array plain plain' => simp [displayKind, plain.arrayItems?, plain'.arrayItems?]
  | mapping plain plain' => simp [displayKind, plain.arrayItems?, plain'.arrayItems?, kind]

theorem null_iff (same : σ.SameTree v v') : v = .null ↔ v' = .null := by
  cases same with
  | leaf => exact Iff.rfl
  | array | mapping => simp

/-- No object equals a scalar. -/
theorem strictEquals_object {expected : Value} (scalar : expected.isScalar = true) :
    σ.strictEquals (.object address) expected = .ok false := by
  have other : Value.identical (.object address) expected = false := by
    cases expected with
    | object _ => cases scalar
    | _ => rfl
  simp [strictEquals, Value.isScalar, other]

theorem strictEquals_eq {expected : Value} (same : σ.SameTree v v')
    (scalar : expected.isScalar = true) : σ.strictEquals v expected = σ.strictEquals v' expected := by
  cases same with
  | leaf => rfl
  | array | mapping => rw [strictEquals_object scalar, strictEquals_object scalar]

theorem sameValueZero_eq {candidate : Value} (same : σ.SameTree v v')
    (scalar : candidate.isScalar = true) :
    σ.sameValueZero v candidate = σ.sameValueZero v' candidate := by
  have equal := same.strictEquals_eq scalar
  cases same with
  | leaf => rfl
  | array | mapping => simp only [sameValueZero, equal, Value.isNan]

end SameTree

/-! ## Nothing lies inside itself -/

/-- An item of a list or tuple, or what a mapping holds under a key. -/
inductive IsPart (σ : Store) : Value → Value → Prop
  | item {v part : Value} {items : List Value} (listed : σ.arrayItems? v = some items)
      (member : part ∈ items) : IsPart σ part v
  | entry {v : Value} {entries : List (Value × Value)} {entry : Value × Value}
      (held : σ.entries? v = some entries) (member : entry ∈ entries) : IsPart σ entry.2 v

theorem acc_of_leaf (noItems : σ.arrayItems? v = none) (noEntries : σ.entries? v = none) :
    Acc σ.IsPart v := by
  refine .intro v fun part isPart => ?_
  cases isPart with
  | item listed => cases noItems.symm.trans listed
  | entry held => cases noEntries.symm.trans held

theorem acc_of_items (listed : σ.arrayItems? v = some items)
    (each : ∀ item ∈ items, Acc σ.IsPart item) : Acc σ.IsPart v := by
  refine .intro v fun part isPart => ?_
  cases isPart with
  | item listed' member =>
    cases listed.symm.trans listed'
    exact each part member
  | entry held => cases (entries?_eq_none_of_arrayItems? listed).symm.trans held

theorem acc_of_entries (held : σ.entries? v = some entries)
    (each : ∀ entry ∈ entries, Acc σ.IsPart entry.2) : Acc σ.IsPart v := by
  refine .intro v fun part isPart => ?_
  cases isPart with
  | item listed => cases (arrayItems?_eq_none_of_entries? held).symm.trans listed
  | entry held' member =>
    cases held.symm.trans held'
    exact each _ member

/-- A tree comes to an end, on both sides. -/
theorem SameTree.finite (same : σ.SameTree v v') : Acc σ.IsPart v ∧ Acc σ.IsPart v' := by
  induction same with
  | leaf noItems noEntries =>
    exact ⟨acc_of_leaf noItems noEntries, acc_of_leaf noItems noEntries⟩
  | @array _ _ items items' plain plain' complete _ inductionHypothesis =>
    have ended : List.Forall₂ (fun item item' => Acc σ.IsPart item ∧ Acc σ.IsPart item') items
        items' :=
      List.forall₂_iff_zip.mpr ⟨complete, fun pair => inductionHypothesis _ pair⟩
    refine ⟨acc_of_items plain.arrayItems? fun item member => ?_,
      acc_of_items plain'.arrayItems? fun item member => ?_⟩
    · obtain ⟨_, found, _⟩ := exists_of_forall₂ ended member
      exact found
    · obtain ⟨_, _, _, found⟩ := exists_mem_of_forall₂ ended member
      exact found
  | @mapping _ _ entries entries' plain plain' complete _ _ inductionHypothesis =>
    have ended : List.Forall₂ (fun entry entry' => Acc σ.IsPart entry.2 ∧ Acc σ.IsPart entry'.2)
        entries entries' :=
      List.forall₂_iff_zip.mpr ⟨complete, fun pair => inductionHypothesis _ pair⟩
    refine ⟨acc_of_entries plain.entries? fun entry member => ?_,
      acc_of_entries plain'.entries? fun entry member => ?_⟩
    · obtain ⟨_, found, _⟩ := exists_of_forall₂ ended member
      exact found
    · obtain ⟨_, _, _, found⟩ := exists_mem_of_forall₂ ended member
      exact found

/-- What comes to an end does not lie inside itself. -/
theorem not_inside_self (finite : Acc σ.IsPart v) : ¬ Relation.TransGen σ.IsPart v v := by
  have ended := finite.transGen
  clear finite
  induction ended with
  | intro v _ inductionHypothesis => exact fun inside => inductionHypothesis v inside inside

/-- None of the objects at these addresses is the value or lies in it. -/
def Clear (σ : Store) (inside : List Nat) (v : Value) : Prop :=
  ∀ address ∈ inside, ¬ Relation.ReflTransGen σ.IsPart (.object address) v

theorem clear_nil (v : Value) : σ.Clear [] v := by
  simp [Clear]

theorem Clear.not_mem (clear : σ.Clear inside (.object address)) : address ∉ inside :=
  fun member => clear address member .refl

/-- A part of a tree is clear of the tree itself as well. -/
theorem Clear.below (clear : σ.Clear inside (.object address))
    (finite : Acc σ.IsPart (.object address)) (isPart : σ.IsPart part (.object address)) :
    σ.Clear (address :: inside) part := by
  intro other member chain
  rcases List.mem_cons.mp member with rfl | member
  · exact not_inside_self finite (.tail' chain isPart)
  · exact clear other member (chain.tail isPart)

end Store

/-! ## Renderings -/

/-- Items that are written alike, one by one, are written alike together. -/
theorem writeItems_congr {α β : Type} {writeItem : α → Draft → Except Halt Draft}
    {writeItem' : β → Draft → Except Halt Draft} {items : List α} {items' : List β}
    (each : List.Forall₂ (fun item item' => ∀ draft, writeItem item draft = writeItem' item' draft)
      items items') (draft : Draft) :
    writeItems writeItem items draft = writeItems writeItem' items' draft := by
  induction each generalizing draft with
  | nil => rfl
  | cons first others inductionHypothesis =>
    cases others with
    | nil => exact first draft
    | cons second others =>
      simp only [writeItems, first, inductionHypothesis]

namespace World

variable {w : World} {options : Options} {v v' : Value} {address : Nat} {items : List Value}
  {entries : List (Value × Value)} {inside inside' : List Nat}

/-- Where a leaf is makes no difference to its rendering. -/
theorem render_leaf (noItems : w.store.arrayItems? v = none) (noEntries : w.store.entries? v = none)
    (depth : Nat) (inside inside' : List Nat) (draft : Draft) :
    w.render depth inside v draft = w.render depth inside' v draft := by
  cases v with
  | object address =>
    cases found : w.store.cell? address with
    | none => simp only [render, found]
    | some cell =>
      cases cell with
      | list _ _ | tuple _ _ => simp [Store.arrayItems?, found] at noItems
      | mapping _ _ => simp [Store.entries?, found] at noEntries
      | _ => simp only [render, found]
  | _ => simp only [render]

/-- A list or tuple outside itself is rendered by its items. -/
theorem render_array (plain : w.store.PlainArray address items) (outside : address ∉ inside)
    (depth : Nat) (draft : Draft) :
    w.render depth inside (.object address) draft = match depth with
      | 0 => draft.write "[...]"
      | depth + 1 => (do
        let draft ← draft.write "["
        let draft ← writeItems (w.render depth (address :: inside)) items draft
        draft.write "]") := by
  have silent := plain.silent
  rcases plain with found | found <;> cases depth <;> simp [render, found, silent, outside]

/-- A mapping outside itself is rendered by its entries. -/
theorem render_mapping (plain : w.store.PlainMapping address entries) (outside : address ∉ inside)
    (depth : Nat) (draft : Draft) :
    w.render depth inside (.object address) draft = match depth with
      | 0 => draft.write "\x7b...\x7d"
      | depth + 1 => (do
        let draft ← draft.write "\x7b"
        let draft ← writeItems (fun entry draft => do
          let draft ← draft.write (w.natural entry.1 ++ ": ")
          w.render depth (address :: inside) entry.2 draft) entries draft
        draft.write "\x7d") := by
  have silent := plain.silent
  obtain ⟨cls, _, found⟩ := plain
  cases depth <;> simp [render, found, silent, outside]

/-- The same tree is written alike, at every depth and inside whatever containers it is. -/
theorem render_eq (same : w.store.SameTree v v') (clear : w.store.Clear inside v)
    (clear' : w.store.Clear inside' v') (depth : Nat) (draft : Draft) :
    w.render depth inside v draft = w.render depth inside' v' draft := by
  induction same generalizing inside inside' depth draft with
  | leaf noItems noEntries => exact render_leaf noItems noEntries depth inside inside' draft
  | @array address address' items items' plain plain' complete each inductionHypothesis =>
    have finite := (Store.SameTree.array plain plain' complete each).finite
    rw [render_array plain clear.not_mem, render_array plain' clear'.not_mem]
    cases depth with
    | zero => rfl
    | succ depth =>
      have items : List.Forall₂ (fun item item' => ∀ draft,
          w.render depth (address :: inside) item draft =
            w.render depth (address' :: inside') item' draft) items items' := by
        refine List.forall₂_iff_zip.mpr ⟨complete, fun {item item'} pair draft => ?_⟩
        obtain ⟨member, member'⟩ := List.of_mem_zip pair
        exact inductionHypothesis _ pair (clear.below finite.1 (.item plain.arrayItems? member))
          (clear'.below finite.2 (.item plain'.arrayItems? member')) depth draft
      simp only [writeItems_congr items]
  | @mapping address address' entries entries' plain plain' complete keys each
      inductionHypothesis =>
    have finite := (Store.SameTree.mapping plain plain' complete keys each).finite
    rw [render_mapping plain clear.not_mem, render_mapping plain' clear'.not_mem]
    cases depth with
    | zero => rfl
    | succ depth =>
      have entries : List.Forall₂ (fun (entry entry' : Value × Value) => ∀ draft : Draft,
          (do
            let draft ← draft.write (w.natural entry.1 ++ ": ")
            w.render depth (address :: inside) entry.2 draft) =
          (do
            let draft ← draft.write (w.natural entry'.1 ++ ": ")
            w.render depth (address' :: inside') entry'.2 draft)) entries entries' := by
        refine List.forall₂_iff_zip.mpr ⟨complete, fun {entry entry'} pair draft => ?_⟩
        obtain ⟨member, member'⟩ := List.of_mem_zip pair
        have value (draft : Draft) := inductionHypothesis _ pair
          (clear.below finite.1 (.entry plain.entries? member))
          (clear'.below finite.2 (.entry plain'.entries? member')) depth draft
        have key := keys _ pair
        simp only at key value
        simp only [key, value]
      simp only [writeItems_congr entries]

theorem rendering_eq (same : w.store.SameTree v v') :
    w.rendering options v = w.rendering options v' := by
  rw [rendering, rendering, render_eq same (Store.clear_nil v) (Store.clear_nil v')]

end World

end Conformance
