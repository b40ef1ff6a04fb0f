import Conformance.Value

/-!
# Objects in a store

An object is a cell of a store, and its address is its identity. Containers hold values, so
objects may share parts and may contain themselves. A store only grows, except that the contents
of a list or mapping may be replaced in place; no operation of the checker writes to it.
-/

namespace Conformance

/-- A check in the vocabulary of the program. The values in it are the arguments it was made
from; sub-checks are resolved only when it runs. -/
inductive Rule where
  | ofKind (kind : Kind)
  | equals (expected : Value)
  /-- `target` is a class, a tuple of targets or a union of classes; `label` names it. -/
  | instanceOf (target : Value) (label : String)
  | oneOf (allowed : List Value)
  /-- `fields` is looked at anew in every run. -/
  | shape (fields : Value)
  | array (element : Value)
  | union (alternatives : List Value)
deriving DecidableEq

namespace Rule

/-- The name a validator of this rule goes by. -/
def name : Rule → String
  | .ofKind _ => "validate_type"
  | .equals _ => "validate_equality"
  | .instanceOf _ _ => "validate_instance"
  | .oneOf _ => "validate_one_of"
  | .shape _ => "validate_shape"
  | .array _ => "validate_array"
  | .union _ => "validate_union"

end Rule

/-- How an entity is written. -/
inductive EntityText where
  | fixed (text : String)
  /-- Asking for the text is a fault. -/
  | faulty (fault : Fault)
  /-- The quoted fields, under the name of the class or on their own. -/
  | fields (named : Bool)

/-- The contents of an object. -/
inductive Cell where
  | list (cls : Class) (items : List Value)
  | tuple (cls : Class) (items : List Value)
  | queue (items : List Value)
  /-- A sequence that keeps its items in a list of its own. -/
  | wrapper (data : Nat)
  | range (start stop step : Int)
  | buffer (bytes : List UInt8)
  | mapping (cls : Class) (entries : List (Value × Value))
  | set (cls : Class) (items : List Value)
  /-- A function with some arguments supplied: none here, so it behaves as its target. -/
  | application (target keywords : Value)
  /-- A callable object, with the label it was given, if any. -/
  | functor (label : Option Value)
  | generic (origin parameter : Class)
  | classUnion (classes : List Class)
  /-- An object with named fields. -/
  | entity (cls : Class) (fields : List (String × Value)) (text : EntityText)
  | validator (rule : Rule)

/-- The objects there are. -/
structure Store where
  cells : Array Cell

namespace Store

def size (σ : Store) : Nat := σ.cells.size

/-- The contents of the object at an address. -/
def cell? (σ : Store) (address : Nat) : Option Cell := σ.cells[address]?

/-- Adds an object; its address is new. -/
def insert (σ : Store) (cell : Cell) : Store × Nat := (⟨σ.cells.push cell⟩, σ.size)

/-- Replaces the contents of an object. -/
def replace (σ : Store) (address : Nat) (cell : Cell) : Store :=
  ⟨σ.cells.setIfInBounds address cell⟩

/-- An added object is found at its address. -/
theorem cell?_insert_new (σ : Store) (cell : Cell) :
    (σ.insert cell).1.cell? (σ.insert cell).2 = some cell := by
  simp [insert, cell?, size]

/-- Adding an object leaves those there already as they are. -/
theorem cell?_insert_old {σ : Store} {address : Nat} (present : address < σ.size) (cell : Cell) :
    (σ.insert cell).1.cell? address = σ.cell? address := by
  simp only [insert, cell?]
  exact Array.getElem?_push_lt present ▸ (Array.getElem?_eq_getElem present).symm

/-- Replacing the contents of an object leaves the others as they are. -/
theorem cell?_replace_other {σ : Store} {address other : Nat} (different : address ≠ other)
    (cell : Cell) : (σ.replace address cell).cell? other = σ.cell? other := by
  simp [replace, cell?, different]

/-- The number of integers in a range. -/
def rangeLength (start stop step : Int) : Nat :=
  if 0 < step then ((stop - start + step - 1) / step).toNat
  else if step < 0 then ((start - stop - step - 1) / (-step)).toNat
  else 0

/-- The items of a list. -/
def listItems? (σ : Store) : Value → Option (List Value)
  | .object address =>
    match σ.cell? address with
    | some (.list _ items) => some items
    | _ => none
  | _ => none

/-- The items of a list or tuple. -/
def arrayItems? (σ : Store) : Value → Option (List Value)
  | .object address =>
    match σ.cell? address with
    | some (.list _ items) | some (.tuple _ items) => some items
    | _ => none
  | _ => none

/-- The entries of a mapping, in order. -/
def entries? (σ : Store) : Value → Option (List (Value × Value))
  | .object address =>
    match σ.cell? address with
    | some (.mapping _ entries) => some entries
    | _ => none
  | _ => none

/-- The entries of a mapping that is read by comparing keys with them, as all are whose class is not
custom. -/
def table? (σ : Store) : Value → Option (List (Value × Value))
  | .object address =>
    match σ.cell? address with
    | some (.mapping cls entries) => if cls.custom then none else some entries
    | _ => none
  | _ => none

/-- Whether a value is a mapping that is read in the ways of its class. -/
def isCustomMapping (σ : Store) : Value → Bool
  | .object address =>
    match σ.cell? address with
    | some (.mapping cls _) => cls.custom
    | _ => false
  | _ => false

/-- The items of the list behind a wrapper. -/
def wrapped (σ : Store) (data : Nat) : List Value :=
  (σ.listItems? (.object data)).getD []

/-- The bytes of a text buffer as values. -/
def byteValues (bytes : List UInt8) : List Value := bytes.map fun byte => Value.int byte.toNat

/-- The integers of a range as values. -/
def rangeValues (start stop step : Int) : List Value :=
  (List.range (rangeLength start stop step)).map fun (place : Nat) =>
    Value.int (start + place * step)

/-- The greatest length that a sequence can be asked for. -/
def maxLength : Nat := Nat.pow 2 63 - 1

/-- The number of items of a sequence that can be indexed. -/
def sequenceLength? (σ : Store) : Value → Option Nat
  | .object address =>
    match σ.cell? address with
    | some (.list _ items) | some (.tuple _ items) | some (.queue items) => some items.length
    | some (.wrapper data) => some (σ.wrapped data).length
    | some (.range start stop step) => some (rangeLength start stop step)
    | some (.buffer bytes) => some bytes.length
    | _ => none
  | _ => none

/-- The item of an indexable sequence at a place. -/
def sequenceItem? (σ : Store) (place : Nat) : Value → Option Value
  | .object address =>
    match σ.cell? address with
    | some (.list _ items) | some (.tuple _ items) | some (.queue items) => items[place]?
    | some (.wrapper data) => (σ.wrapped data)[place]?
    | some (.range start stop step) =>
      if place < rangeLength start stop step then some (.int (start + place * step)) else none
    | some (.buffer bytes) => bytes[place]?.map fun byte => Value.int byte.toNat
    | _ => none
  | _ => none

/-- All items of an indexable sequence. -/
def sequenceItems? (σ : Store) : Value → Option (List Value)
  | .object address =>
    match σ.cell? address with
    | some (.list _ items) | some (.tuple _ items) | some (.queue items) => some items
    | some (.wrapper data) => some (σ.wrapped data)
    | some (.range start stop step) => some (rangeValues start stop step)
    | some (.buffer bytes) => some (byteValues bytes)
    | _ => none
  | _ => none

/-- Whether a sequence is too long to be asked for its length. Only a range can be: every other
sequence holds its items. -/
def isOverlong (σ : Store) : Value → Bool
  | .object address =>
    match σ.cell? address with
    | some (.range start stop step) => maxLength < rangeLength start stop step
    | _ => false
  | _ => false

/-- The rule of a validator object. -/
def rule? (σ : Store) : Value → Option Rule
  | .object address =>
    match σ.cell? address with
    | some (.validator rule) => some rule
    | _ => none
  | _ => none

/-- Only a list has list items. -/
theorem listItems?_eq_some_iff {σ : Store} {v : Value} {items : List Value} :
    σ.listItems? v = some items ↔
      ∃ address cls, v = .object address ∧ σ.cell? address = some (.list cls items) := by
  unfold listItems?
  split
  · split <;> simp_all
  · simp_all

/-- Only a list or tuple has array items. -/
theorem arrayItems?_eq_some_iff {σ : Store} {v : Value} {items : List Value} :
    σ.arrayItems? v = some items ↔
      ∃ address cls, v = .object address ∧
        (σ.cell? address = some (.list cls items) ∨ σ.cell? address = some (.tuple cls items)) := by
  unfold arrayItems?
  split
  · split <;> simp_all
  · simp_all

/-- Only a mapping has entries. -/
theorem entries?_eq_some_iff {σ : Store} {v : Value} {entries : List (Value × Value)} :
    σ.entries? v = some entries ↔
      ∃ address cls, v = .object address ∧ σ.cell? address = some (.mapping cls entries) := by
  unfold entries?
  split
  · split <;> simp_all
  · simp_all

/-- Only a mapping whose class is not custom is read by its entries. -/
theorem table?_eq_some_iff {σ : Store} {v : Value} {entries : List (Value × Value)} :
    σ.table? v = some entries ↔
      ∃ address cls, v = .object address ∧ σ.cell? address = some (.mapping cls entries) ∧
        cls.custom = false := by
  unfold table?
  split
  · split
    · next found =>
      split
      · next own => simp [found, own]
      · next own =>
        have plain : _ = false := Bool.eq_false_iff.mpr own
        simp [found, plain, and_assoc]
    · simp_all
  · simp_all

/-- A mapping that is read by its entries has them. -/
theorem entries?_of_table? {σ : Store} {v : Value} {entries : List (Value × Value)}
    (held : σ.table? v = some entries) : σ.entries? v = some entries := by
  obtain ⟨address, cls, rfl, found, _⟩ := table?_eq_some_iff.mp held
  simp [entries?, found]

/-- A mapping that is read by its entries is not read in the ways of its class. -/
theorem isCustomMapping_of_table? {σ : Store} {v : Value} {entries : List (Value × Value)}
    (held : σ.table? v = some entries) : σ.isCustomMapping v = false := by
  obtain ⟨address, cls, rfl, found, plain⟩ := table?_eq_some_iff.mp held
  simp [isCustomMapping, found, plain]

/-- Every mapping is read in one of the two ways. -/
theorem table?_or_isCustomMapping {σ : Store} {v : Value} {entries : List (Value × Value)}
    (held : σ.entries? v = some entries) :
    σ.table? v = some entries ∨ σ.isCustomMapping v = true := by
  obtain ⟨address, cls, rfl, found⟩ := entries?_eq_some_iff.mp held
  cases own : cls.custom <;> simp [table?, isCustomMapping, found, own]

/-- What is read in neither way is no mapping. -/
theorem entries?_eq_none_iff {σ : Store} {v : Value} :
    σ.entries? v = none ↔ σ.table? v = none ∧ σ.isCustomMapping v = false := by
  constructor
  · intro none
    constructor
    · cases held : σ.table? v with
      | none => rfl
      | some entries => cases none.symm.trans (entries?_of_table? held)
    · unfold isCustomMapping
      split
      · split
        · next found => simp [entries?, found] at none
        · rfl
      · rfl
  · rintro ⟨none, regular⟩
    cases held : σ.entries? v with
    | none => rfl
    | some entries =>
      rcases table?_or_isCustomMapping held with found | own
      · cases none.symm.trans found
      · cases regular.symm.trans own

/-- A list or tuple is no mapping. -/
theorem entries?_eq_none_of_arrayItems? {σ : Store} {v : Value} {items : List Value}
    (listed : σ.arrayItems? v = some items) : σ.entries? v = none := by
  obtain ⟨address, cls, rfl, found | found⟩ := arrayItems?_eq_some_iff.mp listed <;>
    simp [entries?, found]

/-- A mapping is no list or tuple. -/
theorem arrayItems?_eq_none_of_entries? {σ : Store} {v : Value} {entries : List (Value × Value)}
    (held : σ.entries? v = some entries) : σ.arrayItems? v = none := by
  obtain ⟨address, cls, rfl, found⟩ := entries?_eq_some_iff.mp held
  simp [arrayItems?, found]

/-- Only a validator object has a rule. -/
theorem rule?_eq_some_iff {σ : Store} {v : Value} {rule : Rule} :
    σ.rule? v = some rule ↔
      ∃ address, v = .object address ∧ σ.cell? address = some (.validator rule) := by
  unfold rule?
  split
  · split <;> simp_all
  · simp_all

end Store

end Conformance
