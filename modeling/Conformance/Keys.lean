import Conformance.Fault
import Conformance.Kind

/-!
# Keys and loose equality

Mappings find their keys by loose equality: numbers and booleans by exact value, texts by
content, whatever class they have, and containers by their parts. A key that is the very object
looked for is always found, even one that does not equal itself. Only values whose contents
cannot change may be keys. A mapping that is given an equal key again keeps the first key and its
place and takes the new value.
-/

namespace Conformance

/-- Whether the instances of a class count as equal to every value. -/
def Class.equalsAll (c : Class) : Bool := c.name == "AlwaysEqual"

namespace Store

/-- Why a value cannot be a key, given the reasons for objects. -/
def inlineHashFault? (objectFault : Nat → Option Fault) : Value → Option Fault
  | .number x _ _ => if x.isSignaling then some .signalingHash else none
  | .path base depth _ =>
    (inlineHashFault? objectFault base).or (inlineHashFault? objectFault depth)
  | .failure message context _ =>
    (inlineHashFault? objectFault message).or (inlineHashFault? objectFault context)
  | .object address => objectFault address
  | _ => none

/-- Why an object cannot be a key; containers are followed through as many levels as there are
objects. -/
def objectHashFault? (σ : Store) : Nat → Nat → Option Fault
  | 0, _ => some .unbounded
  | levels + 1, address =>
    match σ.cell? address with
    | none => none
    | some cell =>
      if !cell.classOf.hashable then some (.unhashable cell.classOf.reportedName)
      else match cell with
        | .tuple _ items | .set _ items =>
          items.findSome? (inlineHashFault? (σ.objectHashFault? levels))
        | _ => none

/-- Why a value cannot be a key. -/
def hashFault? (σ : Store) (v : Value) : Option Fault :=
  inlineHashFault? (σ.objectHashFault? (σ.size + 1)) v

/-- Compares the parts of two containers: the same object is always the same part, whether or
not it equals itself. -/
def samePart (equal : Value → Value → Except Fault Bool) (x y : Value) : Except Fault Bool :=
  if x = y then .ok true else equal x y

/-- Compares items pairwise; the first unequal pair or fault decides. -/
def allEqual (equal : Value → Value → Except Fault Bool) :
    List Value → List Value → Except Fault Bool
  | [], [] => .ok true
  | x :: xs, y :: ys => do
    if ← samePart equal x y then allEqual equal xs ys else return false
  | _, _ => .ok false

/-- Compares items pairwise if there are as many; otherwise none is looked at. -/
def equalLists (equal : Value → Value → Except Fault Bool) (xs ys : List Value) :
    Except Fault Bool :=
  if xs.length = ys.length then allEqual equal xs ys else .ok false

/-- Whether some entry has an equal key and an equal value. -/
def hasEntry (equal : Value → Value → Except Fault Bool) (entry : Value × Value) :
    List (Value × Value) → Except Fault Bool
  | [] => .ok false
  | other :: rest => do
    if ← samePart equal entry.1 other.1 then samePart equal entry.2 other.2
    else hasEntry equal entry rest

/-- Compares mappings: as many entries, and every entry of the first in the second. -/
def sameEntries (equal : Value → Value → Except Fault Bool)
    (these those : List (Value × Value)) : Except Fault Bool := do
  if these.length != those.length then return false
  else these.allM fun entry => hasEntry equal entry those

/-- Compares the contents of two objects. -/
def cellsEqual (σ : Store) (equal : Value → Value → Except Fault Bool) :
    Cell → Cell → Except Fault Bool
  | .tuple _ xs, .tuple _ ys => allEqual equal xs ys
  | .list _ xs, .list _ ys | .queue xs, .queue ys => equalLists equal xs ys
  | .wrapper data, .wrapper other => equalLists equal (σ.wrapped data) (σ.wrapped other)
  | .wrapper data, .list _ ys => equalLists equal (σ.wrapped data) ys
  | .list _ xs, .wrapper data => equalLists equal xs (σ.wrapped data)
  | .range start stop step, .range start' stop' step' =>
    .ok (rangeLength start stop step = rangeLength start' stop' step' &&
      (rangeLength start stop step = 0 || start = start' &&
        (rangeLength start stop step = 1 || step = step')))
  | .buffer xs, .buffer ys => .ok (xs == ys)
  | .mapping cls xs, .mapping cls' ys =>
    if cls.name = "OrderedDict" && cls'.name = "OrderedDict" then do
      if ← sameEntries equal xs ys then equalLists equal (xs.map (·.1)) (ys.map (·.1))
      else return false
    else sameEntries equal xs ys
  | .set _ xs, .set _ ys => do
    if xs.length != ys.length then return false
    else xs.allM fun x => ys.anyM fun y => samePart equal x y
  | .generic origin parameter, .generic origin' parameter' =>
    .ok (origin = origin' && parameter = parameter')
  | .classUnion xs, .classUnion ys => .ok (xs.all ys.contains && ys.all xs.contains)
  | .entity cls fields (.fields _), .entity cls' fields' (.fields _) =>
    if cls = cls' then allEqual equal (fields.map (·.2)) (fields'.map (·.2)) else .ok false
  | _, _ => .ok false

/-- Loose equality of values, following containers through at most `levels` levels. -/
def looselyEqualWithin (σ : Store) : Nat → Value → Value → Except Fault Bool
  | 0, _, _ => .error .unbounded
  | levels + 1, x, y =>
    match x.asNumber?, y.asNumber? with
    | some a, some b => a.equal b
    | _, _ =>
      if (σ.classOf x).equalsAll || (σ.classOf y).equalsAll then .ok true
      else match x, y with
      | .text s _, .text t _ => .ok (s == t)
      | .path base depth _, .path base' depth' _ =>
        allEqual (σ.looselyEqualWithin levels) [base, depth] [base', depth']
      | .failure message context _, .failure message' context' _ =>
        allEqual (σ.looselyEqualWithin levels) [message, context] [message', context']
      | .bytes bytes, .object address | .object address, .bytes bytes =>
        match σ.cell? address with
        | some (.buffer other) => .ok (bytes == other)
        | _ => .ok false
      | .object address, .object address' =>
        if address = address' then .ok true
        else match σ.cell? address, σ.cell? address' with
          | some cell, some cell' => cellsEqual σ (σ.looselyEqualWithin levels) cell cell'
          | _, _ => .ok false
      | x, y => .ok (x == y)

/-- How many levels of containers loose equality looks into. -/
def equalityLevels : Nat := 1000

/-- Loose equality of values. -/
def looselyEqual (σ : Store) (x y : Value) : Except Fault Bool :=
  σ.looselyEqualWithin equalityLevels x y

/-- Whether a stored key is the key looked for. -/
def keyMatches (σ : Store) (key stored : Value) : Bool :=
  match samePart σ.looselyEqual key stored with
  | .ok same => same
  | .error _ => false

/-- The value under a key. -/
def lookup? (σ : Store) (entries : List (Value × Value)) (key : Value) :
    Except Fault (Option Value) :=
  match σ.hashFault? key with
  | some fault => .error fault
  | none => .ok ((entries.find? fun entry => σ.keyMatches key entry.1).map (·.2))

end Store

end Conformance
