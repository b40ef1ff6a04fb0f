import Conformance.Path
import Conformance.Text.Segments

/-!
# Reading a named property

A property is read by a key. A mapping that holds the key as it stands answers with that entry.
Otherwise the text of the key is split at its dots and each segment is read off what the previous
one gave, starting from the source: an entry of a mapping, an item of a sequence when the segment
is an integer, a field of anything else. A missing entry, item or field is null, and so is every
read off null.

A mapping of a custom class is asked three different questions: whether it holds the key, for the
entry of a key that it holds, and for the entry of a segment, should there be one. Whether the
answers agree is up to the class.
-/

namespace Conformance.World

/-- The place an integer names in a sequence of this length: negative integers count from the
end. -/
def placeOf? (length : Nat) (n : Int) : Option Nat :=
  let place := if 0 ≤ n then n else length + n
  if 0 ≤ place && place < length then some place.toNat else none

/-- Reads a segment off a sequence: an item by its integer, or else a field. -/
def readItem (w : World) (v : Value) (length : Nat) (segment : String) : Except Fault Value :=
  match Text.readInt? segment.toList with
  | none => w.fieldOrNull v segment
  | some n =>
    if w.store.isOverlong v then .error .lengthTooLarge
    else match placeOf? length n with
      | none => .ok .null
      | some place => .ok ((w.store.sequenceItem? place v).getD .null)

/-- Reads one segment off a value. -/
def readSegment (w : World) (v : Value) (segment : String) : Except Fault Value :=
  match w.store.table? v with
  | some entries => return (← w.store.lookup? entries (.str segment)).getD .null
  | none =>
    if w.store.isCustomMapping v then w.customs.entryOrNull v (.str segment)
    else match w.store.sequenceLength? v with
      | some length => w.readItem v length segment
      | none => w.fieldOrNull v segment

/-- Reads segments one after the other; nothing is read off null. -/
def readSegments (w : World) : Value → List (List Char) → Except Fault Value
  | v, [] => .ok v
  | v, segment :: rest =>
    if v = .null then .ok .null
    else do readSegments w (← w.readSegment v (String.ofList segment)) rest

/-- The entry that a mapping holds under a key as it stands, if any. -/
def verbatim (w : World) (source key : Value) : Except Fault (Option Value) :=
  match w.store.table? source with
  | some entries => w.store.lookup? entries key
  | none =>
    if w.store.isCustomMapping source then do
      if ← w.customs.holds source key then return some (← w.customs.entry source key)
      else return none
    else .ok none

/-- Reads the property of a value that a key names. -/
def get (w : World) (source key : Value) : Except Fault Value := do
  match ← w.verbatim source key with
  | some found => return found
  | none => w.readSegments source (Text.segments (← w.text key).toList)

end Conformance.World
