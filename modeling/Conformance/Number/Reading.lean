import Conformance.Number.Binary64
import Conformance.Number.Decimal

/-!
# Reading numbers

Decimal text is a sign, digits with an optional point, and an optional exponent; the words for
infinity and for no number are read without regard to case. One reader splits such a text into
its parts, and each format makes its number of them: a double rounds, a decimal keeps the
coefficient and the exponent as written.
-/

namespace Conformance

/-- The worth of an ASCII digit. -/
def asciiDigit? (c : Char) : Option Nat :=
  if '0' ≤ c && c ≤ '9' then some (c.toNat - '0'.toNat) else none

/-- The number written by a run of ASCII digits, empty runs included. -/
def asciiNat? (cs : List Char) : Option Nat :=
  cs.foldl (fun n c => n.bind fun n => (asciiDigit? c).map (10 * n + ·)) (some 0)

/-- Reads a signed integer of ASCII digits. -/
def asciiInt? (cs : List Char) : Option Int :=
  let (negative, body) := Text.splitSign cs
  if body.isEmpty then none
  else (asciiNat? body).map fun n => if negative then -(n : Int) else n

/-- The unsigned decimal number a text writes: its coefficient and exponent. -/
def readMagnitude? (cs : List Char) : Option (Nat × Int) :=
  let mantissa := cs.takeWhile fun c => c != 'e' && c != 'E'
  let whole := mantissa.takeWhile (· != '.')
  let fraction := (mantissa.dropWhile (· != '.')).drop 1
  if whole.isEmpty && fraction.isEmpty then none
  else do
    let coefficient ← asciiNat? (whole ++ fraction)
    let exponent ← match cs.drop mantissa.length with
      | [] => some 0
      | _ :: after => asciiInt? after
    return (coefficient, exponent - fraction.length)

/-- Whether a lower-case text is a word for infinity. -/
def isInfinityWord (cs : List Char) : Bool :=
  cs == "inf".toList || cs == "infinity".toList

namespace Binary64

/-- Reads a double. -/
def read? (text : String) : Option Binary64 :=
  let (negative, body) := Text.splitSign (Text.trimBlanks text.toList)
  let word := body.map Char.toLower
  if word == "nan".toList then some .nan
  else if isInfinityWord word then some (.infinity negative)
  else (readMagnitude? body).map fun (coefficient, exponent) =>
    ofScaled negative coefficient exponent

end Binary64

namespace Decimal

/-- Reads a decimal. -/
def read? (text : String) : Option Decimal :=
  let (negative, body) := Text.splitSign (Text.trimBlanks text.toList)
  let word := body.map Char.toLower
  let payload (signaling : Bool) (digits : List Char) : Option Decimal :=
    (asciiNat? digits).map (.nan negative signaling ·)
  match word with
  | 'n' :: 'a' :: 'n' :: digits => payload false digits
  | 's' :: 'n' :: 'a' :: 'n' :: digits => payload true digits
  | _ =>
    if isInfinityWord word then some (.infinity negative)
    else (readMagnitude? body).map fun (coefficient, exponent) =>
      .finite negative coefficient exponent

end Decimal

end Conformance
