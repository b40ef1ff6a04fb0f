import Conformance.Fault
import Conformance.Number.Shortest
import Conformance.Number.Decimal

/-!
# Numbers

A number is an integer, a double, a complex pair of doubles, a decimal or a fraction. Two numbers
of any formats are equal when they denote the same exact real part and the same exact imaginary
part. A not-a-number equals nothing, and comparing a signaling one with a real number is a fault.
-/

namespace Conformance

/-- A number in one of five formats. -/
inductive Number where
  | int (value : Int)
  | float (value : Binary64)
  | complex (re im : Binary64)
  | decimal (value : Decimal)
  | fraction (value : Rat)
deriving DecidableEq

namespace Number

/-- What the real part of a number stands for. -/
def realPart : Number → Exact
  | .int value => .rational value
  | .float value => value.exact
  | .complex re _ => re.exact
  | .decimal value => value.exact
  | .fraction value => .rational value

/-- What the imaginary part of a number stands for. -/
def imaginaryPart : Number → Exact
  | .complex _ im => im.exact
  | _ => .rational 0

/-- A number that has no imaginary part to speak of: it can be compared with a decimal. -/
def isReal (x : Number) : Bool := x.imaginaryPart.isZero

def isSignaling : Number → Bool
  | .decimal value => value.isSignaling
  | _ => false

/-- A double or decimal that is not a number. A complex number is never one. -/
def isNan : Number → Bool
  | .float value => value.isNan
  | .decimal value => value.isNan
  | _ => false

def isZero : Number → Bool
  | .int value => value == 0
  | .float value => value.isZero
  | .complex re im => re.isZero && im.isZero
  | .decimal value => value.isZero
  | .fraction value => value == 0

/-- Equality by exact value across all formats. -/
def equal (x y : Number) : Except Fault Bool :=
  if (x.isSignaling && y.isReal) || (y.isSignaling && x.isReal) then .error .signalingComparison
  else .ok (x.realPart.same y.realPart && x.imaginaryPart.same y.imaginaryPart)

/-- Whether a number equals itself, which all do that stand for something. -/
def equalsItself (x : Number) : Bool :=
  x.realPart.same x.realPart && x.imaginaryPart.same x.imaginaryPart

/-- The text of a complex number: the imaginary part alone when the real part is a positive
zero, otherwise both parts in parentheses with the sign of the second between them. -/
def complexText (re im : Binary64) : String :=
  let second := im.text .part ++ "j"
  if re.isZero && !re.isNegative then second
  else "(" ++ re.text .part ++ (if im.isNegative then "" else "+") ++ second ++ ")"

/-- The text of a fraction, a whole one without denominator. -/
def fractionText? (value : Rat) : Option String := do
  let numerator ← Text.intText? value.num
  if value.den = 1 then return numerator
  let denominator ← Text.intText? value.den
  return numerator ++ "/" ++ denominator

/-- The text of a number, unless it is an integer too long to write. -/
def text? : Number → Option String
  | .int value => Text.intText? value
  | .float value => some (value.text .standalone)
  | .complex re im => some (complexText re im)
  | .decimal value => some value.text
  | .fraction value => fractionText? value

/-- The text of a number inside a container, which names the format where digits alone would
not tell it. -/
def quoted? : Number → Option String
  | .decimal value => some ("Decimal('" ++ value.text ++ "')")
  | .fraction value => do
    let numerator ← Text.intText? value.num
    let denominator ← Text.intText? value.den
    return "Fraction(" ++ numerator ++ ", " ++ denominator ++ ")"
  | x => x.text?

end Number

end Conformance
