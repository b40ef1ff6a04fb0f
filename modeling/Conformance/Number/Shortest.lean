import Conformance.Number.Binary64
import Conformance.Text.Numeral

/-!
# The shortest text of a double

The text of a finite double has the fewest significant digits that still read back as that
double. All reals between the two midpoints to its neighbours read back as it, the midpoints
themselves when its significand is even. For one digit, two digits and so on up to seventeen the
two points of that decimal grid around the double are tried, and the first grid with a point
inside wins; of two points inside the nearer one is taken, at a tie the even one.

How the digits are laid out is data: `FloatLayout` records which exponents are written
positionally and how a whole number is marked.
-/

namespace Conformance

/-- A decimal number: `coefficient * 10 ^ exponent`. -/
structure DecimalDigits where
  coefficient : Nat
  exponent : Int

namespace DecimalDigits

/-- Moves trailing zeros of the coefficient into the exponent. -/
def stripZeros (fuel coefficient : Nat) (exponent : Int) : DecimalDigits :=
  match fuel with
  | 0 => ⟨coefficient, exponent⟩
  | fuel + 1 =>
    if coefficient != 0 && coefficient % 10 = 0 then
      stripZeros fuel (coefficient / 10) (exponent + 1)
    else ⟨coefficient, exponent⟩

end DecimalDigits

namespace Shortest

/-- A ratio of naturals with its two midpoints, all over one denominator. -/
structure Interval where
  value : Nat
  low : Nat
  high : Nat
  denominator : Nat
  /-- Whether the midpoints themselves read back as the value. -/
  closed : Bool

/-- The reals that read back as the double `significand * 2 ^ exponent`. The gap below a power
of two is half the gap above it. -/
def interval (significand : Nat) (exponent : Int) : Interval :=
  let below := if significand = Nat.pow 2 52 && Binary64.leastExponent < exponent then 1 else 2
  let value := 4 * significand
  let closed := significand % 2 == 0
  match exponent - 2 with
  | .ofNat places =>
    let scale := Nat.pow 2 places
    ⟨value * scale, (value - below) * scale, (value + 2) * scale, 1, closed⟩
  | .negSucc places => ⟨value, value - below, value + 2, Nat.pow 2 (places + 1), closed⟩

/-- The exponent of the leading decimal digit of a positive ratio. -/
def leadingPlace (numerator denominator : Nat) : Int :=
  if denominator ≤ numerator then ((Text.digits (numerator / denominator)).length : Int) - 1
  else
    let ceiling := (denominator + numerator - 1) / numerator
    Int.negOfNat (Text.digits (ceiling - 1)).length

/-- The point of the grid `10 ^ place` that stands for the interval, if one lies inside. -/
def gridPoint? (i : Interval) (place : Int) : Option Nat :=
  let (unit, scale) : Nat × Nat := match place with
    | .ofNat places => (i.denominator * Nat.pow 10 places, 1)
    | .negSucc places => (i.denominator, Nat.pow 10 (places + 1))
  let inside (point : Nat) : Bool :=
    if i.closed then i.low * scale ≤ point * unit && point * unit ≤ i.high * scale
    else i.low * scale < point * unit && point * unit < i.high * scale
  let floor := i.value * scale / unit
  match inside floor, inside (floor + 1) with
  | false, false => none
  | true, false => some floor
  | false, true => some (floor + 1)
  | true, true =>
    let twice := 2 * (i.value * scale)
    let middle := (2 * floor + 1) * unit
    if twice < middle then some floor
    else if middle < twice then some (floor + 1)
    else if floor % 2 = 0 then some floor else some (floor + 1)

/-- The digits of the shortest decimal number that reads back as the positive double
`significand * 2 ^ exponent`. -/
def digits (significand : Nat) (exponent : Int) : DecimalDigits :=
  let i := interval significand exponent
  let leading := leadingPlace i.value i.denominator
  let found := (List.range 17).findSome? fun (extra : Nat) =>
    let place := leading - extra
    (gridPoint? i place).map fun point => DecimalDigits.stripZeros 20 point place
  found.getD ⟨significand, exponent⟩

end Shortest

/-- How the digits of a double are laid out. -/
structure FloatLayout where
  /-- The least exponent of the leading digit that is written positionally. -/
  leastPositional : Int
  /-- The least exponent of the leading digit that is written with an exponent again. -/
  firstScientific : Int
  /-- What marks a whole number. -/
  wholeMark : String
  /-- The fewest digits of a written exponent. -/
  exponentWidth : Nat

namespace FloatLayout

/-- A double on its own: a whole number keeps a point and a zero. -/
def standalone : FloatLayout := ⟨-4, 16, ".0", 2⟩

/-- A double as a part of a complex number: a whole number has no point. -/
def part : FloatLayout := ⟨-4, 16, "", 2⟩

def zeros (count : Nat) : List Char := List.replicate count '0'

/-- The text of `ds * 10 ^ exponent` for a positive number. -/
def write (layout : FloatLayout) (number : DecimalDigits) : String :=
  let ds := Text.digits number.coefficient
  let leading : Int := number.exponent + ds.length - 1
  if layout.leastPositional ≤ leading && leading < layout.firstScientific then
    match leading with
    | .negSucc places => "0." ++ String.ofList (zeros places ++ ds)
    | .ofNat places =>
      if ds.length ≤ places + 1 then
        String.ofList (ds ++ zeros (places + 1 - ds.length)) ++ layout.wholeMark
      else String.ofList (ds.take (places + 1) ++ '.' :: ds.drop (places + 1))
  else
    let mantissa := match ds with
      | [] => []
      | [only] => [only]
      | first :: more => first :: '.' :: more
    let places := Text.digits leading.natAbs
    let padding := zeros (layout.exponentWidth - places.length)
    let sign := if leading < 0 then '-' else '+'
    String.ofList (mantissa ++ 'e' :: sign :: (padding ++ places))

end FloatLayout

namespace Binary64

/-- The text of a double in a layout. -/
def text (layout : FloatLayout) : Binary64 → String
  | .nan => "nan"
  | .infinity negative => if negative then "-inf" else "inf"
  | .finite negative significand exponent =>
    let body :=
      if significand = 0 then "0" ++ layout.wholeMark
      else layout.write (Shortest.digits significand exponent)
    if negative then "-" ++ body else body

/-- Whether the sign of a double is negative, zeros included. -/
def isNegative : Binary64 → Bool
  | .nan => false
  | .infinity negative => negative
  | .finite negative _ _ => negative

end Binary64

end Conformance
