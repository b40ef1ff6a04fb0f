import Conformance.Number.Exact

/-!
# Double precision numbers

A double is kept as what it stands for: no number, an infinity, or a signed integer significand
of at most 53 bits times a power of two. `ofRatio` gives the double nearest to a ratio, a tie
going to the even significand, and `ofScaled` the one nearest to a decimal number. Doubles are
read, compared and written here; there is no arithmetic on them.
-/

namespace Conformance

/-- A double precision number. A finite one has a significand below `2 ^ 53`, and at least
`2 ^ 52` unless its exponent is the least one, `-1074`. -/
inductive Binary64 where
  | nan
  | infinity (negative : Bool)
  | finite (negative : Bool) (significand : Nat) (exponent : Int)
deriving DecidableEq

namespace Binary64

/-- The least exponent of a finite double. -/
def leastExponent : Int := -1074

/-- The greatest exponent of a finite double. -/
def greatestExponent : Int := 971

def zero : Binary64 := .finite false 0 leastExponent

def isNan : Binary64 → Bool
  | .nan => true
  | _ => false

/-- Positive and negative zero. -/
def isZero : Binary64 → Bool
  | .finite _ 0 _ => true
  | _ => false

/-- What a double stands for. -/
def exact : Binary64 → Exact
  | .nan => .undefined
  | .infinity negative => .infinite negative
  | .finite negative significand exponent =>
    .rational (timesPower 2 (if negative then -(significand : Int) else significand) exponent)

/-- The integer nearest to a ratio, the even one at a tie. -/
def roundRatio (numerator denominator : Nat) : Nat :=
  let floor := numerator / denominator
  let twice := 2 * (numerator % denominator)
  if twice < denominator then floor
  else if denominator < twice then floor + 1
  else if floor % 2 = 0 then floor else floor + 1

/-- The ratio divided by `2 ^ exponent`, as numerator and denominator. -/
def inUnitsOf (exponent : Int) (numerator denominator : Nat) : Nat × Nat :=
  match exponent with
  | .ofNat places => (numerator, denominator * Nat.pow 2 places)
  | .negSucc places => (numerator * Nat.pow 2 (places + 1), denominator)

/-- The exponent that gives the ratio a significand of 53 bits, or the least exponent. -/
def exponentOf (numerator denominator : Nat) : Int :=
  let guess : Int := (numerator.log2 : Int) - denominator.log2 - 52
  let (n, d) := inUnitsOf guess numerator denominator
  max leastExponent (if n < d * Nat.pow 2 52 then guess - 1 else guess)

/-- The double nearest to a ratio of naturals, with the given sign. -/
def ofRatio (negative : Bool) (numerator denominator : Nat) : Binary64 :=
  if numerator = 0 then .finite negative 0 leastExponent
  else
    let exponent := exponentOf numerator denominator
    let (n, d) := inUnitsOf exponent numerator denominator
    let significand := roundRatio n d
    let (significand, exponent) :=
      if significand = Nat.pow 2 53 then (Nat.pow 2 52, exponent + 1) else (significand, exponent)
    if greatestExponent < exponent then .infinity negative
    else .finite negative significand exponent

/-- The double nearest to a rational; zero is positive. -/
def ofRat (value : Rat) : Binary64 :=
  ofRatio (value < 0) value.num.natAbs value.den

/-- The double nearest to `coefficient * 10 ^ exponent`. Exponents that are out of reach for the
length of the coefficient are decided without computing the power. -/
def ofScaled (negative : Bool) (coefficient : Nat) (exponent : Int) : Binary64 :=
  if coefficient = 0 then .finite negative 0 leastExponent
  else if exponent > 400 then .infinity negative
  else if exponent < -400 - (coefficient.log2 : Int) then .finite negative 0 leastExponent
  else match exponent with
    | .ofNat places => ofRatio negative (coefficient * Nat.pow 10 places) 1
    | .negSucc places => ofRatio negative coefficient (Nat.pow 10 (places + 1))

end Binary64

end Conformance
