/-!
# Exact values

Every real number of the program, whatever its format, denotes a rational, an infinity, or
nothing at all. Comparisons between formats are comparisons of these denotations, so no rounding
takes part in them.

A rational is kept beside a power of ten that multiplies it, because the powers of decimals may
be far too large to write out. Two such products are compared through the quotient of their
rationals: a power of ten with more places than the quotient has binary digits is decided by its
size alone, and only the others are computed.
-/

namespace Conformance

/-- What a number in some format stands for; `scaled value tens` is `value * 10 ^ tens`. -/
inductive Exact where
  | undefined
  | infinite (negative : Bool)
  | scaled (value : Rat) (tens : Int)

/-- `significand * base ^ exponent`, as a rational. -/
def timesPower (base : Nat) (significand exponent : Int) : Rat :=
  match exponent with
  | .ofNat places => ((significand * Int.pow base places : Int) : Rat)
  | .negSucc places => mkRat significand (Nat.pow base (places + 1))

/-- The order of two rationals. -/
def orderOf (p q : Rat) : Ordering := if p < q then .lt else if p = q then .eq else .gt

/-- The order of `10 ^ exponent` and a positive rational. -/
def orderOfPower (exponent : Int) (ratio : Rat) : Ordering :=
  match exponent with
  | .ofNat places =>
    if ratio.num.natAbs.log2 < places then .gt else orderOf (timesPower 10 1 places) ratio
  | .negSucc places =>
    if ratio.den.log2 < places + 1 then .lt
    else orderOf 1 (ratio * timesPower 10 1 (places + 1))

/-- The order of `p * 10 ^ a` and `q * 10 ^ b`. -/
def orderOfScaled (p : Rat) (a : Int) (q : Rat) (b : Int) : Ordering :=
  if 0 < p ∧ 0 < q then orderOfPower (a - b) (q / p)
  else if p < 0 ∧ q < 0 then (orderOfPower (a - b) (q / p)).swap
  else orderOf p q

namespace Exact

/-- The denotation of a rational. -/
def rational (value : Rat) : Exact := .scaled value 0

/-- The rational that a denotation is, written out. -/
def toRat? : Exact → Option Rat
  | .scaled value tens => some (if value = 0 then 0 else value * timesPower 10 1 tens)
  | _ => none

/-- Two denotations agree; an undefined one agrees with nothing, not even itself. -/
def same : Exact → Exact → Bool
  | .infinite a, .infinite b => a == b
  | .scaled p a, .scaled q b => orderOfScaled p a q b == .eq
  | _, _ => false

/-- Whether the first denotation is strictly below the second. -/
def less : Exact → Exact → Bool
  | .infinite a, .infinite b => a && !b
  | .infinite a, .scaled _ _ => a
  | .scaled _ _, .infinite b => !b
  | .scaled p a, .scaled q b => orderOfScaled p a q b == .lt
  | _, _ => false

/-- Whether a denotation is zero. -/
def isZero : Exact → Bool
  | .scaled value _ => value = 0
  | _ => false

/-- The denotation without its sign. -/
def magnitude : Exact → Exact
  | .scaled value tens => .scaled (if value < 0 then -value else value) tens
  | .infinite _ => .infinite false
  | .undefined => .undefined

end Exact

end Conformance
