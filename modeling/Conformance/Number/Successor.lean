import Conformance.Number.Basic

/-!
# One more than a number

Adding one keeps the format of a number. Integers and fractions are exact, a double is rounded to
the nearest double, and a decimal is rounded to twenty-eight digits, a tie going to the even
digit. The exponent of a decimal sum is the lesser of the two exponents as long as the digits
allow it.
-/

namespace Conformance

namespace Binary64

/-- One more than a double. -/
def successor (x : Binary64) : Binary64 :=
  match x.exact.toRat? with
  | some value => ofRat (value + 1)
  | none => x

/-- A zero without its sign; every other double as it is. -/
def unsignedZero : Binary64 → Binary64
  | .finite _ 0 exponent => .finite false 0 exponent
  | x => x

end Binary64

namespace Decimal

/-- The most digits of a sum. -/
def sumDigits : Nat := 28

/-- Rounds to the digits of a sum, a tie going to the even digit. -/
def rounded (negative : Bool) (coefficient : Nat) (exponent : Int) : Decimal :=
  let excess := (Text.digits coefficient).length - sumDigits
  if excess = 0 then .finite negative coefficient exponent
  else
    let kept := Binary64.roundRatio coefficient (Nat.pow 10 excess)
    if kept = Nat.pow 10 sumDigits then
      .finite negative (Nat.pow 10 (sumDigits - 1)) (exponent + excess + 1)
    else .finite negative kept (exponent + excess)

/-- The sum of one and a signed coefficient at an exponent that is not positive. -/
def onePlus (signed exponent : Int) : Decimal :=
  let sum := signed + Int.pow 10 exponent.natAbs
  rounded (sum < 0) sum.natAbs exponent

/-- How far apart two exponents may lie for their numbers to be added digit by digit; beyond
that the lesser number only decides a rounding. -/
def reach : Nat := 200

/-- One more than a decimal. -/
def successor : Decimal → Decimal
  | .finite negative coefficient exponent =>
    let signed : Int := if negative then -(coefficient : Int) else coefficient
    if coefficient = 0 then onePlus 0 (max (min exponent 0) (-(reach : Int)))
    else if exponent ≤ 0 then
      let places := exponent.natAbs
      if places ≤ reach + (Text.digits coefficient).length then onePlus signed exponent
      else onePlus signed.sign (-(reach : Int))
    else
      let near := min exponent.toNat reach
      let sum := signed * Int.pow 10 near + 1
      if exponent.toNat ≤ reach then rounded (sum < 0) sum.natAbs 0
      else rounded (sum < 0) sum.natAbs (exponent - near)
  | x => x

end Decimal

namespace Number

/-- One more than a number, in its own format. -/
def successor : Number → Except Fault Number
  | .int n => .ok (.int (n + 1))
  | .float x => .ok (.float x.successor)
  | .complex re im => .ok (.complex re.successor im.unsignedZero)
  | .decimal x => if x.isSignaling then .error .signalingComparison else .ok (.decimal x.successor)
  | .fraction q => .ok (.fraction (q + 1))

end Number

end Conformance
