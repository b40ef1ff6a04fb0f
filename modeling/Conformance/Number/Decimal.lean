import Conformance.Number.Exact
import Conformance.Text.Numeral

/-!
# Decimal floating point

A decimal keeps its coefficient and exponent apart, so `1.0` and `1.00` denote the same number
and have different texts. A not-a-number may be quiet or signaling and may carry digits. The text
is the standard's scientific notation: positional while the exponent is not positive and the
leading digit is at most six places behind the point.
-/

namespace Conformance

/-- A decimal floating point number. -/
inductive Decimal where
  | finite (negative : Bool) (coefficient : Nat) (exponent : Int)
  | infinity (negative : Bool)
  | nan (negative signaling : Bool) (payload : Nat)
deriving DecidableEq

namespace Decimal

def isNan : Decimal → Bool
  | .nan _ _ _ => true
  | _ => false

def isSignaling : Decimal → Bool
  | .nan _ signaling _ => signaling
  | _ => false

def isZero : Decimal → Bool
  | .finite _ 0 _ => true
  | _ => false

/-- What a decimal stands for. -/
def exact : Decimal → Exact
  | .nan _ _ _ => .undefined
  | .infinity negative => .infinite negative
  | .finite negative coefficient exponent =>
    .scaled ((if negative then -(coefficient : Int) else coefficient : Int) : Rat) exponent

/-- The unsigned text of `coefficient * 10 ^ exponent`. -/
def finiteText (coefficient : Nat) (exponent : Int) : String :=
  let ds := Text.digits coefficient
  let leading : Int := exponent + ds.length - 1
  if exponent ≤ 0 && -6 ≤ leading then
    let places := exponent.natAbs
    if places = 0 then String.ofList ds
    else if places < ds.length then
      String.ofList (ds.take (ds.length - places) ++ '.' :: ds.drop (ds.length - places))
    else "0." ++ String.ofList (List.replicate (places - ds.length) '0' ++ ds)
  else
    let mantissa := match ds with
      | [] => []
      | [only] => [only]
      | first :: more => first :: '.' :: more
    String.ofList mantissa ++ "E" ++ (if leading < 0 then "" else "+") ++ Text.intText leading

/-- The text of a decimal. -/
def text : Decimal → String
  | .finite negative coefficient exponent => sign negative ++ finiteText coefficient exponent
  | .infinity negative => sign negative ++ "Infinity"
  | .nan negative signaling payload =>
    sign negative ++ (if signaling then "sNaN" else "NaN") ++
      (if payload = 0 then "" else Text.natText payload)
where
  sign (negative : Bool) : String := if negative then "-" else ""

end Decimal

end Conformance
