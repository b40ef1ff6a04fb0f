import Conformance.Options.Numeral
import Conformance.Options.Override

/-!
# Limits as they are read

Integers, booleans and fractions count as they are when they are whole, and so do decimals; doubles
have to be whole and below `2 ^ 63` in magnitude. Texts, and bytes that are a text, count when they
write an integer. A member of an enumeration counts as its value. The result must be positive.
-/

namespace Conformance

/-- The integer an exact value is. -/
def Exact.whole (x : Exact) : Except IssueCause Int :=
  match x.toRat? with
  | some value => if value.den = 1 then .ok value.num else .error .fractional
  | none => .error .notFinite

/-- The magnitude that a double has to stay below. -/
def doubleBound : Int := Int.pow 2 63

/-- The integer a number is. -/
def Number.whole : Number → Except IssueCause Int
  | .int n => .ok n
  | .float x => do
    let n ← x.exact.whole
    if -doubleBound < n ∧ n < doubleBound then return n else throw .oversized
  | .complex _ _ => .error .notInteger
  | .decimal x => x.exact.whole
  | .fraction value => (Exact.rational value).whole

/-- The integer a value given for an option stands for. -/
def Value.wholeNumber : Value → Except IssueCause Int
  | .bool b => .ok (if b then 1 else 0)
  | .number x _ _ => x.whole
  | .text s _ => OptionText.read s.toList
  | .bytes content =>
    match String.fromUTF8? ⟨content.toArray⟩ with
    | some s => OptionText.read s.toList
    | none => .error .unreadable
  | .symbol _ (.number (.int n) _ _) => .ok n
  | .symbol _ _ => .error .oversized
  | _ => .error .notInteger

/-- The positive integer a value given for an option stands for. -/
def Value.limit : Options.Reading := fun v => do
  let n ← v.wholeNumber
  if 0 < n then return n.toNat else throw .notPositive

end Conformance
