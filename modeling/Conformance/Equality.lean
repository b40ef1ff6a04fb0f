import Conformance.Kind

/-!
# Strict equality

Strict equality never coerces. Numbers of any format are equal by exact value; a boolean is no
number. Other scalars are equal when they have the same class and the same content. Everything
else is equal only to itself, so containers are never compared by their parts. Equality of same
value additionally lets one not-a-number equal another.
-/

namespace Conformance

namespace Value

/-- Whether a value is compared by content. -/
def isScalar : Value → Bool
  | .null | .bool _ | .number _ _ _ | .text _ _ | .bytes _ | .symbol _ _ => true
  | _ => false

/-- Whether two scalars other than numbers have the same content, whatever their classes. Custom
classes are assumed to compare their instances like this as well. -/
def sameContent : Value → Value → Bool
  | .null, .null => true
  | .bool a, .bool b => a == b
  | .text s _, .text t _ => s == t
  | .bytes these, .bytes those => these == those
  | .symbol m _, .symbol m' _ => m == m'
  | _, _ => false

/-- Whether two values are the same object. -/
def identical (a b : Value) : Bool := a == b

/-- A double or decimal that is not a number. -/
def isNan : Value → Bool
  | .number x _ _ => x.isNan
  | _ => false

end Value

namespace Store

/-- Strict equality. Comparing a signaling not-a-number with a number is a fault. -/
def strictEquals (σ : Store) (a b : Value) : Except Fault Bool :=
  match a, b with
  | .number x _ _, .number y _ _ => x.equal y
  | a, b =>
    if σ.classOf a != σ.classOf b then .ok false
    else if a.isScalar then .ok (a.sameContent b)
    else .ok (a.identical b)

/-- Strict equality, or both values are not a number. -/
def sameValueZero (σ : Store) (a b : Value) : Except Fault Bool := do
  if ← σ.strictEquals a b then return true
  else return a.isNan && b.isNan

end Store

end Conformance
