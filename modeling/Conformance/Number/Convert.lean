import Conformance.Number.Basic

/-!
# Converting numbers

A number is made into an integer by dropping its fraction, and into a double by rounding to the
nearest one. A complex number is neither, what is not finite is no integer, and an integer or
fraction beyond the greatest double is no double.
-/

namespace Conformance

/-- The integer part of a rational. -/
def integerPart (q : Rat) : Int := q.num.tdiv q.den

namespace Number

/-- The integer part of a number; `undefined` and `infinite` name in the fault what is not
finite. -/
def integerPartOf (undefined infinite : String) (x : Exact) : Except Fault Int :=
  match x with
  | .undefined => .error (.raised "ValueError" ("cannot convert " ++ undefined ++ " to integer"))
  | .infinite _ =>
    .error (.raised "OverflowError" ("cannot convert " ++ infinite ++ " to integer"))
  | x => .ok ((x.toRat?.map integerPart).getD 0)

/-- The integer part of a number; nothing for a complex one. -/
def toInt? : Number → Option (Except Fault Int)
  | .int n => some (.ok n)
  | .float x => some (integerPartOf "float NaN" "float infinity" x.exact)
  | .complex _ _ => none
  | .decimal x => some (integerPartOf "NaN" "Infinity" x.exact)
  | .fraction q => some (.ok (integerPart q))

/-- A double that has to be finite. -/
def finiteOr (fault : Fault) (x : Binary64) : Except Fault Binary64 :=
  match x with
  | .infinity _ => .error fault
  | x => .ok x

/-- The nearest double of a number; nothing for a complex one. -/
def toDouble? : Number → Option (Except Fault Binary64)
  | .int n =>
    some (finiteOr (.raised "OverflowError" "int too large to convert to float") (.ofRat n))
  | .float x => some (.ok x)
  | .complex _ _ => none
  | .decimal (.finite negative coefficient exponent) =>
    some (.ok (.ofScaled negative coefficient exponent))
  | .decimal (.infinity negative) => some (.ok (.infinity negative))
  | .decimal (.nan _ false _) => some (.ok .nan)
  | .decimal (.nan _ true _) =>
    some (.error (.raised "ValueError" "cannot convert signaling NaN to float"))
  | .fraction q =>
    some (finiteOr (.raised "OverflowError" "integer division result too large for a float")
      (.ofRat q))

end Number

end Conformance
