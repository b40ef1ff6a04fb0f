/-!
# Issues with overrides

An override of an option that is not accepted is an issue: the name it was given for and the
cause. Each cause is reported under a code and with a text.
-/

namespace Conformance

/-- Why an override is not accepted. -/
inductive IssueCause where
  | notPositive
  | unreadable
  /-- The integer has more digits, or is a larger double, than can be taken over. -/
  | oversized
  | fractional
  | notFinite
  | notInteger
  | unknownName
  | frozen
deriving DecidableEq, Repr

/-- An override that is not accepted. -/
structure Issue where
  name : String
  cause : IssueCause
deriving DecidableEq, Repr

namespace IssueCause

/-- The code an issue is reported under. -/
def code : IssueCause → String
  | .notPositive => "greater_than"
  | .unreadable => "int_parsing"
  | .oversized => "int_parsing_size"
  | .fractional => "int_from_float"
  | .notFinite => "finite_number"
  | .notInteger => "int_type"
  | .unknownName => "extra_forbidden"
  | .frozen => "frozen_instance"

/-- The text an issue is reported with. -/
def message : IssueCause → String
  | .notPositive => "Input should be greater than 0"
  | .unreadable => "Input should be a valid integer, unable to parse string as an integer"
  | .oversized => "Unable to parse input string as an integer, exceeded maximum size"
  | .fractional => "Input should be a valid integer, got a number with a fractional part"
  | .notFinite => "Input should be a finite number"
  | .notInteger => "Input should be a valid integer"
  | .unknownName => "Extra inputs are not permitted"
  | .frozen => "Instance is frozen"

end IssueCause

end Conformance
