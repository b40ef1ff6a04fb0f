import Conformance.Text.Numeral

/-!
# Faults

A fault is a reason why an operation has no result at all, as opposed to a failed check, which
is a result. Each constructor is one cause; `name` and `message` give the wording under which it
is reported. Faults of user code carry their own wording.
-/

namespace Conformance

/-- Why an operation has no result. -/
inductive Fault where
  /-- A type name that is none of the known kinds; `shown` is its quoted form. -/
  | unknownKind (shown : String)
  /-- A list of values or alternatives that is no sequence. -/
  | notSequence (role typeName : String)
  | missingAttribute (typeName field : String)
  | missingClassAttribute (className field : String)
  /-- An attribute that a class looked up in its own way. -/
  | missingName (field : String)
  | notCallable (typeName : String)
  | notIterable (typeName : String)
  | notUnpackable (typeName : String)
  | tooManyParts
  | tooFewParts (found : Nat)
  | unhashable (typeName : String)
  /-- A signaling not-a-number has no hash. -/
  | signalingHash
  /-- A signaling not-a-number was compared with a number. -/
  | signalingComparison
  | notClassTarget
  | parameterizedTarget
  /-- The text of an object turned out not to be a text. -/
  | textNotString (typeName : String)
  /-- An integer has too many digits to be written. -/
  | tooManyDigits
  /-- The length of a sequence is no machine integer. -/
  | lengthTooLarge
  | unordered (left right : String)
  | frozenField (field : String)
  | missingKey (shown : String)
  /-- A callable refused its arguments, in its own words. -/
  | refusedArguments (text : String)
  /-- User code raised an error of its own. -/
  | raised (name text : String)
  /-- A validator that reaches itself without descending into the value. -/
  | unbounded
deriving DecidableEq, Repr

namespace Fault

/-- The name of the class of error a fault is reported as. -/
def name : Fault → String
  | .unknownKind _ | .tooManyParts | .tooFewParts _ | .tooManyDigits => "ValueError"
  | .missingAttribute _ _ | .missingClassAttribute _ _ | .missingName _ => "AttributeError"
  | .signalingComparison => "InvalidOperation"
  | .lengthTooLarge => "OverflowError"
  | .frozenField _ => "FrozenInstanceError"
  | .missingKey _ => "KeyError"
  | .raised name _ => name
  | .unbounded => "RecursionError"
  | _ => "TypeError"

/-- The text a fault is reported with. -/
def message : Fault → String
  | .unknownKind shown =>
    "Unknown type name " ++ shown ++
      ", expected one of: boolean, function, null, number, object, string"
  | .notSequence role typeName => role ++ " must be a sequence, got " ++ typeName
  | .missingAttribute typeName field =>
    "'" ++ typeName ++ "' object has no attribute '" ++ field ++ "'"
  | .missingClassAttribute className field =>
    "type object '" ++ className ++ "' has no attribute '" ++ field ++ "'"
  | .missingName field => field
  | .notCallable typeName => "'" ++ typeName ++ "' object is not callable"
  | .notIterable typeName => "'" ++ typeName ++ "' object is not iterable"
  | .notUnpackable typeName => "cannot unpack non-iterable " ++ typeName ++ " object"
  | .tooManyParts => "too many values to unpack (expected 2)"
  | .tooFewParts found =>
    "not enough values to unpack (expected 2, got " ++ Text.natText found ++ ")"
  | .unhashable typeName => "unhashable type: '" ++ typeName ++ "'"
  | .signalingHash => "Cannot hash a signaling NaN value"
  | .signalingComparison => "[<class 'decimal.InvalidOperation'>]"
  | .notClassTarget => "isinstance() arg 2 must be a type, a tuple of types, or a union"
  | .parameterizedTarget => "isinstance() argument 2 cannot be a parameterized generic"
  | .textNotString typeName => "__str__ returned non-string (type " ++ typeName ++ ")"
  | .tooManyDigits =>
    "Exceeds the limit (4300 digits) for integer string conversion; " ++
      "use sys.set_int_max_str_digits() to increase the limit"
  | .lengthTooLarge => "Python int too large to convert to C ssize_t"
  | .unordered left right =>
    "'<' not supported between instances of '" ++ left ++ "' and '" ++ right ++ "'"
  | .frozenField field => "cannot assign to field '" ++ field ++ "'"
  | .missingKey shown => shown
  | .refusedArguments text => text
  | .raised _ text => text
  | .unbounded => "maximum recursion depth exceeded"

end Fault

end Conformance
