import Conformance.Catalogue.Fields
import Conformance.Describe
import Conformance.Keys
import Conformance.Number.Convert
import Conformance.Number.Reading

/-!
# Making instances of classes

Calling a class makes an instance of it. Without arguments that is an empty or zero value, or the
empty object that is kept for the class. With one argument scalar classes convert it: numbers to
numbers, and texts by reading them. Classes that need other arguments refuse in their own words.
-/

namespace Conformance.Catalogue

/-- The instance that a class gives without arguments, for classes whose instances need no store
of their own. -/
def emptyInstance? : String → Option Value
  | "NoneType" => some .null
  | "bool" => some (.bool false)
  | "int" => some (.int 0)
  | "float" => some (.float .zero)
  | "complex" => some (.number (.complex .zero .zero) .plain 0)
  | "Decimal" => some (.number (.decimal (.finite false 0 0)) .plain 0)
  | "Fraction" => some (.number (.fraction 0) .plain 0)
  | "str" => some (.str "")
  | "bytes" => some (.bytes [])
  | "tuple" => some (.object emptyTuple)
  | "Name" => some (.text "" (.derived nameClass))
  | "Count" => some (.number (.int 0) (.derived countClass) 0)
  | "Ratio" => some (.number (.float .zero) (.derived ratioClass) 0)
  | _ => none

/-- Why a class makes no instance without arguments. -/
def emptyRefusal (c : Class) : Fault :=
  .refusedArguments
    (if c.isEnumeration then
      "EnumType.__call__() missing 1 required positional argument: 'value'"
    else match c.name with
      | "range" => "range expected at least 1 argument, got 0"
      | "type" => "type() takes 1 or 3 arguments"
      | "Mapping" =>
        "Can't instantiate abstract class Mapping with abstract methods " ++
          "__getitem__, __iter__, __len__"
      | "Sequence" =>
        "Can't instantiate abstract class Sequence with abstract methods " ++
          "__getitem__, __len__"
      | "User" => "User.__init__() missing 2 required positional arguments: 'name' and 'age'"
      | "Pt" => "Pt.__new__() missing 2 required positional arguments: 'x' and 'y'"
      | name => name ++ "() takes at least 1 argument (0 given)")

/-- Calls a class without arguments. -/
def constructEmpty (c : Class) : Except Fault Value :=
  match (emptyInstance? c.name).or (blank? c) with
  | some made => .ok made
  | none => .error (emptyRefusal c)

/-- The characters of a text or of bytes. -/
def characters? (σ : Store) : Value → Option (List Char)
  | .text s _ => some s.toList
  | .bytes bytes => some (ofBytes bytes)
  | .object address =>
    match σ.cell? address with
    | some (.buffer bytes) => some (ofBytes bytes)
    | _ => none
  | _ => none
where
  ofBytes (bytes : List UInt8) : List Char := bytes.map fun byte => Char.ofNat byte.toNat

/-- Converts a value to an integer. -/
def integerOf (w : World) (v : Value) : Except Fault Int :=
  match v.asNumber?.bind Number.toInt?, characters? w.store v with
  | some outcome, _ => outcome
  | none, some cs =>
    match Text.readInt? cs with
    | some n => .ok n
    | none => do
      throw (.raised "ValueError" ("invalid literal for int() with base 10: " ++ (← w.quoted v)))
  | none, none =>
    .error (.refusedArguments
      ("int() argument must be a string, a bytes-like object or a real number, not '" ++
        w.store.reportedName v ++ "'"))

/-- Converts a value to a double. -/
def doubleOf (w : World) (v : Value) : Except Fault Binary64 :=
  match v.asNumber?.bind Number.toDouble?, characters? w.store v with
  | some outcome, _ => outcome
  | none, some cs =>
    match Binary64.read? (String.ofList cs) with
    | some x => .ok x
    | none => do
      throw (.raised "ValueError" ("could not convert string to float: " ++ (← w.quoted v)))
  | none, none =>
    .error (.refusedArguments
      ("float() argument must be a string or a real number, not '" ++
        w.store.reportedName v ++ "'"))

/-- Converts a value to a decimal. -/
def decimalOf (w : World) (v : Value) : Except Fault Decimal :=
  match v with
  | .text s _ =>
    match Decimal.read? s with
    | some x => .ok x
    | none => .error (.raised "InvalidOperation" "[<class 'decimal.ConversionSyntax'>]")
  | v =>
    match v.asNumber? with
    | some (.int n) => .ok (.finite (n < 0) n.natAbs 0)
    | some (.decimal x) => .ok x
    | _ =>
      .error (.refusedArguments
        ("conversion from " ++ w.store.typeName v ++ " to Decimal is not supported"))

/-- The member of an enumeration with a value. -/
def memberOf (w : World) (c : Class) (v : Value) : Except Fault Value :=
  match (membersOf c).find? fun member => w.store.keyMatches v (contentOf member) with
  | some member => .ok member
  | none => do
    if c = enumClass then throw (.refusedArguments (c.quoted ++ " has no members defined"))
    else throw (.raised "ValueError" ((← w.quoted v) ++ " is not a valid " ++ c.name))
where
  contentOf (member : Value) : Value :=
    if member = v then v
    else match member with
      | .symbol _ content => content
      | .text s _ => .str s
      | .number x _ mark => .number x .plain mark
      | member => member

/-- Why a class makes no instance of one argument. -/
def conversionRefusal (w : World) (c : Class) (v : Value) : Fault :=
  match c.name with
  | "complex" => .raised "ValueError" "complex() arg is a malformed string"
  | "Fraction" => .raised "ValueError" ("Invalid literal for Fraction: " ++ w.natural v)
  | "bytes" | "bytearray" => .refusedArguments "string argument without an encoding"
  | "dict" | "MyDict" | "CallableDict" =>
    .raised "ValueError" "dictionary update sequence element #0 has length 1; 2 is required"
  | "range" =>
    .refusedArguments
      ("'" ++ w.store.reportedName v ++ "' object cannot be interpreted as an integer")
  | "NoneType" => .refusedArguments "NoneType takes no arguments"
  | "Person" | "Address" =>
    .refusedArguments "BaseModel.__init__() takes 1 positional argument but 2 were given"
  | "User" => .refusedArguments "User.__init__() missing 1 required positional argument: 'age'"
  | "Pt" => .refusedArguments "Pt.__new__() missing 1 required positional argument: 'y'"
  | name => .refusedArguments (name ++ "() takes no arguments")

/-- Calls a class with one argument. -/
def constructOf (w : World) (c : Class) (v : Value) : Except Fault Value :=
  if c.isEnumeration then memberOf w c v
  else match c.name with
    | "bool" => .ok (.bool (w.store.isTrue v))
    | "int" => (integerOf w v).map .int
    | "Count" => (integerOf w v).map fun n => .number (.int n) (.derived countClass) 0
    | "float" => (doubleOf w v).map .float
    | "Ratio" => (doubleOf w v).map fun x => .number (.float x) (.derived ratioClass) 0
    | "Decimal" => (decimalOf w v).map fun x => .number (.decimal x) .plain 0
    | "str" => (w.text v).map .str
    | "Name" => (w.text v).map fun s => .text s (.derived nameClass)
    | "type" => .ok (.cls (w.store.classOf v))
    | "Exception" | "ValueError" =>
      match blank? c with
      | some made => .ok made
      | none => .error (conversionRefusal w c v)
    | _ => .error (conversionRefusal w c v)

/-- Calls a class to make an instance. -/
def construct (w : World) (c : Class) (arguments : List Value) : Except Fault Value :=
  match arguments with
  | [] => constructEmpty c
  | [v] => constructOf w c v
  | arguments =>
    .error (.refusedArguments (c.name ++ " expected at most 1 argument, got " ++
      Text.natText arguments.length))

end Conformance.Catalogue
