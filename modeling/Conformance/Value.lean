import Conformance.Class
import Conformance.Number.Basic

/-!
# Values

A value is either complete in itself or the address of an object. Scalars, classes, named
functions, paths and failures are complete in themselves; everything that can be changed, that
can contain itself, or that differs from another object with the same contents lives in a store
and is known by its address.

Two values are the same object exactly when they are equal as values here. Paths and failures
have equal fields without being the same object, so each carries a mark, and so does a number that
is not equal to itself, where being the same object shows. The marks of paths and failures that the
program makes itself are zero, since it never compares them, and so is the mark of every number
that equals itself.
-/

namespace Conformance

/-- A named member of an enumeration. -/
structure Member where
  cls : Class
  name : String
  /-- Whether the member's text is that of its value instead of its own name. -/
  textOfValue : Bool
deriving DecidableEq

namespace Member

/-- The name of a member with that of its enumeration. -/
def fullName (m : Member) : String := m.cls.name ++ "." ++ m.name

end Member

/-- What a number or a text is besides its content. -/
inductive Tag where
  | plain
  /-- An instance of a class derived from that of the content. -/
  | derived (cls : Class)
  /-- A member of an enumeration whose members are contents of this kind. -/
  | member (member : Member)
deriving DecidableEq

/-- Where a function or method comes from. -/
inductive Origin where
  /-- Written by a user. -/
  | user
  /-- Part of the standard vocabulary. -/
  | standard
  /-- A method of the standard vocabulary read off its class, which is its owner. -/
  | unbound (owner : String)
  /-- The same for a method that is a function in its own right. -/
  | composed (owner : String)
deriving DecidableEq

/-- A value: complete in itself, or the address of an object. -/
inductive Value where
  | null
  | bool (value : Bool)
  | number (value : Number) (tag : Tag) (mark : Nat)
  | text (value : String) (tag : Tag)
  | bytes (value : List UInt8)
  /-- A member of an enumeration that is neither a number nor a text. -/
  | symbol (member : Member) (value : Value)
  | cls (value : Class)
  /-- A function or method known by its name. -/
  | routine (name : String) (origin : Origin)
  | path (base depth : Value) (mark : Nat)
  | failure (message context : Value) (mark : Nat)
  | object (address : Nat)
deriving DecidableEq

namespace Value

/-- A plain text. -/
def str (s : String) : Value := .text s .plain

/-- A plain integer. -/
def int (n : Int) : Value := .number (.int n) .plain 0

/-- A plain double. -/
def float (x : Binary64) : Value := .number (.float x) .plain 0

/-- The path at which a check starts. -/
def rootPath (base : Value) : Value := .path base (.int 0) 0

/-- A boolean or number as a number. -/
def asNumber? : Value → Option Number
  | .bool b => some (.int (if b then 1 else 0))
  | .number x _ _ => some x
  | _ => none

end Value

/-- The kinds that type names speak of. -/
inductive Kind where
  | null
  | boolean
  | number
  | string
  | function
  | object
deriving DecidableEq, Repr

namespace Kind

def name : Kind → String
  | .null => "null"
  | .boolean => "boolean"
  | .number => "number"
  | .string => "string"
  | .function => "function"
  | .object => "object"

/-- The kind with this name. -/
def ofName? : String → Option Kind
  | "null" => some .null
  | "boolean" => some .boolean
  | "number" => some .number
  | "string" => some .string
  | "function" => some .function
  | "object" => some .object
  | _ => none

theorem ofName?_name (k : Kind) : ofName? k.name = some k := by cases k <;> rfl

end Kind

end Conformance
