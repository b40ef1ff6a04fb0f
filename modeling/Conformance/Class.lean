/-!
# Classes

A class is nominal: it has a name and it lists the names of all classes above it. An instance of
a class is an instance of every class it lists. The classes of the values that need no store are
defined here; user classes are made in the same way.

A class goes by its bare name. Its qualified name also tells the module that holds it; it appears
in the quoted form of the class and, for some classes, in the faults that speak of an instance.

A class may be custom: it formats its instances if they are texts, looks their keys up if they are
mappings, and answers what its instances are and what they are instances of, in its own ways. None
of the classes here and in the catalogue is. What custom classes do is up to the world.
-/

namespace Conformance

/-- A class of values. -/
structure Class where
  name : String
  /-- The names of the classes above it, nearest first. -/
  ancestors : List String
  /-- Whether its instances can be called. -/
  callable : Bool
  /-- Whether its instances can be keys of a mapping, as far as their own contents allow. -/
  hashable : Bool
  /-- The name of the class that this class is an instance of. -/
  family : String
  /-- The module that holds it; empty for the classes that are always at hand. -/
  module : String
  /-- Whether faults name its instances with the module. -/
  reportsModule : Bool
  /-- The names under which the items of its instances can be read, for tuples with names. -/
  itemNames : List String
  /-- Whether it treats its instances in ways of its own. -/
  custom : Bool
deriving DecidableEq, Repr

namespace Class

/-- Whether instances of the first class are instances of the second. -/
def isA (c d : Class) : Bool := c.name == d.name || c.ancestors.contains d.name

/-- The name of a class with that of its module. -/
def qualifiedName (c : Class) : String :=
  if c.module.isEmpty then c.name else c.module ++ "." ++ c.name

/-- The name by which faults speak of an instance. -/
def reportedName (c : Class) : String := if c.reportsModule then c.qualifiedName else c.name

/-- Whether a class is an enumeration. -/
def isEnumeration (c : Class) : Bool := c.family == "EnumType"

/-- Whether a class looks its missing attributes up in its own way, whose fault gives only the
name that was looked for. -/
def looksUpByName (c : Class) : Bool := c.isEnumeration || c.family == "ModelMetaclass"

/-- The quoted form of the class itself. -/
def quoted (c : Class) : String :=
  if c.isEnumeration then "<enum '" ++ c.name ++ "'>" else "<class '" ++ c.qualifiedName ++ "'>"

/-- A class of the standard vocabulary. -/
def standard (name : String) (ancestors : List String) : Class :=
  ⟨name, ancestors ++ ["object"], false, true, "type", "", false, [], false⟩

/-- The same class with callable instances. -/
def withCallable (c : Class) : Class := { c with callable := true }

/-- The same class with instances that cannot be keys. -/
def unhashable (c : Class) : Class := { c with hashable := false }

/-- The same class with ways of its own. -/
def customized (c : Class) : Class := { c with custom := true }

/-- The same class as a member of another family of classes. -/
def inFamily (c : Class) (family : String) : Class := { c with family := family }

/-- The same class in the module that holds it. -/
def inModule (c : Class) (module : String) : Class := { c with module := module }

/-- The same class in its module, with faults that name the module. -/
def reportedIn (c : Class) (module : String) : Class :=
  { c with module := module, reportsModule := true }

def null : Class := standard "NoneType" []
def int : Class := standard "int" []
def bool : Class := standard "bool" ["int"]
def float : Class := standard "float" []
def complex : Class := standard "complex" []
def decimal : Class := (standard "Decimal" []).reportedIn "decimal"
def fraction : Class := ((standard "Fraction" []).inModule "fractions").inFamily "ABCMeta"
def string : Class := standard "str" ["Sequence"]
def bytes : Class := standard "bytes" ["Sequence"]

/-- Functions written by a user, validators included. -/
def function : Class := (standard "function" []).withCallable

/-- Functions and methods that come with the standard vocabulary. -/
def builtinFunction : Class := (standard "builtin_function_or_method" []).withCallable

/-- Methods read off their class, which have no instance yet. -/
def unboundMethod : Class := (standard "method_descriptor" []).withCallable

def path : Class := (standard "ContextPath" []).withCallable
def failure : Class := standard "ErrorResult" []

def queue : Class := ((standard "deque" ["Sequence"]).reportedIn "collections").unhashable
def wrapper : Class :=
  (((standard "UserList" ["Sequence"]).inModule "collections").unhashable).inFamily "ABCMeta"
def range : Class := standard "range" ["Sequence"]
def buffer : Class := (standard "bytearray" ["Sequence"]).unhashable
def application : Class := ((standard "partial" []).reportedIn "functools").withCallable
def functor : Class := (standard "Functor" []).withCallable
def generic : Class := ((standard "GenericAlias" []).reportedIn "types").withCallable
def classUnion : Class := (standard "UnionType" []).reportedIn "types"

/-- The class that a class of the given family is an instance of. -/
def ofFamily (family : String) : Class :=
  if family = "type" then standard "type" [] else standard family ["type"]

end Class

end Conformance
