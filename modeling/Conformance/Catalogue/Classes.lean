import Conformance.Store

/-!
# The classes that specs and values can name

Besides the classes of values that need no store there are those of containers, the abstract
classes of mappings and sequences, four enumerations, and a number of user classes: plain objects
with an own way of being written or read, records, and classes derived from scalars and
containers. Each is defined once, so a class named twice is the same class.
-/

namespace Conformance.Catalogue

/-- The class of all values. -/
def objectClass : Class := { Class.standard "object" [] with ancestors := [] }

def classClass : Class := Class.standard "type" []

def listClass : Class := (Class.standard "list" ["Sequence"]).unhashable
def tupleClass : Class := Class.standard "tuple" ["Sequence"]
def dictClass : Class := (Class.standard "dict" ["Mapping"]).unhashable
def setClass : Class := (Class.standard "set" []).unhashable
def frozenSetClass : Class := Class.standard "frozenset" []

/-- A mapping class from the collections of the standard vocabulary. -/
def collection (name : String) (ancestors : List String) : Class :=
  (Class.standard name ancestors).unhashable

def orderedDictClass : Class :=
  (collection "OrderedDict" ["dict", "Mapping"]).reportedIn "collections"
def defaultDictClass : Class :=
  (collection "defaultdict" ["dict", "Mapping"]).reportedIn "collections"
def userDictClass : Class :=
  ((collection "UserDict" ["Mapping"]).inModule "collections").inFamily "ABCMeta"
def proxyClass : Class := (Class.standard "mappingproxy" ["Mapping"]).unhashable

/-- An abstract class of containers. -/
def abstractClass (name : String) : Class :=
  ((Class.standard name []).inModule "collections.abc").inFamily "ABCMeta"

def mappingClass : Class := abstractClass "Mapping"
def sequenceClass : Class := abstractClass "Sequence"

def exceptionClass : Class := Class.standard "Exception" []
def valueErrorClass : Class := Class.standard "ValueError" ["Exception"]

/-- The class of the descriptors through which fields of a standard class are read. -/
def descriptorClass : Class := Class.standard "getset_descriptor" []

/-- An enumeration class. -/
def enumeration (name : String) (ancestors : List String) : Class :=
  ((Class.standard name ancestors).inModule "__main__").inFamily "EnumType"

/-- The class of all members of enumerations, itself an enumeration without members. -/
def enumClass : Class := (enumeration "Enum" []).inModule "enum"
def colorClass : Class := enumeration "Color" ["Enum"]
def levelClass : Class := enumeration "Level" ["int", "Enum"]
def moodClass : Class := enumeration "Mood" ["str", "Enum", "Sequence"]
def kindClass : Class := enumeration "Kind" ["str", "Enum", "Sequence"]

/-- A class written by a user. -/
def userClass (name : String) (ancestors : List String) : Class :=
  (Class.standard name ancestors).inModule "__main__"

def plainClass : Class := userClass "Plain" []
def animalClass : Class := userClass "Animal" ["Plain"]
def dogClass : Class := userClass "Dog" ["Animal", "Plain"]
def catClass : Class := userClass "Cat" ["Animal", "Plain"]
def alwaysEqualClass : Class := (userClass "AlwaysEqual" ["Plain"]).unhashable
def brokenClass : Class := userClass "Broken" ["Plain"]
def nonStrClass : Class := userClass "NonStr" ["Plain"]
def explodingClass : Class := userClass "Exploding" ["Plain"]
def magicClass : Class := userClass "Magic" ["Plain"]

def personClass : Class := ((userClass "Person" []).inFamily "ModelMetaclass").unhashable
def addressClass : Class := ((userClass "Address" []).inFamily "ModelMetaclass").unhashable
def userRecordClass : Class := (userClass "User" []).unhashable

def nameClass : Class := userClass "Name" ["str", "Sequence"]
def countClass : Class := userClass "Count" ["int"]
def ratioClass : Class := userClass "Ratio" ["float"]
def myListClass : Class := (userClass "MyList" ["list", "Sequence"]).unhashable
def myTupleClass : Class := userClass "MyTuple" ["tuple", "Sequence"]
def myDictClass : Class := (userClass "MyDict" ["dict", "Mapping"]).unhashable
def callableListClass : Class :=
  ((userClass "CallableList" ["list", "Sequence"]).unhashable).withCallable
def callableDictClass : Class :=
  ((userClass "CallableDict" ["dict", "Mapping"]).unhashable).withCallable

/-- Pairs with the item names `x` and `y`. -/
def pointClass : Class :=
  { userClass "Pt" ["tuple", "Sequence"] with itemNames := ["x", "y"] }

/-- All classes that can be named. -/
def classes : List Class :=
  [.null, .int, .bool, .float, .complex, .decimal, .fraction, .string, .bytes, .queue, .wrapper,
   .range, .buffer, .application, .functor, .generic, .classUnion, .function, .builtinFunction,
   .path, .failure, objectClass, classClass, listClass, tupleClass, dictClass, setClass,
   frozenSetClass, orderedDictClass, defaultDictClass, userDictClass, proxyClass, mappingClass,
   sequenceClass, exceptionClass, valueErrorClass, enumClass, colorClass, levelClass, moodClass,
   kindClass, plainClass, animalClass, dogClass, catClass, alwaysEqualClass, brokenClass,
   nonStrClass, explodingClass, magicClass, personClass, addressClass, userRecordClass, nameClass,
   countClass, ratioClass, myListClass, myTupleClass, myDictClass, callableListClass,
   callableDictClass, pointClass]

/-- The class with this name. -/
def class? (name : String) : Option Class := classes.find? (·.name == name)

/-- The member `RED` of `Color`; it is also known as `CRIMSON`. -/
def red : Value := .symbol ⟨colorClass, "RED", false⟩ (.str "red")
def blue : Value := .symbol ⟨colorClass, "BLUE", false⟩ (.str "blue")
def low : Value := .number (.int 1) (.member ⟨levelClass, "LOW", true⟩) 0
def high : Value := .number (.int 2) (.member ⟨levelClass, "HIGH", true⟩) 0
def happy : Value := .text "happy" (.member ⟨moodClass, "HAPPY", true⟩)
def kindA : Value := .text "a" (.member ⟨kindClass, "A", false⟩)

/-- The members of the enumerations under all their names. -/
def members : List (String × Value) :=
  [("Color.RED", red), ("Color.BLUE", blue), ("Color.CRIMSON", red), ("Level.LOW", low),
   ("Level.HIGH", high), ("Mood.HAPPY", happy), ("Kind.A", kindA)]

/-- The member with this full name. -/
def member? (fullName : String) : Option Value :=
  (members.find? (·.1 == fullName)).map (·.2)

/-- The members of an enumeration, each under its first name. -/
def membersOf (c : Class) : List Value :=
  ((members.filter fun member => member.1.startsWith (c.name ++ ".")).map (·.2)).eraseDups

end Conformance.Catalogue
