import Conformance.Catalogue.Classes
import Conformance.Catalogue.Methods
import Conformance.Kind

/-!
# The fields of catalogue values

Which named fields a value has depends on its class: every value has its class, numbers have
their parts, members of enumerations their name and value, ranges their bounds, wrappers their
list, and entities the fields they were made with. Two user classes read their fields in their own
way: `Magic` answers for every missing name, and `Exploding` faults on one name.
-/

namespace Conformance.Catalogue

/-- The address of the empty tuple that all empty tuples are. -/
def emptyTuple : Nat := 0

/-- The address of the pair that the function `ret_pair` returns. -/
def returnedPair : Nat := 1

/-- The address of the descriptor through which the real part of an integer is read. -/
def realDescriptor : Nat := 2

/-- The objects that are there from the start, at the addresses above. -/
def lastingObjects : List Cell :=
  [.tuple tupleClass [],
   .tuple tupleClass [.str "pair", .rootPath (.str "pp")],
   .entity descriptorClass [("__name__", .str "real")]
    (.fixed "<attribute 'real' of 'int' objects>")]

/-- The objects that classes give when they are called without arguments. They are shown and then
forgotten, so one for each class is enough. -/
def blanks : List Cell :=
  [.list listClass [], .mapping dictClass [], .set setClass [], .set frozenSetClass [],
   .buffer [], .entity objectClass [] (.fixed "<object object>"),
   .entity exceptionClass [] (.fixed ""), .entity valueErrorClass [] (.fixed ""),
   .list myListClass [], .tuple myTupleClass [], .mapping myDictClass [],
   .list callableListClass [], .mapping callableDictClass []]

/-- The object that a class gives when it is called without arguments. -/
def blank? (c : Class) : Option Value :=
  (blanks.findIdx? fun cell => cell.classOf.name == c.name).map fun place =>
    .object (lastingObjects.length + place)

/-- The store before any value is made. -/
def initialStore : Store := ⟨(lastingObjects ++ blanks).toArray⟩

/-- A method as a field, if the name is among those of the class. -/
def method? (methods : List String) (name : String) : Option Value :=
  if methods.contains name then some (.routine name .standard) else none

/-- The fields of a member of an enumeration. -/
def memberField? (m : Member) (value : Value) : String → Option Value
  | "name" => some (.str m.name)
  | "value" => some value
  | _ => none

/-- The fields of a number. Some give the number itself, which keeps its mark. -/
def numberField? (x : Number) (mark : Nat) (name : String) : Option Value :=
  match x, name with
  | .int n, "real" | .int n, "numerator" => some (.int n)
  | .int _, "imag" => some (.int 0)
  | .int _, "denominator" => some (.int 1)
  | .int _, name => method? intMethods name
  | .float re, "real" => some (.number (.float re) .plain mark)
  | .float _, "imag" => some (.float .zero)
  | .float _, name => method? floatMethods name
  | .complex re _, "real" => some (.float re)
  | .complex _ im, "imag" => some (.float im)
  | .complex _ _, name => method? complexMethods name
  | .decimal x, "real" => some (.number (.decimal x) .plain mark)
  | .decimal _, "imag" => some (.number (.decimal (.finite false 0 0)) .plain 0)
  | .decimal _, name => method? decimalMethods name
  | .fraction q, "real" => some (.number (.fraction q) .plain mark)
  | .fraction _, "imag" => some (.int 0)
  | .fraction q, "numerator" => some (.int q.num)
  | .fraction q, "denominator" => some (.int q.den)
  | .fraction _, name => method? fractionMethods name

/-- A method read off a class, given the class that defines it. -/
def methodOf (owner name : String) : Value :=
  if instanceFree.contains name then .routine name .standard
  else if composedClasses.contains owner then .routine name (.composed owner)
  else .routine name (.unbound owner)

/-- A method that a class defines or takes over from a class above it. -/
def classMethod? (c : Class) (name : String) : Option Value :=
  ((c.name :: c.ancestors).find? fun owner => (ownMethods owner).contains name).map
    fun owner => methodOf owner name

/-- The fields of a class. -/
def classField? (c : Class) (name : String) : Option Value :=
  if name = "__name__" then some (.str c.name)
  else if c.isA .int && name = "real" then some (.object realDescriptor)
  else (member? (c.name ++ "." ++ name)).or (classMethod? c name)

/-- The fields of a tuple, named items included. -/
def tupleField? (cls : Class) (items : List Value) (name : String) : Option Value :=
  match (cls.itemNames.zip items).find? (·.1 == name) with
  | some item => some item.2
  | none => method? tupleMethods name

/-- The fields of an entity. -/
def entityField (cls : Class) (fields : List (String × Value)) (name : String) :
    Except Fault (Option Value) :=
  match fields.find? (·.1 == name) with
  | some field => .ok (some field.2)
  | none =>
    if cls.name = "Magic" then .ok (some (.str ("magic:" ++ name)))
    else if cls.name = "Exploding" && name = "boom" then .error (.raised "RuntimeError" "boom")
    else .ok none

/-- The fields of an object with these contents. -/
def cellField (name : String) : Cell → Except Fault (Option Value)
  | .list _ _ => .ok (method? listMethods name)
  | .tuple cls items => .ok (tupleField? cls items name)
  | .queue _ => .ok (if name = "maxlen" then some .null else method? queueMethods name)
  | .wrapper data =>
    .ok (if name = "data" then some (.object data) else method? listMethods name)
  | .range start stop step =>
    .ok (match name with
      | "start" => some (.int start)
      | "stop" => some (.int stop)
      | "step" => some (.int step)
      | name => method? tupleMethods name)
  | .buffer _ => .ok (method? bufferMethods name)
  | .mapping _ _ => .ok (method? mappingMethods name)
  | .set cls _ =>
    .ok (method? (if cls.name = "set" then setMethods else frozenSetMethods) name)
  | .application target keywords =>
    .ok (match name with
      | "func" => some target
      | "args" => some (.object emptyTuple)
      | "keywords" => some keywords
      | _ => none)
  | .functor label => .ok (if name = "__name__" then label else none)
  | .generic origin _ => .ok (classField? origin name)
  | .classUnion _ => .ok none
  | .entity cls fields _ => entityField cls fields name
  | .validator rule => .ok (if name = "__name__" then some (.str rule.name) else none)

/-- Reads a field of a value other than a path or failure. -/
def field (σ : Store) (v : Value) (name : String) : Except Fault (Option Value) :=
  if name = "__class__" then .ok (some (.cls (σ.classOf v)))
  else match v with
    | .null => .ok none
    | .bool b => .ok (numberField? (.int (if b then 1 else 0)) 0 name)
    | .number x (.member m) mark =>
      .ok ((memberField? m (.number x .plain mark) name).or (numberField? x mark name))
    | .number x _ mark => .ok (numberField? x mark name)
    | .text s (.member m) =>
      .ok ((memberField? m (.str s) name).or (method? textMethods name))
    | .text _ _ => .ok (method? textMethods name)
    | .bytes _ => .ok (method? bytesMethods name)
    | .symbol m value => .ok (memberField? m value name)
    | .cls c => .ok (classField? c name)
    | .routine routine _ => .ok (if name = "__name__" then some (.str routine) else none)
    | .path _ _ _ | .failure _ _ _ => .ok none
    | .object address =>
      match σ.cell? address with
      | some cell => cellField name cell
      | none => .ok none

end Conformance.Catalogue
