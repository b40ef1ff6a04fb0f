import Conformance.Customs

/-!
# The surroundings of a check

A check reads objects from a store, calls callables it did not make, reads fields of objects it
knows nothing about, and leaves to custom classes what they do in ways of their own. A world
supplies the four. Nothing is assumed of the calls, the field reads and the custom classes beyond
their types: they may return any value or fault.
-/

namespace Conformance

/-- What a check can see besides its spec and value. -/
structure World where
  store : Store
  /-- Calls a callable that is not a path. -/
  external : Value → List Value → Except Fault Value
  /-- Reads a named field of a value other than a path or failure; `none` when it is missing. -/
  field : Value → String → Except Fault (Option Value)
  /-- What custom classes do. -/
  customs : Customs

namespace World

/-- Asks a context for its location, by calling it without arguments. -/
def locate (w : World) : Value → Except Fault Value
  | .path base _ _ => .ok base
  | context => w.external context []

/-- Reads a named field of any value. -/
def readField (w : World) (v : Value) (name : String) : Except Fault (Option Value) :=
  match v, name with
  | .path base _ _, "base" => .ok (some base)
  | .path _ depth _, "depth" => .ok (some depth)
  | .failure message _ _, "message" => .ok (some message)
  | .failure _ context _, "context" => .ok (some context)
  | .failure _ context _, "path" => (w.locate context).map some
  | v, name => w.field v name

/-- Reads a field, a missing one as null. A field whose own reading ends in the fault of a missing
attribute is missing as well; every other fault stands. -/
def fieldOrNull (w : World) (v : Value) (name : String) : Except Fault Value :=
  match w.readField v name with
  | .ok found => .ok (found.getD .null)
  | .error fault => if fault.name = "AttributeError" then .ok .null else .error fault

/-- The label of a value, or null. Classes, functions and validators carry theirs; that of any other
value is a field, and reading it may fault. -/
def label (w : World) (v : Value) : Except Fault Value :=
  match v with
  | .cls c => .ok (.str c.name)
  | .routine name _ => .ok (.str name)
  | v =>
    match w.store.rule? v with
    | some rule => .ok (.str rule.name)
    | none => w.fieldOrNull v "__name__"

/-- Whether a value is an instance of a class. A custom class is asked, and so is any class about an
instance of a custom one. -/
def isInstanceOf (w : World) (v : Value) (c : Class) : Except Fault Bool :=
  if c.custom || w.store.isCustom v then w.customs.judges c v
  else .ok ((w.store.classOf v).isA c)

/-- The fault of reading an attribute that a class does not have. -/
def missingOnClass (c : Class) (name : String) : Fault :=
  if c.looksUpByName then .missingName name else .missingClassAttribute c.name name

/-- The fault of reading a field that is not there. A generic class reads its fields off its
origin. -/
def missingField (w : World) (v : Value) (name : String) : Fault :=
  match v with
  | .cls c => missingOnClass c name
  | v@(.object address) =>
    match w.store.cell? address with
    | some (.generic origin _) => missingOnClass origin name
    | _ => .missingAttribute (w.store.reportedName v) name
  | v => .missingAttribute (w.store.reportedName v) name

/-- Reads a field that has to be there. -/
def requireField (w : World) (v : Value) (name : String) : Except Fault Value := do
  match ← w.readField v name with
  | some found => return found
  | none => throw (w.missingField v name)

end World

end Conformance
