import Conformance.Store

/-!
# Classes, kinds and truth of values

Every value has exactly one class and exactly one kind. The kind is the coarse vocabulary of type
names; the display kind used in messages tells arrays and classes apart as well. A value counts
as false when it is null, false, zero, or an empty text or container.
-/

namespace Conformance

namespace Value

/-- The class of a number's format. -/
def formatClass : Number → Class
  | .int _ => .int
  | .float _ => .float
  | .complex _ _ => .complex
  | .decimal _ => .decimal
  | .fraction _ => .fraction

/-- The class a tag gives to contents of class `c`. -/
def tagClass (c : Class) : Tag → Class
  | .plain => c
  | .derived own => own
  | .member m => m.cls

/-- The class of a function or method. -/
def originClass : Origin → Class
  | .user => .function
  | .standard => .builtinFunction
  | .unbound _ => .unboundMethod
  | .composed _ => .function

end Value

namespace Cell

/-- The class of an object with these contents. -/
def classOf : Cell → Class
  | .list cls _ | .tuple cls _ | .mapping cls _ | .set cls _ | .entity cls _ _ => cls
  | .queue _ => .queue
  | .wrapper _ => .wrapper
  | .range _ _ _ => .range
  | .buffer _ => .buffer
  | .application _ _ => .application
  | .functor _ => .functor
  | .generic _ _ => .generic
  | .classUnion _ => .classUnion
  | .validator _ => .function

end Cell

namespace Store

/-- The class of a value. An address without an object has the class of plain objects. -/
def classOf (σ : Store) : Value → Class
  | .null => .null
  | .bool _ => .bool
  | .number x tag _ => Value.tagClass (Value.formatClass x) tag
  | .text _ tag => Value.tagClass .string tag
  | .bytes _ => .bytes
  | .symbol member _ => member.cls
  | .cls c => .ofFamily c.family
  | .routine _ origin => Value.originClass origin
  | .path _ _ _ => .path
  | .failure _ _ _ => .failure
  | .object address => ((σ.cell? address).map Cell.classOf).getD (.standard "object" [])

/-- The name of a value's class. -/
def typeName (σ : Store) (v : Value) : String := (σ.classOf v).name

/-- The name by which faults speak of a value's class. -/
def reportedName (σ : Store) (v : Value) : String := (σ.classOf v).reportedName

/-- Whether a value is an instance of a custom class. -/
def isCustom (σ : Store) (v : Value) : Bool := (σ.classOf v).custom

/-- Whether a value can be called. Classes can: calling one makes an instance. -/
def isCallable (σ : Store) : Value → Bool
  | .cls _ | .routine _ _ | .path _ _ _ => true
  | .object address => ((σ.cell? address).map fun cell => cell.classOf.callable).getD false
  | _ => false

/-- The kind of a value. -/
def kindOf (σ : Store) (v : Value) : Kind :=
  match v with
  | .null => .null
  | .bool _ => .boolean
  | .number _ _ _ => .number
  | .text _ _ => .string
  | _ => if σ.isCallable v then .function else .object

/-- The display kind of a value: arrays and classes are named as such. -/
def displayKind (σ : Store) (v : Value) : String :=
  if (σ.arrayItems? v).isSome then "array"
  else match v with
    | .cls _ => "class"
    | _ => (σ.kindOf v).name

/-- Whether an object with these contents counts as true. -/
def cellTruth (σ : Store) : Cell → Bool
  | .list _ items | .tuple _ items | .queue items | .set _ items => !items.isEmpty
  | .wrapper data => !(σ.wrapped data).isEmpty
  | .range start stop step => rangeLength start stop step != 0
  | .buffer bytes => !bytes.isEmpty
  | .mapping _ entries => !entries.isEmpty
  | _ => true

/-- Whether a value counts as true. -/
def isTrue (σ : Store) : Value → Bool
  | .null => false
  | .bool b => b
  | .number x _ _ => !x.isZero
  | .text s _ => !s.isEmpty
  | .bytes bytes => !bytes.isEmpty
  | .object address => ((σ.cell? address).map σ.cellTruth).getD true
  | _ => true

end Store

end Conformance
