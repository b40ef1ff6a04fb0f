import Conformance.World
import Conformance.Text.Quoted

/-!
# The text of a value

A value has a text of its own and a quoted form that stands for it inside containers; for most
values the two agree. A container that is met again inside its own quoted form is written as an
ellipsis in its brackets. Texts may fault: user objects refuse theirs, integers may be too long,
and a path whose base is no text has none. The natural form replaces a fault by the name of the
class in angle brackets, so it always exists.
-/

namespace Conformance

/-- Writes items between brackets, separated by commas. -/
def enclose (left right : String) (items : List String) : String :=
  left ++ ", ".intercalate items ++ right

namespace World

/-- The text of a number, or the fault that it is too long. -/
def writable (text : Option String) : Except Fault String :=
  match text with
  | some text => .ok text
  | none => .error .tooManyDigits

/-- The quoted form of a member of an enumeration, given that of its value. -/
def quotedMember (m : Member) (value : String) : String :=
  "<" ++ m.fullName ++ ": " ++ value ++ ">"

/-- The quoted form of a function or method. -/
def quotedRoutine (name : String) : Origin → String
  | .user => "<function " ++ name ++ ">"
  | .standard => "<built-in function " ++ name ++ ">"
  | .unbound owner => "<method '" ++ name ++ "' of '" ++ owner ++ "' objects>"
  | .composed owner => "<function " ++ owner ++ "." ++ name ++ ">"

/-- The quoted form of a value, given that of objects. -/
def quoteInline (quoteObject : Nat → Except Fault String) : Value → Except Fault String
  | .null => .ok "None"
  | .bool b => .ok (if b then "True" else "False")
  | .number x tag _ => do
    let text ← writable x.quoted?
    match tag with
    | .member m => return quotedMember m text
    | _ => return text
  | .text s tag =>
    match tag with
    | .member m => .ok (quotedMember m (Text.quote s))
    | _ => .ok (Text.quote s)
  | .bytes bytes => .ok (Text.quoteBytes bytes)
  | .symbol m value => do return quotedMember m (← quoteInline quoteObject value)
  | .cls c => .ok c.quoted
  | .routine name origin => .ok (quotedRoutine name origin)
  | .path base depth _ => do
    let base ← quoteInline quoteObject base
    let depth ← quoteInline quoteObject depth
    return "ContextPath(base=" ++ base ++ ", depth=" ++ depth ++ ")"
  | .failure message context _ => do
    let message ← quoteInline quoteObject message
    let context ← quoteInline quoteObject context
    return "ErrorResult(message=" ++ message ++ ", context=" ++ context ++ ")"
  | .object address => quoteObject address

/-- What stands for an object inside its own quoted form. -/
def ellipsis : Cell → String
  | .tuple _ _ => "(...)"
  | .mapping _ _ => "\x7b...\x7d"
  | .set cls _ => cls.name ++ "(...)"
  | .entity _ _ _ => "..."
  | _ => "[...]"

/-- Joins the quoted forms of the items of a tuple. -/
def quotedTuple : List String → String
  | [only] => "(" ++ only ++ ",)"
  | items => enclose "(" ")" items

/-- The name of a class as an alternative in a union of classes. -/
def alternativeName (c : Class) : String := if c = .null then "None" else c.qualifiedName

/-- Joins names and quoted values. -/
def assignments (names values : List String) : List String :=
  names.zipWith (fun name value => name ++ "=" ++ value) values

/-- Joins the quoted entries of a mapping. -/
def quotedMapping (cls : Class) (entries : List (String × String)) : String :=
  let plain := enclose "\x7b" "\x7d" (entries.map fun entry => entry.1 ++ ": " ++ entry.2)
  match cls.name with
  | "OrderedDict" =>
    if entries.isEmpty then "OrderedDict()"
    else enclose "OrderedDict([" "])" (entries.map fun entry => enclose "(" ")" [entry.1, entry.2])
  | "mappingproxy" => "mappingproxy(" ++ plain ++ ")"
  | "defaultdict" => "defaultdict(" ++ plain ++ ")"
  | _ => plain

/-- The quoted form of an object with these contents, given that of the values in it. -/
def quoteCell (quoteValue : Value → Except Fault String) : Cell → Except Fault String
  | .list _ items => do return enclose "[" "]" (← items.mapM quoteValue)
  | .tuple cls items => do
    let items ← items.mapM quoteValue
    if cls.itemNames.isEmpty then return quotedTuple items
    else return enclose (cls.name ++ "(") ")" (assignments cls.itemNames items)
  | .queue items => do return enclose "deque([" "])" (← items.mapM quoteValue)
  | .wrapper data => quoteValue (.object data)
  | .range start stop step => do
    let bounds := if step = 1 then [start, stop] else [start, stop, step]
    return enclose "range(" ")" (← bounds.mapM fun bound => writable (Text.intText? bound))
  | .buffer bytes => .ok (Text.quoteBuffer bytes)
  | .mapping cls entries => do
    let entries ← entries.mapM fun entry => do
      return (← quoteValue entry.1, ← quoteValue entry.2)
    return quotedMapping cls entries
  | .set cls items => do
    let items ← items.mapM quoteValue
    if items.isEmpty then return cls.name ++ "()"
    else if cls.name = "set" then return enclose "\x7b" "\x7d" items
    else return cls.name ++ "(" ++ enclose "\x7b" "\x7d" items ++ ")"
  | .application target _ => do return "functools.partial(" ++ (← quoteValue target) ++ ")"
  | .functor _ => .ok "<Functor object>"
  | .generic origin parameter => .ok (origin.name ++ "[" ++ parameter.qualifiedName ++ "]")
  | .classUnion classes => .ok (" | ".intercalate (classes.map alternativeName))
  | .entity cls fields text =>
    match text with
    | .fields _ => do
      let values ← (fields.map (·.2)).mapM quoteValue
      return enclose (cls.name ++ "(") ")" (assignments (fields.map (·.1)) values)
    | _ => .ok ("<" ++ cls.name ++ " object>")
  | .validator rule => .ok ("<function " ++ rule.name ++ ">")

/-- The quoted form of an object inside the objects `inside`. Each level enters a new object, so
as many levels as there are objects are enough. -/
def quoteObject (w : World) : Nat → List Nat → Nat → Except Fault String
  | 0, _, _ => .error .unbounded
  | levels + 1, inside, address =>
    match w.store.cell? address with
    | none => .ok "<object>"
    | some cell =>
      if inside.contains address then .ok (ellipsis cell)
      else quoteCell (quoteInline (w.quoteObject levels (address :: inside))) cell

/-- The quoted form of a value. -/
def quoted (w : World) (v : Value) : Except Fault String :=
  quoteInline (w.quoteObject (w.store.size + 1) []) v

/-- The text of an entity. -/
def entityText (w : World) (v : Value) (fields : List (String × Value)) :
    EntityText → Except Fault String
  | .fixed text => .ok text
  | .faulty fault => .error fault
  | .fields true => w.quoted v
  | .fields false => do
    let values ← (fields.map (·.2)).mapM w.quoted
    return " ".intercalate (assignments (fields.map (·.1)) values)

/-- The text of a value that has to be a text already. -/
def ownText (w : World) : Value → Except Fault String
  | .text s _ => .ok s
  | v => .error (.textNotString (w.store.reportedName v))

/-- The text of a value that is no failure. -/
def leafText (w : World) : Value → Except Fault String
  | .text s (.member m) => .ok (if m.textOfValue then s else m.fullName)
  | .text s _ => .ok s
  | .number x tag _ =>
    match tag with
    | .member m => if m.textOfValue then writable x.text? else .ok m.fullName
    | _ => writable x.text?
  | .symbol m _ => .ok m.fullName
  | .path base _ _ => w.ownText base
  | .failure _ _ _ => .error .unbounded
  | v@(.object address) =>
    match w.store.cell? address with
    | some (.entity _ fields text) => w.entityText v fields text
    | _ => w.quoted v
  | v => w.quoted v

/-- The text of a value. A failure is written as its location and its message; without a location
its message stands alone. -/
def text (w : World) : Value → Except Fault String
  | .failure message (.path base _ _) _ =>
    if w.store.isTrue base then do
      return (← text w base) ++ " |> " ++ (← text w message)
    else w.ownText message
  | .failure message context _ => do
    let location ← w.locate context
    if w.store.isTrue location then
      return (← w.leafText location) ++ " |> " ++ (← text w message)
    else w.ownText message
  | v => w.leafText v

/-- The text of a value, or the name of its class in angle brackets if it has none. -/
def natural (w : World) (v : Value) : String :=
  match w.text v with
  | .ok text => text
  | .error _ => "<" ++ w.store.typeName v ++ ">"

end World

end Conformance
