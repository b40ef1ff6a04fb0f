import Conformance.Catalogue.Functions
import Conformance.Check
import Conformance.Options.Override

/-!
# Sessions

A session holds what one operation may leave for the next: the objects made so far, the values
that were given names, the options in effect, and the options contexts that are open. Opening a
context overrides the options and keeps those that were in effect; closing it puts exactly those
back, in whatever order contexts are closed. A context whose overrides are not accepted is not
opened and changes nothing.
-/

namespace Conformance

/-- What lasts from one operation to the next. -/
structure Session where
  store : Store
  options : Options
  /-- The named values, the latest first. -/
  named : List (String × Value)
  /-- The open contexts with the options they replaced, the latest first. -/
  opened : List (String × Options)
  /-- How many values have been marked. -/
  marks : Nat

/-- Changes a session and gives a value or a fault. What was changed before a fault stays. -/
abbrev Making (α : Type) := ExceptT Fault (StateM Session) α

namespace Session

/-- The session before the first operation. -/
def initial : Session := ⟨Catalogue.initialStore, {}, [], [], 0⟩

/-- The world a check sees in this session. -/
def world (s : Session) : World := Catalogue.world s.store s.options

/-- Opens an options context under a name. -/
def enter (read : Options.Reading) (s : Session) (name : String)
    (overrides : List (String × Value)) : Except (List Issue) Session := do
  let options ← s.options.override read overrides
  return { s with
    options := options
    opened := (name, s.options) :: s.opened.filter (·.1 != name) }

/-- Closes the options context of a name, which has to be open. -/
def leave (s : Session) (name : String) : Except Fault Session :=
  match s.opened.find? (·.1 == name) with
  | none => .error (.missingKey (Text.quote name))
  | some context =>
    .ok { s with options := context.2, opened := s.opened.filter (·.1 != name) }

end Session

namespace Making

/-- Lifts an outcome. -/
def ofExcept {α : Type} (outcome : Except Fault α) : Making α :=
  match outcome with
  | .ok value => pure value
  | .error fault => throw fault

/-- The world a check sees now. -/
def world : Making World := do return (← get).world

/-- Makes an object. -/
def object (cell : Cell) : Making Value := do
  let s ← get
  let (store, address) := s.store.insert cell
  set { s with store := store }
  return .object address

/-- Replaces the contents of an object. -/
def replace (address : Nat) (cell : Cell) : Making Unit :=
  modify fun s => { s with store := s.store.replace address cell }

/-- A mark that no value has yet. -/
def mark : Making Nat := do
  let s ← get
  set { s with marks := s.marks + 1 }
  return s.marks + 1

/-- Gives a path or failure a mark of its own, and a number that does not equal itself. -/
def distinct (v : Value) : Making Value :=
  match v with
  | .path base depth _ => do return .path base depth (← mark)
  | .failure message context _ => do return .failure message context (← mark)
  | .number x tag _ => do
    if x.equalsItself then return v else return .number x tag (← mark)
  | v => pure v

/-- Gives a value a name. -/
def name (name : String) (v : Value) : Making Unit :=
  modify fun s => { s with named := (name, v) :: s.named }

/-- The value with a name. -/
def named (name : String) : Making Value := do
  match (← get).named.find? (·.1 == name) with
  | some found => return found.2
  | none => throw (.missingKey (Text.quote name))

/-- Makes a list. -/
def list (cls : Class) (items : List Value) : Making Value := object (.list cls items)

/-- Makes a tuple; an empty one of the plain class is always the same. -/
def tuple (cls : Class) (items : List Value) : Making Value :=
  if cls = Catalogue.tupleClass && items.isEmpty then pure (.object Catalogue.emptyTuple)
  else object (.tuple cls items)

/-- The items a value gives when it is taken apart: the members of an enumeration, the named
fields of a record whose class looks them up in its own way, and the parts of anything else. -/
def items (v : Value) : Making (List Value) := do
  let w ← world
  match v, recordFields? w with
  | .cls c, _ => if c.isEnumeration then return Catalogue.membersOf c else parts w
  | _, some fields => fields.mapM fun field => tuple Catalogue.tupleClass [.str field.1, field.2]
  | _, none => parts w
where
  parts (w : World) : Making (List Value) :=
    match w.parts? v with
    | some items => pure items
    | none => throw (.notIterable (w.store.reportedName v))
  recordFields? (w : World) : Option (List (String × Value)) :=
    match v with
    | .object address =>
      match w.store.cell? address with
      | some (.entity cls fields _) => if cls.looksUpByName then some fields else none
      | _ => none
    | _ => none

/-- Makes a wrapper around a list of its own. -/
def wrapper (items : List Value) : Making Value := do
  match ← list Catalogue.listClass items with
  | .object address => object (.wrapper address)
  | v => return v

/-- Makes a wrapper around a list of the items of a value; null has none. -/
def wrapperOf (v : Value) : Making Value := do
  wrapper (← if v = .null then pure [] else items v)

/-- Makes a range, whose step may not be zero. -/
def range (start stop step : Int) : Making Value :=
  if step = 0 then throw (.raised "ValueError" "range() arg 3 must not be zero")
  else object (.range start stop step)

/-- Makes a fraction in lowest terms, whose denominator may not be zero. -/
def fraction (numerator denominator : Int) : Making Value :=
  if denominator = 0 then
    throw (.raised "ZeroDivisionError" ("Fraction(" ++ Text.intText numerator ++ ", 0)"))
  else pure (.number (.fraction ((numerator : Rat) / (denominator : Rat))) .plain 0)

/-- Puts an item into the items of a set; an equal item stays as it is. -/
def putMember (items : List Value) (item : Value) : Making (List Value) := do
  let store := (← get).store
  match store.hashFault? item with
  | some fault => throw fault
  | none => return if items.any (store.keyMatches item) then items else items ++ [item]

/-- Makes a set; equal items are kept once. -/
def set (cls : Class) (items : List Value) : Making Value := do
  object (.set cls (← items.foldlM putMember []))

/-- Puts an entry into a list of entries. An equal key keeps its place and form. -/
def putEntry (entries : List (Value × Value)) (key value : Value) :
    Making (List (Value × Value)) := do
  let store := (← get).store
  match store.hashFault? key with
  | some fault => throw fault
  | none =>
    if entries.any fun entry => store.keyMatches key entry.1 then
      return entries.map fun entry =>
        if store.keyMatches key entry.1 then (entry.1, value) else entry
    else return entries ++ [(key, value)]

/-- Makes a mapping of the entries it keeps of those it is given, in order. -/
def mapping (cls : Class) (entries : List (Value × Value)) : Making Value := do
  object (.mapping cls (← entries.foldlM (fun kept entry => putEntry kept entry.1 entry.2) []))

/-- Makes a partial application of a function. -/
def application (target : Value) : Making Value := do
  let keywords ← mapping Catalogue.dictClass []
  object (.application target keywords)

/-- Wraps a value a number of times, each time in a new container. -/
def nest (wrap : Value → Making Value) : Nat → Value → Making Value
  | 0, v => pure v
  | count + 1, v => do nest wrap count (← wrap v)

/-- Makes an entity of a plain user class with these fields and this text. -/
def entity (cls : Class) (fields : List (String × Value)) (text : String) : Making Value :=
  let text : EntityText := match cls.name with
    | "Broken" => .faulty (.raised "RuntimeError" "boom")
    | "NonStr" => .faulty (.textNotString "int")
    | _ => .fixed text
  object (.entity cls fields text)

/-- The declared fields of a record class with the values they have when not given. -/
def declaredFields (cls : Class) : List (String × Value) :=
  match cls.name with
  | "Person" => [("name", .null), ("address", .null)]
  | "Address" => [("city", .null)]
  | "User" => [("name", .null), ("age", .null)]
  | _ => []

/-- Makes a record with these fields. -/
def record (cls : Class) (given : List (String × Value)) : Making Value :=
  let fields := (declaredFields cls).map fun field =>
    match given.find? (·.1 == field.1) with
    | some found => found
    | none => field
  object (.entity cls fields (.fields (cls.name == "User")))

/-- The entries a value gives to a new mapping: its own, or those it lists as pairs. -/
def entriesOf (v : Value) : Making (List (Value × Value)) := do
  let w ← world
  match w.store.entries? v with
  | some entries => return entries
  | none => ((← items v).zipIdx).mapM fun item => pair w item.1 item.2
where
  pair (w : World) (item : Value) (place : Nat) : Making (Value × Value) :=
    match w.parts? item with
    | some [key, value] => pure (key, value)
    | some parts =>
      throw (.raised "ValueError" ("dictionary update sequence element #" ++
        Text.natText place ++ " has length " ++ Text.natText parts.length ++ "; 2 is required"))
    | none =>
      throw (.refusedArguments ("cannot convert dictionary update sequence element #" ++
        Text.natText place ++ " to a sequence"))

/-- Makes a union of classes: each is named once, and a single one is the class itself. -/
def classUnion (classes : List Class) : Making Value :=
  match classes.eraseDups with
  | [only] => pure (.cls only)
  | classes => object (.classUnion classes)

/-- Makes an instance of a class from a value of the class it is derived from, or from one that
can be made into such a value. -/
def derived (cls : Class) (v : Value) : Making Value := do
  if cls.ancestors.contains "dict" then mapping cls (← entriesOf v)
  else if cls.ancestors.contains "list" then list cls (← items v)
  else if cls.ancestors.contains "tuple" then tuple cls (← items v)
  else distinct (← ofExcept (Catalogue.constructOf (← world) cls v))

/-- Makes a validator of a rule. -/
def validator (rule : Rule) : Making Value := object (.validator rule)

/-- The validator a spec stands for, as a value; a callable spec is its own validator. -/
def ensure (spec : Value) : Making Value := do
  let w ← world
  match spec with
  | .text _ _ | .cls _ => fresh w
  | spec => if w.store.isCallable spec then return spec else fresh w
where
  fresh (w : World) : Making Value := do
    match ← ofExcept (w.resolve spec) with
    | .rule rule => validator rule
    | .external callee => return callee

/-- Puts an item into a list at a place. -/
def putItem (items : List Value) (key value : Value) : Making (List Value) := do
  match key.asNumber? with
  | some (.int n) =>
    match World.placeOf? items.length n with
    | some place => return items.set place value
    | none => throw (.raised "IndexError" "list assignment index out of range")
  | _ =>
    throw (.refusedArguments ("list indices must be integers or slices, not " ++
      (← get).store.reportedName key))

/-- Puts a value into a mapping or list in place. -/
def put (target key value : Value) : Making Unit := do
  let store := (← get).store
  match target with
  | .object address =>
    match store.cell? address with
    | some (.mapping cls entries) =>
      if cls = Catalogue.proxyClass then refuse store
      else replace address (.mapping cls (← putEntry entries key value))
    | some (.list cls items) => replace address (.list cls (← putItem items key value))
    | some (.wrapper data) =>
      replace data (.list Catalogue.listClass (← putItem (store.wrapped data) key value))
    | _ => refuse store
  | _ => refuse store
where
  refuse (store : Store) : Making Unit :=
    throw (.refusedArguments
      ("'" ++ store.reportedName target ++ "' object does not support item assignment"))

/-- Deletes an entry of a mapping or an item of a list in place. -/
def delete (target key : Value) : Making Unit := do
  let w ← world
  match target with
  | .object address =>
    match w.store.cell? address with
    | some (.mapping cls entries) =>
      if cls = Catalogue.proxyClass then refuse w
      else match w.store.hashFault? key with
      | some fault => throw fault
      | none =>
        if entries.any fun entry => w.store.keyMatches key entry.1 then
          replace address
            (.mapping cls (entries.filter fun entry => !w.store.keyMatches key entry.1))
        else throw (.missingKey (← ofExcept (w.quoted key)))
    | some (.list cls items) => replace address (.list cls (← without w items))
    | some (.wrapper data) =>
      replace data (.list Catalogue.listClass (← without w (w.store.wrapped data)))
    | _ => refuse w
  | _ => refuse w
where
  without (w : World) (items : List Value) : Making (List Value) := do
    match key.asNumber? with
    | some (.int n) =>
      match World.placeOf? items.length n with
      | some place => return items.eraseIdx place
      | none => throw (.raised "IndexError" "list assignment index out of range")
    | _ =>
      throw (.refusedArguments ("list indices must be integers or slices, not " ++
        w.store.reportedName key))
  refuse (w : World) : Making Unit :=
    throw (.refusedArguments
      ("'" ++ w.store.reportedName target ++ "' object doesn't support item deletion"))

/-- Adds an item at the end of a list in place. -/
def append (target item : Value) : Making Unit := do
  let w ← world
  match target with
  | .object address =>
    match w.store.cell? address with
    | some (.list cls items) => replace address (.list cls (items ++ [item]))
    | some (.queue items) => replace address (.queue (items ++ [item]))
    | some (.wrapper data) =>
      replace data (.list Catalogue.listClass (w.store.wrapped data ++ [item]))
    | _ => throw (w.missingField target "append")
  | _ => throw (w.missingField target "append")

/-- Why a field of a value cannot be assigned. Paths and failures are frozen. -/
def assignmentFault (w : World) (target : Value) (name : String) : Fault :=
  match target, name with
  | .path _ _ _, "base" | .path _ _ _, "depth" | .failure _ _ _, "message"
  | .failure _ _ _, "context" => .frozenField name
  | .path _ _ _, _ | .failure _ _ _, _ =>
    .refusedArguments "super(type, obj): obj must be an instance or subtype of type"
  | target, name => w.missingField target name

/-- Calls a value with one argument. A class of lists or tuples makes one of the items it is
given. -/
def callWith (callee v : Value) : Making (Run Value) := do
  let s ← get
  let w := s.world
  match w.store.rule? callee with
  | some rule => return w.run s.options (.rule rule) v .null
  | none =>
    match containerClass? w with
    | some cls => return Run.lift (.ok (← container cls))
    | none => return Run.lift (w.call callee [v])
where
  containerClass? (w : World) : Option Class :=
    match callee with
    | .cls c => if isContainer c then some c else none
    | .object address =>
      match w.store.cell? address with
      | some (.generic origin _) => some origin
      | _ => none
    | _ => none
  isContainer (c : Class) : Bool :=
    c.itemNames.isEmpty && (c.isA Catalogue.listClass || c.isA Catalogue.tupleClass)
  container (cls : Class) : Making Value := do
    if cls.isA Catalogue.listClass then list cls (← items v) else tuple cls (← items v)

/-- Runs the validator a spec stands for on a value, at a context if one is given. -/
def runSpec (spec v : Value) (context : Option Value) : Making (Run Value) := do
  let s ← get
  let w := s.world
  match ← ofExcept (w.resolve spec), context with
  | validator, some context => return w.run s.options validator v context
  | .rule rule, none => return w.run s.options (.rule rule) v .null
  | .external callee, none => callWith callee v

end Making

end Conformance
