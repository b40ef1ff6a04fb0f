import Conformance.Catalogue.Construct
import Conformance.Catalogue.Remainder
import Conformance.Judge

/-!
# The functions of the catalogue

A fixed set of functions that can be used as validators. Most take a value and an optional
context; they accept, reject at some path, return values that are no failure, or raise. The world
of the catalogue is the store at hand together with these functions and the fields of
`Catalogue.Fields`.
-/

namespace Conformance.Catalogue

/-- The function with this name. -/
def routine (name : String) : Value :=
  .routine name (if name = "len" then .standard else .user)

/-- The refusal of a call that lacks the argument it needs. -/
def missingArgument (name parameter : String) : Fault :=
  .refusedArguments (name ++ "() missing 1 required positional argument: '" ++ parameter ++ "'")

/-- The refusal of a call with more arguments than a value and a context. -/
def excessArguments (name : String) (given : Nat) : Fault :=
  .refusedArguments (name ++ "() takes from 1 to 2 positional arguments but " ++
    Text.natText given ++ " were given")

/-- The length of a value, for sized ones. -/
def lengthOf (w : World) (v : Value) : Except Fault Value :=
  match size? with
  | some size => if w.store.isOverlong v then .error .lengthTooLarge else .ok (.int size)
  | none =>
    .error (.refusedArguments ("object of type '" ++ w.store.reportedName v ++ "' has no len()"))
where
  size? : Option Nat :=
    match v with
    | .text s _ => some s.length
    | .bytes bytes => some bytes.length
    | .cls c => if c.isEnumeration then some (membersOf c).length else none
    | v@(.object address) =>
      match w.store.cell? address with
      | some (.mapping _ entries) => some entries.length
      | some (.set _ items) => some items.length
      | _ => w.store.sequenceLength? v
    | _ => none

/-- Calls a function that takes a value and a context, which may be null. -/
def callChecker (w : World) (name : String) (v context : Value) : Except Fault Value :=
  match name with
  | "reject" => .ok (w.failureAt context "rejected")
  | "reject_at_bad" => do
    let inner ← w.call (w.contextOrRoot context) [.str "bad"]
    return .failure (.str "moved") inner 0
  | "reject_at_root" => .ok (.failure (.str "lost") (.rootPath (.str "")) 0)
  | "show_depth" => do
    let depth ← w.requireField context "depth"
    return .failure (.str ("depth " ++ (← w.text depth))) context 0
  | "is_even" => do
    if ← w.isEven v then return .null else return w.failureAt context "odd"
  | "ret_false" => .ok (.bool false)
  | "ret_zero" => .ok (.int 0)
  | "ret_empty" => .ok (.str "")
  | "ret_text" => .ok (.str "oops")
  | "ret_two" => .ok (.str "ab")
  | "ret_true" => .ok (.bool true)
  | "ret_pair" => .ok (.object returnedPair)
  | "raise_value" => .error (.raised "ValueError" "bad value")
  | "raise_key" => .error (.missingKey "'k'")
  | _ => .ok .null

/-- Calls a named function. -/
def callNamed (w : World) (name : String) (arguments : List Value) : Except Fault Value :=
  match name, arguments with
  | name, [] => .error (missingArgument name "value")
  | "one_arg", [_] => .ok .null
  | "one_arg", arguments =>
    .error (.refusedArguments ("one_arg() takes 1 positional argument but " ++
      Text.natText arguments.length ++ " were given"))
  | name, [v] => callChecker w name v .null
  | name, [v, context] => callChecker w name v context
  | name, arguments => .error (excessArguments name arguments.length)

/-- Calls a function or method. A method that was read off its class is called on its first
argument; no value that can be given has the methods of the class. -/
def callRoutine (w : World) (name : String) (origin : Origin) (arguments : List Value) :
    Except Fault Value :=
  match origin, arguments with
  | .user, arguments => callNamed w name arguments
  | .standard, [v] => lengthOf w v
  | .standard, arguments =>
    .error (.refusedArguments
      (name ++ "() takes exactly one argument (" ++ Text.natText arguments.length ++ " given)"))
  | .unbound owner, [] =>
    .error (.refusedArguments
      ("unbound method " ++ owner ++ "." ++ name ++ "() needs an argument"))
  | .unbound owner, v :: _ =>
    .error (.refusedArguments ("descriptor '" ++ name ++ "' for '" ++ owner ++
      "' objects doesn't apply to a '" ++ w.store.reportedName v ++ "' object"))
  | .composed owner, _ => .error (missingArgument (owner ++ "." ++ name) "self")

/-- The name under which a validator refuses its arguments. -/
def refusingName : Rule → String
  | .ofKind _ => "create_type_validator.<locals>.validate_type"
  | .equals _ => "create_equality_validator.<locals>.validate_equality"
  | .instanceOf _ _ => "create_instance_of_validator.<locals>.validate_instance"
  | .oneOf _ => "create_one_of_validator.<locals>.validate_one_of"
  | .shape _ => "create_shape_validator.<locals>.validate_shape"
  | .array _ => "create_array_validator.<locals>.validate_array"
  | .union _ => "create_union_of_validator.<locals>.validate_union"

/-- Calls a validator object outside a run. -/
def callRule (w : World) (options : Options) (rule : Rule) (arguments : List Value) :
    Except Fault Value :=
  match arguments with
  | [] =>
    .error (missingArgument (refusingName rule)
      (match rule with | .array _ => "values" | _ => "value"))
  | [v] => (w.run options (.rule rule) v .null).outcome
  | [v, context] => (w.run options (.rule rule) v context).outcome
  | arguments => .error (excessArguments (refusingName rule) arguments.length)

/-- Calls an object of a class that was given no function of its own. -/
def callObject (cls : Class) (arguments : List Value) : Except Fault Value :=
  if !cls.callable then .error (.notCallable cls.reportedName)
  else match arguments with
    | [] => .error (missingArgument (cls.name ++ ".__call__") "value")
    | [_] | [_, _] => .ok .null
    | arguments => .error (excessArguments (cls.name ++ ".__call__") (arguments.length + 1))

/-- Calls a value; functions that call their context do so through at most `levels` calls. -/
def external (σ : Store) (options : Options) : Nat → Value → List Value → Except Fault Value
  | 0, _, _ => .error .unbounded
  | levels + 1, callee, arguments =>
    let w : World := ⟨σ, external σ options levels, field σ, .regular σ⟩
    match callee with
    | .routine name origin => callRoutine w name origin arguments
    | .cls c => construct w c arguments
    | .object address =>
      match σ.cell? address with
      | some (.application target _) => external σ options levels target arguments
      | some (.generic origin _) => construct w origin arguments
      | some (.validator rule) => callRule w options rule arguments
      | some cell => callObject cell.classOf arguments
      | none => .error (.notCallable "object")
    | callee => .error (.notCallable (σ.reportedName callee))

/-- The store at hand with the functions and fields of the catalogue. It has no custom classes. -/
def world (σ : Store) (options : Options) : World :=
  ⟨σ, external σ options 16, field σ, .regular σ⟩

end Conformance.Catalogue
