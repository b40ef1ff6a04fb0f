import Conformance.Access
import Conformance.Equality
import Conformance.Rule
import Conformance.Run

/-!
# Running a validator

A validator is run on a value at a context and gives null when the value passes and a failure
when it does not; a callable the program did not make may give any value. Shapes and arrays check
their parts in order and give the first result that counts as true. They look at their parts only
below the depth limit. A union gives null as soon as one alternative passes, and otherwise one
failure that lists those of all alternatives.

Sub-specs are resolved when they are reached, so a spec may contain itself. Each descent into a
part comes closer to the depth limit and each alternative of a union was made before the union;
`levels` bounds the two together, and `levelsFor` gives enough of them for any spec whose unions
do not contain themselves.
-/

namespace Conformance

namespace World

/-- A failure at a context, or at a fresh root when the context counts as false. -/
def failureAt (w : World) (context : Value) (message : String) : Value :=
  .failure (.str message) (w.contextOrRoot context) 0

/-- Whether a class in a target, or a tuple of targets, has the value among its instances. The
first target with an instance decides. -/
def isInstance (w : World) (v : Value) : Nat → Value → Except Fault Bool
  | 0, _ => .error .unbounded
  | levels + 1, target =>
    match target with
    | .cls c => w.isInstanceOf v c
    | .object address =>
      match w.store.cell? address with
      | some (.tuple _ targets) => targets.anyM (w.isInstance v levels)
      | some (.classUnion classes) => classes.anyM (w.isInstanceOf v)
      | some (.generic _ _) => .error .parameterizedTarget
      | _ => .error .notClassTarget
    | _ => .error .notClassTarget

/-- Whether a depth is below the depth limit. -/
def depthBelow (w : World) (limit : Nat) : Value → Except Fault Bool
  | .number (.int n) _ _ => .ok (n < limit)
  | depth =>
    match depth.asNumber? with
    | none | some (.complex _ _) => .error (.unordered (w.store.reportedName depth) "int")
    | some (.decimal (.nan _ _ _)) => .error .signalingComparison
    | some number => .ok (number.realPart.less (.rational (limit : Int)))

/-- Whether a context is below the depth limit. -/
def isBelow (w : World) (context : Value) (limit : Nat) : Except Fault Bool := do
  w.depthBelow limit (← w.requireField context "depth")

/-- The failure for a container that is too deep to be entered, which is logged as well; nothing
below the depth limit. -/
def guardDepth (w : World) (options : Options) (context : Value) : Run (Option Value) := do
  if ← Run.lift (w.isBelow context options.maxDepth) then return none
  else
    let location ← Run.lift (w.call context [])
    Run.log (.depthExceeded location options.maxDepth)
    let limit ← Run.lift (writable (Text.intText? options.maxDepth))
    return some (.failure (.str ("Maximum validation depth of " ++ limit ++ " exceeded")) context 0)

/-- The items a value gives when it is taken apart. -/
def parts? (w : World) : Value → Option (List Value)
  | .failure message context _ => some [message, context]
  | .text s _ => some (s.toList.map fun c => .str (String.singleton c))
  | .bytes bytes => some (Store.byteValues bytes)
  | v@(.object address) =>
    match w.store.cell? address with
    | some (.mapping _ entries) => some (entries.map (·.1))
    | some (.set _ items) => some items
    | some (.generic _ _) => some [v]
    | _ => w.store.sequenceItems? v
  | _ => none

/-- A value taken apart into two, such as an error into its message and context. -/
def asPair (w : World) (v : Value) : Except Fault (Value × Value) :=
  match w.parts? v with
  | none => .error (.notUnpackable (w.store.reportedName v))
  | some [first, second] => .ok (first, second)
  | some (_ :: _ :: _ :: _) => .error .tooManyParts
  | some parts => .error (.tooFewParts parts.length)

/-- The line a failed alternative contributes to the message of its union. -/
def alternativeLine (w : World) (error : Value) : Except Fault String := do
  let (message, context) ← w.asPair error
  let location ← w.text (← w.call context [])
  return location ++ " |> " ++ (← w.text message)

/-- The failure of a union whose alternatives gave these errors. -/
def unionFailure (w : World) (errors : List Value) (context : Value) : Except Fault Value := do
  let lines ← errors.mapM w.alternativeLine
  return .failure (.str ("Expected the value to pass one of the provided validators:\n" ++
    "\n".intercalate lines)) context 0

/-- The declared fields of a shape and their specs, in order. What is no mapping is asked for its
items, which are taken apart one by one. -/
def declaredFields (w : World) (fields : Value) :
    Except Fault (List (Except Fault (Value × Value))) :=
  match w.store.entries? fields with
  | some entries => .ok (entries.map .ok)
  | none => do
    let given ← w.call (← w.requireField fields "items") []
    match w.parts? given with
    | some parts => .ok (parts.map w.asPair)
    | none => .error (.notIterable (w.store.reportedName given))

/-- The check of one of the rules that have no parts. -/
def judgeLeaf (w : World) (options : Options) (v context : Value) : Rule → Except Fault Value
  | .ofKind kind =>
    if w.store.kindOf v = kind then .ok .null
    else .ok (w.failureAt context
      ("Expected type " ++ kind.name ++ " but received " ++ w.store.displayKind v))
  | .equals expected => do
    if ← w.store.strictEquals v expected then return .null
    else return w.failureAt context ("Expected value to equal " ++
      (← w.rendering options expected) ++ " but received " ++ (← w.rendering options v))
  | .instanceOf target label => do
    if ← w.isInstance v (w.store.size + 1) target then return .null
    else return w.failureAt context ("Expected value to be an instance of " ++ label ++
      " but received " ++ (← w.rendering options v))
  | .oneOf allowed => do
    if ← allowed.anyM (w.store.sameValueZero v) then return .null
    else
      let plural := if 1 < allowed.length then " one of" else ""
      return w.failureAt context
        ("Expected the value to be" ++ plural ++ " " ++
          ", ".intercalate (← allowed.mapM (w.rendering options)) ++
          " but received " ++ (← w.rendering options v))
  | _ => .ok .null

/-- The check of one declared field of a shape. Its spec is resolved before its part is read, and
both before the context is extended by its key. -/
def judgeField (w : World) (check : Validator → Value → Value → Run Value) (v context : Value)
    (field : Except Fault (Value × Value)) : Run Value := do
  let field ← Run.lift field
  let validator ← Run.lift (w.resolve field.2)
  let part ← Run.lift (w.get v field.1)
  let inner ← Run.lift (w.call context [field.1])
  check validator part inner

/-- The check of a shape at a context that counts as true. -/
def judgeShape (w : World) (options : Options)
    (check : Validator → Value → Value → Run Value) (fields v context : Value) : Run Value := do
  if v = .null then
    return .failure (.str "Expected value to be a non-null object but received null") context 0
  else if w.store.kindOf v ≠ .object then
    return .failure (.str ("Expected type object but received " ++ w.store.displayKind v))
      context 0
  else
    match ← w.guardDepth options context with
    | some tooDeep => return tooDeep
    | none =>
      let declared ← Run.lift (w.declaredFields fields)
      Run.firstTrue w.store.isTrue (w.judgeField check v context) .null [] declared

/-- The check of one item of an array. -/
def judgeItem (w : World) (check : Value → Value → Run Value) (context : Value)
    (item : Value × Nat) : Run Value := do
  let inner ← Run.lift (w.call context [.int item.2])
  check item.1 inner

/-- The check of an array at a context that counts as true. The spec of its items is resolved
once, even when there are none. -/
def judgeArray (w : World) (options : Options)
    (check : Validator → Value → Value → Run Value) (element v context : Value) : Run Value := do
  match w.store.arrayItems? v with
  | none =>
    return .failure (.str ("Expected type array but received " ++ w.store.displayKind v))
      context 0
  | some items =>
    match ← w.guardDepth options context with
    | some tooDeep => return tooDeep
    | none =>
      let validator ← Run.lift (w.resolve element)
      Run.firstTrue w.store.isTrue (w.judgeItem (check validator) context) .null [] items.zipIdx

/-- The check of one alternative of a union. -/
def judgeAlternative (w : World) (check : Validator → Value → Value → Run Value)
    (v context alternative : Value) : Run Value := do
  let validator ← Run.lift (w.resolve alternative)
  check validator v context

/-- The check of a union at a context that counts as true. -/
def judgeUnion (w : World) (check : Validator → Value → Value → Run Value)
    (alternatives : List Value) (v context : Value) : Run Value := do
  match ← Run.allTrue w.store.isTrue (w.judgeAlternative check v context) [] [] alternatives with
  | none => return .null
  | some errors => Run.lift (w.unionFailure errors context)

/-- Runs a validator on a value at a context, given how the validators of its parts are run. -/
def judgeWith (w : World) (options : Options)
    (check : Validator → Value → Value → Run Value) : Validator → Value → Value → Run Value
  | .external callee, v, context => Run.lift (w.call callee [v, context])
  | .rule (.shape fields), v, context =>
    w.judgeShape options check fields v (w.contextOrRoot context)
  | .rule (.array element), v, context =>
    w.judgeArray options check element v (w.contextOrRoot context)
  | .rule (.union alternatives), v, context =>
    w.judgeUnion check alternatives v (w.contextOrRoot context)
  | .rule leaf, v, context => Run.lift (w.judgeLeaf options v context leaf)

/-- Runs a validator on a value at a context, through at most `levels` validators inside one
another. -/
def judge (w : World) (options : Options) : Nat → Validator → Value → Value → Run Value
  | 0, _, _, _ => Run.fail .unbounded
  | levels + 1, validator, v, context =>
    w.judgeWith options (w.judge options levels) validator v context

/-- How many descents a depth allows until it reaches the limit. A depth that is no integer may
stay where it is for good; then the values there are bound the descents into any that does not
contain itself. -/
def descentsAt (w : World) (limit : Nat) (depth : Value) : Nat :=
  match depth.asNumber? with
  | some (.int n) => ((limit : Int) - n).toNat
  | some number =>
    match number.realPart with
    | .scaled value _ => limit + value.floor.natAbs + w.store.size
    | _ => limit + w.store.size
  | none => limit

/-- How many descents a context allows: down to the depth limit, and from there again for every
path that is itself the base of a path. -/
def descentsFrom (w : World) (limit : Nat) : Value → Nat
  | .path base depth _ => w.descentsAt limit depth + 1 + w.descentsFrom limit base
  | _ => 1

/-- Enough levels to run any validator at a context. -/
def levelsFor (w : World) (options : Options) (context : Value) : Nat :=
  (w.descentsFrom options.maxDepth (w.contextOrRoot context) + 1) * (w.store.size + 2)

/-- Runs a validator on a value at a context. -/
def run (w : World) (options : Options) (validator : Validator) (v context : Value) : Run Value :=
  w.judge options (w.levelsFor options context) validator v context

end World

end Conformance
