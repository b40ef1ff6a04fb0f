import Conformance.Keys
import Conformance.Render

/-!
# Specs and the rules they stand for

Any value can be a spec. A text names a kind, a class stands for its instances, any other
callable is a validator as it is, a mapping describes fields, a list of one spec describes the
items of an array, and every other value stands for itself. Rules can also be made directly; that
is where arguments of the wrong kind are refused.
-/

namespace Conformance

/-- What a spec resolves to: a rule, or a callable the program did not make. -/
inductive Validator where
  | rule (rule : Rule)
  | external (callee : Value)
deriving DecidableEq

namespace World

/-- Why a value cannot be looked for among the kind names. A set is looked for as if it were
frozen, so it is no wrong key itself. -/
def keyFault? (w : World) : Value → Option Fault
  | v@(.object address) =>
    match w.store.cell? address with
    | some (.set _ items) => items.findSome? w.store.hashFault?
    | _ => w.store.hashFault? v
  | v => w.store.hashFault? v

/-- The rule for a kind name, which may be any value that could be a key. -/
def kindRule (w : World) (expected : Value) : Except Fault Rule :=
  match expected with
  | .text s _ =>
    match Kind.ofName? s with
    | some kind => .ok (.ofKind kind)
    | none => do throw (.unknownKind (← w.quoted expected))
  | expected =>
    match w.keyFault? expected with
    | some fault => .error fault
    | none => do throw (.unknownKind (← w.quoted expected))

/-- The rule for instances of a target, named by its label or else by its rendering. -/
def instanceRule (w : World) (options : Options) (target : Value) : Except Fault Rule := do
  let label ← w.label target
  if w.store.isTrue label then return .instanceOf target (w.natural label)
  else return .instanceOf target (← w.rendering options target)

/-- The items of a sequence given as an argument; `role` names the argument in the refusal. -/
def argumentItems (w : World) (role : String) (v : Value) : Except Fault (List Value) :=
  if w.store.isOverlong v then .error .lengthTooLarge
  else match w.store.sequenceItems? v with
    | none => .error (.notSequence role (w.store.typeName v))
    | some items => .ok items

/-- The rule for one of the items of a sequence, as they are now. -/
def oneOfRule (w : World) (allowed : Value) : Except Fault Rule := do
  return .oneOf (← w.argumentItems "allowed_values" allowed)

/-- The rule for any of the alternatives in a sequence, as they are now. -/
def unionRule (w : World) (alternatives : Value) : Except Fault Rule := do
  return .union (← w.argumentItems "validator_specs" alternatives)

/-- The validator a spec stands for. -/
def resolve (w : World) (spec : Value) : Except Fault Validator :=
  match spec with
  | .text _ _ => do return .rule (← w.kindRule spec)
  | .cls c => .ok (.rule (.instanceOf spec c.name))
  | spec =>
    match w.store.rule? spec with
    | some rule => .ok (.rule rule)
    | none =>
      if w.store.isCallable spec then .ok (.external spec)
      else if (w.store.entries? spec).isSome then .ok (.rule (.shape spec))
      else match w.store.listItems? spec with
        | some [element] => .ok (.rule (.array element))
        | _ => .ok (.rule (.equals spec))

end World

end Conformance
