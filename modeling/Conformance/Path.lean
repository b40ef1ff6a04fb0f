import Conformance.Describe
import Conformance.Number.Successor

/-!
# Paths

A path is a base and a depth. Extending it by a segment joins the segment's text to the base with
a dot, or takes the text alone when the base is empty, and adds one to the depth; the path itself
is not changed. A null segment is no extension: it asks for the base. Any value can be the base of
the path a check starts at, but every extension has a text for its base.
-/

namespace Conformance

/-- Why one cannot be added to a value that is no number. -/
def unaddable (σ : Store) (v : Value) : Fault :=
  let joining (kind : String) : Fault :=
    .refusedArguments ("can only concatenate " ++ kind ++ " (not \"int\") to " ++ kind)
  let unsupported : Fault :=
    .refusedArguments ("unsupported operand type(s) for +: '" ++ σ.reportedName v ++ "' and 'int'")
  match v with
  | .text _ _ => joining "str"
  | .bytes _ => .refusedArguments "can't concat int to bytes"
  | .object address =>
    match σ.cell? address with
    | some (.list _ _) => joining "list"
    | some (.tuple _ _) => joining "tuple"
    | some (.queue _) => joining "deque"
    | some (.buffer _) => .refusedArguments "can't concat int to bytearray"
    | some (.wrapper _) => .notIterable "int"
    | _ => unsupported
  | _ => unsupported

namespace World

/-- The depth one below a depth. -/
def deeper (w : World) (depth : Value) : Except Fault Value :=
  match depth with
  | .number (.int n) _ _ => .ok (.int (n + 1))
  | depth =>
    match depth.asNumber? with
    | some number => return .number (← number.successor) .plain 0
    | none => .error (unaddable w.store depth)

/-- Extends a path by a segment; a null segment gives the base instead. -/
def extendPath (w : World) (base depth segment : Value) : Except Fault Value :=
  if segment = .null then .ok base
  else do
    let segment ← w.text segment
    if w.store.isTrue base then
      let base ← w.text base
      return .path (.str (base ++ "." ++ segment)) (← w.deeper depth) 0
    else return .path (.str segment) (← w.deeper depth) 0

/-- Calls any value with the given arguments. -/
def call (w : World) (callee : Value) (arguments : List Value) : Except Fault Value :=
  match callee, arguments with
  | .path base _ _, [] => .ok base
  | .path base depth _, [segment] => w.extendPath base depth segment
  | .path _ _ _, _ =>
    .error (.refusedArguments
      ("ContextPath.__call__() takes from 1 to 2 positional arguments but " ++
        Text.natText (arguments.length + 1) ++ " were given"))
  | callee, arguments => w.external callee arguments

/-- The context to use: the given one, or a fresh root when it counts as false. -/
def contextOrRoot (w : World) (context : Value) : Value :=
  if w.store.isTrue context then context else .rootPath (.str "")

end World

end Conformance
