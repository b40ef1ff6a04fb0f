import Conformance.Describe
import Conformance.Options

/-!
# Rendering values for messages

A rendering shows texts in double quotes, callables by their label, lists, tuples and mappings by
their parts, and everything else in its natural form. A container met inside its own rendering is
marked as circular, and containers below the depth limit are elided. The rendering is written
piece by piece against a budget of characters; the piece that exceeds the budget is cut there and
nothing after it is looked at.

What is shown can refuse to be: a text of a custom class may not let itself be formatted, the label
of a callable may not be readable, and an instance of a custom class may not even answer what it is.
A rendering that comes to one of these before its budget is spent ends with the fault. Everything
else that has no text has a natural form.
-/

namespace Conformance

/-- Text written so far, and how many more characters fit. -/
structure Draft where
  text : String
  room : Nat

/-- Why nothing more is written. -/
inductive Halt where
  /-- The budget is spent; this is what fitted. -/
  | spent (text : String)
  /-- Something refused to be shown. -/
  | refused (fault : Fault)

namespace Draft

/-- Adds a piece. A piece that does not fit is cut, and the cut text is final. -/
def write (draft : Draft) (piece : String) : Except Halt Draft :=
  let length := piece.length
  if length ≤ draft.room then .ok ⟨draft.text ++ piece, draft.room - length⟩
  else .error (.spent (draft.text ++ String.ofList (piece.toList.take draft.room)))

/-- Adds a piece that may have been refused. -/
def writeOutcome (draft : Draft) (piece : Except Fault String) : Except Halt Draft :=
  match piece with
  | .ok piece => draft.write piece
  | .error fault => .error (.refused fault)

end Draft

/-- Writes items one after the other with a separator between them. -/
def writeItems {α : Type} (writeItem : α → Draft → Except Halt Draft) :
    List α → Draft → Except Halt Draft
  | [], draft => .ok draft
  | [item], draft => writeItem item draft
  | item :: next :: rest, draft =>
    match writeItem item draft with
    | .error halt => .error halt
    | .ok draft =>
      match draft.write ", " with
      | .error halt => .error halt
      | .ok draft => writeItems writeItem (next :: rest) draft

namespace World

/-- What a text value shows: members of an enumeration may show their name. -/
def shownText (s : String) : Tag → String
  | .member m => if m.textOfValue then s else m.fullName
  | _ => s

/-- How a text is rendered. A custom class formats its texts itself. -/
def quotedText (w : World) (s : String) (tag : Tag) : Except Fault String := do
  let shown ← if tag.isCustom then w.customs.format s tag else .ok (shownText s tag)
  return "\"" ++ shown ++ "\""

/-- How a callable is rendered. It is asked first whether it is a text. -/
def shownCallable (w : World) (v : Value) : Except Fault String := do
  let _ ← w.isInstanceOf v .string
  match ← w.label v with
  | .text s _ => return if s.isEmpty then "function" else s
  | _ => return "function"

/-- How a value is rendered that is no text, callable or container. It is asked as well. -/
def shownOther (w : World) (v : Value) : Except Fault String := do
  let _ ← w.isInstanceOf v .string
  return w.natural v

/-- Writes a rendering, `depth` containers deep at most, inside the containers `inside`. -/
def render (w : World) : Nat → List Nat → Value → Draft → Except Halt Draft
  | depth, inside, v, draft =>
    match v with
    | .text s tag => draft.writeOutcome (w.quotedText s tag)
    | v =>
      if w.store.isCallable v then draft.writeOutcome (w.shownCallable v)
      else match v with
        | .object address =>
          match w.store.cell? address with
          | some (.list _ items) | some (.tuple _ items) =>
            if inside.contains address then draft.write "[Circular]"
            else match depth with
              | 0 => draft.write "[...]"
              | depth + 1 => do
                let draft ← draft.write "["
                let draft ← writeItems (w.render depth (address :: inside)) items draft
                draft.write "]"
          | some (.mapping _ entries) =>
            if inside.contains address then draft.write "[Circular]"
            else match depth with
              | 0 => draft.write "\x7b...\x7d"
              | depth + 1 => do
                let draft ← draft.write "\x7b"
                let draft ← writeItems (fun entry draft => do
                  let draft ← draft.write (w.natural entry.1 ++ ": ")
                  w.render depth (address :: inside) entry.2 draft) entries draft
                draft.write "\x7d"
          | _ => draft.writeOutcome (w.shownOther v)
        | v => draft.writeOutcome (w.shownOther v)

/-- The rendering of a value under the limits in effect; a cut rendering ends in three dots. -/
def rendering (w : World) (options : Options) (v : Value) : Except Fault String :=
  match w.render options.maxRenderDepth [] v ⟨"", options.maxRenderLength⟩ with
  | .ok draft => .ok draft.text
  | .error (.spent text) => .ok (text ++ "...")
  | .error (.refused fault) => .error fault

end World

end Conformance
