import Conformance.Judge

/-!
# Checking a value against a spec

`check` runs the validator a spec stands for at the root and gives its result; an error is logged
with its path and message. `isValid` tells whether that result is null, and `assertValid` turns an
error into a rejection.
-/

namespace Conformance

/-- A value that was asserted to conform and does not. -/
structure Rejection where
  /-- The error the check ended with. -/
  error : Value
  /-- The text of that error. -/
  text : String

namespace World

/-- Checks a value against a spec; the root is where its paths start. -/
def check (w : World) (options : Options) (v spec root : Value) : Run Value := do
  let validator ← Run.lift (w.resolve spec)
  let error ← w.run options validator v (.rootPath root)
  if w.store.isTrue error then
    let path ← Run.lift (w.requireField error "path")
    let message ← Run.lift (w.requireField error "message")
    Run.log (.rejected path message)
    return error
  else return error

/-- Whether a value conforms to a spec. -/
def isValid (w : World) (options : Options) (v spec : Value) : Run Bool := do
  return (← w.check options v spec (.str "")) = .null

/-- The rejection of a value that does not conform to a spec. -/
def assertValid (w : World) (options : Options) (v spec root : Value) :
    Run (Option Rejection) := do
  let error ← w.check options v spec root
  if w.store.isTrue error then return some ⟨error, ← Run.lift (w.text error)⟩
  else return none

end World

end Conformance
