import Conformance.Value

/-!
# Runs

A run has an outcome, a value or a fault, and the events logged on the way to it. Events are kept
when a fault ends the run. Two loops are used by the checks: `firstTrue` stops at the first step
whose value counts as true, and `allTrue` stops at the first whose value does not. Both carry the
events in an accumulator, so long loops need no stack.
-/

namespace Conformance

/-- Something a check has logged. -/
inductive Event where
  /-- A check ended with an error at this path. -/
  | rejected (path message : Value)
  /-- A container at this path was too deep to be entered. -/
  | depthExceeded (path : Value) (limit : Nat)
deriving DecidableEq

/-- An outcome and the events logged before it. -/
structure Run (α : Type) where
  events : List Event
  outcome : Except Fault α

namespace Run

variable {α β ι : Type}

def pure (value : α) : Run α := ⟨[], .ok value⟩

def fail (fault : Fault) : Run α := ⟨[], .error fault⟩

/-- An outcome that logs nothing. -/
def lift (outcome : Except Fault α) : Run α := ⟨[], outcome⟩

/-- Logs one event. -/
def log (event : Event) : Run Unit := ⟨[event], .ok ()⟩

/-- Continues a run from its value; a fault ends it. -/
def bind (run : Run α) (next : α → Run β) : Run β :=
  match run.outcome with
  | .error fault => ⟨run.events, .error fault⟩
  | .ok value =>
    let rest := next value
    ⟨run.events ++ rest.events, rest.outcome⟩

instance : Monad Run where
  pure := pure
  bind := bind

/-- Runs a step on each item in turn until one gives a value that counts as true, and gives that
value; `otherwise` when there is none. -/
def firstTrue (isTrue : α → Bool) (step : ι → Run α) (otherwise : α) :
    List Event → List ι → Run α
  | events, [] => ⟨events, .ok otherwise⟩
  | events, item :: rest =>
    let run := step item
    match run.outcome with
    | .error fault => ⟨events ++ run.events, .error fault⟩
    | .ok value =>
      if isTrue value then ⟨events ++ run.events, .ok value⟩
      else firstTrue isTrue step otherwise (events ++ run.events) rest

/-- Runs a step on each item in turn while it gives a value that counts as true, and gives all
these values in order; `none` as soon as one does not. `earlier` holds the values so far, most
recent first. -/
def allTrue (isTrue : α → Bool) (step : ι → Run α) :
    List Event → List α → List ι → Run (Option (List α))
  | events, earlier, [] => ⟨events, .ok (some earlier.reverse)⟩
  | events, earlier, item :: rest =>
    let run := step item
    match run.outcome with
    | .error fault => ⟨events ++ run.events, .error fault⟩
    | .ok value =>
      if isTrue value then
        allTrue isTrue step (events ++ run.events) (value :: earlier) rest
      else ⟨events ++ run.events, .ok none⟩

end Run

end Conformance
