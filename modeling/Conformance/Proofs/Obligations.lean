import Mathlib.Data.List.Basic
import Conformance.Proofs.Verdict

/-!
# What a run has to check

All that a validator asks of a value is listed here in document order, without stopping at a
failure: the tests of a container, and then, part by part, everything that leads to the part and
the obligations of the part itself. A container whose test fails and a part that cannot be reached
add nothing further. A union, a rule without parts and a callable from outside are one obligation
each.

Specs and values may contain themselves. The depth guard is an obligation like the others, and
what stands behind it arises only where it passes, so the list is finite: at the limit nothing
below is asked for.
-/

namespace Conformance.World

/-! ## Obligations -/

/-- Whether a run ends with a value that counts as false. -/
def passes (w : World) (run : Run Value) : Bool :=
  match run.outcome with
  | .ok value => !w.store.isTrue value
  | .error _ => false

/-- A test as an obligation, with those that arise when it passes. -/
def onceMet (w : World) (test : Run Value) (rest : List (Run Value)) : List (Run Value) :=
  test :: if w.passes test then rest else []

/-- An outcome as an obligation that only a fault fails, with those that its value leads to. -/
def onceKnown {α : Type} (outcome : Except Fault α) (next : α → List (Run Value)) :
    List (Run Value) :=
  Run.lift (outcome.map fun _ => .null) ::
    match outcome with
    | .ok value => next value
    | .error _ => []

/-- A shape takes no null. -/
def nullTest (v context : Value) : Run Value :=
  if v = .null then
    return .failure (.str "Expected value to be a non-null object but received null") context 0
  else return .null

/-- A shape takes objects only. -/
def kindTest (w : World) (v context : Value) : Run Value :=
  if w.store.kindOf v ≠ .object then
    return .failure (.str ("Expected type object but received " ++ w.store.displayKind v)) context 0
  else return .null

/-- An array takes lists and tuples only. -/
def listTest (w : World) (v context : Value) : Run Value :=
  if w.store.arrayItems? v = none then
    return .failure (.str ("Expected type array but received " ++ w.store.displayKind v)) context 0
  else return .null

/-- A container is entered below the depth limit only. -/
def guardTest (w : World) (options : Options) (context : Value) : Run Value := do
  return (← w.guardDepth options context).getD .null

section Parts

variable (w : World) (options : Options) (parts : Validator → Value → Value → List (Run Value))

/-- The obligations of a declared field: its spec resolves, it can be read, the context can be
extended by its key, and whatever its spec asks of it. -/
def fieldObligations (v context : Value) (entry : Value × Value) : List (Run Value) :=
  onceKnown (w.resolve entry.2) fun validator =>
    onceKnown (w.get v entry.1) fun part =>
      onceKnown (w.call context [entry.1]) fun inner => parts validator part inner

/-- The obligations of a shape, with the fields in the order of their mapping. -/
def shapeObligations (fields v context : Value) : List (Run Value) :=
  w.onceMet (nullTest v context) <|
    w.onceMet (w.kindTest v context) <|
      w.onceMet (w.guardTest options context) <|
        ((w.store.entries? fields).getD []).flatMap (w.fieldObligations parts v context)

/-- The obligations of an item: the context can be extended by its place, and whatever the spec
of the items asks of it. -/
def itemObligations (validator : Validator) (context : Value) (item : Value × Nat) :
    List (Run Value) :=
  onceKnown (w.call context [.int item.2]) fun inner => parts validator item.1 inner

/-- The obligations of an array; the spec of the items resolves once, before any of them. -/
def arrayObligations (element v context : Value) : List (Run Value) :=
  w.onceMet (w.listTest v context) <|
    w.onceMet (w.guardTest options context) <|
      onceKnown (w.resolve element) fun validator =>
        ((w.store.arrayItems? v).getD []).zipIdx.flatMap (w.itemObligations parts validator context)

/-- The obligations of a validator, given those of its parts. -/
def obligationsWith : Validator → Value → Value → List (Run Value)
  | .rule (.shape fields), v, context =>
    w.shapeObligations options parts fields v (w.contextOrRoot context)
  | .rule (.array element), v, context =>
    w.arrayObligations options parts element v (w.contextOrRoot context)
  | validator, v, context => [w.run options validator v context]

end Parts

/-- The obligations of a validator with some depths left. At the limit no container is entered,
so nothing is asked for below it. -/
def obligationsWithin (w : World) (options : Options) :
    Nat → Validator → Value → Value → List (Run Value)
  | 0 => w.obligationsWith options fun _ _ _ => []
  | left + 1 => w.obligationsWith options (w.obligationsWithin options left)

/-- The obligations of a validator on a value at a context. -/
def obligationsOf (w : World) (options : Options) (validator : Validator) (v context : Value) :
    List (Run Value) :=
  w.obligationsWithin options
    ((options.maxDepth : Int) - ((w.contextOrRoot context).depth?.getD 0)).toNat validator v context

/-- The obligations of a spec on a value at a context. -/
def obligations (w : World) (options : Options) (spec v context : Value) : List (Run Value) :=
  onceKnown (w.resolve spec) fun validator => w.obligationsOf options validator v context

theorem passes_iff {w : World} {run : Run Value} : w.passes run = true ↔
    ∃ value, run.outcome = .ok value ∧ w.store.isTrue value = false := by
  unfold passes
  cases run.outcome <;> simp

end Conformance.World
