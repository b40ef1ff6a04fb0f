import Conformance.Kind

/-!
# Stores that have grown

Objects are only ever added to a store, so what was made at one time is still there later. A value
that is in a store reads the same after the store has grown.
-/

namespace Conformance

/-- How far up a store a value reaches: the number of addresses up to its own. -/
def Value.place : Value → Nat
  | .object address => address + 1
  | _ => 0

namespace Store

variable {σ σ' σ'' : Store} {v : Value} {rule : Rule}

/-- A store that has grown: everything is still where it was. -/
def GrowsTo (σ σ' : Store) : Prop :=
  ∀ address cell, σ.cell? address = some cell → σ'.cell? address = some cell

namespace GrowsTo

theorem refl (σ : Store) : σ.GrowsTo σ := fun _ _ found => found

theorem trans (first : σ.GrowsTo σ') (second : σ'.GrowsTo σ'') : σ.GrowsTo σ'' :=
  fun address cell found => second address cell (first address cell found)

theorem insert (σ : Store) (cell : Cell) : σ.GrowsTo (σ.insert cell).1 := by
  intro address other found
  have present : address < σ.size := (Array.getElem?_eq_some_iff.mp found).1
  rw [cell?_insert_old present, found]

theorem entries? (grows : σ.GrowsTo σ') {entries : List (Value × Value)}
    (held : σ.entries? v = some entries) : σ'.entries? v = some entries := by
  obtain ⟨address, cls, rfl, found⟩ := entries?_eq_some_iff.mp held
  exact entries?_eq_some_iff.mpr ⟨address, cls, rfl, grows _ _ found⟩

theorem rule? (grows : σ.GrowsTo σ') (held : σ.rule? v = some rule) : σ'.rule? v = some rule := by
  obtain ⟨address, rfl, found⟩ := rule?_eq_some_iff.mp held
  exact rule?_eq_some_iff.mpr ⟨address, rfl, grows _ _ found⟩

/-- What can be told of a value that is there is told of it after the store has grown. -/
theorem same (grows : σ.GrowsTo σ') (present : v.place ≤ σ.size) :
    σ'.isCallable v = σ.isCallable v ∧ σ'.entries? v = σ.entries? v ∧
      σ'.listItems? v = σ.listItems? v ∧ σ'.rule? v = σ.rule? v := by
  cases v with
  | object address =>
    have inside : address < σ.cells.size := present
    have found : σ.cell? address = some σ.cells[address] := Array.getElem?_eq_getElem inside
    have found' := grows address _ found
    simp [isCallable, Store.entries?, listItems?, Store.rule?, found, found']
  | _ => exact ⟨rfl, rfl, rfl, rfl⟩

/-- A store that has grown has no fewer objects. -/
theorem size_le (grows : σ.GrowsTo σ') : σ.size ≤ σ'.size := by
  apply Nat.le_of_not_lt
  intro (fewer : σ'.size < σ.cells.size)
  have found := grows σ'.size _ (Array.getElem?_eq_getElem fewer)
  exact Nat.lt_irrefl _ (Array.getElem?_eq_some_iff.mp found).1

end GrowsTo

end Store

end Conformance
