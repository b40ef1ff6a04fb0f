import Conformance.Proofs.Simulation

/-!
# One value in another's place

A rule does the same on two values if it cannot tell them apart by what it looks at. A shape looks
at the kind of a value and at the parts it reads under its keys, an array at the items. So both do
the same on two values whose parts correspond, if their own specs do so on parts that correspond.
-/

namespace Conformance

/-- Entries are found by a key under which both mappings hold values that correspond. -/
theorem rel_find?_of_forall₂ {R : Value → Value → Prop} {entries entries' : List (Value × Value)}
    {matching : Value → Bool}
    (each : List.Forall₂ (fun entry entry' => entry'.1 = entry.1 ∧
      (matching entry.1 = true → R entry.2 entry'.2)) entries entries') :
    Option.Rel R ((entries.find? fun entry => matching entry.1).map (·.2))
      ((entries'.find? fun entry => matching entry.1).map (·.2)) := by
  induction each with
  | nil => exact .none
  | @cons entry entry' _ _ first _ inductionHypothesis =>
    simp only [List.find?_cons, first.1]
    cases found : matching entry.1 with
    | true => exact .some (first.2 found)
    | false => exact inductionHypothesis

namespace World

variable {w : World} {options : Options} {v v' context : Value} {R : Value → Value → Prop}
  {check : Validator → Value → Value → Run Value}

/-- A field is checked alike if the parts that are read under its key correspond and its spec does
the same on such parts. -/
theorem judgeField_congr {entry : Value × Value}
    (reads : Parallel R (w.get v entry.1) (w.get v' entry.1))
    (alike : ∀ validator part part' inner, w.resolve entry.2 = .ok validator → R part part' →
      check validator part inner = check validator part' inner) :
    w.judgeField check v context (.ok entry) = w.judgeField check v' context (.ok entry) := by
  simp only [judgeField, Run.lift_ok, pure_bind]
  refine Run.bind_congr fun validator resolved => ?_
  generalize w.get v entry.1 = read, w.get v' entry.1 = read' at reads
  cases reads with
  | fault => rfl
  | value related =>
    simp only [Run.lift_ok, pure_bind]
    exact Run.bind_congr fun inner _ => alike validator _ _ inner resolved related

/-- Values of one kind, of which none or both are null, pass a shape together if their fields are
checked alike. -/
theorem judgeShape_congr {fields : Value} {entries : List (Value × Value)}
    (held : w.store.entries? fields = some entries) (null : v = .null ↔ v' = .null)
    (kind : w.store.kindOf v = w.store.kindOf v')
    (display : w.store.displayKind v = w.store.displayKind v')
    (each : ∀ entry ∈ entries, w.judgeField check v context (.ok entry) =
      w.judgeField check v' context (.ok entry)) :
    w.judgeShape options check fields v context = w.judgeShape options check fields v' context := by
  have loop : Run.firstTrue w.store.isTrue (w.judgeField check v context) .null []
      (entries.map .ok) =
      Run.firstTrue w.store.isTrue (w.judgeField check v' context) .null [] (entries.map .ok) := by
    rw [Run.firstTrue_map, Run.firstTrue_map]
    exact Run.firstTrue_congr _ _ (List.forall₂_same.mpr each)
  simp only [judgeShape, null, kind, display, declaredFields_of_entries? held, Run.lift_ok,
    pure_bind, loop]

/-- Lists of items that correspond pass an array together if its spec does the same on such
items. -/
theorem judgeArray_congr {element : Value} {items items' : List Value}
    (listed : w.store.arrayItems? v = some items) (listed' : w.store.arrayItems? v' = some items')
    (each : List.Forall₂ R items items')
    (alike : ∀ validator part part' inner, w.resolve element = .ok validator → R part part' →
      check validator part inner = check validator part' inner) :
    w.judgeArray options check element v context =
      w.judgeArray options check element v' context := by
  have loop (validator : Validator) (resolved : w.resolve element = .ok validator) :
      Run.firstTrue w.store.isTrue (w.judgeItem (check validator) context) .null []
        items.zipIdx =
      Run.firstTrue w.store.isTrue (w.judgeItem (check validator) context) .null []
        items'.zipIdx := by
    refine Run.firstTrue_congr _ _ ((forall₂_zipIdx each 0).imp fun item item' => ?_)
    rintro ⟨place, related⟩
    simp only [judgeItem, place]
    exact Run.bind_congr fun inner _ => alike validator _ _ inner resolved related
  simp only [judgeArray, listed, listed']
  refine Run.bind_congr fun verdict _ => ?_
  cases verdict with
  | some tooDeep => rfl
  | none => exact Run.bind_congr fun validator resolved => loop validator resolved

end World

end Conformance
