import Conformance.Keys

/-!
# The ways of custom classes

Some objects are asked and not looked at. A custom class formats a text, looks a key up in a mapping
and says what is an instance by running code of its own, and each of these may fault. Nothing else
of such a class is up to the world: its instances have their contents, which are compared and
counted like those of any other class.

What a claim needs of custom classes is said by the properties at the end. They hold of classes
that keep to what formatting, lookups and instance tests are for, and none of them says anything
about a check.
-/

namespace Conformance

namespace Tag

/-- Whether a text or number of this kind is an instance of a custom class. -/
def isCustom : Tag → Bool
  | .plain => false
  | .derived cls => cls.custom
  | .member m => m.cls.custom

end Tag

/-- What custom classes do with their instances. -/
structure Customs where
  /-- Formats a text of a custom class, given its contents. -/
  format : String → Tag → Except Fault String
  /-- Says whether a value is an instance of a class, if either is custom. -/
  judges : Class → Value → Except Fault Bool
  /-- Says whether a mapping holds a key. -/
  holds : Value → Value → Except Fault Bool
  /-- The value under a key that a mapping holds. -/
  entry : Value → Value → Except Fault Value
  /-- The value under a key of a mapping, or null. -/
  entryOrNull : Value → Value → Except Fault Value

namespace Customs

/-- The value under a key of a mapping that is looked up among its entries. -/
def valueUnder? (σ : Store) (m key : Value) : Except Fault (Option Value) :=
  match σ.entries? m with
  | some entries => σ.lookup? entries key
  | none => .ok none

/-- Custom classes whose ways are those of all others. -/
def regular (σ : Store) : Customs where
  format s _ := .ok s
  judges c v := .ok ((σ.classOf v).isA c)
  holds m key := (valueUnder? σ m key).map Option.isSome
  entry m key := (valueUnder? σ m key).map (Option.getD · .null)
  entryOrNull m key := (valueUnder? σ m key).map (Option.getD · .null)

variable {customs : Customs}

/-- Every text can be formatted. -/
def Formats (customs : Customs) : Prop := ∀ s tag, ∃ shown, customs.format s tag = .ok shown

/-- Every question what is an instance of what is answered. -/
def Answers (customs : Customs) : Prop := ∀ c v, ∃ answer, customs.judges c v = .ok answer

/-- Mappings give the same value under a text that they hold, however they are asked for it, unless
that is a fault. -/
def Coherent (customs : Customs) : Prop :=
  ∀ {m value other : Value} {key : String}, customs.holds m (.str key) = .ok true →
    customs.entry m (.str key) = .ok value → customs.entryOrNull m (.str key) = .ok other →
    other = value

/-- Mappings keep to their protocol for keys that are texts: each key is either held, and then all
ways lead to the same value, or it is missing, which is no fault. -/
def Lawful (customs : Customs) : Prop :=
  ∀ (m : Value) (key : String),
    (∃ value, customs.holds m (.str key) = .ok true ∧ customs.entry m (.str key) = .ok value ∧
        customs.entryOrNull m (.str key) = .ok value) ∨
      (customs.holds m (.str key) = .ok false ∧ customs.entryOrNull m (.str key) = .ok .null)

theorem Lawful.coherent (lawful : customs.Lawful) : customs.Coherent := by
  intro m value other key held found read
  rcases lawful m key with ⟨same, _, found', read'⟩ | ⟨missing, _⟩
  · cases found.symm.trans found'
    exact Except.ok.inj (read.symm.trans read')
  · cases held.symm.trans missing

theorem regular_formats (σ : Store) : (regular σ).Formats := fun s _ => ⟨s, rfl⟩

theorem regular_answers (σ : Store) : (regular σ).Answers := fun _ _ => ⟨_, rfl⟩

/-- A lookup among entries keeps to the protocol, since a text can always be looked up. -/
theorem regular_lawful (σ : Store) : (regular σ).Lawful := by
  intro m key
  obtain ⟨found, looked⟩ : ∃ found, valueUnder? σ m (.str key) = .ok found := by
    unfold valueUnder?
    cases σ.entries? m with
    | none => exact ⟨none, rfl⟩
    | some entries => exact ⟨_, rfl⟩
  cases found with
  | none => exact .inr (by simp [regular, looked, Except.map])
  | some value => exact .inl ⟨value, by simp [regular, looked, Except.map]⟩

end Customs

end Conformance
