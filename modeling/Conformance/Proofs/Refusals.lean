import Conformance.Proofs.Occurrences
import Conformance.Proofs.Run

/-!
# What refuses to be shown

A rendering that ends with a fault has come to something within the value that refuses to be shown:
a text of a custom class that is not formatted, an instance of a custom class that does not answer
whether it is a text, or a callable whose label cannot be read. Where custom classes format and
answer and every label can be read, every value is rendered.
-/

namespace Conformance

namespace World

variable {w : World} {options : Options} {v : Value} {fault : Fault}

/-- The labels of the callables that are shown in a value can be read. -/
def Labelled (w : World) (v : Value) : Prop :=
  ∀ u, Relation.ReflTransGen w.Shows v u → w.store.isCallable u = true →
    ∃ label, w.label u = .ok label

/-- A label can be read where the field can that it is read as. -/
theorem exists_label_of_field {label : Value} (read : w.fieldOrNull v "__name__" = .ok label) :
    ∃ label, w.label v = .ok label := by
  unfold World.label
  split
  · exact ⟨_, rfl⟩
  · exact ⟨_, rfl⟩
  · split
    · exact ⟨_, rfl⟩
    · exact ⟨label, read⟩

/-- Nothing within a value refuses to be shown: custom classes format their texts and answer what
their instances are, and labels can be read. -/
structure Showable (w : World) (v : Value) : Prop where
  formats : w.customs.Formats
  answers : w.customs.Answers
  labels : w.Labelled v

/-- Where custom classes answer, every value is or is not an instance of a class. -/
theorem exists_isInstanceOf (answers : w.customs.Answers) (v : Value) (c : Class) :
    ∃ answer, w.isInstanceOf v c = .ok answer := by
  unfold isInstanceOf
  split
  · exact answers c v
  · exact ⟨_, rfl⟩

/-- Where custom classes format their texts and answer, only a callable refuses to be shown, when
its label cannot be read. -/
theorem label_of_words_error (formats : w.customs.Formats) (answers : w.customs.Answers)
    (ended : w.words v = .error fault) :
    w.store.isCallable v = true ∧ w.label v = .error fault := by
  have ofOther (ended : (if w.store.isCallable v then w.shownCallable v else w.shownOther v) =
      .error fault) : w.store.isCallable v = true ∧ w.label v = .error fault := by
    obtain ⟨answer, asked⟩ := exists_isInstanceOf answers v .string
    split at ended
    · next callable =>
      rw [shownCallable, asked] at ended
      obtain ⟨_, _, ended⟩ := (bind_eq_error_iff.mp ended).resolve_left (by simp)
      rcases bind_eq_error_iff.mp ended with refused | ⟨label, _, shown⟩
      · exact ⟨callable, refused⟩
      · split at shown <;> cases shown
    · rw [shownOther, asked] at ended
      cases ended
  cases v with
  | text s tag =>
    obtain ⟨shown, formatted⟩ := formats s tag
    rw [words, quotedText] at ended
    split at ended
    · rw [formatted] at ended
      cases ended
    · cases ended
  | _ => exact ofOther ended

/-- What is no container refuses to be shown if its layout breaks off. -/
theorem words_of_refusal? (plain : w.container? v = none) {depth : Nat} {inside : List Nat}
    (broken : (w.layout depth inside v).spelling.refusal? = some fault) :
    w.words v = .error fault := by
  rw [layout_of_words plain, Layout.spelling_ofWords] at broken
  cases shown : w.words v with
  | ok text =>
    rw [shown] at broken
    cases broken
  | error other =>
    rw [shown] at broken
    cases broken
    rfl

/-- A layout breaks off at something that is shown in the value. The induction follows the
levels. -/
theorem exists_shown_of_refusal? {depth : Nat} {inside : List Nat}
    (broken : (w.layout depth inside v).spelling.refusal? = some fault) :
    ∃ u, Relation.ReflTransGen w.Shows v u ∧ w.words u = .error fault := by
  induction depth generalizing inside v with
  | zero =>
    cases found : w.container? v with
    | none => exact ⟨v, .refl, words_of_refusal? found broken⟩
    | some container =>
      rw [layout_of_container found] at broken
      split at broken <;> cases broken
  | succ depth inductionHypothesis =>
    cases found : w.container? v with
    | none => exact ⟨v, .refl, words_of_refusal? found broken⟩
    | some container =>
      rw [layout_of_container found] at broken
      split at broken
      · cases broken
      · obtain ⟨_, listed, refused⟩ := Layout.exists_of_refusal?_opened broken
        obtain ⟨part, member, rfl⟩ := List.mem_map.mp listed
        obtain ⟨u, reached, shown⟩ := inductionHypothesis refused
        exact ⟨u, .head ⟨container, part.1, found, member⟩ reached, shown⟩

/-- A rendering faults at something that is shown in the value. -/
theorem exists_shown_of_rendering_error (ended : w.rendering options v = .error fault) :
    ∃ u, Relation.ReflTransGen w.Shows v u ∧ w.words u = .error fault := by
  rw [rendering_eq_within] at ended
  exact exists_shown_of_refusal? (Spelling.refusal?_of_within ended)

/-- A value within which nothing refuses to be shown is rendered. -/
theorem exists_rendering (showable : w.Showable v) (options : Options) :
    ∃ shown, w.rendering options v = .ok shown := by
  cases ended : w.rendering options v with
  | ok shown => exact ⟨shown, rfl⟩
  | error fault =>
    obtain ⟨u, reached, refused⟩ := exists_shown_of_rendering_error ended
    obtain ⟨callable, unread⟩ := label_of_words_error showable.formats showable.answers refused
    obtain ⟨label, read⟩ := showable.labels u reached callable
    cases unread.symm.trans read

end World

end Conformance
