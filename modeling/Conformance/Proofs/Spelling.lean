import Conformance.Render

/-!
# Writing against a budget

What there is to write is a text, and it may break off because something refuses to be shown.
Written against a budget it comes out as it is if its text fits. Otherwise it comes out as the first
characters of its text, as many as fit, because writing one piece after the other is the same as
writing them as one piece, wherever the cut falls. A refusal behind the cut is never come to.
-/

namespace Conformance

/-- What there is to write: a text, and the fault that it breaks off with, if it does. -/
structure Spelling where
  text : String
  refusal? : Option Fault

namespace Spelling

/-- A text that does not break off. -/
def whole (text : String) : Spelling := ⟨text, none⟩

/-- What is shown, or nothing but the refusal to show it. -/
def ofOutcome : Except Fault String → Spelling
  | .ok text => whole text
  | .error fault => ⟨"", some fault⟩

/-- One spelling after the other. Nothing comes after a refusal. -/
def append (first second : Spelling) : Spelling :=
  match first.refusal? with
  | none => ⟨first.text ++ second.text, second.refusal?⟩
  | some _ => first

instance : Append Spelling := ⟨append⟩

/-- Spellings one after the other with a separator between them. -/
def row : List Spelling → Spelling
  | [] => whole ""
  | [item] => item
  | item :: next :: rest => item ++ (whole ", " ++ row (next :: rest))

/-- What comes out of writing without a limit. -/
def outcome (spelling : Spelling) : Except Fault String :=
  match spelling.refusal? with
  | none => .ok spelling.text
  | some fault => .error fault

/-- What comes out of writing under a limit, with three dots in place of what is cut off. -/
def within (limit : Nat) (spelling : Spelling) : Except Fault String :=
  if spelling.text.length ≤ limit then spelling.outcome
  else .ok (String.ofList (spelling.text.toList.take limit) ++ "...")

variable {first second spelling spelling' : Spelling} {spellings : List Spelling} {limit : Nat}

/-! ## Spellings one after the other -/

@[simp] theorem whole_text (text : String) : (whole text).text = text := rfl

@[simp] theorem whole_refusal? (text : String) : (whole text).refusal? = none := rfl

theorem append_of_whole (unbroken : first.refusal? = none) :
    first ++ second = ⟨first.text ++ second.text, second.refusal?⟩ := by
  change append first second = _
  simp only [append, unbroken]

theorem append_of_refusal {fault : Fault} (broken : first.refusal? = some fault) :
    first ++ second = first := by
  change append first second = _
  simp only [append, broken]

/-- What is put together breaks off if one of the two does. -/
theorem append_refusal? :
    (first ++ second).refusal? = first.refusal?.or second.refusal? := by
  cases refusal : first.refusal? with
  | none => rw [append_of_whole refusal, Option.none_or]
  | some fault => rw [append_of_refusal refusal, refusal, Option.some_or]

/-- A row that breaks off does so in one of its items. -/
theorem exists_of_row_refusal? {fault : Fault} (broken : (row spellings).refusal? = some fault) :
    ∃ item ∈ spellings, item.refusal? = some fault := by
  induction spellings with
  | nil => cases broken
  | cons item rest inductionHypothesis =>
    cases rest with
    | nil => exact ⟨item, by simp, broken⟩
    | cons next rest =>
      rw [row, append_refusal?, append_refusal?, whole_refusal?, Option.none_or,
        Option.or_eq_some_iff] at broken
      rcases broken with here | ⟨_, later⟩
      · exact ⟨item, by simp, here⟩
      · obtain ⟨other, member, found⟩ := inductionHypothesis later
        exact ⟨other, List.mem_cons_of_mem item member, found⟩

/-- A row that does not break off is whole in each of its items, and its text is theirs with
separators between them. -/
theorem row_of_whole (unbroken : (row spellings).refusal? = none) :
    (∀ item ∈ spellings, item.refusal? = none) ∧
      (row spellings).text = ", ".intercalate (spellings.map text) := by
  induction spellings with
  | nil => exact ⟨by simp, rfl⟩
  | cons item rest inductionHypothesis =>
    cases rest with
    | nil => simpa [row] using unbroken
    | cons next rest =>
      rw [row, append_refusal?, append_refusal?, whole_refusal?, Option.none_or,
        Option.or_eq_none_iff] at unbroken
      obtain ⟨others, texts⟩ := inductionHypothesis unbroken.2
      refine ⟨List.forall_mem_cons.mpr ⟨unbroken.1, others⟩, ?_⟩
      rw [row, append_of_whole unbroken.1, append_of_whole (whole_refusal? _), texts,
        List.map_cons, List.map_cons, List.map_cons, String.intercalate_cons_cons, whole_text,
        String.append_assoc]

/-! ## What comes out -/

theorem outcome_of_whole (unbroken : spelling.refusal? = none) :
    spelling.outcome = .ok spelling.text := by
  simp only [outcome, unbroken]

/-- A fault that comes out is the one that the text breaks off with. -/
theorem refusal?_of_within {fault : Fault} (ended : spelling.within limit = .error fault) :
    spelling.refusal? = some fault := by
  unfold within outcome at ended
  split at ended
  · split at ended
    · cases ended
    · next refusal =>
      cases ended
      exact refusal
  · cases ended

/-- The dots are all that a text exceeds its limit by. -/
theorem length_le_of_within {shown : String} (ended : spelling.within limit = .ok shown) :
    shown.length ≤ limit + 3 := by
  unfold within outcome at ended
  split at ended
  · next fits =>
    split at ended
    · cases ended
      omega
    · cases ended
  · cases ended
    have dots : "...".length = 3 := by decide
    rw [String.length_append, String.length_ofList, List.length_take]
    omega

/-- Nothing but the first characters, and whether there are more of them than the limit allows, can
be told from what has been cut. What breaks off within the limit has to break off alike. -/
theorem within_congr
    (agree : spelling.text.toList.take (limit + 1) = spelling'.text.toList.take (limit + 1))
    (alike : spelling.text.length ≤ limit → spelling.refusal? = spelling'.refusal?) :
    spelling.within limit = spelling'.within limit := by
  have lengths := congrArg List.length agree
  simp only [List.length_take, String.length_toList] at lengths
  unfold within
  by_cases fits : spelling.text.length ≤ limit
  · have fits' : spelling'.text.length ≤ limit := by omega
    have same : spelling.text.toList = spelling'.text.toList := by
      rwa [List.take_of_length_le, List.take_of_length_le] at agree
      · rw [String.length_toList]
        omega
      · rw [String.length_toList]
        omega
    rw [if_pos fits, if_pos fits', outcome, outcome, alike fits, String.toList_inj.mp same]
  · have exceeds : ¬ spelling'.text.length ≤ limit := by omega
    have same : spelling.text.toList.take limit = spelling'.text.toList.take limit := by
      have shorter := congrArg (List.take limit) agree
      rwa [List.take_take, List.take_take, Nat.min_eq_left (Nat.le_succ limit)] at shorter
    rw [if_neg fits, if_neg exceeds, same]

end Spelling

/-! ## Drafts -/

namespace Draft

/-- A piece that fits is added whole. -/
theorem write_of_le {draft : Draft} {piece : String} (fits : piece.length ≤ draft.room) :
    draft.write piece = .ok ⟨draft.text ++ piece, draft.room - piece.length⟩ := by
  simp [write, fits]

/-- A piece that does not fit is cut. -/
theorem write_of_lt {draft : Draft} {piece : String} (exceeds : draft.room < piece.length) :
    draft.write piece =
      .error (.spent (draft.text ++ String.ofList (piece.toList.take draft.room))) := by
  simp [write, Nat.not_le.mpr exceeds]

/-- Writing nothing changes nothing. -/
theorem write_empty (draft : Draft) : draft.write "" = .ok draft := by
  simp [write]

/-- Writing two pieces one after the other is writing them as one. The budget may end in the first
piece, in the second, or behind both. -/
theorem write_append (draft : Draft) (first second : String) :
    draft.write (first ++ second) = (draft.write first).bind (·.write second) := by
  by_cases fits : first.length ≤ draft.room
  · rw [write_of_le fits, Except.bind]
    by_cases rest : second.length ≤ draft.room - first.length
    · have both : (first ++ second).length ≤ draft.room := by
        rw [String.length_append]
        omega
      have left : draft.room - (first.length + second.length) =
          draft.room - first.length - second.length := by omega
      rw [write_of_le both, write_of_le rest, String.length_append, left, String.append_assoc]
    · have exceeds : draft.room - first.length < second.length := Nat.lt_of_not_le rest
      have both : draft.room < (first ++ second).length := by
        rw [String.length_append]
        omega
      have whole : first.toList.take draft.room = first.toList := by
        rw [List.take_of_length_le]
        rwa [String.length_toList]
      rw [write_of_lt both, write_of_lt exceeds, String.toList_append, List.take_append, whole,
        String.length_toList, String.ofList_append, String.ofList_toList, String.append_assoc]
  · have exceeds : draft.room < first.length := Nat.lt_of_not_le fits
    have both : draft.room < (first ++ second).length := by
      rw [String.length_append]
      omega
    have none : draft.room - first.toList.length = 0 := by
      rw [String.length_toList]
      omega
    rw [write_of_lt both, write_of_lt exceeds, Except.bind, String.toList_append, List.take_append,
      none, List.take_zero, List.append_nil]

/-- Writes what there is to write. A refusal is only come to if the text before it fits. -/
def spell (draft : Draft) (spelling : Spelling) : Except Halt Draft :=
  (draft.write spelling.text).bind fun draft =>
    match spelling.refusal? with
    | none => .ok draft
    | some fault => .error (.refused fault)

theorem spell_whole (draft : Draft) (text : String) :
    draft.spell (.whole text) = draft.write text := by
  unfold spell
  rw [Spelling.whole_text]
  cases draft.write text <;> rfl

/-- A piece that may have been refused is written as what is shown of it. -/
theorem spell_ofOutcome (draft : Draft) (piece : Except Fault String) :
    draft.spell (.ofOutcome piece) = draft.writeOutcome piece := by
  cases piece with
  | ok text => exact draft.spell_whole text
  | error fault =>
    unfold spell
    rw [Spelling.ofOutcome, write_empty]
    rfl

/-- Writing two spellings one after the other is writing them as one. -/
theorem spell_append (draft : Draft) (first second : Spelling) :
    draft.spell (first ++ second) = (draft.spell first).bind (·.spell second) := by
  cases refusal : first.refusal? with
  | none =>
    rw [Spelling.append_of_whole refusal]
    simp only [spell, write_append, refusal]
    cases draft.write first.text <;> rfl
  | some fault =>
    rw [Spelling.append_of_refusal refusal]
    simp only [spell, refusal]
    cases draft.write first.text <;> rfl

/-- What there is to write comes out of an empty draft as far as it fits. -/
theorem spell_of_le {room : Nat} {spelling : Spelling} (fits : spelling.text.length ≤ room) :
    spell ⟨"", room⟩ spelling = match spelling.refusal? with
      | none => .ok ⟨spelling.text, room - spelling.text.length⟩
      | some fault => .error (.refused fault) := by
  rw [spell, write_of_le fits, String.empty_append]
  rfl

theorem spell_of_lt {room : Nat} {spelling : Spelling} (exceeds : room < spelling.text.length) :
    spell ⟨"", room⟩ spelling =
      .error (.spent (String.ofList (spelling.text.toList.take room))) := by
  rw [spell, write_of_lt exceeds, String.empty_append]
  rfl

end Draft

/-! ## Items -/

/-- Items made from others are written as the others would be in their place. -/
theorem writeItems_map {α β : Type} (writeItem : β → Draft → Except Halt Draft) (make : α → β)
    (items : List α) (draft : Draft) :
    writeItems writeItem (items.map make) draft =
      writeItems (fun item => writeItem (make item)) items draft := by
  induction items generalizing draft with
  | nil => rfl
  | cons item rest inductionHypothesis =>
    cases rest with
    | nil => rfl
    | cons next rest =>
      rw [List.map_cons, List.map_cons, writeItems, writeItems, ← List.map_cons]
      simp only [inductionHypothesis]

/-- Items that are each written as a spelling are written as these spellings in a row. -/
theorem writeItems_eq_spell {α : Type} {writeItem : α → Draft → Except Halt Draft}
    {spelling : α → Spelling} {items : List α}
    (each : ∀ item ∈ items, ∀ draft, writeItem item draft = draft.spell (spelling item))
    (draft : Draft) :
    writeItems writeItem items draft = draft.spell (.row (items.map spelling)) := by
  induction items generalizing draft with
  | nil =>
    rw [List.map_nil, Spelling.row, Draft.spell_whole, Draft.write_empty]
    rfl
  | cons item rest inductionHypothesis =>
    have first := each item (by simp)
    have others : ∀ other ∈ rest, ∀ draft,
        writeItem other draft = draft.spell (spelling other) := by
      intro other member
      exact each other (by simp [member])
    cases rest with
    | nil => exact first draft
    | cons next rest =>
      rw [List.map_cons, List.map_cons, Spelling.row, ← List.map_cons, Draft.spell_append,
        writeItems, first]
      cases draft.spell (spelling item) with
      | error halt => rfl
      | ok draft =>
        simp only [Except.bind]
        rw [Draft.spell_append, Draft.spell_whole]
        cases draft.write ", " with
        | error halt => rfl
        | ok draft => exact inductionHypothesis others draft

end Conformance
