import Mathlib.Logic.Relation
import Conformance.Access
import Conformance.Proofs.Run

/-!
# What can be read off a value

One read takes a value to an entry of it, to an item of it, or to one of its fields; a mapping is
only read by its entries, and one of a custom class by whatever that class answers. A dotted name is
read step by step, so all that it gives is null, which stands for whatever is missing, or something
that some reads lead to. Where custom mappings keep to their protocol, a read that faults does so at
one of the values on the way: either the length of an overlong sequence was asked for, or a field
could not be read. Fields have names, and all of this is relative to the names that are read by.
-/

namespace Conformance.World

/-! ## Single reads -/

/-- What a value yields to a single read. No field is read off a mapping, and none off null. A
mapping of a custom class yields what the class gives, which need not be in it. -/
inductive Yields (w : World) (names : String → Prop) (source : Value) : Value → Prop
  | entry {entries : List (Value × Value)} {entry : Value × Value}
      (held : w.store.table? source = some entries) (member : entry ∈ entries) :
      Yields w names source entry.2
  | custom {key part : Value} (mapping : w.store.isCustomMapping source = true)
      (read : w.customs.entry source key = .ok part ∨
        w.customs.entryOrNull source key = .ok part) : Yields w names source part
  | item {place : Nat} {part : Value} (found : w.store.sequenceItem? place source = some part) :
      Yields w names source part
  | field {name : String} {part : Value} (present : source ≠ .null)
      (noMapping : w.store.entries? source = none) (named : names name)
      (read : w.readField source name = .ok (some part)) : Yields w names source part

/-- A value holds whatever some reads lead to from it, itself included. -/
def Holds (w : World) (names : String → Prop) : Value → Value → Prop :=
  Relation.ReflTransGen (w.Yields names)

/-- What reading off a value can give: null, or something that at least one read leads to. -/
def Gives (w : World) (names : String → Prop) (source part : Value) : Prop :=
  part = .null ∨ Relation.TransGen (w.Yields names) source part

variable {w : World} {names : String → Prop} {source part : Value} {fault : Fault}

/-- The items of a list or tuple are read by their places. -/
theorem sequenceItem?_of_arrayItems? {items : List Value}
    (listed : w.store.arrayItems? source = some items) (place : Nat) :
    w.store.sequenceItem? place source = items[place]? := by
  obtain ⟨address, cls, rfl, held | held⟩ := Store.arrayItems?_eq_some_iff.mp listed <;>
    simp [Store.sequenceItem?, held]

theorem sequenceLength?_of_arrayItems? {items : List Value}
    (listed : w.store.arrayItems? source = some items) :
    w.store.sequenceLength? source = some items.length := by
  obtain ⟨address, cls, rfl, held | held⟩ := Store.arrayItems?_eq_some_iff.mp listed <;>
    simp [Store.sequenceLength?, held]

theorem isOverlong_of_arrayItems? {items : List Value}
    (listed : w.store.arrayItems? source = some items) : w.store.isOverlong source = false := by
  obtain ⟨address, cls, rfl, held | held⟩ := Store.arrayItems?_eq_some_iff.mp listed <;>
    simp [Store.isOverlong, held]

/-- A mapping that is read in the ways of its class is not read by its entries. -/
theorem table?_of_isCustomMapping (mapping : w.store.isCustomMapping source = true) :
    w.store.table? source = none := by
  cases held : w.store.table? source with
  | none => rfl
  | some entries => cases mapping.symm.trans (Store.isCustomMapping_of_table? held)

/-- A segment of such a mapping is whatever the class gives for it. -/
theorem readSegment_of_custom (mapping : w.store.isCustomMapping source = true)
    (segment : String) :
    w.readSegment source segment = w.customs.entryOrNull source (.str segment) := by
  simp only [readSegment, table?_of_isCustomMapping mapping, mapping, if_true]

/-- A segment is read off what is no mapping as an item or a field. -/
theorem readSegment_of_unmapped (noMapping : w.store.entries? source = none) (segment : String) :
    w.readSegment source segment = match w.store.sequenceLength? source with
      | some length => w.readItem source length segment
      | none => w.fieldOrNull source segment := by
  obtain ⟨noTable, regular⟩ := Store.entries?_eq_none_iff.mp noMapping
  cases measured : w.store.sequenceLength? source <;>
    simp only [readSegment, noTable, regular, measured, Bool.false_eq_true, if_false]

/-- A segment is read off a list or tuple by the place it names, or as a field if it is no
integer. -/
theorem readSegment_of_arrayItems? {items : List Value}
    (listed : w.store.arrayItems? source = some items) (segment : String) :
    w.readSegment source segment = match Text.readInt? segment.toList with
      | none => w.fieldOrNull source segment
      | some n => .ok (((placeOf? items.length n).bind (items[·]?)).getD .null) := by
  simp only [readSegment_of_unmapped (Store.entries?_eq_none_of_arrayItems? listed),
    sequenceLength?_of_arrayItems? listed, readItem, isOverlong_of_arrayItems? listed,
    sequenceItem?_of_arrayItems? listed]
  cases Text.readInt? segment.toList with
  | none => rfl
  | some n => cases placed : placeOf? items.length n <;> simp [placed]

/-- A list or tuple yields its items. -/
theorem yields_of_arrayItems? {items : List Value}
    (listed : w.store.arrayItems? source = some items) (member : part ∈ items) :
    w.Yields names source part := by
  obtain ⟨place, found⟩ := List.mem_iff_getElem?.mp member
  exact .item ((sequenceItem?_of_arrayItems? listed place).trans found)

/-- An entry that is looked up is one of the entries, and the key is found by it. -/
theorem lookup?_some {entries : List (Value × Value)} {key found : Value}
    (looked : w.store.lookup? entries key = .ok (some found)) :
    ∃ entry ∈ entries, w.store.keyMatches key entry.1 = true ∧ found = entry.2 := by
  rw [Store.lookup?] at looked
  split at looked
  · cases looked
  · obtain ⟨entry, search, same⟩ := Option.map_eq_some_iff.mp (Except.ok.inj looked)
    have matching : w.store.keyMatches key entry.1 = true := by simpa using List.find?_some search
    exact ⟨entry, List.mem_of_find?_eq_some search, matching, same.symm⟩

/-- A text can always be looked up. -/
theorem lookup?_str (entries : List (Value × Value)) (key : String) :
    ∃ found, w.store.lookup? entries (.str key) = .ok found := ⟨_, rfl⟩

/-- Nothing is read off null. -/
theorem not_yields_null : ¬ w.Yields names .null part := by
  rintro (⟨held, _⟩ | ⟨mapping, _⟩ | ⟨found⟩ | ⟨present, _, _, _⟩)
  · cases held
  · cases mapping
  · cases found
  · exact present rfl

/-- Reading off null gives null. -/
theorem eq_null_of_gives (gives : w.Gives names .null part) : part = .null := by
  rcases gives with null | further
  · exact null
  · obtain ⟨_, yields, _⟩ := Relation.TransGen.head'_iff.mp further
    exact absurd yields not_yields_null

/-- Of what null holds there is nothing but null. -/
theorem eq_null_of_holds (held : w.Holds names .null part) : part = .null := by
  rcases Relation.ReflTransGen.cases_head held with same | ⟨_, yields, _⟩
  · exact same.symm
  · exact absurd yields not_yields_null

/-- Reading off null, or off something that a value holds, gives null or something that it holds
as well. -/
theorem held_of_gives {middle : Value} (held : middle = .null ∨ w.Holds names source middle)
    (gives : w.Gives names middle part) : part = .null ∨ w.Holds names source part := by
  rcases held with rfl | held
  · exact .inl (eq_null_of_gives gives)
  · rcases gives with null | further
    · exact .inl null
    · exact .inr (Relation.ReflTransGen.trans held further.to_reflTransGen)

/-! ## Segments -/

/-- Reading a field gives a field, or null for a missing one. -/
theorem fieldOrNull_ok {segment : String} (present : source ≠ .null)
    (noMapping : w.store.entries? source = none) (named : names segment)
    (read : w.fieldOrNull source segment = .ok part) :
    part = .null ∨ w.Yields names source part := by
  rw [fieldOrNull] at read
  split at read
  · next found reading =>
    cases found with
    | none => exact .inl (Except.ok.inj read).symm
    | some field =>
      cases read
      exact .inr (.field present noMapping named reading)
  · split at read
    · exact .inl (Except.ok.inj read).symm
    · cases read

/-- Reading a segment gives null or something that the value yields. -/
theorem readSegment_ok {segment : String} (present : source ≠ .null) (named : names segment)
    (read : w.readSegment source segment = .ok part) :
    part = .null ∨ w.Yields names source part := by
  cases held : w.store.table? source with
  | some entries =>
    rw [readSegment, held] at read
    obtain ⟨found, looked, same⟩ := bind_eq_ok_iff.mp read
    cases found with
    | none => exact .inl (Except.ok.inj same).symm
    | some value =>
      obtain ⟨entry, member, _, rfl⟩ := lookup?_some looked
      cases same
      exact .inr (.entry held member)
  | none =>
  cases custom : w.store.isCustomMapping source with
  | true =>
    rw [readSegment_of_custom custom] at read
    exact .inr (.custom custom (.inr read))
  | false =>
  have noMapping := Store.entries?_eq_none_iff.mpr ⟨held, custom⟩
  rw [readSegment_of_unmapped noMapping] at read
  split at read
  · rw [readItem] at read
    split at read
    · exact fieldOrNull_ok present noMapping named read
    split at read
    · cases read
    split at read
    · exact .inl (Except.ok.inj read).symm
    · next place _ =>
      cases found : w.store.sequenceItem? place source with
      | none =>
        rw [found] at read
        exact .inl (Except.ok.inj read).symm
      | some item =>
        rw [found] at read
        cases read
        exact .inr (.item found)
  · exact fieldOrNull_ok present noMapping named read

/-- Reading a field faults as the field does, with anything but a missing attribute. -/
theorem fieldOrNull_error {segment : String} (ended : w.fieldOrNull source segment = .error fault) :
    w.readField source segment = .error fault ∧ fault.name ≠ "AttributeError" := by
  rw [fieldOrNull] at ended
  split at ended
  · cases ended
  · next reading =>
    split at ended
    · cases ended
    · next other =>
      cases ended
      exact ⟨reading, other⟩

/-- Where mappings keep to their protocol, reading a segment faults when the length of the value
cannot be asked for, or when reading a field does with anything but a missing attribute. -/
theorem readSegment_error {segment : String} (lawful : w.customs.Lawful)
    (ended : w.readSegment source segment = .error fault) :
    w.store.isOverlong source = true ∨
      w.readField source segment = .error fault ∧ fault.name ≠ "AttributeError" := by
  cases held : w.store.table? source with
  | some entries =>
    obtain ⟨found, looked⟩ := lookup?_str (w := w) entries segment
    simp only [readSegment, held, looked] at ended
    cases ended
  | none =>
  cases custom : w.store.isCustomMapping source with
  | true =>
    rw [readSegment_of_custom custom] at ended
    rcases lawful source segment with ⟨_, _, _, read⟩ | ⟨_, read⟩
    · cases read.symm.trans ended
    · cases read.symm.trans ended
  | false =>
  rw [readSegment_of_unmapped (Store.entries?_eq_none_iff.mpr ⟨held, custom⟩)] at ended
  split at ended
  · rw [readItem] at ended
    split at ended
    · exact .inr (fieldOrNull_error ended)
    split at ended
    · next overlong => exact .inl overlong
    split at ended <;> cases ended
  · exact .inr (fieldOrNull_error ended)

/-- Reading no segments gives the value itself, and reading some gives what reading gives. -/
theorem readSegments_ok {segments : List (List Char)}
    (named : ∀ segment ∈ segments, names (String.ofList segment))
    (read : w.readSegments source segments = .ok part) :
    (segments = [] ∧ part = source) ∨ w.Gives names source part := by
  induction segments generalizing source with
  | nil => exact .inl ⟨rfl, (Except.ok.inj read).symm⟩
  | cons segment rest inductionHypothesis =>
    rw [readSegments] at read
    split at read
    · exact .inr (.inl (Except.ok.inj read).symm)
    next present =>
    obtain ⟨middle, first, followed⟩ := bind_eq_ok_iff.mp read
    have later : ∀ segment ∈ rest, names (String.ofList segment) := by
      intro other member
      exact named other (by simp [member])
    right
    rcases readSegment_ok present (named segment (by simp)) first with rfl | yields
    · -- Nothing is read off null.
      have null : part = .null := by
        cases rest with
        | nil => exact (Except.ok.inj followed).symm
        | cons _ _ => simpa [readSegments, eq_comm] using followed
      exact .inl null
    · rcases inductionHypothesis later followed with ⟨_, rfl⟩ | null | further
      · exact .inr (.single yields)
      · exact .inl null
      · exact .inr (.head yields further)

/-- The values off which a segment is read when segments are read one after the other. -/
def ReadOff (w : World) : Value → List (List Char) → Value → Prop
  | _, [], _ => False
  | v, segment :: rest, part =>
    part = v ∨ ∃ next, w.readSegment v (String.ofList segment) = .ok next ∧ w.ReadOff next rest part

/-- Segments fault at a value off which one is read and which the source holds. -/
theorem readSegments_error {segments : List (List Char)}
    (named : ∀ segment ∈ segments, names (String.ofList segment))
    (ended : w.readSegments source segments = .error fault) :
    ∃ part segment, w.Holds names source part ∧ w.ReadOff source segments part ∧ part ≠ .null ∧
      names segment ∧ w.readSegment part segment = .error fault := by
  induction segments generalizing source with
  | nil => cases ended
  | cons segment rest inductionHypothesis =>
    rw [readSegments] at ended
    split at ended
    · cases ended
    next present =>
    have here : names (String.ofList segment) := named segment (by simp)
    have later : ∀ segment ∈ rest, names (String.ofList segment) := by
      intro other member
      exact named other (by simp [member])
    rcases bind_eq_error_iff.mp ended with faulty | ⟨middle, first, followed⟩
    · exact ⟨source, _, .refl, .inl rfl, present, here, faulty⟩
    · obtain ⟨part, last, holds, off, proper, name, faulty⟩ := inductionHypothesis later followed
      rcases readSegment_ok present here first with rfl | yields
      · cases rest <;> simp [readSegments] at followed
      · exact ⟨part, last, .head yields holds, .inr ⟨middle, first, off⟩, proper, name, faulty⟩

/-- A segment of a mapping that is read by its entries is read as the entry of that key. -/
theorem readSegment_of_table? {segment : String} {entries : List (Value × Value)}
    (held : w.store.table? source = some entries) :
    w.readSegment source segment = .ok (((entries.find? fun entry =>
      w.store.keyMatches (.str segment) entry.1).map (·.2)).getD .null) := by
  rw [readSegment, held]
  rfl

/-! ## Dotted names -/

/-- Nothing is held by what is no mapping. -/
theorem verbatim_of_unmapped (noMapping : w.store.entries? source = none) (key : Value) :
    w.verbatim source key = .ok none := by
  obtain ⟨noTable, regular⟩ := Store.entries?_eq_none_iff.mp noMapping
  rw [verbatim, noTable]
  simp only [regular, Bool.false_eq_true, if_false]

/-- A mapping that is read by its entries is looked up in them. -/
theorem verbatim_of_table? {entries : List (Value × Value)}
    (held : w.store.table? source = some entries) (key : Value) :
    w.verbatim source key = w.store.lookup? entries key := by
  rw [verbatim, held]

/-- A custom mapping is asked whether it holds a key, and then for what is under it. -/
theorem verbatim_of_custom (mapping : w.store.isCustomMapping source = true) (key : Value) :
    w.verbatim source key = do
      if ← w.customs.holds source key then return some (← w.customs.entry source key)
      else return none := by
  simp only [verbatim, table?_of_isCustomMapping mapping, mapping, if_true]

/-- What a custom mapping does not hold is not found verbatim. -/
theorem verbatim_of_holds_false {key : Value} (mapping : w.store.isCustomMapping source = true)
    (missing : w.customs.holds source key = .ok false) : w.verbatim source key = .ok none := by
  rw [verbatim_of_custom mapping, missing]
  rfl

/-- What is found verbatim in a custom mapping is held, and the entry under it. -/
theorem holds_of_verbatim {key found : Value} (mapping : w.store.isCustomMapping source = true)
    (looked : w.verbatim source key = .ok (some found)) :
    w.customs.holds source key = .ok true ∧ w.customs.entry source key = .ok found := by
  rw [verbatim_of_custom mapping, bind_eq_ok_iff] at looked
  obtain ⟨answer, held, looked⟩ := looked
  cases answer with
  | true =>
    obtain ⟨value, read, same⟩ := bind_eq_ok_iff.mp looked
    cases same
    exact ⟨held, read⟩
  | false => cases looked

/-- What is not found verbatim is read segment by segment. -/
theorem get_of_missing {key : Value} (missing : w.verbatim source key = .ok none) :
    w.get source key = w.text key >>= fun text =>
      w.readSegments source (Text.segments text.toList) := by
  rw [get, missing]
  rfl

theorem get_str_of_missing {key : String} (missing : w.verbatim source (.str key) = .ok none) :
    w.get source (.str key) = w.readSegments source (Text.segments key.toList) :=
  get_of_missing missing

/-- What a mapping holds verbatim is that entry. -/
theorem get_of_found {key found : Value} (looked : w.verbatim source key = .ok (some found)) :
    w.get source key = .ok found := by
  rw [get, looked]
  rfl

/-- What is held verbatim is yielded. -/
theorem yields_of_verbatim {key found : Value}
    (looked : w.verbatim source key = .ok (some found)) : w.Yields names source found := by
  cases held : w.store.table? source with
  | some entries =>
    rw [verbatim_of_table? held] at looked
    obtain ⟨entry, member, _, rfl⟩ := lookup?_some looked
    exact .entry held member
  | none =>
  cases custom : w.store.isCustomMapping source with
  | true => exact .custom custom (.inl (holds_of_verbatim custom looked).2)
  | false => simp [verbatim, held, custom] at looked

/-- A text is not held as it stands, or what is held is also what is read by it as a segment. For
mappings of custom classes this is their protocol. -/
theorem verbatim_cases (lawful : w.store.isCustomMapping source = true → w.customs.Lawful)
    (key : String) :
    w.verbatim source (.str key) = .ok none ∨
      ∃ found, w.verbatim source (.str key) = .ok (some found) ∧
        w.readSegment source key = .ok found := by
  cases held : w.store.table? source with
  | some entries =>
    obtain ⟨found, same⟩ := lookup?_str (w := w) entries key
    rw [verbatim_of_table? held, same]
    cases found with
    | none => exact .inl rfl
    | some value => exact .inr ⟨value, rfl, by simp only [readSegment, held, same]; rfl⟩
  | none =>
  cases custom : w.store.isCustomMapping source with
  | true =>
    rw [readSegment_of_custom custom]
    rcases lawful custom source key with ⟨value, holds, entry, read⟩ | ⟨missing, _⟩
    · refine .inr ⟨value, ?_, read⟩
      rw [verbatim_of_custom custom, holds, entry]
      rfl
    · exact .inl (verbatim_of_holds_false custom missing)
  | false =>
    exact .inl (verbatim_of_unmapped (Store.entries?_eq_none_iff.mpr ⟨held, custom⟩) _)

/-- Reading a property by a text, verbatim or segment by segment, gives what reading gives. -/
theorem get_gives {key : String}
    (named : ∀ segment ∈ Text.segments key.toList, names (String.ofList segment))
    (read : w.get source (.str key) = .ok part) : w.Gives names source part := by
  cases looked : w.verbatim source (.str key) with
  | error fault =>
    rw [get, looked] at read
    cases read
  | ok found =>
    cases found with
    | some found =>
      cases (get_of_found looked).symm.trans read
      exact .inr (.single (yields_of_verbatim looked))
    | none =>
      rw [get_str_of_missing looked] at read
      rcases readSegments_ok named read with ⟨none, _⟩ | gives
      · exact absurd none (Text.segments_ne_nil _)
      · exact gives

/-- Where mappings keep to their protocol, reading a property by a text faults at a value off which
a segment of it is read. -/
theorem get_error {key : String} (lawful : w.customs.Lawful)
    (named : ∀ segment ∈ Text.segments key.toList, names (String.ofList segment))
    (ended : w.get source (.str key) = .error fault) :
    ∃ part segment, w.Holds names source part ∧
      w.ReadOff source (Text.segments key.toList) part ∧ part ≠ .null ∧ names segment ∧
      w.readSegment part segment = .error fault := by
  rcases verbatim_cases (fun _ => lawful) key with missing | ⟨found, looked, _⟩
  · rw [get_str_of_missing missing] at ended
    exact readSegments_error named ended
  · cases (get_of_found looked).symm.trans ended

end Conformance.World
