import Mathlib.Data.List.Forall2
import Conformance.Proofs.Layout

/-!
# Layouts that can be read back

The text of a layout shows brackets and commas, quotes and colons, and nothing in it says whether
one of these is a separator or part of some words. In a legible layout it can be told: words are
quoted and have no quote inside, or they have no separator in them at all, labels are made of
letters and digits, and no mark of something left out occurs.

Two legible layouts with the same text are then the same, up to the addresses of the containers.
What is proved is more: of a text that begins with that of a legible layout, it can be told where
this ends, if what follows begins with a comma or a closing bracket. The induction is over the
layout. Its first character tells the form, bare words end where a separator does, quoted words at
the next quote, and a container after as many parts as are followed by commas.
-/

namespace Conformance

namespace Text

/-- The characters that separate things in a rendering. -/
def separators : List Char := ['"', '[', ']', '\x7b', '\x7d', ',']

/-- Words without separators. -/
def IsBare (cs : List Char) : Prop := cs ≠ [] ∧ ∀ c ∈ cs, c ∉ separators

instance (cs : List Char) : Decidable (IsBare cs) :=
  decidable_of_iff (cs ≠ [] ∧ (cs.all fun c => c ∉ separators) = true) (by simp [IsBare])

/-- A key made of letters and digits. -/
def IsKey (cs : List Char) : Prop := cs ≠ [] ∧ ∀ c ∈ cs, c.isAlphanum = true

instance (cs : List Char) : Decidable (IsKey cs) :=
  decidable_of_iff (cs ≠ [] ∧ cs.all Char.isAlphanum = true) (by simp [IsKey])

/-- A key with the colon after it. -/
def IsLabel (label : String) : Prop := ∃ key : String, IsKey key.toList ∧ label = key ++ ": "

/-- The characters that can follow the text of a value. -/
def closers : List Char := [',', ']', '\x7d']

/-- What can follow the text of a value: nothing, or something that begins with a comma or a
closing bracket. -/
def Closes (rest : List Char) : Prop := ∀ c ∈ rest.head?, c ∈ closers

/-- What does not begin like something that follows the text of a value. -/
def Opens (cs : List Char) : Prop := ∃ c rest, cs = c :: rest ∧ c ∉ closers

theorem closers_subset_separators : closers ⊆ separators := by decide

theorem closes_nil : Closes [] := by
  intro c first
  cases first

theorem closes_cons {c : Char} (closer : c ∈ closers) (rest : List Char) :
    Closes (c :: rest) := by
  intro other first
  cases first
  exact closer

/-- Where the characters of some kind end is seen from the first one that is of another kind. -/
theorem append_cancel_of_head {kind : Char → Prop} {cs cs' rest rest' : List Char}
    (within : ∀ c ∈ cs, kind c) (within' : ∀ c ∈ cs', kind c) (ended : ∀ c ∈ rest.head?, ¬ kind c)
    (ended' : ∀ c ∈ rest'.head?, ¬ kind c) (same : cs ++ rest = cs' ++ rest') :
    cs = cs' ∧ rest = rest' := by
  induction cs generalizing cs' with
  | nil =>
    cases cs' with
    | nil => exact ⟨rfl, same⟩
    | cons c' cs' =>
      have first : c' ∈ rest.head? := by
        rw [List.nil_append] at same
        simp [same]
      exact absurd (within' c' (by simp)) (ended c' first)
  | cons c cs inductionHypothesis =>
    cases cs' with
    | nil =>
      have first : c ∈ rest'.head? := by
        rw [List.nil_append] at same
        simp [← same]
      exact absurd (within c (by simp)) (ended' c first)
    | cons c' cs' =>
      simp only [List.cons_append, List.cons.injEq] at same
      obtain ⟨rfl, same⟩ := same
      have later : ∀ other ∈ cs, kind other := by
        intro other member
        exact within other (by simp [member])
      have later' : ∀ other ∈ cs', kind other := by
        intro other member
        exact within' other (by simp [member])
      obtain ⟨rfl, rest⟩ := inductionHypothesis later later' same
      exact ⟨rfl, rest⟩

end Text

namespace Layout

/-- A layout that can be read back from its text. -/
inductive Legible : Layout → Prop
  | bare {text : String} (plain : Text.IsBare text.toList) : Legible (.words text)
  | quoted {s : String} (unquoted : '"' ∉ s.toList) : Legible (.words ("\"" ++ s ++ "\""))
  | row {address : Nat} {parts : List (String × Layout)}
      (unlabelled : ∀ part ∈ parts, part.1 = "") (each : ∀ part ∈ parts, Legible part.2) :
      Legible (.opened address .square parts)
  | record {address : Nat} {parts : List (String × Layout)}
      (keyed : ∀ part ∈ parts, Text.IsLabel part.1)
      (each : ∀ part ∈ parts, Legible part.2) : Legible (.opened address .curly parts)

/-- Nothing in a legible layout refuses to be shown. -/
theorem Legible.whole {layout : Layout} (legible : layout.Legible) :
    layout.spelling.refusal? = none := by
  induction legible with
  | bare _ | quoted _ => rfl
  | row _ _ inductionHypothesis | record _ _ inductionHypothesis =>
    by_contra broken
    obtain ⟨fault, refused⟩ := Option.ne_none_iff_exists'.mp broken
    obtain ⟨part, member, inside⟩ := exists_of_refusal?_opened refused
    cases (inductionHypothesis part member).symm.trans inside

/-- Two layouts that are the same apart from the addresses of their containers. -/
inductive Alike : Layout → Layout → Prop
  | words (text : String) : Alike (.words text) (.words text)
  | opened {address address' : Nat} {brackets : Brackets} {parts parts' : List (String × Layout)}
      (complete : parts.length = parts'.length)
      (labels : ∀ pair ∈ parts.zip parts', pair.2.1 = pair.1.1)
      (each : ∀ pair ∈ parts.zip parts', Alike pair.1.2 pair.2.2) :
      Alike (.opened address brackets parts) (.opened address' brackets parts')

/-- Two things with these texts are related, and end at the same place, if one can be read where
the other can. -/
def ReadsAs (related : Prop) (text text' : String) : Prop :=
  ∀ rest rest', Text.Closes rest → Text.Closes rest' →
    text.toList ++ rest = text'.toList ++ rest' → related ∧ rest = rest'

theorem ReadsAs.imp {related related' : Prop} {text text' : String}
    (reads : ReadsAs related text text') (implies : related → related') :
    ReadsAs related' text text' := by
  intro rest rest' closes closes' same
  obtain ⟨holds, end_⟩ := reads rest rest' closes closes' same
  exact ⟨implies holds, end_⟩

/-! ## Parts between brackets -/

/-- The texts of parts that come after another part. -/
def laterParts (parts : List (String × Layout)) : List Char :=
  parts.flatMap fun part => ',' :: ' ' :: (partText part).toList

theorem toList_intercalate_partTexts (part : String × Layout) (parts : List (String × Layout)) :
    (", ".intercalate (partTexts (part :: parts))).toList =
      (partText part).toList ++ laterParts parts := by
  induction parts generalizing part with
  | nil => simp [partTexts, laterParts]
  | cons second others inductionHypothesis =>
    rw [partTexts, partTexts, String.intercalate_cons_cons, ← partTexts, String.toList_append,
      String.toList_append, inductionHypothesis]
    simp [laterParts]

theorem closes_laterParts {closer : Char} (closing : closer ∈ [']', '\x7d'])
    (parts : List (String × Layout)) (rest : List Char) :
    Text.Closes (laterParts parts ++ closer :: rest) := by
  cases parts with
  | nil =>
    apply Text.closes_cons
    exact List.mem_cons_of_mem _ closing
  | cons part parts => exact Text.closes_cons (by decide) _

section Parts

variable {related : String × Layout → String × Layout → Prop} {closer : Char}
  {parts parts' : List (String × Layout)} {rest rest' : List Char}

/-- Later parts are read one by one, up to the closing bracket. -/
theorem laterParts_unique (closing : closer ∈ [']', '\x7d'])
    (each : ∀ part ∈ parts, ∀ part' ∈ parts',
      ReadsAs (related part part') (partText part) (partText part'))
    (same : laterParts parts ++ closer :: rest = laterParts parts' ++ closer :: rest') :
    List.Forall₂ related parts parts' ∧ rest = rest' := by
  have noComma : closer ≠ ',' := by
    rintro rfl
    simp at closing
  induction parts generalizing parts' with
  | nil =>
    cases parts' with
    | nil =>
      simp only [laterParts, List.flatMap_nil, List.nil_append, List.cons.injEq, true_and] at same
      exact ⟨.nil, same⟩
    | cons part' parts' =>
      simp only [laterParts, List.flatMap_nil, List.nil_append, List.flatMap_cons, List.cons_append,
        List.cons.injEq] at same
      exact absurd same.1 noComma
  | cons part parts inductionHypothesis =>
    cases parts' with
    | nil =>
      simp only [laterParts, List.flatMap_nil, List.nil_append, List.flatMap_cons, List.cons_append,
        List.cons.injEq] at same
      exact absurd same.1.symm noComma
    | cons part' parts' =>
      have later : ∀ other ∈ parts, ∀ other' ∈ parts',
          ReadsAs (related other other') (partText other) (partText other') := by
        intro other member other' member'
        exact each other (by simp [member]) other' (by simp [member'])
      simp only [laterParts, List.flatMap_cons, List.cons_append, List.append_assoc,
        List.cons.injEq, true_and] at same
      obtain ⟨first, others⟩ := each part (by simp) part' (by simp) _ _
        (closes_laterParts closing parts rest) (closes_laterParts closing parts' rest') same
      obtain ⟨remaining, end_⟩ := inductionHypothesis later others
      exact ⟨.cons first remaining, end_⟩

/-- All parts are read one by one, if none begins like what comes after a part. -/
theorem parts_unique (closing : closer ∈ [']', '\x7d'])
    (each : ∀ part ∈ parts, ∀ part' ∈ parts',
      ReadsAs (related part part') (partText part) (partText part'))
    (opens : ∀ part ∈ parts, Text.Opens (partText part).toList)
    (opens' : ∀ part ∈ parts', Text.Opens (partText part).toList)
    (same : (", ".intercalate (partTexts parts)).toList ++ closer :: rest =
      (", ".intercalate (partTexts parts')).toList ++ closer :: rest') :
    List.Forall₂ related parts parts' ∧ rest = rest' := by
  have closer_ : closer ∈ Text.closers := List.mem_cons_of_mem _ closing
  cases parts with
  | nil =>
    cases parts' with
    | nil =>
      simp only [partTexts, String.intercalate_nil, String.toList_empty, List.nil_append,
        List.cons.injEq, true_and] at same
      exact ⟨.nil, same⟩
    | cons part' parts' =>
      obtain ⟨c, cs, text, opening⟩ := opens' part' (by simp)
      rw [toList_intercalate_partTexts, text] at same
      simp only [partTexts, String.intercalate_nil, String.toList_empty, List.nil_append,
        List.cons_append, List.cons.injEq] at same
      exact absurd closer_ (same.1 ▸ opening)
  | cons part parts =>
    cases parts' with
    | nil =>
      obtain ⟨c, cs, text, opening⟩ := opens part (by simp)
      rw [toList_intercalate_partTexts, text] at same
      simp only [partTexts, String.intercalate_nil, String.toList_empty, List.nil_append,
        List.cons_append, List.cons.injEq] at same
      exact absurd closer_ (same.1 ▸ opening)
    | cons part' parts' =>
      have later : ∀ other ∈ parts, ∀ other' ∈ parts',
          ReadsAs (related other other') (partText other) (partText other') := by
        intro other member other' member'
        exact each other (by simp [member]) other' (by simp [member'])
      rw [toList_intercalate_partTexts, toList_intercalate_partTexts, List.append_assoc,
        List.append_assoc] at same
      obtain ⟨first, others⟩ := each part (by simp) part' (by simp) _ _
        (closes_laterParts closing parts rest) (closes_laterParts closing parts' rest') same
      obtain ⟨remaining, end_⟩ := laterParts_unique closing later others
      exact ⟨.cons first remaining, end_⟩

end Parts

/-! ## Layouts one by one -/

variable {l l' : Layout}

/-- The text of a container, character by character. -/
theorem toList_text_opened (address : Nat) (brackets : Brackets) (parts : List (String × Layout)) :
    (opened address brackets parts).text.toList = brackets.opening.toList ++
      (", ".intercalate (partTexts parts)).toList ++ brackets.closing.toList := by
  rw [text, String.toList_append, String.toList_append]

theorem toList_text_quoted (s : String) :
    (words ("\"" ++ s ++ "\"")).text.toList = '"' :: (s.toList ++ ['"']) := by
  simp [text, String.toList_append]

/-- The text of a legible layout does not begin like what comes after a value. -/
theorem Legible.opens (legible : l.Legible) : Text.Opens l.text.toList := by
  cases legible with
  | @bare text plain =>
    obtain ⟨given, inside⟩ := plain
    cases found : text.toList with
    | nil => exact absurd found given
    | cons c cs =>
      refine ⟨c, cs, found, ?_⟩
      intro closer
      exact inside c (by simp [found]) (Text.closers_subset_separators closer)
  | @quoted s _ => exact ⟨'"', _, toList_text_quoted s, by decide⟩
  | @row address parts => exact ⟨'[', _, toList_text_opened address .square parts, by decide⟩
  | @record address parts => exact ⟨'\x7b', _, toList_text_opened address .curly parts, by decide⟩

/-- The forms of legible layouts. -/
inductive Form where
  | bare
  | quoted
  | row
  | record
deriving DecidableEq

/-- The form of a layout, which the first character of its text tells. -/
def form (l : Layout) : Form :=
  match l.text.toList.head? with
  | some '"' => .quoted
  | some '[' => .row
  | some '\x7b' => .record
  | _ => .bare

theorem form_bare {s : String} (plain : Text.IsBare s.toList) : form (.words s) = .bare := by
  have same : (words s).text = s := by rw [text]
  rw [form, same]
  split
  · next first => exact absurd (by decide) (plain.2 '"' (List.mem_of_mem_head? first))
  · next first => exact absurd (by decide) (plain.2 '[' (List.mem_of_mem_head? first))
  · next first => exact absurd (by decide) (plain.2 '\x7b' (List.mem_of_mem_head? first))
  · rfl

@[simp] theorem form_quoted (s : String) : form (.words ("\"" ++ s ++ "\"")) = .quoted := by
  rw [form, toList_text_quoted]
  rfl

@[simp] theorem form_row (address : Nat) (parts : List (String × Layout)) :
    form (.opened address .square parts) = .row := by
  rw [form, toList_text_opened]
  rfl

@[simp] theorem form_record (address : Nat) (parts : List (String × Layout)) :
    form (.opened address .curly parts) = .record := by
  rw [form, toList_text_opened]
  rfl

/-- Legible layouts whose texts begin alike have the same form. -/
theorem form_eq_of_append (legible : l.Legible) (legible' : l'.Legible) {rest rest' : List Char}
    (same : l.text.toList ++ rest = l'.text.toList ++ rest') : l.form = l'.form := by
  obtain ⟨c, cs, text, _⟩ := legible.opens
  obtain ⟨c', cs', text', _⟩ := legible'.opens
  rw [text, text'] at same
  simp only [List.cons_append, List.cons.injEq] at same
  rw [form, form, text, text', List.head?_cons, List.head?_cons, same.1]

/-- Keys are read up to the colon. -/
theorem readsAs_key {related : Prop} {key key' said said' : String} (named : Text.IsKey key.toList)
    (named' : Text.IsKey key'.toList) (below : ReadsAs related said said') :
    ReadsAs (key = key' ∧ related) (key ++ ": " ++ said) (key' ++ ": " ++ said') := by
  intro rest rest' closes closes' same
  simp only [String.toList_append, List.append_assoc] at same
  have ended : ∀ rest : List Char, ∀ c ∈ (": ".toList ++ rest).head?, ¬ c.isAlphanum = true := by
    rintro rest c first
    cases first
    decide
  obtain ⟨sameKey, same⟩ := Text.append_cancel_of_head named.2 named'.2 (ended _) (ended _) same
  obtain ⟨inside, end_⟩ := below rest rest' closes closes' (List.append_cancel_left same)
  exact ⟨⟨String.toList_injective sameKey, inside⟩, end_⟩

/-- Parts that are alike one by one, under the same labels, make containers that are alike. -/
theorem alike_of_forall₂ {address address' : Nat} {brackets : Brackets}
    {parts parts' : List (String × Layout)}
    (each : List.Forall₂ (fun part part' => part'.1 = part.1 ∧ Alike part.2 part'.2) parts parts') :
    Alike (.opened address brackets parts) (.opened address' brackets parts') := by
  obtain ⟨complete, pairs⟩ := List.forall₂_iff_zip.mp each
  exact .opened complete (fun pair member => (pairs member).1) fun pair member => (pairs member).2

/-- Containers in the same brackets read alike if their parts do. -/
theorem readsAs_opened {address address' : Nat} {brackets : Brackets}
    {parts parts' : List (String × Layout)}
    (each : ∀ part ∈ parts, ∀ part' ∈ parts',
      ReadsAs (part'.1 = part.1 ∧ Alike part.2 part'.2) (partText part) (partText part'))
    (opens : ∀ part ∈ parts, Text.Opens (partText part).toList)
    (opens' : ∀ part ∈ parts', Text.Opens (partText part).toList) :
    ReadsAs (Alike (.opened address brackets parts) (.opened address' brackets parts'))
      (opened address brackets parts).text (opened address' brackets parts').text := by
  intro rest rest' _ _ same
  obtain ⟨closer, closing, closed⟩ :
      ∃ closer ∈ [']', '\x7d'], brackets.closing.toList = [closer] := by
    cases brackets with
    | square => exact ⟨']', by simp, rfl⟩
    | curly => exact ⟨'\x7d', by simp, rfl⟩
  rw [toList_text_opened, toList_text_opened, closed] at same
  simp only [List.append_assoc, List.singleton_append] at same
  obtain ⟨related, end_⟩ := parts_unique closing each opens opens' (List.append_cancel_left same)
  exact ⟨alike_of_forall₂ related, end_⟩

/-- Bare words are read up to the first separator. -/
theorem readsAs_bare {s s' : String} (plain : Text.IsBare s.toList)
    (plain' : Text.IsBare s'.toList) :
    ReadsAs (Alike (.words s) (.words s')) (words s).text (words s').text := by
  intro rest rest' closes closes' same
  have ended {rest : List Char} (closes : Text.Closes rest) :
      ∀ c ∈ rest.head?, ¬ c ∉ Text.separators := by
    intro c first
    exact not_not.mpr (Text.closers_subset_separators (closes c first))
  obtain ⟨sameText, end_⟩ :=
    Text.append_cancel_of_head plain.2 plain'.2 (ended closes) (ended closes') same
  cases String.toList_injective sameText
  exact ⟨.words s, end_⟩

/-- Quoted words are read up to the next quote. -/
theorem readsAs_quoted {s s' : String} (unquoted : '"' ∉ s.toList) (unquoted' : '"' ∉ s'.toList) :
    ReadsAs (Alike (.words ("\"" ++ s ++ "\"")) (.words ("\"" ++ s' ++ "\"")))
      (words ("\"" ++ s ++ "\"")).text (words ("\"" ++ s' ++ "\"")).text := by
  intro rest rest' _ _ same
  rw [toList_text_quoted, toList_text_quoted] at same
  simp only [List.cons_append, List.append_assoc, List.nil_append, List.cons.injEq,
    true_and] at same
  have inside : ∀ {s : String}, '"' ∉ s.toList → ∀ c ∈ s.toList, c ≠ '"' := by
    rintro s unquoted c member rfl
    exact unquoted member
  have ended : ∀ rest : List Char, ∀ c ∈ ('"' :: rest).head?, ¬ c ≠ '"' := by
    rintro rest c first
    cases first
    simp
  obtain ⟨sameText, end_⟩ :=
    Text.append_cancel_of_head (inside unquoted) (inside unquoted') (ended _) (ended _) same
  cases String.toList_injective sameText
  exact ⟨.words _, (List.cons.inj end_).2⟩

/-- A part without a label is its value. -/
theorem partText_of_unlabelled {part : String × Layout} (unlabelled : part.1 = "") :
    partText part = part.2.text := by
  obtain ⟨label, value⟩ := part
  cases unlabelled
  rw [partText]
  exact String.empty_append

/-- A part under a key begins with a letter or a digit. -/
theorem opens_of_isLabel {part : String × Layout} (keyed : Text.IsLabel part.1) :
    Text.Opens (partText part).toList := by
  obtain ⟨label, value⟩ := part
  obtain ⟨key, ⟨given, named⟩, rfl⟩ := keyed
  cases found : key.toList with
  | nil => exact absurd found given
  | cons c cs =>
    have alphanumeric := named c (by simp [found])
    refine ⟨c, cs ++ ": ".toList ++ value.text.toList, ?_, ?_⟩
    · simp [partText, String.toList_append, found]
    · intro closer
      simp only [Text.closers, List.mem_cons, List.not_mem_nil, or_false] at closer
      rcases closer with rfl | rfl | rfl <;> revert alphanumeric <;> decide

section Containers

variable {address address' : Nat} {parts parts' : List (String × Layout)}
  (each : ∀ part ∈ parts, Legible part.2) (each' : ∀ part ∈ parts', Legible part.2)
  (below : ∀ part ∈ parts, ∀ part' ∈ parts',
    ReadsAs (Alike part.2 part'.2) part.2.text part'.2.text)

include each each' below in
/-- Rows read alike if their parts do. -/
theorem readsAs_row (unlabelled : ∀ part ∈ parts, part.1 = "")
    (unlabelled' : ∀ part ∈ parts', part.1 = "") :
    ReadsAs (Alike (.opened address .square parts) (.opened address' .square parts'))
      (opened address .square parts).text (opened address' .square parts').text := by
  apply readsAs_opened
  · intro part member part' member'
    have none := unlabelled part member
    have none' := unlabelled' part' member'
    rw [partText_of_unlabelled none, partText_of_unlabelled none']
    exact (below part member part' member').imp fun alike => ⟨none'.trans none.symm, alike⟩
  · intro part member
    rw [partText_of_unlabelled (unlabelled part member)]
    exact (each part member).opens
  · intro part member
    rw [partText_of_unlabelled (unlabelled' part member)]
    exact (each' part member).opens

include below in
/-- Records read alike if what they have under their keys does. -/
theorem readsAs_record (keyed : ∀ part ∈ parts, Text.IsLabel part.1)
    (keyed' : ∀ part ∈ parts', Text.IsLabel part.1) :
    ReadsAs (Alike (.opened address .curly parts) (.opened address' .curly parts'))
      (opened address .curly parts).text (opened address' .curly parts').text := by
  apply readsAs_opened
  · rintro ⟨label, value⟩ member ⟨label', value'⟩ member'
    obtain ⟨key, named, rfl⟩ := keyed _ member
    obtain ⟨key', named', rfl⟩ := keyed' _ member'
    rw [partText, partText]
    refine (readsAs_key named named' (below _ member _ member')).imp ?_
    rintro ⟨rfl, alike⟩
    exact ⟨rfl, alike⟩
  · intro part member
    exact opens_of_isLabel (keyed part member)
  · intro part member
    exact opens_of_isLabel (keyed' part member)

end Containers

/-- The text of a legible layout can be read in one way only, whatever follows it. The induction is
over the layout; the first character leaves only layouts of the same form to compare it with. -/
theorem Legible.readsAs (legible : l.Legible) (legible' : l'.Legible) :
    ReadsAs (Alike l l') l.text l'.text := by
  induction legible generalizing l' with
  | @bare s plain =>
    intro rest rest' closes closes' same
    have forms := form_eq_of_append (.bare plain) legible' same
    rw [form_bare plain] at forms
    cases legible' with
    | bare plain' => exact readsAs_bare plain plain' rest rest' closes closes' same
    | quoted | row | record => simp at forms
  | @quoted s unquoted =>
    intro rest rest' closes closes' same
    have forms := form_eq_of_append (.quoted unquoted) legible' same
    cases legible' with
    | bare plain' => simp [form_bare plain'] at forms
    | quoted unquoted' => exact readsAs_quoted unquoted unquoted' rest rest' closes closes' same
    | row | record => simp at forms
  | @row address parts unlabelled each inductionHypothesis =>
    intro rest rest' closes closes' same
    have forms := form_eq_of_append (.row unlabelled each) legible' same
    cases legible' with
    | bare plain' => simp [form_bare plain'] at forms
    | row unlabelled' each' =>
      have below := fun part member part' member' =>
        inductionHypothesis part member (each' part' member')
      exact readsAs_row each each' below unlabelled unlabelled' rest rest' closes closes' same
    | quoted | record => simp at forms
  | @record address parts keyed each inductionHypothesis =>
    intro rest rest' closes closes' same
    have forms := form_eq_of_append (.record keyed each) legible' same
    cases legible' with
    | bare plain' => simp [form_bare plain'] at forms
    | record keyed' each' =>
      have below := fun part member part' member' =>
        inductionHypothesis part member (each' part' member')
      exact readsAs_record below keyed keyed' rest rest' closes closes' same
    | quoted | row => simp at forms

/-- Legible layouts with the same text are alike. -/
theorem Legible.alike_of_text_eq (legible : l.Legible) (legible' : l'.Legible)
    (same : l.text = l'.text) : Alike l l' := by
  have whole : l.text.toList ++ [] = l'.text.toList ++ [] := by rw [same]
  exact (legible.readsAs legible' [] [] Text.closes_nil Text.closes_nil whole).1

end Layout

end Conformance
