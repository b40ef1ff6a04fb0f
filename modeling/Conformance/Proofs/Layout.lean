import Conformance.Proofs.Spelling

/-!
# The layout of a rendering

What a rendering shows is given here apart from how it is written: a layout says at each place
whether there are words, something that refuses to be shown, the mark of a container inside itself,
the brackets of a container that is too deep, or a container with its parts. How a layout is spelled
follows from it: its text as far as nothing in it refuses, and the first refusal.

A rendering is the spelling of its layout, cut to the limit and marked by three dots if the text is
longer. It says nothing about what is behind the cut.
-/

namespace Conformance

/-! ## Layouts -/

/-- The brackets a container is rendered in: square ones for lists and tuples, curly ones for
mappings. -/
inductive Brackets where
  | square
  | curly
deriving DecidableEq

namespace Brackets

def opening : Brackets → String
  | .square => "["
  | .curly => "\x7b"

def closing : Brackets → String
  | .square => "]"
  | .curly => "\x7d"

/-- What stands for a container that is too deep. -/
def elision : Brackets → String
  | .square => "[...]"
  | .curly => "\x7b...\x7d"

end Brackets

/-- A container as it is rendered: the values in it, each with what is written in front of it. -/
structure Container where
  address : Nat
  brackets : Brackets
  parts : List (String × Value)

/-- What a rendering shows. -/
inductive Layout where
  | words (text : String)
  /-- Something that refuses to be shown. -/
  | refused (fault : Fault)
  /-- The mark of a container inside itself. -/
  | circular (address : Nat)
  /-- The brackets of a container that is too deep. -/
  | elided (brackets : Brackets)
  | opened (address : Nat) (brackets : Brackets) (parts : List (String × Layout))

namespace Layout

/-- What has no parts is laid out as the words for it, if there are any. -/
def ofWords : Except Fault String → Layout
  | .ok text => .words text
  | .error fault => .refused fault

section OfWords

variable (words : Except Fault String) {address : Nat} {brackets : Brackets}
  {parts : List (String × Layout)}

@[simp] theorem ofWords_ne_circular : ofWords words ≠ .circular address := by
  cases words <;> simp [ofWords]

@[simp] theorem ofWords_ne_elided : ofWords words ≠ .elided brackets := by
  cases words <;> simp [ofWords]

@[simp] theorem ofWords_ne_opened : ofWords words ≠ .opened address brackets parts := by
  cases words <;> simp [ofWords]

end OfWords

mutual

/-- The text of a layout. What refuses to be shown has none. -/
def text : Layout → String
  | .words text => text
  | .refused _ => ""
  | .circular _ => "[Circular]"
  | .elided brackets => brackets.elision
  | .opened _ brackets parts =>
    brackets.opening ++ ", ".intercalate (partTexts parts) ++ brackets.closing

/-- The texts of the parts of a container. -/
def partTexts : List (String × Layout) → List String
  | [] => []
  | part :: rest => partText part :: partTexts rest

/-- The text of a part, with what is written in front of it. -/
def partText : String × Layout → String
  | (label, part) => label ++ part.text

end

mutual

/-- How a layout is spelled. -/
def spelling : Layout → Spelling
  | .words text => .whole text
  | .refused fault => .ofOutcome (.error fault)
  | .circular _ => .whole "[Circular]"
  | .elided brackets => .whole brackets.elision
  | .opened _ brackets parts =>
    .whole brackets.opening ++ (.row (partSpellings parts) ++ .whole brackets.closing)

/-- How the parts of a container are spelled. -/
def partSpellings : List (String × Layout) → List Spelling
  | [] => []
  | part :: rest => partSpelling part :: partSpellings rest

/-- How a part is spelled, with what is written in front of it. -/
def partSpelling : String × Layout → Spelling
  | (label, part) => .whole label ++ part.spelling

end

theorem partSpellings_eq_map (parts : List (String × Layout)) :
    partSpellings parts = parts.map partSpelling := by
  induction parts with
  | nil => rfl
  | cons part rest inductionHypothesis => rw [partSpellings, inductionHypothesis, List.map_cons]

/-- A container breaks off in one of its parts. -/
theorem exists_of_refusal?_opened {address : Nat} {brackets : Brackets}
    {parts : List (String × Layout)} {fault : Fault}
    (broken : (opened address brackets parts).spelling.refusal? = some fault) :
    ∃ part ∈ parts, part.2.spelling.refusal? = some fault := by
  simp only [spelling, partSpellings_eq_map, Spelling.append_refusal?, Spelling.whole_refusal?,
    Option.none_or, Option.or_none] at broken
  obtain ⟨_, listed, refused⟩ := Spelling.exists_of_row_refusal? broken
  obtain ⟨part, member, rfl⟩ := List.mem_map.mp listed
  rw [partSpelling, Spelling.append_refusal?, Spelling.whole_refusal?, Option.none_or] at refused
  exact ⟨part, member, refused⟩

theorem spelling_ofWords (words : Except Fault String) :
    (ofWords words).spelling = .ofOutcome words := by
  cases words <;> rfl

mutual

/-- A layout that does not break off is spelled as its text. -/
theorem text_of_whole : ∀ {layout : Layout}, layout.spelling.refusal? = none →
    layout.spelling.text = layout.text
  | .words _, _ | .circular _, _ | .elided _, _ => rfl
  | .opened _ brackets parts, unbroken => by
    rw [spelling, Spelling.append_refusal?, Spelling.append_refusal?, Spelling.whole_refusal?,
      Option.none_or, Option.or_eq_none_iff] at unbroken
    obtain ⟨each, texts⟩ := Spelling.row_of_whole unbroken.1
    rw [spelling, Spelling.append_of_whole (Spelling.whole_refusal? _),
      Spelling.append_of_whole unbroken.1, texts, partTexts_of_whole each, text,
      Spelling.whole_text, Spelling.whole_text, String.append_assoc]

theorem partTexts_of_whole : ∀ {parts : List (String × Layout)},
    (∀ part ∈ partSpellings parts, part.refusal? = none) →
      (partSpellings parts).map Spelling.text = partTexts parts
  | [], _ => rfl
  | part :: rest, unbroken => by
    obtain ⟨first, others⟩ := List.forall_mem_cons.mp unbroken
    rw [partSpellings, List.map_cons, partTexts, partText_of_whole first, partTexts_of_whole others]

theorem partText_of_whole : ∀ {part : String × Layout}, (partSpelling part).refusal? = none →
    (partSpelling part).text = partText part
  | (label, part), unbroken => by
    rw [partSpelling, Spelling.append_refusal?, Spelling.whole_refusal?, Option.none_or] at unbroken
    rw [partSpelling, Spelling.append_of_whole (Spelling.whole_refusal? _), Spelling.whole_text,
      text_of_whole unbroken, partText]

end

/-- A layout that does not break off comes out as its text if that fits. -/
theorem within_of_whole {layout : Layout} {limit : Nat} (unbroken : layout.spelling.refusal? = none)
    (fits : layout.text.length ≤ limit) : layout.spelling.within limit = .ok layout.text := by
  rw [Spelling.within, Spelling.outcome_of_whole unbroken, text_of_whole unbroken, if_pos fits]

end Layout

namespace World

/-- A value as a container, if it is rendered as one. Callables are not, whatever they contain. -/
def container? (w : World) : Value → Option Container
  | .object address =>
    if w.store.isCallable (.object address) then none
    else match w.store.cell? address with
      | some (.list _ items) | some (.tuple _ items) =>
        some ⟨address, .square, items.map fun item => ("", item)⟩
      | some (.mapping _ entries) =>
        some ⟨address, .curly, entries.map fun entry => (w.natural entry.1 ++ ": ", entry.2)⟩
      | _ => none
  | _ => none

/-- The words for a value that is not rendered as a container, if it lets itself be shown. -/
def words (w : World) : Value → Except Fault String
  | .text s tag => w.quotedText s tag
  | v => if w.store.isCallable v then w.shownCallable v else w.shownOther v

/-- The layout of a value, `depth` containers deep at most, inside the containers `inside`. -/
def layout (w : World) : Nat → List Nat → Value → Layout
  | depth, inside, v =>
    match w.container? v with
    | none => .ofWords (w.words v)
    | some container =>
      if container.address ∈ inside then .circular container.address
      else match depth with
        | 0 => .elided container.brackets
        | depth + 1 => .opened container.address container.brackets
          (container.parts.map fun part =>
            (part.1, w.layout depth (container.address :: inside) part.2))

variable {w : World} {options : Options} {v : Value}

/-! ## What is written is the spelling of the layout -/

/-- What is no container is written in its words. -/
theorem render_of_words (plain : w.container? v = none) (depth : Nat) (inside : List Nat)
    (draft : Draft) : w.render depth inside v draft = draft.writeOutcome (w.words v) := by
  cases v with
  | object address =>
    by_cases callable : w.store.isCallable (.object address) = true
    · simp only [render, words, callable, if_true]
    · cases found : w.store.cell? address with
      | none => simp [render, words, callable, found]
      | some cell =>
        cases cell with
        | list _ _ | tuple _ _ | mapping _ _ => simp [container?, callable, found] at plain
        | _ => simp [render, words, callable, found]
  | text _ _ => simp only [render, words]
  | _ =>
    simp only [render, words]
    split <;> rfl

/-- A container is a list or tuple, or a mapping, that is no callable. -/
theorem container?_cases {container : Container} (found : w.container? v = some container) :
    w.store.isCallable v = false ∧ v = .object container.address ∧
      ((∃ items, w.store.arrayItems? v = some items ∧ container.brackets = .square ∧
          container.parts = items.map fun item => ("", item)) ∨
        ∃ entries, w.store.entries? v = some entries ∧ container.brackets = .curly ∧
          container.parts = entries.map fun entry => (w.natural entry.1 ++ ": ", entry.2)) := by
  cases v with
  | object address =>
    by_cases callable : w.store.isCallable (.object address) = true
    · simp [container?, callable] at found
    · have silent : w.store.isCallable (.object address) = false := by simpa using callable
      simp only [container?, silent] at found
      cases held : w.store.cell? address with
      | none => simp [held] at found
      | some cell =>
        cases cell with
        | list _ items | tuple _ items =>
          simp only [held, Bool.false_eq_true, if_false, Option.some.injEq] at found
          subst found
          exact ⟨silent, rfl, .inl ⟨items, by simp [Store.arrayItems?, held], rfl, rfl⟩⟩
        | mapping _ entries =>
          simp only [held, Bool.false_eq_true, if_false, Option.some.injEq] at found
          subst found
          exact ⟨silent, rfl, .inr ⟨entries, by simp [Store.entries?, held], rfl, rfl⟩⟩
        | _ => simp [held] at found
  | _ => simp [container?] at found

/-- A container is written in its brackets, part by part, unless it is inside itself or too deep. -/
theorem render_of_container {container : Container} (found : w.container? v = some container)
    (depth : Nat) (inside : List Nat) (draft : Draft) :
    w.render depth inside v draft =
      if container.address ∈ inside then draft.write "[Circular]"
      else match depth with
        | 0 => draft.write container.brackets.elision
        | depth + 1 =>
          (draft.write container.brackets.opening).bind fun draft =>
            (writeItems (fun part draft => (draft.write part.1).bind
                (w.render depth (container.address :: inside) part.2))
              container.parts draft).bind (·.write container.brackets.closing) := by
  obtain ⟨silent, rfl, ⟨items, held, square, parts⟩ | ⟨entries, held, curly, parts⟩⟩ :=
    container?_cases found
  · rw [square, parts]
    simp only [writeItems_map, Draft.write_empty, Except.bind]
    obtain ⟨_, cls, same, list | tuple⟩ := Store.arrayItems?_eq_some_iff.mp held
    · cases same
      cases depth <;> simp [render, silent, list] <;> rfl
    · cases same
      cases depth <;> simp [render, silent, tuple] <;> rfl
  · rw [curly, parts]
    simp only [writeItems_map]
    obtain ⟨_, cls, same, mapping⟩ := Store.entries?_eq_some_iff.mp held
    cases same
    cases depth <;> simp [render, silent, mapping] <;> rfl

/-- What is no container is laid out as its words. -/
theorem layout_of_words (plain : w.container? v = none) (depth : Nat) (inside : List Nat) :
    w.layout depth inside v = .ofWords (w.words v) := by
  cases depth <;> rw [layout, plain]

/-- A container is laid out part by part, unless it is inside itself or too deep. -/
theorem layout_of_container {container : Container} (found : w.container? v = some container)
    (depth : Nat) (inside : List Nat) :
    w.layout depth inside v =
      if container.address ∈ inside then .circular container.address
      else match depth with
        | 0 => .elided container.brackets
        | depth + 1 => .opened container.address container.brackets
          (container.parts.map fun part =>
            (part.1, w.layout depth (container.address :: inside) part.2)) := by
  cases depth <;> rw [layout, found]

/-- What is no container is written as its layout is spelled. -/
theorem render_eq_spell_of_words (plain : w.container? v = none) (depth : Nat) (inside : List Nat)
    (draft : Draft) :
    w.render depth inside v draft = draft.spell (w.layout depth inside v).spelling := by
  rw [render_of_words plain, layout_of_words plain, Layout.spelling_ofWords, Draft.spell_ofOutcome]

/-- Writing a rendering is writing how its layout is spelled. The induction follows the levels; the
parts of a container are one level further down. -/
theorem render_eq_spell (w : World) (depth : Nat) (inside : List Nat) (v : Value) (draft : Draft) :
    w.render depth inside v draft = draft.spell (w.layout depth inside v).spelling := by
  induction depth generalizing inside v draft with
  | zero =>
    cases found : w.container? v with
    | none => exact render_eq_spell_of_words found _ _ _
    | some container =>
      rw [render_of_container found, layout_of_container found]
      split <;> exact (draft.spell_whole _).symm
  | succ depth inductionHypothesis =>
    cases found : w.container? v with
    | none => exact render_eq_spell_of_words found _ _ _
    | some container =>
      rw [render_of_container found, layout_of_container found]
      split
      · exact (draft.spell_whole _).symm
      · have each : ∀ part ∈ container.parts, ∀ draft : Draft,
            (draft.write part.1).bind (w.render depth (container.address :: inside) part.2) =
            draft.spell (.whole part.1 ++
              (w.layout depth (container.address :: inside) part.2).spelling) := by
          intro part _ draft
          rw [Draft.spell_append, Draft.spell_whole]
          simp only [← inductionHypothesis]
        simp only [writeItems_eq_spell each, Layout.spelling, Layout.partSpellings_eq_map,
          List.map_map, Draft.spell_append, Draft.spell_whole]
        rfl

/-! ## Renderings -/

/-- A rendering is what comes out of its layout under the limit. -/
theorem rendering_eq_within (w : World) (options : Options) (v : Value) :
    w.rendering options v =
      (w.layout options.maxRenderDepth [] v).spelling.within options.maxRenderLength := by
  unfold rendering Spelling.within
  rw [render_eq_spell]
  by_cases fits :
      (w.layout options.maxRenderDepth [] v).spelling.text.length ≤ options.maxRenderLength
  · rw [Draft.spell_of_le fits, if_pos fits, Spelling.outcome]
    cases (w.layout options.maxRenderDepth [] v).spelling.refusal? <;> rfl
  · rw [Draft.spell_of_lt (Nat.lt_of_not_le fits), if_neg fits]

/-- Without a limit that it reaches, a rendering is written whole: the text of its layout is what
there is to write, unless something in it refuses to be shown, which ends it there. Under a limit it
is that text if it is no longer than the limit, and otherwise as many of its first characters as the
limit allows, followed by three dots; what refuses to be shown behind the cut is not come to. So it
exceeds the limit by three characters at most, and every other rendering, of any value in any world,
is the same if the limit is the same and the two complete texts agree one character further than
it, and break off alike if they are no longer than that. -/
theorem rendering_is_budgeted (w : World) (options : Options) (v : Value) :
    let whole := (w.layout options.maxRenderDepth [] v).spelling
    let limit := options.maxRenderLength
    (whole.refusal? = none → whole.text = (w.layout options.maxRenderDepth [] v).text) ∧
    (∀ room, whole.text.length ≤ room →
      w.render options.maxRenderDepth [] v ⟨"", room⟩ = match whole.refusal? with
        | none => .ok ⟨whole.text, room - whole.text.length⟩
        | some fault => .error (.refused fault)) ∧
    (w.rendering options v =
      if whole.text.length ≤ limit then
        match whole.refusal? with
        | none => .ok whole.text
        | some fault => .error fault
      else .ok (String.ofList (whole.text.toList.take limit) ++ "...")) ∧
    (∀ shown, w.rendering options v = .ok shown → shown.length ≤ limit + 3) ∧
    ∀ (w' : World) (options' : Options) (v' : Value),
      let whole' := (w'.layout options'.maxRenderDepth [] v').spelling
      options'.maxRenderLength = limit →
      whole'.text.toList.take (limit + 1) = whole.text.toList.take (limit + 1) →
      (whole'.text.length ≤ limit → whole'.refusal? = whole.refusal?) →
      w'.rendering options' v' = w.rendering options v := by
  have cut := rendering_eq_within w options v
  refine ⟨Layout.text_of_whole, ?_, cut, ?_, ?_⟩
  · intro room fits
    exact (render_eq_spell _ _ _ _ _).trans (Draft.spell_of_le fits)
  · intro shown ended
    rw [cut] at ended
    exact Spelling.length_le_of_within ended
  · intro w' options' v' whole' sameLimit agree alike
    rw [rendering_eq_within, cut, sameLimit]
    exact Spelling.within_congr agree alike

end World

end Conformance
