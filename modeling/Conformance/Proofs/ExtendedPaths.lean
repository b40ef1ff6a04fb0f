import Conformance.Proofs.DottedReads

/-!
# Paths tell their segments

A path is extended by one segment at a time: the text of the segment follows a dot, or stands alone
where the base is empty. No segment is empty, so a path that was extended never looks like an empty
base again, and the outcome is the join of the base and of all the texts. The depth counts them.

Texts without dots are what the join is split into, behind the segments of the base, which may have
dots of its own. So segments that differ in a text never lead from a base to the same path.
-/

namespace Conformance

/-! ## Joins split again -/

namespace Text

/-- A join is empty only if there was nothing to join. -/
theorem joinSegments_ne_nil {first : List Char} (given : first ≠ []) (more : List (List Char)) :
    joinSegments (first :: more) ≠ [] := by
  cases more <;> simp [joinSegments, given]

/-- Segments are told by their join. -/
theorem joinSegments_inj {parts parts' : List (List Char)}
    (proper : ∀ segment ∈ parts, IsSegment segment)
    (proper' : ∀ segment ∈ parts', IsSegment segment)
    (same : joinSegments parts = joinSegments parts') : parts = parts' := by
  cases parts with
  | nil =>
    cases parts' with
    | nil => rfl
    | cons first more =>
      exact absurd same.symm (joinSegments_ne_nil (proper' first (by simp)).1 more)
  | cons first more =>
    cases parts' with
    | nil => exact absurd same (joinSegments_ne_nil (proper first (by simp)).1 more)
    | cons first' more' =>
      rw [← segments_joinSegments (by simp) fun segment member => (proper segment member).2, same]
      exact segments_joinSegments (by simp) fun segment member => (proper' segment member).2

end Text

namespace World

/-- The join of a base and some segments tells the segments. -/
theorem joinedAll_inj {base : String} {segments segments' : List (List Char)}
    (proper : ∀ segment ∈ segments, Text.IsSegment segment)
    (proper' : ∀ segment ∈ segments', Text.IsSegment segment)
    (same : joinedAll base segments = joinedAll base segments') : segments = segments' := by
  have joins := String.ofList_injective same
  by_cases empty : base.isEmpty
  · rw [if_pos empty, if_pos empty] at joins
    exact Text.joinSegments_inj proper proper' joins
  · rw [if_neg empty, if_neg empty] at joins
    have parts := congrArg Text.segments joins
    rw [Text.segments_joinSegments_cons _ fun segment member => (proper segment member).2,
      Text.segments_joinSegments_cons _ fun segment member => (proper' segment member).2] at parts
    exact List.append_cancel_left parts

/-- Texts are joined to a base with dots, and stand alone where the base is empty. -/
theorem joinedAll_eq_intercalate (base : String) (texts : List String) :
    joinedAll base (texts.map String.toList) =
      ".".intercalate (if base = "" then texts else base :: texts) := by
  apply String.toList_injective
  rw [joinedAll, String.toList_ofList, Text.toList_intercalate_dot]
  by_cases empty : base = "" <;> simp [empty]

/-! ## Segment by segment -/

/-- A value that a path can be extended by, and its text: any value but null whose text is not
empty. -/
structure Spelled (w : World) (segment : Value) (text : String) : Prop where
  present : segment ≠ .null
  written : w.text segment = .ok text
  proper : text ≠ ""

/-- Extends a context by segments, one after the other. -/
def extendAlong (w : World) (context : Value) (segments : List Value) : Except Fault Value :=
  segments.foldlM (fun context segment => w.call context [segment]) context

/-- The path that segments lead to from a base: what the context at their end says when it is called
without a segment. -/
def pathAlong (w : World) (base : String) (segments : List Value) : Except Fault Value := do
  w.call (← w.extendAlong (.rootPath (.str base)) segments) []

variable {w : World} {base : String} {segments : List Value} {texts : List String}

/-- A name is spelled as it is. -/
theorem spelled_str {name : String} (proper : name ≠ "") : w.Spelled (.str name) name :=
  ⟨by simp [Value.str], rfl, proper⟩

/-- An integer is spelled by its numeral, if it can be written. -/
theorem spelled_int {n : Int} (short : n.natAbs < Text.firstUnwritable) :
    w.Spelled (.int n) (Text.intText n) :=
  ⟨by simp [Value.int], text_int short, Text.intText_ne_empty n⟩

theorem extendAlong_cons (context segment : Value) (rest : List Value) :
    w.extendAlong context (segment :: rest) =
      w.call context [segment] >>= fun inner => w.extendAlong inner rest := rfl

/-- Every step keeps the context at the join of what came before, one deeper. The induction is over
the segments, and each step leaves a base that was extended already for those that follow. -/
theorem extendAlong_eq (spelled : List.Forall₂ w.Spelled segments texts) (base : String)
    (depth : Int) :
    w.extendAlong (.path (.str base) (.int depth) 0) segments =
      .ok (contextAlong base depth (texts.map String.toList)) := by
  induction spelled generalizing base depth with
  | nil =>
    rw [List.map_nil, contextAlong_nil]
    rfl
  | cons first _ inductionHypothesis =>
    rw [extendAlong_cons, call_text first.present first.written, List.map_cons,
      ← contextAlong_joined first.proper]
    exact inductionHypothesis _ _

theorem pathAlong_eq (spelled : List.Forall₂ w.Spelled segments texts) :
    w.pathAlong base segments = .ok (.str (joinedAll base (texts.map String.toList))) := by
  rw [pathAlong, Value.rootPath, extendAlong_eq spelled]
  rfl

/-- Texts without dots that are not empty are segments. -/
theorem isSegment_of_spelled (spelled : List.Forall₂ w.Spelled segments texts)
    (dotless : ∀ text ∈ texts, '.' ∉ text.toList) :
    ∀ segment ∈ texts.map String.toList, Text.IsSegment segment := by
  intro segment member
  obtain ⟨text, inside, rfl⟩ := List.mem_map.mp member
  obtain ⟨_, _, given⟩ := exists_mem_of_forall₂ spelled inside
  exact ⟨by simpa using given.proper, dotless text inside⟩

/-! ## The law of extended paths -/

/-- From any base, segments lead to the join of the base and their texts, at a depth that counts
them; without dots in the texts, they lead to the same path only if the texts are the same. -/
theorem paths_faithful (w : World) (base : String) :
    (∀ (segments : List Value) (texts : List String), List.Forall₂ w.Spelled segments texts →
      w.extendAlong (.rootPath (.str base)) segments =
        .ok (.path (.str (".".intercalate (if base = "" then texts else base :: texts)))
          (.int segments.length) 0)) ∧
    ∀ (segments segments' : List Value) (texts texts' : List String),
      List.Forall₂ w.Spelled segments texts → List.Forall₂ w.Spelled segments' texts' →
      (∀ text ∈ texts, '.' ∉ text.toList) → (∀ text ∈ texts', '.' ∉ text.toList) →
      (w.pathAlong base segments = w.pathAlong base segments' ↔ texts = texts') := by
  refine ⟨?closed, ?told⟩
  case closed =>
    intro segments texts spelled
    have counted : (0 : Int) + (texts.map String.toList).length = segments.length := by
      rw [List.length_map, spelled.length_eq]
      omega
    rw [Value.rootPath, extendAlong_eq spelled, contextAlong, joinedAll_eq_intercalate, counted]
  case told =>
    intro segments segments' texts texts' spelled spelled' dotless dotless'
    rw [pathAlong_eq spelled, pathAlong_eq spelled']
    constructor
    · intro same
      have paths : joinedAll base (texts.map String.toList) =
          joinedAll base (texts'.map String.toList) := by
        simpa [Value.str] using same
      have characters := joinedAll_inj (isSegment_of_spelled spelled dotless)
        (isSegment_of_spelled spelled' dotless') paths
      exact List.map_injective_iff.mpr (fun _ _ => String.toList_injective) characters
    · rintro rfl
      rfl

/-- From a base, a name and an integer lead to their join with it, and so do the name and the
numeral of the integer; the negative integer leads elsewhere. -/
theorem paths_faithful_tagged :
    tagged.extendAlong (.rootPath (.str "user")) [.str "tags", .int 2] =
        .ok (.path (.str "user.tags.2") (.int 2) 0) ∧
      tagged.pathAlong "user" [.str "tags", .int 2] =
        tagged.pathAlong "user" [.str "tags", .str "2"] ∧
      tagged.pathAlong "user" [.str "tags", .int 2] ≠
        tagged.pathAlong "user" [.str "tags", .int (-2)] := by
  have name : tagged.Spelled (.str "tags") "tags" := spelled_str (by decide)
  have place : tagged.Spelled (.int 2) "2" := by
    have numeral : Text.intText 2 = "2" := by decide +kernel
    exact numeral ▸ spelled_int (Text.lt_firstUnwritable_of_lt_ten (by decide))
  have below : tagged.Spelled (.int (-2)) "-2" := by
    have numeral : Text.intText (-2) = "-2" := by decide +kernel
    exact numeral ▸ spelled_int (Text.lt_firstUnwritable_of_lt_ten (by decide))
  have spelled : List.Forall₂ tagged.Spelled [.str "tags", .int 2] ["tags", "2"] :=
    .cons name (.cons place .nil)
  have negative : List.Forall₂ tagged.Spelled [.str "tags", .int (-2)] ["tags", "-2"] :=
    .cons name (.cons below .nil)
  have written : List.Forall₂ tagged.Spelled [.str "tags", .str "2"] ["tags", "2"] :=
    .cons name (.cons (spelled_str (by decide)) .nil)
  obtain ⟨closed, told⟩ := paths_faithful tagged "user"
  refine ⟨closed _ _ spelled, ?_, ?_⟩
  · exact (told _ _ _ _ spelled written (by decide) (by decide)).mpr rfl
  · intro same
    exact absurd ((told _ _ _ _ spelled negative (by decide) (by decide)).mp same) (by decide)

end World

end Conformance
