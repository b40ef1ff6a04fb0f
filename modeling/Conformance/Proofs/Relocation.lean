import Conformance.Proofs.Numerals
import Conformance.Proofs.Simulation

/-!
# Checks at another root

A check of a self-contained spec that starts at a root says what the same check without one says,
with the root put in front of every path. The empty path is the only one that a dot does not follow,
and no segment is empty, so the paths below the root are never mistaken for the root itself.

Messages speak of paths only where a union lists the failures of its alternatives. A spec without
unions therefore fails with the same message at every root.
-/

namespace Conformance

namespace Text

theorem natText_ne_empty (place : Nat) : natText place ≠ "" := by
  rw [← intText_natCast]
  exact intText_ne_empty place

end Text

/-- No empty text is the key of a field that a spec stands for. -/
def Store.Named (σ : Store) (spec : Value) : Prop :=
  ∀ fields entries, σ.Stands spec (.shape fields) → σ.entries? fields = some entries →
    ∀ entry ∈ entries, entry.1 ≠ .str ""

namespace World

/-- Where the base of a path lies when the path starts at a root: at the root itself when it was
empty, and otherwise behind the text of the root and a dot. The text of a plain root is the root. -/
inductive Moves (root : String) (tag : Tag) : Value → Value → Prop
  | start : Moves root tag (.str "") (.text root tag)
  | inside {path : String} (proper : path ≠ "") :
      Moves root tag (.str path) (.str (shownText root tag ++ "." ++ path))

section Relocation

variable {w : World} {options : Options} {v : Value} {root : String} {tag : Tag}

/-- An empty base is replaced by the first segment. -/
theorem lengthened_empty (segment : String) : w.lengthened (.str "") segment = .ok segment := rfl

/-- Every other text is kept, and the segment follows it. -/
theorem lengthened_text {name : String} (proper : name ≠ "") (tag : Tag) (segment : String) :
    w.lengthened (.text name tag) segment = .ok (shownText name tag ++ "." ++ segment) := by
  have truthy : w.store.isTrue (.text name tag) = true := by simpa [Store.isTrue] using proper
  rw [lengthened, if_pos truthy, text_of_text]
  rfl

theorem lengthened_str {name : String} (proper : name ≠ "") (segment : String) :
    w.lengthened (.str name) segment = .ok (name ++ "." ++ segment) :=
  lengthened_text proper .plain segment

namespace Moves

/-- Bases that were moved have texts, as they had before. -/
theorem spoken {base base' : Value} (moved : Moves root tag base base') :
    Parallel (fun _ _ => True) (w.text base) (w.text base') := by
  cases moved with
  | start =>
    rw [text_of_text root tag]
    exact .value trivial
  | inside proper => exact .value trivial

/-- Where a path that is not empty moves to. -/
theorem eq_of_proper {path : String} {base' : Value} (moved : Moves root tag (.str path) base')
    (proper : path ≠ "") : base' = .str (shownText root tag ++ "." ++ path) := by
  generalize same : Value.str path = base at moved
  cases moved with
  | start => exact absurd (by simpa [Value.str] using same) proper
  | inside _ =>
    cases same
    rfl

/-- Lengthening a base and moving it can be done in either order. -/
theorem lengthen (rooted : root ≠ "") {base base' : Value} {segment : String}
    (moved : Moves root tag base base') (proper : segment ≠ "") :
    Parallel (fun location location' => Moves root tag (.str location) (.str location'))
      (w.lengthened base segment) (w.lengthened base' segment) := by
  cases moved with
  | start =>
    rw [lengthened_empty, lengthened_text rooted tag segment]
    exact .value (.inside proper)
  | @inside path continued =>
    have prefixed : shownText root tag ++ "." ++ path ≠ "" := by simp
    have further : path ++ "." ++ segment ≠ "" := by simp
    have joined : shownText root tag ++ "." ++ path ++ "." ++ segment =
        shownText root tag ++ "." ++ (path ++ "." ++ segment) := by simp [String.append_assoc]
    rw [lengthened_str continued, lengthened_str prefixed, joined]
    exact .value (.inside further)

end Moves

/-- Two messages at different roots: the same, unless the paths of alternatives may be part of
them. -/
def SaidAt (w : World) (spec : Value) (message message' : String) : Prop :=
  w.store.HasUnion spec ∨ message' = message

/-- The runs of a spec at the empty root and at another one. -/
def relocation (w : World) (options : Options) (spec : Value) (tag : Tag) (rooted : root ≠ "") :
    w.Simulation options options where
  bases := Moves root tag
  worded := w.SaidAt spec
  results := ResultsAlong (Moves root tag) (w.SaidAt spec)
  segments segment := segment ≠ ""
  limit := .refl options
  wording _ _ same := .inr (same rfl)
  rendered := w.rendered_alike options
  numeral := Text.natText_ne_empty
  lengthen moved proper := moved.lengthen rooted proper
  along along := along
  truth _ _ along := along.truth
  line _ _ along := along.line fun _ _ moved => moved.spoken

/-- All that a self-contained spec with proper names reaches keeps its runs at the two roots in
step: it has no unions unless the spec has. -/
theorem relocation_admits {spec : Value} (rooted : root ≠ "")
    (contained : w.store.SelfContained spec) (named : w.store.Throughout w.store.Named spec) :
    w.store.Throughout (w.relocation options spec tag rooted).Admits spec := by
  intro inner reached
  refine .of_native (contained inner reached) ?_ ?_
  · rintro fields entries stands held entry member key plain rfl
    exact named inner reached fields entries stands held entry member plain
  · intro alternatives stands message message'
    exact .inl ⟨inner, alternatives, reached, stands⟩

/-- A check of a self-contained spec whose keys are not empty ends at a root as it does without one:
with null, with the same fault, or with an error equally deep, at the moved path, with the same
message unless the spec has a union. Events correspond one by one, likewise moved.

Proof: the two runs are in step because lengthening commutes with moving. -/
theorem check_relocated (w : World) (options : Options) (v spec : Value) (root : String) (tag : Tag)
    (contained : w.store.SelfContained spec) (named : w.store.Throughout w.store.Named spec)
    (rooted : root ≠ "") :
    (w.check options v spec (.str "")).Parallel
      (EventsAlong (Moves root tag) (w.SaidAt spec)) (ResultsAlong (Moves root tag) (w.SaidAt spec))
      (w.check options v spec (.text root tag)) := by
  have admitted : w.store.Throughout (w.relocation options spec tag rooted).Admits spec :=
    relocation_admits rooted contained named
  exact Simulation.check_parallel admitted .start rfl fun _ _ along => along

end Relocation

theorem ringLiteral_named : ring.store.Throughout ring.store.Named (.object 7) := by
  intro inner reached fields entries stands held entry member
  have mapping : fields = .object 7 := by simpa using ringLiteral_stands reached stands
  subst mapping
  cases held
  simp_all [Value.str]

/-- Without a root, the literal fails at the list of the mapping that ends in a text, since the
limit one keeps it out. So it fails at the root with the same words, behind the root and a dot. -/
theorem ring_relocated :
    ring.store.SelfContained (.object 7) ∧
      ring.store.Throughout ring.store.Named (.object 7) ∧ "order" ≠ "" ∧
      (ring.check ⟨1, 200, 20⟩ (.object 5) (.object 7) (.str "order")).outcome =
        .ok (ownFailure (depthMessage 1) (.path (.str "order.next") (.int 1) 0)) := by
  have rooted : "order" ≠ "" := by decide
  refine ⟨ringLiteral_selfContained, ringLiteral_named, rooted, ?_⟩
  have unrooted : (ring.check ⟨1, 200, 20⟩ (.object 5) (.object 7) (.str "")).outcome =
      .ok (ownFailure (depthMessage 1) (.path (.str "next") (.int 1) 0)) := by
    decide +kernel
  have outcome := (check_relocated ring ⟨1, 200, 20⟩ (.object 5) (.object 7) "order" .plain
    ringLiteral_selfContained ringLiteral_named rooted).outcome
  rw [unrooted] at outcome
  obtain ⟨result', ended, along⟩ := outcome.ok
  cases along with
  | failure depth placed said =>
    rcases said with union | same
    · exact absurd union ringLiteral_no_union
    · rw [placed.eq_of_proper (by decide), same] at ended
      exact ended

end World

end Conformance
