import Mathlib.Data.Set.Card
import Conformance.Proofs.Occurrences

/-!
# The depth limit cuts one level

Under a limit to its depth a rendering shows what it would show without one, except that the
containers of one level are reduced to their brackets: those that are inside as many others as the
limit says. A container inside itself at that level keeps its mark, as it is looked for first.

The containers around a place are different from each other and from the one that is opened there,
so they are fewer than the containers that the value reaches. A limit of that many cuts nothing.
-/

namespace Conformance

namespace Layout

/-- Reduces the containers that are inside `depth` others to their brackets. -/
def cut : Nat → Layout → Layout
  | 0, .opened _ brackets _ => .elided brackets
  | depth + 1, .opened address brackets parts =>
    .opened address brackets (parts.map fun part => (part.1, part.2.cut depth))
  | _, layout => layout

/-- A cut layout shows at the end of a path what was there, cut by as much less as the path is
long, and nothing behind the cut. -/
theorem at?_cut (depth : Nat) (layout : Layout) (path : List Nat) :
    (layout.cut depth).at? path =
      if path.length ≤ depth then (layout.at? path).map (·.cut (depth - path.length))
      else none := by
  induction path generalizing depth layout with
  | nil => simp [at?]
  | cons place path inductionHypothesis =>
    cases layout with
    | opened address brackets parts =>
      cases depth with
      | zero => simp [cut, at?]
      | succ depth =>
        cases listed : parts[place]? with
        | none => simp [cut, at?, listed]
        | some part => simp [cut, at?, listed, inductionHypothesis]
    | _ => cases depth <;> simp [cut, at?]

theorem cut_ofWords (depth : Nat) (words : Except Fault String) :
    (ofWords words).cut depth = ofWords words := by
  cases words <;> cases depth <;> rfl

/-- A cut makes no mark of a container inside itself. -/
theorem eq_circular_of_cut {depth address : Nat} {layout : Layout}
    (marked : layout.cut depth = .circular address) : layout = .circular address := by
  cases layout with
  | opened _ _ _ => cases depth <;> cases marked
  | _ => cases depth <;> exact marked

/-- A cut deeper than all containers cuts nothing. -/
theorem cut_eq_self {depth : Nat} {layout : Layout}
    (deep : ∀ path address brackets parts,
      layout.at? path = some (.opened address brackets parts) → path.length < depth) :
    layout.cut depth = layout := by
  induction depth generalizing layout with
  | zero =>
    cases layout with
    | opened address brackets parts =>
      have bound := deep [] address brackets parts rfl
      exact absurd bound (Nat.not_lt_zero _)
    | _ => rfl
  | succ depth inductionHypothesis =>
    cases layout with
    | opened address brackets parts =>
      have each : ∀ part ∈ parts, (part.1, part.2.cut depth) = part := by
        intro part member
        obtain ⟨place, listed⟩ := List.mem_iff_getElem?.mp member
        have unchanged : part.2.cut depth = part.2 := by
          apply inductionHypothesis
          intro path address' brackets' parts' shown
          have below : (opened address brackets parts).at? (place :: path) =
              some (.opened address' brackets' parts') := by
            simp [at?, listed, shown]
          exact Nat.lt_of_succ_lt_succ (deep _ _ _ _ below)
        rw [unchanged]
      rw [cut, List.map_congr_left each, List.map_id']
    | _ => rfl

end Layout

namespace World

variable {w : World} {v : Value} {inside path : List Nat}

/-- A layout of limited depth is the layout without a limit, cut. -/
theorem layout_eq_cut (w : World) (depth : Nat) (inside : List Nat) (v : Value) :
    w.layout depth inside v = (w.unlimited inside v).cut depth := by
  induction depth generalizing inside v with
  | zero =>
    cases found : w.container? v with
    | none =>
      rw [layout_of_words found, unlimited_of_words found, Layout.cut_ofWords]
    | some container =>
      rw [layout_of_container found, unlimited_of_container found]
      split <;> rfl
  | succ depth inductionHypothesis =>
    cases found : w.container? v with
    | none =>
      rw [layout_of_words found, unlimited_of_words found, Layout.cut_ofWords]
    | some container =>
      rw [layout_of_container found, unlimited_of_container found]
      split
      · rfl
      · simp [Layout.cut, inductionHypothesis]

/-! ## A limit that cuts nothing -/

/-- The containers that a value reaches, itself included. -/
def reachedContainers (w : World) (v : Value) : Set Nat :=
  {address | Relation.ReflTransGen w.Shows v (.object address) ∧
    (w.container? (.object address)).isSome}

/-- They are finitely many, as the store is finite. -/
theorem finite_reachedContainers (w : World) (v : Value) : (w.reachedContainers v).Finite := by
  apply (Set.finite_lt_nat w.store.size).subset
  intro address member
  obtain ⟨container, found⟩ := Option.isSome_iff_exists.mp member.2
  obtain ⟨_, same, _⟩ := container?_cases found
  cases same
  exact address_lt_size found

/-- No container is opened that deep: around it are others that the value reaches. -/
theorem length_lt_of_opened {address : Nat} {brackets : Brackets} {parts : List (String × Layout)}
    (shown : (w.unlimited [] v).at? path = some (.opened address brackets parts)) :
    path.length < (w.reachedContainers v).ncard := by
  obtain ⟨inside, u, walked, distinct, opened⟩ := at?_unlimited_eq_some_iff.mp shown
  obtain ⟨rfl, container, outside⟩ := unlimited_eq_opened_iff.mp ⟨brackets, parts, opened⟩
  have reached := (shows_of_walk walked).1
  have each : ∀ other ∈ address :: inside, other ∈ w.reachedContainers v := by
    intro other member
    cases List.mem_cons.mp member with
    | inl here =>
      cases here
      exact ⟨reached, container⟩
    | inr enclosing =>
      obtain ⟨passed, opened, _⟩ := passed_of_walk walked enclosing
      exact ⟨passed, opened⟩
  have different : (address :: inside).Nodup := List.nodup_cons.mpr ⟨outside, distinct⟩
  have length : inside.length = path.length := by
    rw [length_of_walk walked, List.length_nil, Nat.zero_add]
  calc path.length < (address :: inside).length := by rw [List.length_cons, length]; omega
    _ = (address :: inside).toFinset.card := (List.toFinset_card_of_nodup different).symm
    _ = ((address :: inside).toFinset : Set Nat).ncard := (Set.ncard_coe_finset _).symm
    _ ≤ (w.reachedContainers v).ncard := by
      apply Set.ncard_le_ncard _ (finite_reachedContainers w v)
      intro other member
      exact each other (List.mem_toFinset.mp member)

/-- A limit of as many levels as there are containers to reach, or more, cuts nothing. -/
theorem layout_eq_unlimited {depth : Nat} (enough : (w.reachedContainers v).ncard ≤ depth) :
    w.layout depth [] v = w.unlimited [] v := by
  rw [layout_eq_cut]
  apply Layout.cut_eq_self
  intro path address brackets parts shown
  exact (length_lt_of_opened shown).trans_le enough

/-- A rendering is what comes out, under the length limit, of the layout without a limit to its
depth, in which the containers inside as many others as the depth limit says are reduced to their
brackets: at the end of a path of that length a container that would be opened is elided, at the end
of a shorter one nothing is changed but what is further inside, and longer ones lead nowhere. So it
is the text of the cut layout if that fits and nothing in it refuses to be shown. From the number of
containers on that the value reaches, the limit makes no difference, and nothing is elided. -/
theorem elision_cuts_one_level (w : World) (v : Value) :
    let whole := w.unlimited [] v
    let reached := (w.reachedContainers v).ncard
    (∀ options : Options, w.rendering options v =
      (whole.cut options.maxRenderDepth).spelling.within options.maxRenderLength) ∧
    (∀ options : Options, (whole.cut options.maxRenderDepth).spelling.refusal? = none →
      (whole.cut options.maxRenderDepth).text.length ≤ options.maxRenderLength →
        w.rendering options v = .ok (whole.cut options.maxRenderDepth).text) ∧
    (∀ depth path, (whole.cut depth).at? path =
      if path.length ≤ depth then (whole.at? path).map (·.cut (depth - path.length)) else none) ∧
    (∀ options : Options, reached ≤ options.maxRenderDepth →
      w.rendering options v = whole.spelling.within options.maxRenderLength) ∧
    ∀ depth, reached ≤ depth →
      ∀ path brackets, (w.layout depth [] v).at? path ≠ some (.elided brackets) := by
  have cut (options : Options) : w.rendering options v =
      ((w.unlimited [] v).cut options.maxRenderDepth).spelling.within options.maxRenderLength := by
    rw [rendering_eq_within, layout_eq_cut]
  refine ⟨cut, ?_, ?_, ?_, ?_⟩
  · intro options unbroken fits
    exact (cut options).trans (Layout.within_of_whole unbroken fits)
  · intro depth path
    exact Layout.at?_cut depth _ path
  · intro options enough
    rw [rendering_eq_within, layout_eq_unlimited enough]
  · intro depth enough path brackets shown
    rw [layout_eq_unlimited enough] at shown
    obtain ⟨_, _, _, _, elided⟩ := at?_unlimited_eq_some_iff.mp shown
    exact unlimited_ne_elided brackets elided

end World

end Conformance
