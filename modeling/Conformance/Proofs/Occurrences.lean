import Mathlib.Data.Finset.Card
import Mathlib.Logic.Relation
import Conformance.Proofs.Layout

/-!
# Where values are shown

A path of places leads from a value through containers to another value. The same value may be come
to along many paths, and along infinitely many if a container contains itself. A rendering without a
limit to its depth is finite all the same: it does not enter a container that it is inside of, so
it enters every container of the store once at most on its way down.

What this rendering shows at the end of a path is the value there, seen from inside the containers
that were passed, provided that none of them was passed twice.
-/

namespace Conformance

/-- What a layout shows at the end of a path. -/
def Layout.at? : Layout → List Nat → Option Layout
  | layout, [] => some layout
  | .opened _ _ parts, place :: path => do
    let part ← parts[place]?
    part.2.at? path
  | _, _ :: _ => none

/-- What has no parts has nothing further inside. -/
@[simp] theorem Layout.at?_ofWords_cons (words : Except Fault String) (place : Nat)
    (path : List Nat) : (Layout.ofWords words).at? (place :: path) = none := by
  cases words <;> rfl

/-- What is at the end of a path: a value, inside the containers at these addresses, the innermost
of which comes first. -/
structure Occurrence where
  inside : List Nat
  value : Value

namespace World

variable {w : World} {v : Value} {container : Container} {inside path : List Nat}
  {occurrence : Occurrence}

/-! ## Layouts without a limit to their depth -/

/-- A container is an object of the store. -/
theorem address_lt_size (found : w.container? v = some container) :
    container.address < w.store.size := by
  obtain ⟨_, rfl, ⟨_, held, _⟩ | ⟨_, held, _⟩⟩ := container?_cases found
  · obtain ⟨_, _, same, list | tuple⟩ := Store.arrayItems?_eq_some_iff.mp held
    · cases same
      exact (Array.getElem?_eq_some_iff.mp list).1
    · cases same
      exact (Array.getElem?_eq_some_iff.mp tuple).1
  · obtain ⟨_, _, same, mapping⟩ := Store.entries?_eq_some_iff.mp held
    cases same
    exact (Array.getElem?_eq_some_iff.mp mapping).1

/-- Fewer objects are left outside when one of them is entered. -/
theorem card_outside_lt {size address : Nat} (bound : address < size) (outside : address ∉ inside) :
    (Finset.range size \ (address :: inside).toFinset).card <
      (Finset.range size \ inside.toFinset).card := by
  apply Finset.card_lt_card
  constructor
  · intro other member
    simp only [Finset.mem_sdiff, List.mem_toFinset, List.mem_cons, not_or] at member ⊢
    exact ⟨member.1, member.2.2⟩
  · intro included
    have member : address ∈ Finset.range size \ inside.toFinset := by
      simp [bound, outside]
    simpa using included member

/-- The layout of a value inside the containers `inside`, however deep. It ends because there are
only so many containers that it can enter without being inside of them already. -/
def unlimited (w : World) (inside : List Nat) (v : Value) : Layout :=
  match _found : w.container? v with
  | none => .ofWords (w.words v)
  | some container =>
    if _outside : container.address ∈ inside then .circular container.address
    else .opened container.address container.brackets
      (container.parts.map fun part =>
        (part.1, w.unlimited (container.address :: inside) part.2))
termination_by (Finset.range w.store.size \ inside.toFinset).card
decreasing_by exact card_outside_lt (address_lt_size _found) _outside

theorem unlimited_of_words (plain : w.container? v = none) (inside : List Nat) :
    w.unlimited inside v = .ofWords (w.words v) := by
  rw [unlimited]
  split
  · rfl
  · next found => cases plain.symm.trans found

theorem unlimited_of_container (found : w.container? v = some container) (inside : List Nat) :
    w.unlimited inside v =
      if container.address ∈ inside then .circular container.address
      else .opened container.address container.brackets
        (container.parts.map fun part =>
          (part.1, w.unlimited (container.address :: inside) part.2)) := by
  rw [unlimited]
  split
  · next plain => cases plain.symm.trans found
  · next other found' =>
    cases found.symm.trans found'
    split <;> rfl

/-! ## Paths -/

/-- Follows a path of places from a value inside the containers `inside`. -/
def walk (w : World) (inside : List Nat) (v : Value) : List Nat → Option Occurrence
  | [] => some ⟨inside, v⟩
  | place :: path => do
    let container ← w.container? v
    let part ← container.parts[place]?
    w.walk (container.address :: inside) part.2 path

/-- The first step of a path goes to a part of the container that it starts from. -/
theorem walk_cons {place : Nat} (walked : w.walk inside v (place :: path) = some occurrence) :
    ∃ container part, w.container? v = some container ∧ container.parts[place]? = some part ∧
      w.walk (container.address :: inside) part.2 path = some occurrence := by
  obtain ⟨container, found, rest⟩ := Option.bind_eq_some_iff.mp walked
  obtain ⟨part, listed, rest⟩ := Option.bind_eq_some_iff.mp rest
  exact ⟨container, part, found, listed, rest⟩

/-- The containers around the start of a path are around its end as well. -/
theorem suffix_of_walk (walked : w.walk inside v path = some occurrence) :
    inside <:+ occurrence.inside := by
  induction path generalizing inside v with
  | nil =>
    cases walked
    exact List.suffix_rfl
  | cons place path inductionHypothesis =>
    obtain ⟨container, part, _, _, walked⟩ := walk_cons walked
    exact (List.suffix_cons container.address inside).trans (inductionHypothesis walked)

/-- Each place of a path is inside one more container. -/
theorem length_of_walk (walked : w.walk inside v path = some occurrence) :
    occurrence.inside.length = inside.length + path.length := by
  induction path generalizing inside v with
  | nil =>
    cases walked
    rfl
  | cons place path inductionHypothesis =>
    obtain ⟨container, part, _, _, walked⟩ := walk_cons walked
    rw [inductionHypothesis walked, List.length_cons, List.length_cons]
    omega

/-- Being shown as a part of a container. Callables are not opened, whatever they contain. -/
def Shows (w : World) (v part : Value) : Prop :=
  ∃ container label, w.container? v = some container ∧ (label, part) ∈ container.parts

/-- A path ends at a value that is shown within the one it starts from. Every container that it
passes is shown within the first one too, and shows the last one within itself. -/
theorem shows_of_walk (walked : w.walk inside v path = some occurrence) :
    Relation.ReflTransGen w.Shows v occurrence.value ∧
      ∀ address ∈ occurrence.inside, address ∈ inside ∨
        (Relation.ReflTransGen w.Shows v (.object address) ∧
          (w.container? (.object address)).isSome ∧
          Relation.TransGen w.Shows (.object address) occurrence.value) := by
  induction path generalizing inside v with
  | nil =>
    cases walked
    exact ⟨.refl, fun address member => .inl member⟩
  | cons place path inductionHypothesis =>
    obtain ⟨container, part, found, listed, walked⟩ := walk_cons walked
    obtain ⟨reached, around⟩ := inductionHypothesis walked
    have shows : w.Shows v part.2 := ⟨container, part.1, found, List.mem_of_getElem? listed⟩
    refine ⟨.head shows reached, ?_⟩
    intro address member
    cases around address member with
    | inl before =>
      cases List.mem_cons.mp before with
      | inl here =>
        obtain ⟨_, same, _⟩ := container?_cases found
        rw [← here] at same
        right
        rw [← same]
        exact ⟨.refl, by rw [found]; rfl, .head' shows reached⟩
      | inr earlier => exact .inl earlier
    | inr later => exact .inr ⟨.head shows later.1, later.2⟩

/-- On a path that starts outside of all containers, those around its end were passed. -/
theorem passed_of_walk {address : Nat} (walked : w.walk [] v path = some occurrence)
    (member : address ∈ occurrence.inside) :
    Relation.ReflTransGen w.Shows v (.object address) ∧ (w.container? (.object address)).isSome ∧
      Relation.TransGen w.Shows (.object address) occurrence.value := by
  cases (shows_of_walk walked).2 address member with
  | inl before => cases before
  | inr passed => exact passed

/-- What is shown at the end of a path is the value there, seen from inside the containers around
it, as long as no container was entered inside itself on the way. -/
theorem at?_unlimited (distinct : inside.Nodup) : (w.unlimited inside v).at? path =
    (w.walk inside v path).bind fun occurrence =>
      if occurrence.inside.Nodup then some (w.unlimited occurrence.inside occurrence.value)
      else none := by
  induction path generalizing inside v with
  | nil => simp [Layout.at?, walk, distinct]
  | cons place path inductionHypothesis =>
    cases found : w.container? v with
    | none => simp [unlimited_of_words found, walk, found]
    | some container =>
      have onwards : w.walk inside v (place :: path) = (container.parts[place]?).bind fun part =>
          w.walk (container.address :: inside) part.2 path := by
        rw [walk, found]
        rfl
      rw [unlimited_of_container found, onwards]
      by_cases repeated : container.address ∈ inside
      · have stops : (Layout.circular container.address).at? (place :: path) = none := rfl
        rw [if_pos repeated, stops, eq_comm, Option.bind_eq_none_iff]
        intro occurrence walked
        obtain ⟨part, _, walked⟩ := Option.bind_eq_some_iff.mp walked
        -- The path has gone on inside a container that was entered before.
        have twice : ¬ occurrence.inside.Nodup := by
          intro once
          have before := once.sublist (suffix_of_walk walked).sublist
          exact (List.nodup_cons.mp before).1 repeated
        rw [if_neg twice]
      · have deeper : (container.address :: inside).Nodup :=
          List.nodup_cons.mpr ⟨repeated, distinct⟩
        rw [if_neg repeated]
        cases listed : container.parts[place]? with
        | none => simp [Layout.at?, listed]
        | some part => simpa [Layout.at?, listed] using inductionHypothesis deeper

/-- Something is shown at the end of a path if there is a value whose layout it is, inside
containers that are different from each other. -/
theorem at?_unlimited_eq_some_iff {shown : Layout} :
    (w.unlimited [] v).at? path = some shown ↔
      ∃ inside u, w.walk [] v path = some ⟨inside, u⟩ ∧ inside.Nodup ∧
        w.unlimited inside u = shown := by
  rw [at?_unlimited List.nodup_nil, Option.bind_eq_some_iff]
  constructor
  · rintro ⟨occurrence, walked, there⟩
    split at there
    · next distinct => exact ⟨_, _, walked, distinct, Option.some.inj there⟩
    · cases there
  · rintro ⟨inside, u, walked, distinct, rfl⟩
    exact ⟨_, walked, if_pos distinct⟩

/-- Exactly a container that is not inside itself is opened. -/
theorem unlimited_eq_opened_iff {address : Nat} :
    (∃ brackets parts, w.unlimited inside v = .opened address brackets parts) ↔
      v = .object address ∧ (w.container? v).isSome ∧ address ∉ inside := by
  cases found : w.container? v with
  | none => simp [unlimited_of_words found]
  | some container =>
    obtain ⟨_, same, _⟩ := container?_cases found
    rw [unlimited_of_container found, same]
    by_cases repeated : container.address ∈ inside
    · rw [if_pos repeated]
      constructor
      · rintro ⟨_, _, opened⟩
        cases opened
      · rintro ⟨named, _, outside⟩
        cases named
        exact absurd repeated outside
    · rw [if_neg repeated]
      constructor
      · rintro ⟨_, _, opened⟩
        cases opened
        exact ⟨rfl, rfl, repeated⟩
      · rintro ⟨named, _, _⟩
        cases named
        exact ⟨_, _, rfl⟩

/-- Exactly a container inside itself is marked. -/
theorem unlimited_eq_circular_iff {address : Nat} :
    w.unlimited inside v = .circular address ↔
      v = .object address ∧ (w.container? v).isSome ∧ address ∈ inside := by
  cases found : w.container? v with
  | none => simp [unlimited_of_words found]
  | some container =>
    obtain ⟨_, same, _⟩ := container?_cases found
    rw [unlimited_of_container found, same]
    by_cases repeated : container.address ∈ inside
    · rw [if_pos repeated]
      constructor
      · intro marked
        cases marked
        exact ⟨rfl, rfl, repeated⟩
      · rintro ⟨named, _, _⟩
        rw [Value.object.inj named]
    · rw [if_neg repeated]
      constructor
      · intro marked
        cases marked
      · rintro ⟨named, _, member⟩
        cases named
        exact absurd member repeated

/-- Without a limit nothing is elided. -/
theorem unlimited_ne_elided (brackets : Brackets) : w.unlimited inside v ≠ .elided brackets := by
  cases found : w.container? v with
  | none => simp [unlimited_of_words found]
  | some container =>
    rw [unlimited_of_container found]
    split <;> simp

end World

end Conformance
