import Conformance.Proofs.Elision
import Conformance.Proofs.Growth

/-!
# Sharing is no cycle

A container may be shown at several places. Unfolding a value makes a new object of each such
occurrence of a list, tuple or mapping, so that nothing is shared any more. Values that contain no
container inside itself can be unfolded, and what they unfold to is rendered as they are, since a
rendering only asks what it is inside of, not what it has shown before.

In general the mark of a container inside itself is written at exactly the places that are inside
the rendering of that same container, and none is opened there.
-/

namespace Conformance

/-! ## The contents of a container -/

namespace Cell

variable {values : List Value}

/-- The brackets that an object with these contents is opened with. Callables are not opened. -/
def brackets? (cell : Cell) : Option Brackets :=
  if cell.classOf.callable then none
  else match cell with
    | .list _ _ | .tuple _ _ => some .square
    | .mapping _ _ => some .curly
    | _ => none

/-- The values that are shown in an object with these contents. -/
def shownValues : Cell → List Value
  | .list _ items | .tuple _ items => items
  | .mapping _ entries => entries.map (·.2)
  | _ => []

/-- The same list, tuple or mapping with other values in place of those that are shown. -/
def refill : Cell → List Value → Cell
  | .list cls _, values => .list cls values
  | .tuple cls _, values => .tuple cls values
  | .mapping cls entries, values => .mapping cls ((entries.map (·.1)).zip values)
  | cell, _ => cell

theorem brackets?_refill (cell : Cell) (values : List Value) :
    (cell.refill values).brackets? = cell.brackets? := by
  cases cell <;> rfl

theorem shownValues_refill {cell : Cell} (complete : values.length = cell.shownValues.length)
    (opened : cell.brackets?.isSome) : (cell.refill values).shownValues = values := by
  cases cell with
  | list _ _ | tuple _ _ => rfl
  | mapping cls entries =>
    apply List.map_snd_zip
    simp [complete, shownValues]
  | _ => simp [brackets?] at opened

end Cell

namespace World

variable {w : World} {v v' : Value} {address address' : Nat} {cell : Cell}
  {brackets : Brackets} {values values' : List Value} {addresses inside inside' : List Nat}

/-- What is written in front of the values that are shown. -/
def labels (w : World) : Cell → List String
  | .mapping _ entries => entries.map fun entry => w.natural entry.1 ++ ": "
  | cell => cell.shownValues.map fun _ => ""

theorem labels_refill (complete : values.length = cell.shownValues.length) :
    w.labels (cell.refill values) = w.labels cell := by
  cases cell with
  | list _ _ | tuple _ _ =>
    simp only [Cell.shownValues] at complete
    simp [labels, Cell.refill, Cell.shownValues, List.map_const', complete]
  | mapping cls entries =>
    have keys : ((entries.map (·.1)).zip values).map (·.1) = entries.map (·.1) := by
      apply List.map_fst_zip
      simp [complete, Cell.shownValues]
    simpa only [labels, Cell.refill, List.map_map, Function.comp_def] using
      congrArg (List.map fun key => w.natural key ++ ": ") keys
  | _ => rfl

/-- The parts of a container are the values in it, each with its label. -/
theorem container?_of_cell? (held : w.store.cell? address = some cell) :
    w.container? (.object address) = cell.brackets?.map fun brackets =>
      ⟨address, brackets, (w.labels cell).zip cell.shownValues⟩ := by
  have callable : w.store.isCallable (.object address) = cell.classOf.callable := by
    simp [Store.isCallable, held]
  rw [container?, callable, held]
  unfold Cell.brackets?
  split
  · rfl
  · cases cell with
    | list _ items | tuple _ items =>
      simp only [labels, Cell.shownValues, ← List.map_prod_right_eq_zip, Option.map_some]
    | mapping _ entries => simp only [labels, Cell.shownValues, List.zip_map', Option.map_some]
    | _ => rfl

/-- A container is the object of a list, tuple or mapping. -/
theorem exists_cell_of_container? {container : Container}
    (found : w.container? v = some container) :
    ∃ cell, v = .object container.address ∧ w.store.cell? container.address = some cell ∧
      cell.brackets?.isSome := by
  obtain ⟨_, same, _⟩ := container?_cases found
  have inside : container.address < w.store.cells.size := address_lt_size found
  have held : w.store.cell? container.address = some w.store.cells[container.address] :=
    Array.getElem?_eq_getElem inside
  rw [same, container?_of_cell? held, Option.map_eq_some_iff] at found
  obtain ⟨brackets, opened, _⟩ := found
  exact ⟨_, same, held, by rw [opened]; rfl⟩

/-- A container shows the values in it. -/
theorem shows_iff (held : w.store.cell? address = some cell) (opened : cell.brackets?.isSome) :
    w.Shows (.object address) v ↔ v ∈ cell.shownValues := by
  obtain ⟨brackets, opened⟩ := Option.isSome_iff_exists.mp opened
  have found := container?_of_cell? held
  rw [opened] at found
  have parts : ((w.labels cell).zip cell.shownValues).map (·.2) = cell.shownValues := by
    apply List.map_snd_zip
    cases cell <;> simp [labels, Cell.shownValues]
  constructor
  · rintro ⟨container, label, found', member⟩
    cases found.symm.trans found'
    rw [← parts]
    exact List.mem_map_of_mem member
  · intro member
    rw [← parts] at member
    obtain ⟨part, listed, rfl⟩ := List.mem_map.mp member
    exact ⟨_, part.1, found, listed⟩

/-- How a container that is opened is spelled, from the spellings of the values in it. -/
theorem spelling_layout_of_cell? (held : w.store.cell? address = some cell)
    (opened : cell.brackets? = some brackets) (outside : address ∉ inside) (depth : Nat) :
    (w.layout depth inside (.object address)).spelling =
      match depth with
      | 0 => .whole brackets.elision
      | depth + 1 => .whole brackets.opening ++ (.row
          (List.zipWith (fun label part => Spelling.whole label ++ part) (w.labels cell)
            (cell.shownValues.map fun v => (w.layout depth (address :: inside) v).spelling)) ++
          .whole brackets.closing) := by
  have found := container?_of_cell? held
  rw [opened] at found
  rw [layout_of_container found, if_neg outside]
  cases depth with
  | zero => rfl
  | succ depth =>
    simp only [Layout.spelling, Layout.partSpellings_eq_map, List.map_zip_eq_zipWith,
      List.map_zipWith, List.zipWith_map_right]
    rfl

/-- With other values in it that read the same, a container reads the same. -/
theorem spelling_layout_refill (held : w.store.cell? address = some cell)
    (opened : cell.brackets?.isSome) (held' : w.store.cell? address' = some (cell.refill values))
    (complete : values.length = cell.shownValues.length) (outside : address ∉ inside)
    (outside' : address' ∉ inside')
    (same : ∀ depth, values.map (fun v => (w.layout depth (address' :: inside') v).spelling) =
      cell.shownValues.map fun v => (w.layout depth (address :: inside) v).spelling)
    (depth : Nat) :
    (w.layout depth inside' (.object address')).spelling =
      (w.layout depth inside (.object address)).spelling := by
  obtain ⟨brackets, open'⟩ := Option.isSome_iff_exists.mp opened
  have reopened := (cell.brackets?_refill values).trans open'
  rw [spelling_layout_of_cell? held open' outside, spelling_layout_of_cell? held' reopened outside']
  cases depth with
  | zero => rfl
  | succ depth =>
    simp only [labels_refill complete, Cell.shownValues_refill complete opened, same depth]

/-! ## Values without cycles -/

/-- None of the containers that are shown in a value contains itself. -/
def Acyclic (w : World) (v : Value) : Prop :=
  ∀ u, Relation.ReflTransGen w.Shows v u → ¬ Relation.TransGen w.Shows u u

/-- What is shown in a value without cycles has none. -/
theorem Acyclic.of_shows (acyclic : w.Acyclic v) {part : Value} (shows : w.Shows v part) :
    w.Acyclic part :=
  fun u reached => acyclic u (.head shows reached)

/-- A value has no cycles if none of its parts has. -/
theorem acyclic_of_parts (each : ∀ part, w.Shows v part → w.Acyclic part) : w.Acyclic v := by
  intro u reached cycle
  cases reached.cases_head with
  | inl here =>
    subst here
    obtain ⟨part, shows, back⟩ := Relation.TransGen.head'_iff.mp cycle
    exact each part shows v back (.head' shows back)
  | inr further =>
    obtain ⟨part, shows, reached⟩ := further
    exact each part shows u reached cycle

/-! ## Unfolding -/

/-- A row of values unfolds to another in which each occurrence of a container is an object of its
own, at one of the addresses listed. It holds what the values in the container unfold to, under the
same keys. What is no container is left as it is, or replaced by something that reads the same. -/
inductive Unfolds (w : World) : List Value → List Value → List Nat → Prop
  | nil : Unfolds w [] [] []
  | words {v v' : Value} {values values' : List Value} {addresses : List Nat}
      (plain : w.container? v = none) (plain' : w.container? v' = none)
      (same : w.words v' = w.words v) (rest : Unfolds w values values' addresses) :
      Unfolds w (v :: values) (v' :: values') addresses
  | container {address address' : Nat} {cell : Cell} {inner values values' : List Value}
      {below addresses : List Nat} (held : w.store.cell? address = some cell)
      (opened : cell.brackets?.isSome) (held' : w.store.cell? address' = some (cell.refill inner))
      (parts : Unfolds w cell.shownValues inner below) (rest : Unfolds w values values' addresses) :
      Unfolds w (.object address :: values) (.object address' :: values')
        (address' :: below ++ addresses)

/-- A value unfolds to a tree: the objects of its containers are all different. -/
def Unfolding (w : World) (v tree : Value) : Prop :=
  ∃ addresses, w.Unfolds [v] [tree] addresses ∧ addresses.Nodup

/-- Values are unfolded one by one. -/
theorem Unfolds.length_eq (unfolds : w.Unfolds values values' addresses) :
    values'.length = values.length := by
  induction unfolds with
  | nil => rfl
  | words _ _ _ _ inductionHypothesis => simp [inductionHypothesis]
  | container _ _ _ _ _ _ inductionHypothesis => simp [inductionHypothesis]

/-- Only values without cycles can be unfolded, as that has an end. -/
theorem Unfolds.acyclic (unfolds : w.Unfolds values values' addresses) :
    ∀ v ∈ values, w.Acyclic v := by
  induction unfolds with
  | nil => simp
  | words plain _ _ _ inductionHypothesis =>
    refine List.forall_mem_cons.mpr ⟨acyclic_of_parts ?_, inductionHypothesis⟩
    rintro part ⟨container, _, found, _⟩
    cases plain.symm.trans found
  | container held opened _ _ _ below inductionHypothesis =>
    refine List.forall_mem_cons.mpr ⟨acyclic_of_parts ?_, inductionHypothesis⟩
    intro part shows
    exact below part ((shows_iff held opened).mp shows)

/-- None of the containers `inside` is shown in any of the values. -/
def Outside (w : World) (inside : List Nat) (values : List Value) : Prop :=
  ∀ address ∈ inside, ∀ v ∈ values, ¬ Relation.ReflTransGen w.Shows v (.object address)

theorem Outside.tail (outside : w.Outside inside (v :: values)) : w.Outside inside values :=
  fun address member u listed => outside address member u (List.mem_cons_of_mem v listed)

theorem Outside.head (outside : w.Outside inside (.object address :: values)) :
    address ∉ inside :=
  fun member => outside address member _ List.mem_cons_self .refl

/-- A container whose parts have no cycles is not shown in them, and neither is what is around
it. -/
theorem Outside.enter (outside : w.Outside inside (.object address :: values))
    (held : w.store.cell? address = some cell) (opened : cell.brackets?.isSome)
    (acyclic : ∀ v ∈ cell.shownValues, w.Acyclic v) :
    w.Outside (address :: inside) cell.shownValues := by
  intro other member v listed reached
  have shows : w.Shows (.object address) v := (shows_iff held opened).mpr listed
  cases List.mem_cons.mp member with
  | inl same =>
    subst same
    exact acyclic v listed v .refl (.tail' reached shows)
  | inr enclosing => exact outside other enclosing _ List.mem_cons_self (.head shows reached)

/-- Values and what they unfold to read the same at every depth, inside containers that are not
shown in the values and that are none of those made for them. The induction follows the
unfolding. -/
theorem Unfolds.spellings_eq (unfolds : w.Unfolds values values' addresses)
    (distinct : addresses.Nodup) (outside : w.Outside inside values)
    (outside' : inside'.Disjoint addresses) (depth : Nat) :
    values'.map (fun v => (w.layout depth inside' v).spelling) =
      values.map fun v => (w.layout depth inside v).spelling := by
  induction unfolds generalizing depth inside inside' with
  | nil => rfl
  | @words v v' values values' addresses plain plain' same _ inductionHypothesis =>
    have first : (w.layout depth inside' v').spelling = (w.layout depth inside v).spelling := by
      rw [layout_of_words plain, layout_of_words plain', same]
    have others := inductionHypothesis distinct outside.tail outside' depth
    rw [List.map_cons, List.map_cons, first, others]
  | @container address address' cell inner values values' within addresses held opened held' parts _
      below inductionHypothesis =>
    obtain ⟨own, distinct⟩ := List.nodup_cons.mp distinct
    obtain ⟨distinctWithin, distinctRest, _⟩ := List.nodup_append.mp distinct
    obtain ⟨here', apart⟩ := List.disjoint_cons_right.mp outside'
    obtain ⟨apartWithin, apartRest⟩ := List.disjoint_append_right.mp apart
    have deeper := outside.enter held opened parts.acyclic
    have deeper' : (address' :: inside').Disjoint within :=
      List.disjoint_cons_left.mpr
        ⟨fun member => own (List.mem_append_left addresses member), apartWithin⟩
    have first := spelling_layout_refill held opened held' parts.length_eq outside.head here'
      (below distinctWithin deeper deeper') depth
    have others := inductionHypothesis distinctRest outside.tail apartRest depth
    rw [List.map_cons, List.map_cons, first, others]

/-- A value is rendered as the tree it unfolds to. -/
theorem Unfolding.rendering_eq {tree : Value} (unfolding : w.Unfolding v tree) (options : Options) :
    w.rendering options tree = w.rendering options v := by
  obtain ⟨addresses, unfolds, distinct⟩ := unfolding
  have spellings : [tree].map (fun v => (w.layout options.maxRenderDepth [] v).spelling) =
      [v].map fun v => (w.layout options.maxRenderDepth [] v).spelling :=
    unfolds.spellings_eq distinct (by simp [Outside]) (by simp) _
  have same : (w.layout options.maxRenderDepth [] tree).spelling =
      (w.layout options.maxRenderDepth [] v).spelling := List.singleton_inj.mp spellings
  rw [rendering_eq_within, rendering_eq_within, same]

/-! ## Making the tree -/

/-- A row of values can be unfolded, however the store has grown: objects can be added that it
unfolds to, and it does from then on. -/
def Unfoldable (w : World) (values : List Value) : Prop :=
  ∀ σ, w.store.GrowsTo σ → ∃ σ' values' addresses, σ.GrowsTo σ' ∧ addresses.Nodup ∧
    (∀ address ∈ addresses, σ.size ≤ address ∧ address < σ'.size) ∧
    ∀ later, σ'.GrowsTo later → { w with store := later }.Unfolds values values' addresses

/-- What is no container is none after the store has grown, as long as it is in the store. -/
theorem container?_of_grows {σ : Store} (grows : w.store.GrowsTo σ)
    (present : v.place ≤ w.store.size) (plain : w.container? v = none) :
    { w with store := σ }.container? v = none := by
  cases v with
  | object address =>
    have held : w.store.cell? address = some w.store.cells[address] :=
      Array.getElem?_eq_getElem present
    have held' : { w with store := σ }.store.cell? address = some w.store.cells[address] :=
      grows _ _ held
    rw [container?_of_cell? held, Option.map_eq_none_iff] at plain
    rw [container?_of_cell? held', plain, Option.map_none]
  | _ => rfl

theorem unfoldable_nil (w : World) : w.Unfoldable [] :=
  fun σ _ => ⟨σ, [], [], .refl σ, List.nodup_nil, by simp, fun _ _ => .nil⟩

/-- What is no container takes no unfolding. -/
theorem unfoldable_words (plain : w.container? v = none) (present : v.place ≤ w.store.size)
    (rest : w.Unfoldable values) : w.Unfoldable (v :: values) := by
  intro σ grows
  obtain ⟨σ', values', addresses, further, distinct, new, unfolds⟩ := rest σ grows
  refine ⟨σ', v :: values', addresses, further, distinct, new, ?_⟩
  intro later grows'
  have none' := container?_of_grows ((grows.trans further).trans grows') present plain
  exact .words none' none' rfl (unfolds later grows')

/-- Different addresses below one of them and different addresses above it are all different. -/
theorem nodup_around {below above : List Nat} (distinct : below.Nodup) (distinct' : above.Nodup)
    (lower : ∀ other ∈ below, other < address) (higher : ∀ other ∈ above, address < other) :
    (address :: below ++ above).Nodup := by
  rw [List.cons_append, List.nodup_cons, List.mem_append, List.nodup_append]
  refine ⟨?_, distinct, distinct', ?_⟩
  · rintro (member | member)
    · exact Nat.lt_irrefl _ (lower address member)
    · exact Nat.lt_irrefl _ (higher address member)
  · intro first member second member'
    exact Nat.ne_of_lt ((lower first member).trans (higher second member'))

/-- A container is unfolded after the values in it, by adding the same container of what they
unfold to. -/
theorem unfoldable_container (held : w.store.cell? address = some cell)
    (opened : cell.brackets?.isSome) (parts : w.Unfoldable cell.shownValues)
    (rest : w.Unfoldable values) : w.Unfoldable (.object address :: values) := by
  intro σ grows
  obtain ⟨first, inner, below, further, distinct, new, unfolds⟩ := parts σ grows
  let second := first.insert (cell.refill inner)
  have added : first.GrowsTo second.1 := .insert first _
  have toSecond := further.trans added
  obtain ⟨last, values', addresses, further', distinct', new', unfolds'⟩ :=
    rest second.1 (grows.trans toSecond)
  have own : second.2 = first.size := rfl
  have size : second.1.size = first.size + 1 := Array.size_push _
  have bound := further.size_le
  have bound' := further'.size_le
  refine ⟨last, .object second.2 :: values', second.2 :: below ++ addresses,
    toSecond.trans further', ?_, ?_, ?_⟩
  · apply nodup_around distinct distinct'
    · exact fun address earlier => (new address earlier).2
    · intro address later
      have := new' address later
      omega
  · intro address member
    rw [List.cons_append, List.mem_cons, List.mem_append] at member
    obtain here | earlier | later := member
    · omega
    · have := new address earlier
      omega
    · have := new' address later
      omega
  · intro later grows'
    have fromSecond := further'.trans grows'
    have held' := fromSecond _ _ (first.cell?_insert_new (cell.refill inner))
    have fromStart := (grows.trans toSecond).trans fromSecond
    exact .container (fromStart _ _ held) opened held' (unfolds later (added.trans fromSecond))
      (unfolds' later grows')

/-- Whatever is shown in a value is in the store. -/
def Present (w : World) (v : Value) : Prop :=
  ∀ u, Relation.ReflTransGen w.Shows v u → u.place ≤ w.store.size

/-- The parts of a value without cycles reach fewer containers than it does. -/
theorem ncard_lt_of_shows {part : Value} (acyclic : w.Acyclic v) (shows : w.Shows v part) :
    (w.reachedContainers part).ncard < (w.reachedContainers v).ncard := by
  apply Set.ncard_lt_ncard _ (finite_reachedContainers w v)
  constructor
  · intro address member
    exact ⟨.head shows member.1, member.2⟩
  · intro included
    have ⟨container, _, found, _⟩ := shows
    obtain ⟨_, same, _⟩ := container?_cases found
    have own : container.address ∈ w.reachedContainers v := by
      rw [same] at found ⊢
      exact ⟨.refl, by rw [found]; rfl⟩
    have back := (included own).1
    rw [← same] at back
    exact acyclic v .refl (.head' shows back)

/-- Values without cycles can be unfolded. The parts of a container reach fewer containers. -/
theorem unfoldable_of_acyclic {bound : Nat}
    (each : ∀ v ∈ values, w.Acyclic v ∧ w.Present v ∧ (w.reachedContainers v).ncard < bound) :
    w.Unfoldable values := by
  induction bound generalizing values with
  | zero =>
    have none : values = [] :=
      List.eq_nil_iff_forall_not_mem.mpr fun v member => Nat.not_lt_zero _ (each v member).2.2
    rw [none]
    exact w.unfoldable_nil
  | succ bound smaller =>
    induction values with
    | nil => exact w.unfoldable_nil
    | cons v rest inductionHypothesis =>
      obtain ⟨⟨acyclic, present, few⟩, others⟩ := List.forall_mem_cons.mp each
      have after := inductionHypothesis others
      cases found : w.container? v with
      | none => exact unfoldable_words found (present v .refl) after
      | some container =>
        obtain ⟨cell, rfl, held, opened⟩ := exists_cell_of_container? found
        refine unfoldable_container held opened (smaller ?_) after
        intro part member
        have shows := (shows_iff held opened).mpr member
        have fewer := ncard_lt_of_shows acyclic shows
        exact ⟨acyclic.of_shows shows, fun u reached => present u (.head shows reached), by omega⟩

/-- A value without cycles that is in the store unfolds to a tree after some objects are added. -/
theorem exists_unfolding (acyclic : w.Acyclic v) (present : w.Present v) :
    ∃ σ tree, w.store.GrowsTo σ ∧ { w with store := σ }.Unfolding v tree := by
  have single : ∀ u ∈ [v], w.Acyclic u ∧ w.Present u ∧
      (w.reachedContainers u).ncard < (w.reachedContainers v).ncard + 1 := by
    simpa using ⟨acyclic, present⟩
  obtain ⟨σ, values, addresses, grows, distinct, _, unfolds⟩ :=
    unfoldable_of_acyclic single w.store (.refl _)
  have unfolds := unfolds σ (.refl σ)
  obtain ⟨tree, rfl⟩ := List.length_eq_one_iff.mp unfolds.length_eq
  exact ⟨σ, tree, grows, addresses, unfolds, distinct⟩

/-! ## Where the mark is -/

/-- In a value without cycles nothing is marked as inside itself. -/
theorem at?_ne_circular_of_acyclic (acyclic : w.Acyclic v) (depth : Nat) (path : List Nat)
    (address : Nat) : (w.layout depth [] v).at? path ≠ some (.circular address) := by
  intro shown
  rw [layout_eq_cut, Layout.at?_cut] at shown
  split at shown
  · obtain ⟨layout, uncut, marked⟩ := Option.map_eq_some_iff.mp shown
    obtain ⟨inside, u, walked, _, circular⟩ := at?_unlimited_eq_some_iff.mp uncut
    rw [Layout.eq_circular_of_cut marked, unlimited_eq_circular_iff] at circular
    obtain ⟨rfl, _, member⟩ := circular
    have reached := (shows_of_walk walked).1
    have cycle := (passed_of_walk walked member).2.2
    exact acyclic _ reached cycle
  · cases shown

/-- The mark is at the places of a container inside itself, as far as they are shown. -/
theorem at?_eq_circular_iff {path : List Nat} :
    (w.unlimited [] v).at? path = some (.circular address) ↔
      ∃ inside, w.walk [] v path = some ⟨inside, .object address⟩ ∧ inside.Nodup ∧
        address ∈ inside := by
  rw [at?_unlimited_eq_some_iff]
  constructor
  · rintro ⟨inside, u, walked, distinct, circular⟩
    obtain ⟨rfl, _, member⟩ := unlimited_eq_circular_iff.mp circular
    exact ⟨inside, walked, distinct, member⟩
  · rintro ⟨inside, walked, distinct, member⟩
    have container := (passed_of_walk walked member).2.1
    exact ⟨inside, _, walked, distinct, unlimited_eq_circular_iff.mpr ⟨rfl, container, member⟩⟩

/-- A container is opened at the places where it is not inside itself, as far as they are shown. -/
theorem at?_eq_opened_iff {path : List Nat} :
    (∃ brackets parts, (w.unlimited [] v).at? path = some (.opened address brackets parts)) ↔
      ∃ inside, w.walk [] v path = some ⟨inside, .object address⟩ ∧ inside.Nodup ∧
        (w.container? (.object address)).isSome ∧ address ∉ inside := by
  simp only [at?_unlimited_eq_some_iff]
  constructor
  · rintro ⟨brackets, parts, inside, u, walked, distinct, opened⟩
    obtain ⟨rfl, container, outside⟩ := unlimited_eq_opened_iff.mp ⟨brackets, parts, opened⟩
    exact ⟨inside, walked, distinct, container, outside⟩
  · rintro ⟨inside, walked, distinct, container, outside⟩
    obtain ⟨brackets, parts, opened⟩ := unlimited_eq_opened_iff.mpr ⟨rfl, container, outside⟩
    exact ⟨brackets, parts, inside, _, walked, distinct, opened⟩

/-- Values without cycles unfold to a tree, whatever they share, and wherever a value unfolds to
a tree, the two are rendered alike under all options. The mark of a container inside itself is not
in the rendering of a value without cycles. For any other value, if the depth limit is at least the
number of containers it reaches, the mark is at exactly those of the places shown where a container
is inside itself, and the container is opened at all others; this is what comes out under the length
limit, so all of it does if the limit leaves room and nothing refuses to be shown. -/
theorem sharing_is_no_cycle (w : World) (v : Value) :
    let whole := w.unlimited [] v
    (w.Acyclic v → w.Present v →
      ∃ σ tree, w.store.GrowsTo σ ∧ { w with store := σ }.Unfolding v tree) ∧
    (∀ (w' : World) (tree : Value), w'.Unfolding v tree →
      ∀ options, w'.rendering options tree = w'.rendering options v) ∧
    (w.Acyclic v →
      ∀ depth path address, (w.layout depth [] v).at? path ≠ some (.circular address)) ∧
    (∀ options : Options, (w.reachedContainers v).ncard ≤ options.maxRenderDepth →
      w.layout options.maxRenderDepth [] v = whole ∧
        w.rendering options v = whole.spelling.within options.maxRenderLength ∧
        (whole.spelling.refusal? = none → whole.text.length ≤ options.maxRenderLength →
          w.rendering options v = .ok whole.text)) ∧
    (∀ path address, whole.at? path = some (.circular address) ↔
      ∃ inside, w.walk [] v path = some ⟨inside, .object address⟩ ∧ inside.Nodup ∧
        address ∈ inside) ∧
    ∀ path address,
      (∃ brackets parts, whole.at? path = some (.opened address brackets parts)) ↔
        ∃ inside, w.walk [] v path = some ⟨inside, .object address⟩ ∧ inside.Nodup ∧
          (w.container? (.object address)).isSome ∧ address ∉ inside := by
  refine ⟨exists_unfolding, ?_, at?_ne_circular_of_acyclic, ?_, ?_, ?_⟩
  · intro w' tree unfolding options
    exact unfolding.rendering_eq options
  · intro options deep
    have laid := layout_eq_unlimited deep
    have cut := rendering_eq_within w options v
    rw [laid] at cut
    exact ⟨laid, cut, fun unbroken fits => cut.trans (Layout.within_of_whole unbroken fits)⟩
  · intro path address
    exact at?_eq_circular_iff
  · intro path address
    exact at?_eq_opened_iff

/-- A list of these items. -/
def plainList (items : List Value) : Cell := .list (.standard "list" ["Sequence"]) items

/-- A list that holds another one twice. -/
def doubled : World where
  store := ⟨#[plainList [.object 1, .object 1], plainList [.int 1]]⟩
  external := fun _ _ => .error (.notCallable "object")
  field := fun _ _ => .ok none
  customs := .regular ⟨#[]⟩

/-- Both lists show what is in them. -/
theorem shows_doubled_iff {part : Value} :
    (doubled.Shows (.object 0) part ↔ part = .object 1) ∧
      (doubled.Shows (.object 1) part ↔ part = .int 1) := by
  have outer : doubled.store.cell? 0 = some (plainList [.object 1, .object 1]) := rfl
  have inner : doubled.store.cell? 1 = some (plainList [.int 1]) := rfl
  constructor
  · exact (shows_iff outer rfl).trans (by simp [plainList, Cell.shownValues])
  · exact (shows_iff inner rfl).trans (by simp [plainList, Cell.shownValues])

/-- The list has no cycles, so there is a tree that is rendered as it is, though the inner list is
an object of its own there each time. -/
theorem doubled_unfolds :
    doubled.Acyclic (.object 0) ∧ doubled.Present (.object 0) ∧
      ∃ σ tree, doubled.store.GrowsTo σ ∧ { doubled with store := σ }.Unfolding (.object 0) tree ∧
        ∀ options, { doubled with store := σ }.rendering options tree =
          { doubled with store := σ }.rendering options (.object 0) := by
  have acyclic : doubled.Acyclic (.object 0) := by
    refine acyclic_of_parts fun part shows => ?_
    rw [shows_doubled_iff.1.mp shows]
    refine acyclic_of_parts fun part shows => ?_
    rw [shows_doubled_iff.2.mp shows]
    refine acyclic_of_parts ?_
    rintro part ⟨container, _, found, _⟩
    cases found
  have present : doubled.Present (.object 0) := by
    intro u reached
    rcases reached.cases_head with rfl | ⟨inner, shows, reached⟩
    · decide
    cases shows_doubled_iff.1.mp shows
    rcases reached.cases_head with rfl | ⟨item, shows, reached⟩
    · decide
    cases shows_doubled_iff.2.mp shows
    rcases reached.cases_head with rfl | ⟨part, ⟨container, _, found, _⟩, _⟩
    · decide
    · cases found
  obtain ⟨σ, tree, grows, unfolding⟩ := (sharing_is_no_cycle doubled (.object 0)).1 acyclic present
  exact ⟨acyclic, present, σ, tree, grows, unfolding,
    (sharing_is_no_cycle doubled (.object 0)).2.1 _ tree unfolding⟩

/-- A list that is held twice is written both times, and a mapping that holds itself is marked. -/
example :
    let cls : Class := .standard "list" ["Sequence"]
    let w : World := {
      store := ⟨#[.list cls [.object 1, .object 1], .list cls [.int 1],
        .mapping (.standard "dict" ["Mapping"]) [(.str "self", .object 2)]]⟩
      external := fun _ _ => .error (.notCallable "object")
      field := fun _ _ => .ok none
      customs := .regular ⟨#[]⟩ }
    w.rendering {} (.object 0) = .ok "[[1], [1]]" ∧
      w.rendering {} (.object 2) = .ok "\x7bself: [Circular]\x7d" := by
  decide +kernel

end World

end Conformance
