import Conformance.Proofs.Height
import Conformance.Proofs.LegibleLayouts
import Conformance.Proofs.Numerals
import Conformance.Proofs.SameTree

/-!
# Renderings that nothing is left out of

A legible value is a tree of lists, tuples and mappings that ends in null, booleans, integers that
can be written and texts without quotes, and whose mappings have words of letters and digits for
keys. If such a tree is no higher than the depth limit and its rendering no longer than the length
limit, nothing is left out of the rendering, and the layout that is its text is legible.

So two such trees with the same rendering have the same contents: the same scalars, item by item
and under the same keys. Of their containers the rendering tells only whether they are mappings.
-/

namespace Conformance

/-! ## Legible values -/

/-- Null, a boolean, an integer that can be written, or a text without quotes. -/
inductive Value.IsLegible : Value → Prop
  | null : IsLegible .null
  | bool (b : Bool) : IsLegible (.bool b)
  | int {n : Int} (short : n.natAbs < Text.firstUnwritable) : IsLegible (.int n)
  | text {s : String} (unquoted : '"' ∉ s.toList) : IsLegible (.str s)

namespace Store

/-- A tree that can be read back from its rendering. -/
inductive Legible (σ : Store) : Value → Prop
  | scalar {v : Value} (plain : v.IsLegible) : Legible σ v
  | array {v : Value} {items : List Value} (silent : σ.isCallable v = false)
      (listed : σ.arrayItems? v = some items) (each : ∀ item ∈ items, Legible σ item) : Legible σ v
  | mapping {v : Value} {entries : List (Value × Value)} (silent : σ.isCallable v = false)
      (held : σ.entries? v = some entries)
      (keyed : ∀ entry ∈ entries, ∃ key, entry.1 = .str key ∧ Text.IsKey key.toList)
      (each : ∀ entry ∈ entries, Legible σ entry.2) : Legible σ v

/-- Two values have the same contents, whatever containers these are in: the same leaf, the same
items in the same order, or the same entries in the same order. -/
inductive SameContents (σ : Store) : Value → Value → Prop
  | leaf {v : Value} (noItems : σ.arrayItems? v = none) (noEntries : σ.entries? v = none) :
      SameContents σ v v
  | array {v v' : Value} {items items' : List Value} (listed : σ.arrayItems? v = some items)
      (listed' : σ.arrayItems? v' = some items') (complete : items.length = items'.length)
      (each : ∀ pair ∈ items.zip items', SameContents σ pair.1 pair.2) : SameContents σ v v'
  | mapping {v v' : Value} {entries entries' : List (Value × Value)}
      (held : σ.entries? v = some entries) (held' : σ.entries? v' = some entries')
      (complete : entries.length = entries'.length)
      (keys : ∀ pair ∈ entries.zip entries', pair.2.1 = pair.1.1)
      (each : ∀ pair ∈ entries.zip entries', SameContents σ pair.1.2 pair.2.2) : SameContents σ v v'

variable {σ : Store} {v : Value} {items : List Value} {entries : List (Value × Value)}
  {height : Nat}

/-- A scalar is a leaf. -/
theorem leaf_of_isLegible (plain : v.IsLegible) : σ.arrayItems? v = none ∧ σ.entries? v = none := by
  cases plain <;> exact ⟨rfl, rfl⟩

/-- Legible values come to an end. -/
theorem Legible.finite (legible : σ.Legible v) : Acc σ.IsPart v := by
  induction legible with
  | scalar plain =>
    obtain ⟨noItems, noEntries⟩ := leaf_of_isLegible (σ := σ) plain
    exact acc_of_leaf noItems noEntries
  | array _ listed _ inductionHypothesis => exact acc_of_items listed inductionHypothesis
  | mapping _ held _ _ inductionHypothesis => exact acc_of_entries held inductionHypothesis

/-- A container that cannot be called is no atom. -/
theorem not_isAtom_of_silent {address : Nat} (silent : σ.isCallable (.object address) = false) :
    ¬ σ.IsAtom (.object address) := by
  intro atom
  exact atom.1 (kindOf_of_silent silent)

/-- The items of a list or tuple are lower than it. -/
theorem HeightAtMost.below_items (low : σ.HeightAtMost height v) (silent : σ.isCallable v = false)
    (listed : σ.arrayItems? v = some items) :
    ∃ below, height = below + 1 ∧ ∀ item ∈ items, σ.HeightAtMost below item := by
  cases low with
  | atom atom =>
    obtain ⟨address, _, rfl, _⟩ := arrayItems?_eq_some_iff.mp listed
    exact absurd atom (not_isAtom_of_silent silent)
  | @array below _ items' listed' inside =>
    cases listed.symm.trans listed'
    exact ⟨below, rfl, inside⟩
  | mapping held _ => cases held.symm.trans (entries?_eq_none_of_arrayItems? listed)

/-- The values in a mapping are lower than it. -/
theorem HeightAtMost.below_entries (low : σ.HeightAtMost height v) (silent : σ.isCallable v = false)
    (held : σ.entries? v = some entries) :
    ∃ below, height = below + 1 ∧ ∀ entry ∈ entries, σ.HeightAtMost below entry.2 := by
  cases low with
  | atom atom =>
    obtain ⟨address, _, rfl, _⟩ := entries?_eq_some_iff.mp held
    exact absurd atom (not_isAtom_of_silent silent)
  | array listed _ => cases listed.symm.trans (arrayItems?_eq_none_of_entries? held)
  | @mapping below _ entries' held' inside =>
    cases held.symm.trans held'
    exact ⟨below, rfl, inside⟩

end Store

/-! ## Words read back -/

namespace Text

/-- Digits are no separators. -/
theorem not_separator_of_mem_digits {n : Nat} {c : Char} (member : c ∈ digits n) :
    c ∉ separators := by
  rw [digits_eq] at member
  obtain ⟨d, inside, rfl⟩ := List.mem_map.mp member
  have small : d < 10 := places_lt_ten (List.mem_reverse.mp inside)
  interval_cases d <;> decide

/-- The text of an integer is bare. -/
theorem isBare_intText (n : Int) : IsBare (intText n).toList := by
  rw [toList_intText]
  split
  · refine ⟨by simp, ?_⟩
    intro c member
    rcases List.mem_cons.mp member with rfl | member
    · decide
    · exact not_separator_of_mem_digits member
  · exact ⟨digits_ne_nil n.natAbs, fun c member => not_separator_of_mem_digits member⟩

end Text

/-- The scalar that some words show. -/
def readScalar (words : List Char) : Value :=
  match words with
  | '"' :: rest => .str (String.ofList rest.dropLast)
  | words =>
    match Text.readInt? words with
    | some n => .int n
    | none => if words = "None".toList then .null else .bool (words == "True".toList)

/-- Bare words that are a number are read as the number. -/
theorem readScalar_of_readInt? {words : List Char} {n : Int} (plain : Text.IsBare words)
    (read : Text.readInt? words = some n) : readScalar words = .int n := by
  unfold readScalar
  split
  · exact absurd (by decide) (plain.2 '"' (by simp))
  · simp [read]

namespace World

variable {w : World} {options : Options} {v v' : Value} {address depth : Nat} {inside : List Nat}
  {items : List Value} {entries : List (Value × Value)}

/-- The words of a scalar are legible, and they are read as the scalar. -/
theorem exists_words_of_isLegible (w : World) (plain : v.IsLegible) :
    ∃ text, w.words v = .ok text ∧ (Layout.words text).Legible ∧ readScalar text.toList = v := by
  cases plain with
  | null => exact ⟨"None", rfl, .bare (by decide), by decide⟩
  | bool b =>
    have words : w.words (.bool b) = .ok (if b then "True" else "False") := rfl
    exact ⟨_, words, .bare (by cases b <;> decide), by cases b <;> decide⟩
  | @int n short =>
    have words : w.words (.int n) = .ok (w.natural (.int n)) := rfl
    rw [natural, text_int short] at words
    have bare := Text.isBare_intText n
    have back : Text.readInt? (Text.intText n).toList = some n := by
      simp [Text.readInt?_intText, short]
    exact ⟨_, words, .bare bare, readScalar_of_readInt? bare back⟩
  | @text s unquoted =>
    refine ⟨"\"" ++ s ++ "\"", rfl, .quoted unquoted, ?_⟩
    have quoted : ("\"" ++ s ++ "\"").toList = '"' :: (s.toList ++ ['"']) := by
      simp [String.toList_append]
    rw [quoted]
    simp [readScalar]

/-! ## Layouts of legible values -/

/-- A list or tuple outside itself is laid out by its items. -/
theorem layout_of_items (silent : w.store.isCallable (.object address) = false)
    (listed : w.store.arrayItems? (.object address) = some items) (outside : address ∉ inside)
    (depth : Nat) :
    w.layout (depth + 1) inside (.object address) = .opened address .square
      (items.map fun item => ("", w.layout depth (address :: inside) item)) := by
  have found : w.container? (.object address) =
      some ⟨address, .square, items.map fun item => ("", item)⟩ := by
    obtain ⟨_, cls, same, held | held⟩ := Store.arrayItems?_eq_some_iff.mp listed <;> cases same <;>
      simp [container?, silent, held]
  rw [layout_of_container found, if_neg outside]
  simp

/-- A mapping outside itself is laid out by its entries. -/
theorem layout_of_entries (silent : w.store.isCallable (.object address) = false)
    (held : w.store.entries? (.object address) = some entries) (outside : address ∉ inside)
    (depth : Nat) :
    w.layout (depth + 1) inside (.object address) = .opened address .curly
      (entries.map fun entry =>
        (w.natural entry.1 ++ ": ", w.layout depth (address :: inside) entry.2)) := by
  have found : w.container? (.object address) = some ⟨address, .curly,
      entries.map fun entry => (w.natural entry.1 ++ ": ", entry.2)⟩ := by
    obtain ⟨_, cls, same, held⟩ := Store.entries?_eq_some_iff.mp held
    cases same
    simp [container?, silent, held]
  rw [layout_of_container found, if_neg outside]
  simp

/-- A scalar is laid out as words that are legible, and they are read as the scalar. -/
theorem layout_of_isLegible (plain : v.IsLegible) (depth : Nat) (inside : List Nat) :
    ∃ text, w.layout depth inside v = .words text ∧ (Layout.words text).Legible ∧
      readScalar text.toList = v := by
  have none : w.container? v = none := by
    cases plain <;> rfl
  obtain ⟨text, words, legible, read⟩ := exists_words_of_isLegible w plain
  refine ⟨text, ?_, legible, read⟩
  rw [layout_of_words none, words, Layout.ofWords]

/-- The layout of a legible value that is not too high is legible: nothing in it is marked as
circular or elided. -/
theorem legible_layout (legible : w.store.Legible v) (low : w.store.HeightAtMost depth v)
    (clear : w.store.Clear inside v) : (w.layout depth inside v).Legible := by
  induction legible generalizing depth inside with
  | scalar plain =>
    obtain ⟨text, laid, legible, _⟩ := layout_of_isLegible (w := w) plain depth inside
    rw [laid]
    exact legible
  | @array v items silent listed each inductionHypothesis =>
    have finite := (Store.Legible.array silent listed each).finite
    obtain ⟨address, _, rfl, _⟩ := Store.arrayItems?_eq_some_iff.mp listed
    obtain ⟨below, rfl, lower⟩ := low.below_items silent listed
    rw [layout_of_items silent listed clear.not_mem]
    apply Layout.Legible.row
    · intro part member
      obtain ⟨item, _, rfl⟩ := List.mem_map.mp member
      rfl
    · intro part member
      obtain ⟨item, inside_, rfl⟩ := List.mem_map.mp member
      exact inductionHypothesis item inside_ (lower item inside_)
        (clear.below finite (.item listed inside_))
  | @mapping v entries silent held keyed each inductionHypothesis =>
    have finite := (Store.Legible.mapping silent held keyed each).finite
    obtain ⟨address, _, rfl, _⟩ := Store.entries?_eq_some_iff.mp held
    obtain ⟨below, rfl, lower⟩ := low.below_entries silent held
    rw [layout_of_entries silent held clear.not_mem]
    apply Layout.Legible.record
    · intro part member
      obtain ⟨entry, inside_, rfl⟩ := List.mem_map.mp member
      obtain ⟨key, same, named⟩ := keyed entry inside_
      refine ⟨key, named, ?_⟩
      rw [same]
      rfl
    · intro part member
      obtain ⟨entry, inside_, rfl⟩ := List.mem_map.mp member
      exact inductionHypothesis entry inside_ (lower entry inside_)
        (clear.below finite (.entry held inside_))

/-! ## Contents told by layouts -/

section Contents

variable (legible : w.store.Legible v) (low : w.store.HeightAtMost depth v)
  (clear : w.store.Clear inside v)
include legible low clear

/-- What is laid out as words is a scalar, the one that these words are read as. -/
theorem isLegible_of_layout {text : String} (laid : w.layout depth inside v = .words text) :
    v.IsLegible ∧ readScalar text.toList = v := by
  cases legible with
  | scalar plain =>
    obtain ⟨_, laid', _, read⟩ := layout_of_isLegible (w := w) plain depth inside
    cases laid.symm.trans laid'
    exact ⟨plain, read⟩
  | array silent listed each =>
    obtain ⟨address, _, rfl, _⟩ := Store.arrayItems?_eq_some_iff.mp listed
    obtain ⟨below, rfl, _⟩ := low.below_items silent listed
    rw [layout_of_items silent listed clear.not_mem] at laid
    cases laid
  | mapping silent held keyed each =>
    obtain ⟨address, _, rfl, _⟩ := Store.entries?_eq_some_iff.mp held
    obtain ⟨below, rfl, _⟩ := low.below_entries silent held
    rw [layout_of_entries silent held clear.not_mem] at laid
    cases laid

/-- What is laid out in square brackets is a list or tuple, and its items are laid out in them. -/
theorem items_of_layout {parts : List (String × Layout)}
    (laid : w.layout depth inside v = .opened address .square parts) :
    ∃ items below, w.store.arrayItems? v = some items ∧
      (∀ item ∈ items, w.store.Legible item ∧ w.store.HeightAtMost below item ∧
        w.store.Clear (address :: inside) item) ∧
      parts = items.map fun item => ("", w.layout below (address :: inside) item) := by
  have finite := legible.finite
  cases legible with
  | scalar plain =>
    obtain ⟨_, laid', _⟩ := layout_of_isLegible (w := w) plain depth inside
    cases laid.symm.trans laid'
  | @array v items silent listed each =>
    obtain ⟨address, _, rfl, _⟩ := Store.arrayItems?_eq_some_iff.mp listed
    obtain ⟨below, rfl, lower⟩ := low.below_items silent listed
    rw [layout_of_items silent listed clear.not_mem] at laid
    cases laid
    refine ⟨items, below, listed, ?_, rfl⟩
    intro item member
    exact ⟨each item member, lower item member, clear.below finite (.item listed member)⟩
  | mapping silent held keyed each =>
    obtain ⟨address, _, rfl, _⟩ := Store.entries?_eq_some_iff.mp held
    obtain ⟨below, rfl, _⟩ := low.below_entries silent held
    rw [layout_of_entries silent held clear.not_mem] at laid
    cases laid

/-- What is laid out in curly brackets is a mapping, and its entries are laid out in them, under
their keys. -/
theorem entries_of_layout {parts : List (String × Layout)}
    (laid : w.layout depth inside v = .opened address .curly parts) :
    ∃ entries below, w.store.entries? v = some entries ∧
      (∀ entry ∈ entries, (∃ key, entry.1 = .str key) ∧ w.store.Legible entry.2 ∧
        w.store.HeightAtMost below entry.2 ∧ w.store.Clear (address :: inside) entry.2) ∧
      parts = entries.map fun entry =>
        (w.natural entry.1 ++ ": ", w.layout below (address :: inside) entry.2) := by
  have finite := legible.finite
  cases legible with
  | scalar plain =>
    obtain ⟨_, laid', _⟩ := layout_of_isLegible (w := w) plain depth inside
    cases laid.symm.trans laid'
  | array silent listed each =>
    obtain ⟨address, _, rfl, _⟩ := Store.arrayItems?_eq_some_iff.mp listed
    obtain ⟨below, rfl, _⟩ := low.below_items silent listed
    rw [layout_of_items silent listed clear.not_mem] at laid
    cases laid
  | @mapping v entries silent held keyed each =>
    obtain ⟨address, _, rfl, _⟩ := Store.entries?_eq_some_iff.mp held
    obtain ⟨below, rfl, lower⟩ := low.below_entries silent held
    rw [layout_of_entries silent held clear.not_mem] at laid
    cases laid
    refine ⟨entries, below, held, ?_, rfl⟩
    intro entry member
    obtain ⟨key, same, _⟩ := keyed entry member
    exact ⟨⟨key, same⟩, each entry member, lower entry member,
      clear.below finite (.entry held member)⟩

end Contents

/-- Keys that are texts are told by the labels they are shown as. -/
theorem eq_of_label_eq {key key' : Value} (plain : ∃ s, key = .str s) (plain' : ∃ s, key' = .str s)
    (same : w.natural key' ++ ": " = w.natural key ++ ": ") : key' = key := by
  obtain ⟨s, rfl⟩ := plain
  obtain ⟨s', rfl⟩ := plain'
  have natural (s : String) : w.natural (.str s) = s := rfl
  rw [natural, natural] at same
  have texts : s'.toList = s.toList := by
    have both := congrArg String.toList same
    simpa [String.toList_append] using both
  rw [String.toList_injective texts]

/-- What is made from paired members is paired again. -/
theorem mem_zip_map {α β γ δ : Type} {f : α → γ} {g : β → δ} {xs : List α} {ys : List β}
    {pair : α × β} (member : pair ∈ xs.zip ys) :
    (f pair.1, g pair.2) ∈ (xs.map f).zip (ys.map g) := by
  rw [List.zip_map]
  exact List.mem_map_of_mem member

/-- Legible values that are laid out alike have the same contents. The induction is over the
layouts; each of them tells what its value is. -/
theorem sameContents_of_alike {l l' : Layout} {depth' : Nat} {inside' : List Nat}
    (alike : Layout.Alike l l') (legible : w.store.Legible v) (legible' : w.store.Legible v')
    (low : w.store.HeightAtMost depth v) (low' : w.store.HeightAtMost depth' v')
    (clear : w.store.Clear inside v) (clear' : w.store.Clear inside' v')
    (laid : w.layout depth inside v = l) (laid' : w.layout depth' inside' v' = l') :
    w.store.SameContents v v' := by
  induction alike generalizing v v' depth depth' inside inside' with
  | words text =>
    obtain ⟨plain, read⟩ := isLegible_of_layout legible low clear laid
    obtain ⟨_, read'⟩ := isLegible_of_layout legible' low' clear' laid'
    rw [← read.symm.trans read']
    obtain ⟨noItems, noEntries⟩ := Store.leaf_of_isLegible (σ := w.store) plain
    exact .leaf noItems noEntries
  | @opened address address' brackets parts parts' complete labels each inductionHypothesis =>
    cases brackets with
    | square =>
      obtain ⟨items, below, listed, inner, rfl⟩ := items_of_layout legible low clear laid
      obtain ⟨items', below', listed', inner', rfl⟩ := items_of_layout legible' low' clear' laid'
      refine .array listed listed' (by simpa using complete) ?_
      rintro ⟨item, item'⟩ pair
      obtain ⟨member, member'⟩ := List.of_mem_zip pair
      obtain ⟨readable, lower, outside⟩ := inner item member
      obtain ⟨readable', lower', outside'⟩ := inner' item' member'
      exact inductionHypothesis _ (mem_zip_map pair) readable readable' lower lower' outside
        outside' rfl rfl
    | curly =>
      obtain ⟨entries, below, held, inner, rfl⟩ := entries_of_layout legible low clear laid
      obtain ⟨entries', below', held', inner', rfl⟩ := entries_of_layout legible' low' clear' laid'
      refine .mapping held held' (by simpa using complete) ?_ ?_
      · intro pair member
        obtain ⟨first, second⟩ := List.of_mem_zip member
        exact eq_of_label_eq (inner pair.1 first).1 (inner' pair.2 second).1
          (labels _ (mem_zip_map member))
      · intro pair member
        obtain ⟨first, second⟩ := List.of_mem_zip member
        obtain ⟨_, readable, lower, outside⟩ := inner pair.1 first
        obtain ⟨_, readable', lower', outside'⟩ := inner' pair.2 second
        exact inductionHypothesis _ (mem_zip_map member) readable readable' lower lower' outside
          outside' rfl rfl

/-- Two legible values that are not too high and whose full renderings are not too long have the
same contents if they are rendered alike. -/
theorem sameContents_of_rendering_eq (w : World) (options : Options) (v v' : Value)
    (legible : w.store.Legible v) (legible' : w.store.Legible v')
    (low : w.store.HeightAtMost options.maxRenderDepth v)
    (low' : w.store.HeightAtMost options.maxRenderDepth v')
    (short : (w.layout options.maxRenderDepth [] v).text.length ≤ options.maxRenderLength)
    (short' : (w.layout options.maxRenderDepth [] v').text.length ≤ options.maxRenderLength)
    (same : w.rendering options v = w.rendering options v') : w.store.SameContents v v' := by
  have clear := Store.clear_nil (σ := w.store) v
  have clear' := Store.clear_nil (σ := w.store) v'
  have readable := legible_layout legible low clear
  have readable' := legible_layout legible' low' clear'
  rw [rendering_eq_within, rendering_eq_within, Layout.within_of_whole readable.whole short,
    Layout.within_of_whole readable'.whole short'] at same
  have alike := readable.alike_of_text_eq readable' (Except.ok.inj same)
  exact sameContents_of_alike alike legible legible' low low' clear clear' rfl rfl

/-- A number and a text under a key, once in a list and a dictionary, once in a tuple and an ordered
one. -/
def twofold : World :=
  ⟨⟨#[.list Catalogue.listClass [.int (-1), .object 1],
      .mapping Catalogue.dictClass [(.str "k", .str "a, [b]: c")],
      .tuple Catalogue.tupleClass [.int (-1), .object 3],
      .mapping Catalogue.orderedDictClass [(.str "k", .str "a, [b]: c")]]⟩,
    fun _ _ => .ok .null, fun _ _ => .ok none, .regular ⟨#[]⟩⟩

/-- A mapping of the text, and a list or tuple of it behind the number, are legible and not too
high. -/
theorem twofold_legible {array mapping : Value} (silent : twofold.store.isCallable array = false)
    (listed : twofold.store.arrayItems? array = some [.int (-1), mapping])
    (silent' : twofold.store.isCallable mapping = false)
    (held : twofold.store.entries? mapping = some [(.str "k", .str "a, [b]: c")]) :
    twofold.store.Legible array ∧ twofold.store.HeightAtMost 2 array := by
  have number : Value.IsLegible (.int (-1)) := .int (Text.lt_firstUnwritable_of_lt_ten (by decide))
  have text : Value.IsLegible (.str "a, [b]: c") := .text (by decide)
  have inner : twofold.store.Legible mapping := by
    refine .mapping silent' held ?_ ?_
    · intro entry member
      rw [List.mem_singleton.mp member]
      exact ⟨"k", rfl, by decide⟩
    · intro entry member
      rw [List.mem_singleton.mp member]
      exact .scalar text
  have low : twofold.store.HeightAtMost 1 mapping := by
    refine .mapping held ?_
    intro entry member
    rw [List.mem_singleton.mp member]
    exact .atom ⟨by simp [Store.kindOf, Value.str], by simp [Store.kindOf, Value.str]⟩
  constructor
  · apply Store.Legible.array silent listed
    intro item member
    simp only [List.mem_cons, List.not_mem_nil, or_false] at member
    rcases member with rfl | rfl
    · exact .scalar number
    · exact inner
  · apply Store.HeightAtMost.array listed
    intro item member
    simp only [List.mem_cons, List.not_mem_nil, or_false] at member
    rcases member with rfl | rfl
    · exact .atom ⟨by simp [Store.kindOf, Value.int], by simp [Store.kindOf, Value.int]⟩
    · exact low

/-- The two are rendered alike, and they have the same contents. -/
theorem twofold_sameContents :
    twofold.rendering {} (.object 0) = twofold.rendering {} (.object 2) ∧
      twofold.store.SameContents (.object 0) (.object 2) := by
  have same : twofold.rendering {} (.object 0) = twofold.rendering {} (.object 2) := by
    decide +kernel
  obtain ⟨legible, low⟩ :
      twofold.store.Legible (.object 0) ∧ twofold.store.HeightAtMost 2 (.object 0) :=
    twofold_legible rfl rfl rfl rfl
  obtain ⟨legible', low'⟩ :
      twofold.store.Legible (.object 2) ∧ twofold.store.HeightAtMost 2 (.object 2) :=
    twofold_legible rfl rfl rfl rfl
  exact ⟨same, sameContents_of_rendering_eq twofold {} (.object 0) (.object 2) legible legible'
    (low.mono (by decide)) (low'.mono (by decide)) (by decide +kernel) (by decide +kernel) same⟩

end World

end Conformance
