import Mathlib.Data.List.Find
import Conformance.Catalogue.Functions
import Conformance.Proofs.Counterparts
import Conformance.Proofs.Location

/-!
# Undeclared data is never looked at

A shape reads a mapping under the keys it declares and under no others. So entries under other keys
can be left out, wherever a spec reaches a mapping through fields and items, and the check is the
same check: it ends with the same words at the same place and logs the same events. A value that
some other spec is matched against stays as it is, since it may be compared or shown as a whole.

Declared keys are without dots. One with a dot may be read through an entry that is not declared
itself. And the mappings that lose entries are read by their entries, as all are but those of custom
classes.
-/

namespace Conformance

namespace Store

/-- The entries whose keys are kept. -/
def kept (keep : Value → Bool) (entries : List (Value × Value)) : List (Value × Value) :=
  entries.filter fun entry => keep entry.1

/-- The second value is the first without some of what a spec does not declare: mappings that the
spec matches against a shape may have lost entries under undeclared keys. What is left under such
keys plays no role either and may be anything. -/
inductive Trimmed (σ : Store) : Value → Value → Value → Prop
  | untouched (spec v : Value) : Trimmed σ spec v v
  | shape {spec fields v v' : Value} {declared entries entries' : List (Value × Value)}
      {keep : Value → Bool} (stands : σ.Stands spec (.shape fields))
      (held : σ.entries? fields = some declared)
      (dotless : ∀ field ∈ declared, ∃ key, field.1 = .str key ∧ '.' ∉ key.toList)
      (source : σ.table? v = some entries) (target : σ.table? v' = some entries')
      (sameClass : σ.classOf v = σ.classOf v')
      (needed : ∀ entry ∈ entries, ∀ field ∈ declared,
        σ.keyMatches field.1 entry.1 = true → keep entry.1 = true)
      (complete : (kept keep entries).length = entries'.length)
      (keys : ∀ pair ∈ (kept keep entries).zip entries', pair.2.1 = pair.1.1)
      (each : ∀ pair ∈ (kept keep entries).zip entries', ∀ field ∈ declared,
        σ.keyMatches field.1 pair.1.1 = true → Trimmed σ field.2 pair.1.2 pair.2.2) :
      Trimmed σ spec v v'
  | array {spec element v v' : Value} {items items' : List Value}
      (stands : σ.Stands spec (.array element)) (source : σ.arrayItems? v = some items)
      (target : σ.arrayItems? v' = some items') (complete : items.length = items'.length)
      (each : ∀ pair ∈ items.zip items', Trimmed σ element pair.1 pair.2) : Trimmed σ spec v v'

variable {σ : Store} {v v' : Value} {entries entries' : List (Value × Value)}

/-- Keeping the entries of a key keeps what is found by it. -/
theorem find?_kept {keep matching : Value → Bool}
    (left : ∀ entry ∈ entries, matching entry.1 = true → keep entry.1 = true) :
    ((kept keep entries).find? fun entry => matching entry.1) =
      entries.find? fun entry => matching entry.1 := by
  rw [kept, List.find?_filter]
  refine List.find?_congr fun entry member => ?_
  cases found : matching entry.1 with
  | true => simp [left entry member found]
  | false => simp

/-- Mappings of one class are of one kind. -/
theorem kindOf_eq_of_table? (source : σ.table? v = some entries)
    (target : σ.table? v' = some entries') (sameClass : σ.classOf v = σ.classOf v') :
    σ.kindOf v = σ.kindOf v' := by
  obtain ⟨address, cls, rfl, found, _⟩ := table?_eq_some_iff.mp source
  obtain ⟨address', cls', rfl, found', _⟩ := table?_eq_some_iff.mp target
  simp only [classOf, found, found', Option.map_some, Option.getD_some] at sameClass
  simp [kindOf, isCallable, found, found', sameClass]

theorem displayKind_eq_of_table? (source : σ.table? v = some entries)
    (target : σ.table? v' = some entries') (sameClass : σ.classOf v = σ.classOf v') :
    σ.displayKind v = σ.displayKind v' := by
  have kind := kindOf_eq_of_table? source target sameClass
  obtain ⟨address, cls, rfl, found, _⟩ := table?_eq_some_iff.mp source
  obtain ⟨address', cls', rfl, found', _⟩ := table?_eq_some_iff.mp target
  simp [displayKind, arrayItems?, found, found', kind]

end Store

namespace World

variable {w : World} {options : Options} {spec v v' : Value}
  {entries entries' declared : List (Value × Value)}

/-- A mapping is read under a key without dots as the entry of that key. -/
theorem get_of_dotless {key : String} (held : w.store.table? v = some entries)
    (dotless : '.' ∉ key.toList) :
    w.get v (.str key) = .ok (((entries.find? fun entry =>
      w.store.keyMatches (.str key) entry.1).map (·.2)).getD .null) := by
  have present : v ≠ .null := by
    rintro rfl
    cases held
  have regular : w.store.isCustomMapping v = true → w.customs.Lawful := by
    intro mapping
    cases (Store.isCustomMapping_of_table? held).symm.trans mapping
  rw [get_eq_readSegments regular fun _ _ => dotless, Text.segments_eq_singleton dotless,
    readSegments, if_neg present, readSegment_of_table? held, String.ofList_toList]
  rfl

/-- Mappings are read alike under a key without dots if its entry is kept and what the entry holds
on either side corresponds. -/
theorem get_parallel_of_kept {R : Value → Value → Prop} {keep : Value → Bool} {key : String}
    (source : w.store.table? v = some entries) (target : w.store.table? v' = some entries')
    (dotless : '.' ∉ key.toList) (null : R .null .null)
    (needed : ∀ entry ∈ entries, w.store.keyMatches (.str key) entry.1 = true →
      keep entry.1 = true)
    (rest : List.Forall₂ (fun entry entry' => entry'.1 = entry.1 ∧
      (w.store.keyMatches (.str key) entry.1 = true → R entry.2 entry'.2))
      (Store.kept keep entries) entries') :
    Parallel R (w.get v (.str key)) (w.get v' (.str key)) := by
  have found := rel_find?_of_forall₂ rest
  rw [Store.find?_kept needed] at found
  rw [get_of_dotless source dotless, get_of_dotless target dotless]
  generalize (entries.find? _).map _ = part, (entries'.find? _).map _ = part' at found
  cases found with
  | none => exact .value null
  | some related => exact .value related

/-- Two values on which what a spec resolves to is run alike. -/
def JudgedAlike (w : World) (options : Options) (spec v v' : Value) : Prop :=
  ∀ levels validator context, w.resolve spec = .ok validator →
    w.judge options levels validator v context = w.judge options levels validator v' context

theorem JudgedAlike.refl (w : World) (options : Options) (spec v : Value) :
    w.JudgedAlike options spec v v := fun _ _ _ _ => rfl

/-- Mappings are checked alike by a shape if their entries under its keys are. -/
theorem judgedAlike_of_shape {fields : Value} {keep : Value → Bool}
    (stands : w.store.Stands spec (.shape fields)) (held : w.store.entries? fields = some declared)
    (dotless : ∀ field ∈ declared, ∃ key, field.1 = .str key ∧ '.' ∉ key.toList)
    (source : w.store.table? v = some entries) (target : w.store.table? v' = some entries')
    (sameClass : w.store.classOf v = w.store.classOf v')
    (needed : ∀ entry ∈ entries, ∀ field ∈ declared,
      w.store.keyMatches field.1 entry.1 = true → keep entry.1 = true)
    (rest : List.Forall₂ (fun entry entry' => entry'.1 = entry.1 ∧ ∀ field ∈ declared,
      w.store.keyMatches field.1 entry.1 = true → w.JudgedAlike options field.2 entry.2 entry'.2)
      (Store.kept keep entries) entries') : w.JudgedAlike options spec v v' := by
  intro levels validator context resolved
  cases (resolve_of_stands stands).symm.trans resolved
  cases levels with
  | zero => rfl
  | succ levels =>
    have null : v = .null ↔ v' = .null := by
      obtain ⟨_, _, rfl, _⟩ := Store.table?_eq_some_iff.mp source
      obtain ⟨_, _, rfl, _⟩ := Store.table?_eq_some_iff.mp target
      simp
    refine judgeShape_congr held null (Store.kindOf_eq_of_table? source target sameClass)
      (Store.displayKind_eq_of_table? source target sameClass) ?_
    rintro ⟨_, sub⟩ member
    obtain ⟨key, rfl, dotless⟩ := dotless _ member
    have reads : Parallel (w.JudgedAlike options sub) (w.get v (.str key))
        (w.get v' (.str key)) := by
      refine get_parallel_of_kept source target dotless (.refl w options sub .null)
        (fun entry inside => needed entry inside _ member) (rest.imp ?_)
      rintro entry entry' ⟨same, each⟩
      exact ⟨same, each _ member⟩
    exact judgeField_congr reads fun _ _ _ _ resolved alike => alike _ _ _ resolved

/-- Lists are checked alike by an array if their items are. -/
theorem judgedAlike_of_array {element : Value} {items items' : List Value}
    (stands : w.store.Stands spec (.array element))
    (source : w.store.arrayItems? v = some items) (target : w.store.arrayItems? v' = some items')
    (each : List.Forall₂ (w.JudgedAlike options element) items items') :
    w.JudgedAlike options spec v v' := by
  intro levels validator context resolved
  cases (resolve_of_stands stands).symm.trans resolved
  cases levels with
  | zero => rfl
  | succ levels =>
    exact judgeArray_congr source target each fun _ _ _ _ resolved alike => alike _ _ _ resolved

/-- What a spec does not declare plays no role at any number of levels. The induction follows the
spec and the two values together, from the innermost parts outwards. -/
theorem judgedAlike_of_trimmed (trimmed : w.store.Trimmed spec v v') :
    w.JudgedAlike options spec v v' := by
  induction trimmed with
  | untouched => exact .refl w options _ _
  | shape stands held dotless source target sameClass needed complete keys _
      inductionHypothesis =>
    exact judgedAlike_of_shape stands held dotless source target sameClass needed
      (List.forall₂_iff_zip.mpr ⟨complete, fun pair =>
        ⟨keys _ pair, inductionHypothesis _ pair⟩⟩)
  | array stands source target complete _ inductionHypothesis =>
    exact judgedAlike_of_array stands source target
      (List.forall₂_iff_zip.mpr ⟨complete, fun pair => inductionHypothesis _ pair⟩)

/-- A check of a value without some of what the spec does not declare is the same check: it has the
same outcome, with the same words at the same place, and logs the same events. -/
theorem check_eq_of_trimmed (w : World) (options : Options) (v v' spec root : Value)
    (trimmed : w.store.Trimmed spec v v') :
    w.check options v' spec root = w.check options v spec root := by
  refine Run.bind_congr fun validator resolved => ?_
  rw [run, run, judgedAlike_of_trimmed trimmed _ validator _ resolved]

end World

/-! ## In the catalogue -/

namespace Catalogue

open World

/-- A mapping with a mapping in a list two keys deep, once with entries that the spec does not
declare and once without them, and the spec. -/
def overfull : World :=
  world ⟨#[
    .mapping dictClass [(.str "user", .object 1), (.str "debug", .bool true)],
    .mapping dictClass [(.str "age", .int 36), (.str "tags", .object 2)],
    .list listClass [.object 3],
    .mapping dictClass [(.str "note", .str "x"), (.str "id", .str "7")],
    .mapping dictClass [(.str "user", .object 5)],
    .mapping dictClass [(.str "tags", .object 6)],
    .list listClass [.object 7],
    .mapping dictClass [(.str "id", .str "7")],
    .mapping dictClass [(.str "user", .object 9)],
    .mapping dictClass [(.str "tags", .object 10)],
    .list listClass [.object 11],
    .mapping dictClass [(.str "id", .str "number")]]⟩ {}

/-- The keys that the spec declares. -/
def isDeclared : Value → Bool := [Value.str "user", .str "tags", .str "id"].contains

/-- A mapping without all but its entry under the only declared key. -/
theorem overfull_shape {spec v v' sub part part' : Value} {key : String}
    {entries : List (Value × Value)} (silent : overfull.store.isCallable spec = false)
    (held : overfull.store.entries? spec = some [(.str key, sub)]) (dotless : '.' ∉ key.toList)
    (source : overfull.store.table? v = some entries)
    (target : overfull.store.table? v' = some [(.str key, part')])
    (sameClass : overfull.store.classOf v = overfull.store.classOf v')
    (needed : ∀ entry ∈ entries,
      overfull.store.keyMatches (.str key) entry.1 = true → isDeclared entry.1 = true)
    (left : Store.kept isDeclared entries = [(.str key, part)])
    (inner : overfull.store.Trimmed sub part part') : overfull.store.Trimmed spec v v' := by
  refine .shape (.mapping silent held) held ?_ source target sameClass ?_ (by rw [left]; rfl) ?_ ?_
  · intro field member
    rw [List.mem_singleton] at member
    exact ⟨key, by rw [member], dotless⟩
  · simpa using needed
  · simp [left]
  · simp [left, inner]

theorem overfull_trimmed : overfull.store.Trimmed (.object 8) (.object 0) (.object 4) := by
  have item : overfull.store.Trimmed (.object 11) (.object 3) (.object 7) :=
    overfull_shape rfl rfl (by decide) rfl rfl rfl (by decide +kernel) rfl (.untouched _ _)
  have tags : overfull.store.Trimmed (.object 10) (.object 2) (.object 6) :=
    .array (.single rfl rfl) rfl rfl rfl (by simpa using item)
  have user : overfull.store.Trimmed (.object 9) (.object 1) (.object 5) :=
    overfull_shape rfl rfl (by decide) rfl rfl rfl (by decide +kernel) rfl tags
  exact overfull_shape rfl rfl (by decide) rfl rfl rfl (by decide +kernel) rfl user

/-- Three mappings deep, an identifier is no number, with undeclared entries around it or without
them. -/
theorem overfull_check_eq :
    overfull.store.Trimmed (.object 8) (.object 0) (.object 4) ∧
      overfull.check {} (.object 0) (.object 8) (.str "") = ⟨
        [.rejected (.str "user.tags.0.id") (.str "Expected type number but received string")],
        .ok (ownFailure "Expected type number but received string"
          (.path (.str "user.tags.0.id") (.int 4) 0))⟩ ∧
      overfull.check {} (.object 4) (.object 8) (.str "") =
        overfull.check {} (.object 0) (.object 8) (.str "") := by
  have trimmed := overfull_trimmed
  exact ⟨trimmed, Run.ext (by decide +kernel) (by decide +kernel),
    check_eq_of_trimmed overfull {} (.object 0) (.object 4) (.object 8) (.str "") trimmed⟩

end Catalogue

end Conformance
