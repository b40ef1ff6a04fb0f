import Conformance.Proofs.DottedReads
import Conformance.Proofs.Relocation
import Conformance.Proofs.SamePlace

/-!
# A dotted field is a nested shape

A shape with one dotted field asks of a value what shapes nested inside one another ask, one for
each segment of the name. The one reads the segments in a single read and extends the path once; the
others read and extend segment by segment, and each first wants an object. So the nested shapes may
fail on the way where the dotted field reads on, but once they arrive both have come to the same
part at the same place, only at different depths, and what they find there is the same.
-/

namespace Conformance

namespace Store

/-- Shapes nested inside one another, each with one field, around an inner spec. The names are those
of the fields from the outside in. -/
inductive Nests (σ : Store) (inner : Value) : List String → Value → Prop
  | nil : Nests σ inner [] inner
  | cons {name : String} {names : List String} {fields spec sub : Value}
      (stands : σ.Stands spec (.shape fields))
      (held : σ.entries? fields = some [(.str name, sub)]) (below : Nests σ inner names sub) :
      Nests σ inner (name :: names) spec

theorem Native.inspectable {σ : Store} {spec : Value} (native : σ.Native spec) :
    σ.Inspectable spec := by
  refine ⟨?_, native.known⟩
  intro fields stands
  exact native.keyed.mapped stands fields rfl

end Store

namespace World

variable {w : World} {options : Options} {spec inner v context result : Value}

/-! ## Paths extended in turn -/

/-- Extends a context by names, one after the other. -/
def extendInTurn (w : World) (context : Value) (names : List String) : Except Fault Value :=
  names.foldlM (fun place name => w.call place [.str name]) context

theorem extendInTurn_cons (context : Value) (name : String) (names : List String) :
    w.extendInTurn context (name :: names) =
      w.call context [.str name] >>= fun place => w.extendInTurn place names := rfl

/-- What follows a segment with a dot follows the base that was lengthened by the segment. -/
theorem lengthened_append {base : Value} {first location : String}
    (further : w.lengthened base first = .ok location) (rest : String) :
    w.lengthened base (first ++ "." ++ rest) = .ok (location ++ "." ++ rest) := by
  rw [lengthened] at further ⊢
  split at further
  · next truthy =>
    obtain ⟨shown, said, same⟩ := bind_eq_ok_iff.mp further
    cases same
    rw [if_pos truthy, said]
    simp [bind, Except.bind, pure, Except.pure, String.append_assoc]
  · next falsy =>
    cases further
    rw [if_neg falsy]
    rfl

/-- A base that was lengthened by a segment is not empty. -/
theorem lengthened_ne_empty {base : Value} {segment location : String} (proper : segment ≠ "")
    (further : w.lengthened base segment = .ok location) : location ≠ "" := by
  rw [lengthened] at further
  split at further
  · obtain ⟨shown, _, same⟩ := bind_eq_ok_iff.mp further
    cases same
    simp
  · cases further
    exact proper

/-- Extending a path by names in turn lengthens its base by the joined names. The induction is over
the names; after the first of them the base is a text. -/
theorem extendInTurn_path {names : List String} {base depth place : Value} {mark : Nat}
    (given : names ≠ []) (proper : ∀ name ∈ names, name ≠ "")
    (extended : w.extendInTurn (.path base depth mark) names = .ok place) :
    ∃ location deep, w.lengthened base (".".intercalate names) = .ok location ∧
      place = .path (.str location) deep 0 := by
  induction names generalizing base depth mark with
  | nil => exact absurd rfl given
  | cons name rest inductionHypothesis =>
    rw [extendInTurn_cons, bind_eq_ok_iff] at extended
    obtain ⟨next, called, extended⟩ := extended
    obtain ⟨text, location, deep, written, further, rfl⟩ :=
      call_path_ok (by simp [Value.str]) called
    cases written
    cases rest with
    | nil =>
      cases extended
      exact ⟨location, deep, by simpa using further, rfl⟩
    | cons second others =>
      have later : ∀ other ∈ second :: others, other ≠ "" := by
        intro other member
        exact proper other (by simp [List.mem_cons.mp member])
      obtain ⟨end_, last, ended, rfl⟩ := inductionHypothesis (by simp) later extended
      have started := lengthened_ne_empty (proper name (by simp)) further
      rw [lengthened_str started] at ended
      cases ended
      refine ⟨_, last, ?_, rfl⟩
      rw [String.intercalate_cons_cons]
      exact lengthened_append further _

/-! ## Descending through nested shapes -/

/-- The validator of a spec, run through some number of levels, ends quietly with a result. -/
def Finds (w : World) (options : Options) (spec v context result : Value) : Prop :=
  ∃ validator levels, w.resolve spec = .ok validator ∧
    (w.judge options levels validator v context).EndsQuietly result

/-- A run of a spec that stands for a rule is one at a context that counts as true. -/
theorem finds_of_runSpec {rule : Rule} (stands : w.store.Stands spec rule)
    (ended : (w.runSpec options spec v context).EndsQuietly result) :
    w.Finds options spec v (w.contextOrRoot context) result := by
  have resolved := resolve_of_stands stands
  rw [runSpec, resolved, Run.lift_ok, pure_bind, run_contextOrRoot] at ended
  exact ⟨.rule rule, _, resolved, ended⟩

/-- A shape with one field that wants no more of a value than its field finds what the field
does. -/
theorem Finds.field {fields sub base depth : Value} {name : String} {mark : Nat}
    (stands : w.store.Stands spec (.shape fields))
    (held : w.store.entries? fields = some [(.str name, sub)])
    (finds : w.Finds options spec v (.path base depth mark) result)
    (entered : w.store.isTrue result = false ∨ w.store.kindOf v = .object) :
    ∃ part place found, w.get v (.str name) = .ok part ∧
      w.call (.path base depth mark) [.str name] = .ok place ∧
      w.Finds options sub part place found ∧
      (result = found ∨ w.store.isTrue found = false ∧ result = .null) := by
  obtain ⟨validator, levels, resolved, ended⟩ := finds
  cases (resolve_of_stands stands).symm.trans resolved
  cases levels with
  | zero => cases ended.1
  | succ levels =>
    have root : w.contextOrRoot (.path base depth mark) = .path base depth mark := rfl
    simp only [judge, judgeWith, root, judgeShape, declaredFields_of_entries? held, Run.lift_ok,
      pure_bind] at ended
    split at ended
    · next null =>
      cases Run.endsQuietly_pure_iff.mp ended
      rcases entered with falsy | object
      · cases falsy
      · rw [null] at object
        cases object
    split at ended
    · next other =>
      cases Run.endsQuietly_pure_iff.mp ended
      rcases entered with falsy | object
      · cases falsy
      · exact absurd object other
    rw [Run.endsQuietly_bind_iff] at ended
    obtain ⟨verdict, guarded, ended⟩ := ended
    rw [eq_none_of_guardDepth guarded] at ended
    simp only [List.map_cons, List.map_nil, Run.firstTrue_cons, judgeField, Run.lift_ok, pure_bind,
      Run.endsQuietly_bind_iff, Run.endsQuietly_lift_iff] at ended
    obtain ⟨found, ⟨validator, below, part, read, place, extended, judged⟩, ended⟩ := ended
    refine ⟨part, place, found, read, extended, ⟨validator, levels, below, judged⟩, ?_⟩
    split at ended
    · exact .inl (Run.endsQuietly_pure_iff.mp ended)
    · next falsy =>
      have falsy : w.store.isTrue found = false := by simpa using falsy
      exact .inr ⟨falsy, (Except.ok.inj ended.1).symm⟩

/-- Nested shapes that pass, or that meet objects all the way, find what the inner spec finds at the
part and the place that the names lead to. -/
theorem exists_finds_of_nests {names : List String} {base depth : Value} {mark : Nat}
    (nests : w.store.Nests inner names spec)
    (finds : w.Finds options spec v (.path base depth mark) result)
    (entered : w.store.isTrue result = false ∨ ∀ i < names.length, ∀ part,
      w.readInTurn v (names.take i) = .ok part → w.store.kindOf part = .object) :
    ∃ part place found, w.readInTurn v names = .ok part ∧
      w.extendInTurn (.path base depth mark) names = .ok place ∧
      w.Finds options inner part place found ∧
      (result = found ∨ w.store.isTrue found = false ∧ result = .null) := by
  induction nests generalizing v base depth mark result with
  | nil => exact ⟨v, _, result, rfl, rfl, finds, .inl rfl⟩
  | @cons name names fields spec sub stands held below inductionHypothesis =>
    have here : w.store.isTrue result = false ∨ w.store.kindOf v = .object := by
      refine entered.imp_right ?_
      intro objects
      exact objects 0 (by simp) v rfl
    obtain ⟨part, place, found, read, extended, further, decided⟩ := finds.field stands held here
    have there : w.store.isTrue found = false ∨ ∀ i < names.length, ∀ last,
        w.readInTurn part (names.take i) = .ok last → w.store.kindOf last = .object := by
      rcases entered with falsy | objects
      · left
        rcases decided with rfl | ⟨passed, _⟩
        · exact falsy
        · exact passed
      · right
        intro i inside last reads
        refine objects (i + 1) (by simpa using inside) last ?_
        rw [List.take_succ_cons, readInTurn_cons, read]
        exact reads
    obtain ⟨text, location, deep, _, _, rfl⟩ := call_path_ok (by simp [Value.str]) extended
    obtain ⟨last, arrived, final, reads, extends_, finds, settled⟩ :=
      inductionHypothesis further there
    refine ⟨last, arrived, final, ?_, ?_, finds, ?_⟩
    · rw [readInTurn_cons, read]
      exact reads
    · rw [extendInTurn_cons, extended]
      exact extends_
    · rcases decided with rfl | ⟨passed, null⟩
      · exact settled
      · refine .inr ⟨?_, null⟩
        rcases settled with rfl | ⟨falsy, _⟩
        · exact passed
        · exact falsy

/-! ## The two forms -/

section Forms

variable {names : List String} {dotted nested base depth result' : Value} {mark : Nat}

/-- Extending a path by joined names and by the names in turn leads to the same place. -/
theorem samePlace_of_extendInTurn {place place' : Value} (given : names ≠ [])
    (proper : ∀ name ∈ names, name ≠ "")
    (extended : w.extendInTurn (.path base depth mark) [".".intercalate names] = .ok place)
    (extended' : w.extendInTurn (.path base depth mark) names = .ok place') :
    SamePlace place' place := by
  obtain ⟨location', deep', further', rfl⟩ := extendInTurn_path given proper extended'
  rw [extendInTurn_cons, bind_eq_ok_iff] at extended
  obtain ⟨arrived, called, last⟩ := extended
  cases last
  obtain ⟨text, location, deep, written, further, rfl⟩ := call_path_ok (by simp [Value.str]) called
  cases written
  cases further'.symm.trans further
  exact .paths _ deep' deep 0 0

/-- What is settled by findings that are the same is the same. -/
theorem SameFinding.settled {found found' : Value} (same : SameFinding found' found)
    (decided : result = found ∨ w.store.isTrue found = false ∧ result = .null)
    (decided' : result' = found' ∨ w.store.isTrue found' = false ∧ result' = .null) :
    SameFinding result' result := by
  cases same with
  | pass =>
    have null : result = .null := decided.elim id And.right
    have null' : result' = .null := decided'.elim id And.right
    rw [null, null']
    exact .pass
  | fail message placed =>
    rcases decided with rfl | ⟨falsy, _⟩
    · rcases decided' with rfl | ⟨falsy, _⟩
      · exact .fail message placed
      · cases falsy
    · cases falsy

/-- A dotted field on an object finds the same as the nested shapes, should these pass or meet
objects all the way: the spec at the end is run on one part and at one place. -/
theorem sameFinding_of_nests (given : names ≠ []) (proper : ∀ name ∈ names, name ≠ "")
    (throughout : w.store.Throughout w.store.Inspectable inner)
    (whole : w.store.Nests inner [".".intercalate names] dotted)
    (nests : w.store.Nests inner names nested) (object : w.store.kindOf v = .object)
    (turns : ∀ part part', w.get v (.str (".".intercalate names)) = .ok part →
      w.readInTurn v names = .ok part' → part' = part)
    (finds : w.Finds options dotted v (.path base depth mark) result)
    (finds' : w.Finds options nested v (.path base depth mark) result')
    (entered : w.store.isTrue result' = false ∨ ∀ i < names.length, ∀ part,
      w.readInTurn v (names.take i) = .ok part → w.store.kindOf part = .object) :
    SameFinding result' result := by
  have objects : ∀ i < [".".intercalate names].length, ∀ part,
      w.readInTurn v ([".".intercalate names].take i) = .ok part →
        w.store.kindOf part = .object := by
    intro i inside part read
    have zero : i = 0 := by simpa using inside
    subst zero
    cases read
    exact object
  obtain ⟨part, place, found, read, extended, ⟨validator, levels, resolved, quiet⟩, decided⟩ :=
    exists_finds_of_nests whole finds (.inr objects)
  obtain ⟨part', place', found', read', extended', ⟨validator', levels', resolved', quiet'⟩,
    decided'⟩ := exists_finds_of_nests nests finds' entered
  rw [readInTurn_singleton] at read
  cases turns part part' read read'
  cases resolved.symm.trans resolved'
  have placed := samePlace_of_extendInTurn given proper extended extended'
  have same := judge_concurs throughout resolved placed found' found quiet' quiet
  exact same.settled decided decided'

/-- Let a shape have one field, whose key is some names joined with dots, and let nested shapes have
one field for each name, both around the same spec. On an object that holds none of the joined
names, both runs may end quietly. Then the dotted field passes if the nested shapes do, and if
everything on the way is an object, then both pass or both fail with the same message at the same
place. The two read off the value in different ways, the one asking for an entry and the other for
whatever is under a key, so a mapping of a custom class has to answer both with the same value, or
refuse.

Proof: both come to the same part, since reads compose, and to the same place, since a base can be
lengthened by the names in one go. The spec is then run twice at paths that differ in their
depths. -/
theorem dotted_field_nested (coherent : w.customs.Coherent) (given : names ≠ [])
    (proper : ∀ name ∈ names, Text.IsSegment name.toList)
    (throughout : w.store.Throughout w.store.Inspectable inner)
    (whole : w.store.Nests inner [".".intercalate names] dotted)
    (nests : w.store.Nests inner names nested)
    (located : w.contextOrRoot context = .path base depth mark)
    (object : w.store.kindOf v = .object)
    (unheld : ∀ i, 2 ≤ i → i ≤ names.length →
      w.verbatim? v (".".intercalate (names.take i)) = none)
    (ended : (w.runSpec options dotted v context).EndsQuietly result)
    (ended' : (w.runSpec options nested v context).EndsQuietly result') :
    (result' = .null → result = .null) ∧
      ((∀ i, 0 < i → i < names.length → ∃ part,
          w.get v (.str (".".intercalate (names.take i))) = .ok part ∧
            w.store.kindOf part = .object) →
        SameFinding result' result) := by
  have dotless : ∀ name ∈ names, '.' ∉ name.toList := fun name member => (proper name member).2
  have named : ∀ name ∈ names, name ≠ "" := by
    rintro name member rfl
    exact (proper "" member).1 rfl
  have finds : w.Finds options dotted v (.path base depth mark) result := by
    rw [← located]
    cases whole with
    | cons stands => exact finds_of_runSpec stands ended
  have finds' : w.Finds options nested v (.path base depth mark) result' := by
    rw [← located]
    cases nests with
    | nil => exact absurd rfl given
    | cons stands => exact finds_of_runSpec stands ended'
  have turns (i : Nat) (positive : 0 < i) (inside : i ≤ names.length) (part part' : Value) :
      w.get v (.str (".".intercalate (names.take i))) = .ok part →
        w.readInTurn v (names.take i) = .ok part' → part' = part := by
    have length : (names.take i).length = i := by
      rw [List.length_take]
      omega
    apply eq_of_get_of_readInTurn coherent
    · intro name member
      exact dotless name (List.mem_of_mem_take member)
    · apply List.ne_nil_of_length_pos
      omega
    · intro several
      exact unheld i (by omega) inside
  have wholly := turns names.length (List.length_pos_iff.mpr given) (le_refl _)
  rw [List.take_length] at wholly
  have same := sameFinding_of_nests given named throughout whole nests object wholly finds finds'
  constructor
  · rintro rfl
    exact (same (.inl rfl)).eq_null (w := w) rfl
  · intro objects
    apply same
    right
    intro i inside part read
    by_cases zero : i = 0
    · subst zero
      cases read
      exact object
    · obtain ⟨front, joined, kind⟩ := objects i (by omega) inside
      rw [turns i (by omega) (by omega) front part joined read]
      exact kind

end Forms

/-- A dotted field and nested shapes that want a text, and a value with a number in its place. -/
def ordered : World :=
  ⟨⟨#[.mapping (.standard "dict" ["Mapping"]) [(.str "user.tags.1", .str "string")],
      .mapping (.standard "dict" ["Mapping"]) [(.str "user", .object 2)],
      .mapping (.standard "dict" ["Mapping"]) [(.str "tags", .object 3)],
      .mapping (.standard "dict" ["Mapping"]) [(.str "1", .str "string")],
      .mapping (.standard "dict" ["Mapping"]) [(.str "user", .object 5)],
      .mapping (.standard "dict" ["Mapping"]) [(.str "tags", .object 6)],
      .list (.standard "list" ["Sequence"]) [.str "new", .int 7]]⟩,
    fun _ _ => .ok .null, fun _ _ => .ok none, .regular ⟨#[]⟩⟩

theorem ordered_nests :
    ordered.store.Nests (.str "string") [".".intercalate ["user", "tags", "1"]] (.object 0) ∧
      ordered.store.Nests (.str "string") ["user", "tags", "1"] (.object 1) :=
  ⟨.cons (.mapping rfl rfl) rfl .nil,
    .cons (.mapping rfl rfl) rfl (.cons (.mapping rfl rfl) rfl (.cons (.mapping rfl rfl) rfl .nil))⟩

/-- Both forms find the number, at the same path: the one a single step below the root, the other
three. -/
theorem dotted_field_nested_ordered :
    ordered.customs.Coherent ∧
      (ordered.runSpec {} (.object 0) (.object 4) (.rootPath (.str ""))).EndsQuietly
        (ownFailure "Expected type string but received number"
          (.path (.str "user.tags.1") (.int 1) 0)) ∧
      (ordered.runSpec {} (.object 1) (.object 4) (.rootPath (.str ""))).EndsQuietly
        (ownFailure "Expected type string but received number"
          (.path (.str "user.tags.1") (.int 3) 0)) ∧
      SameFinding
        (ownFailure "Expected type string but received number"
          (.path (.str "user.tags.1") (.int 3) 0))
        (ownFailure "Expected type string but received number"
          (.path (.str "user.tags.1") (.int 1) 0)) := by
  have ended : (ordered.runSpec {} (.object 0) (.object 4) (.rootPath (.str ""))).EndsQuietly
      (ownFailure "Expected type string but received number"
        (.path (.str "user.tags.1") (.int 1) 0)) := by
    constructor <;> decide +kernel
  have ended' : (ordered.runSpec {} (.object 1) (.object 4) (.rootPath (.str ""))).EndsQuietly
      (ownFailure "Expected type string but received number"
        (.path (.str "user.tags.1") (.int 3) 0)) := by
    constructor <;> decide +kernel
  have proper : ∀ name ∈ ["user", "tags", "1"], Text.IsSegment name.toList := by
    unfold Text.IsSegment
    decide
  have throughout : ordered.store.Throughout ordered.store.Inspectable (.str "string") := by
    have enclosed : ∀ spec ∈ [Value.str "string"],
        ordered.encloses [.str "string"] spec = true := by decide
    have contained : ordered.store.SelfContained (.str "string") :=
      selfContained_of_encloses enclosed (by simp)
    intro inner reached
    exact (contained inner reached).inspectable
  have unheld : ∀ i, 2 ≤ i → i ≤ ["user", "tags", "1"].length →
      ordered.verbatim? (.object 4) (".".intercalate (["user", "tags", "1"].take i)) = none := by
    intro i several inside
    have two : i = 2 ∨ i = 3 := by
      simp only [List.length_cons, List.length_nil] at inside
      omega
    rcases two with rfl | rfl <;> decide +kernel
  have objects : ∀ i, 0 < i → i < ["user", "tags", "1"].length → ∃ part,
      ordered.get (.object 4) (.str (".".intercalate (["user", "tags", "1"].take i))) = .ok part ∧
        ordered.store.kindOf part = .object := by
    intro i positive inside
    have one : i = 1 ∨ i = 2 := by
      simp only [List.length_cons, List.length_nil] at inside
      omega
    rcases one with rfl | rfl
    · exact ⟨.object 5, by decide +kernel, by decide⟩
    · exact ⟨.object 6, by decide +kernel, by decide⟩
  have coherent : ordered.customs.Coherent := (Customs.regular_lawful _).coherent
  exact ⟨coherent, ended, ended', (dotted_field_nested coherent (by simp) proper throughout
    ordered_nests.1 ordered_nests.2 rfl (by decide) unheld ended ended').2 objects⟩

end World

end Conformance
