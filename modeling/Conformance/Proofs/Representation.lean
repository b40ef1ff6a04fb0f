import Conformance.Catalogue.Functions
import Conformance.Proofs.Counterparts
import Conformance.Proofs.SameTree

/-!
# Containers do not matter

A check cannot tell the same tree in other containers, unless it is asked to. A rule for instances
of a class asks for it, and so does a comparison with a container, which is by identity. A key asks
for it if one of its segments names a field of lists or tuples, because a segment that is no place
is read off them as a field. A spec without these ends in the same way on both trees, with the same
words, and logs the same events.

A property of both trees may also be read off a leaf. Then it is the same value on both sides, but
need not be a tree, since fields can give anything.
-/

namespace Conformance

/-! ## Reading properties -/

/-- The entry with a matching key holds the same tree in the same mapping. -/
theorem Store.SameTree.rel_find? {σ : Store} {entries entries' : List (Value × Value)}
    (complete : entries.length = entries'.length)
    (keys : ∀ pair ∈ entries.zip entries', pair.2.1 = pair.1.1)
    (each : ∀ pair ∈ entries.zip entries', σ.SameTree pair.1.2 pair.2.2)
    (matching : Value → Bool) :
    Option.Rel σ.SameTree ((entries.find? fun entry => matching entry.1).map (·.2))
      ((entries'.find? fun entry => matching entry.1).map (·.2)) := by
  refine rel_find?_of_forall₂ ((forall₂_entries complete keys each).imp ?_)
  rintro entry entry' ⟨key, same⟩
  exact ⟨key, fun _ => same⟩

/-- Items at the same place of corresponding lists correspond. -/
theorem rel_getElem?_of_forall₂ {R : Value → Value → Prop} {items items' : List Value}
    (each : List.Forall₂ R items items') (place : Nat) :
    Option.Rel R items[place]? items'[place]? := by
  induction each generalizing place with
  | nil => exact .none
  | cons first _ inductionHypothesis =>
    cases place with
    | zero => exact .some first
    | succ place => exact inductionHypothesis place

namespace World

variable {w : World} {options : Options} {v v' : Value} {address : Nat} {items : List Value}
  {entries : List (Value × Value)} {segment : String}

/-- A name that is no field of plain lists and tuples. -/
def MissingInArrays (w : World) (name : String) : Prop :=
  ∀ address items, w.store.PlainArray address items →
    w.readField (.object address) name = .ok none

/-- Two values that are the same, or the same tree. -/
abbrev SameOrTree (w : World) : Value → Value → Prop := Relation.ReflGen w.store.SameTree

theorem sameOrTree_getD {found found' : Option Value}
    (related : Option.Rel w.store.SameTree found found') :
    w.SameOrTree (found.getD .null) (found'.getD .null) := by
  cases related with
  | none => exact .refl
  | some same => exact .single same

/-- A segment that is no field of a plain array is read as a place. -/
theorem readSegment_array (plain : w.store.PlainArray address items)
    (missing : w.MissingInArrays segment) :
    w.readSegment (.object address) segment = .ok (
      ((Text.readInt? segment.toList).bind (placeOf? items.length)).bind (items[·]?) |>.getD
        .null) := by
  rw [readSegment_of_arrayItems? plain.arrayItems?]
  cases Text.readInt? segment.toList with
  | none => simp [fieldOrNull, missing address items plain]
  | some n => rfl

/-- One segment gives the same value or the same tree on both sides. -/
theorem readSegment_parallel (same : w.store.SameTree v v') (missing : w.MissingInArrays segment) :
    Parallel w.SameOrTree (w.readSegment v segment) (w.readSegment v' segment) := by
  cases same with
  | leaf => exact .refl (fun _ => .refl) _
  | array plain plain' complete each =>
    have items := Store.SameTree.forall₂_items complete each
    rw [readSegment_array plain missing, readSegment_array plain' missing, complete]
    refine .value (sameOrTree_getD ?_)
    cases (Text.readInt? segment.toList).bind (placeOf? _) with
    | none => exact .none
    | some place => exact rel_getElem?_of_forall₂ items place
  | mapping plain plain' complete keys each =>
    rw [readSegment_of_table? plain.table?, readSegment_of_table? plain'.table?]
    exact .value (sameOrTree_getD (Store.SameTree.rel_find? complete keys each _))

/-- And so do segments one after the other. -/
theorem readSegments_parallel {segments : List (List Char)} (related : w.SameOrTree v v')
    (missing : ∀ segment ∈ segments, w.MissingInArrays (String.ofList segment)) :
    Parallel w.SameOrTree (w.readSegments v segments) (w.readSegments v' segments) := by
  induction segments generalizing v v' with
  | nil => exact .value related
  | cons segment rest inductionHypothesis =>
    cases related with
    | refl => exact .refl (fun _ => .refl) _
    | single same =>
      simp only [readSegments, same.null_iff]
      split
      · exact .value .refl
      · refine (readSegment_parallel same (missing segment (by simp))).bind ?_
        intro part part' related
        exact inductionHypothesis related fun other member => missing other (by simp [member])

/-- A property gives the same value or the same tree on both sides. -/
theorem get_parallel {key : String} (same : w.store.SameTree v v')
    (missing : ∀ segment ∈ Text.segments key.toList, w.MissingInArrays (String.ofList segment)) :
    Parallel w.SameOrTree (w.get v (.str key)) (w.get v' (.str key)) := by
  have segmentwise : Parallel w.SameOrTree
      (w.text (.str key) >>= fun text => w.readSegments v (Text.segments text.toList))
      (w.text (.str key) >>= fun text => w.readSegments v' (Text.segments text.toList)) :=
    readSegments_parallel (.single same) missing
  cases same with
  | leaf => exact .refl (fun _ => .refl) _
  | array plain plain' =>
    rw [get_of_missing (verbatim_of_unmapped plain.entries? _),
      get_of_missing (verbatim_of_unmapped plain'.entries? _)]
    exact segmentwise
  | @mapping _ _ entries entries' plain plain' complete keys each =>
    have found := Store.SameTree.rel_find? complete keys each (w.store.keyMatches (.str key))
    generalize looked : (entries.find? fun entry => w.store.keyMatches (.str key) entry.1).map
      (·.2) = first at found
    generalize looked' : (entries'.find? fun entry => w.store.keyMatches (.str key) entry.1).map
      (·.2) = first' at found
    have verbatim : w.verbatim (.object _) (.str key) = .ok first :=
      (verbatim_of_table? plain.table? _).trans (congrArg Except.ok looked)
    have verbatim' : w.verbatim (.object _) (.str key) = .ok first' :=
      (verbatim_of_table? plain'.table? _).trans (congrArg Except.ok looked')
    cases found with
    | none =>
      rw [get_of_missing verbatim, get_of_missing verbatim']
      exact segmentwise
    | some same =>
      rw [get_of_found verbatim, get_of_found verbatim']
      exact .value (.single same)

end World

/-! ## Judging -/

/-- A rule that asks for no class and compares with scalars only. -/
def Rule.IsStructural : Rule → Prop
  | .instanceOf _ _ => False
  | .equals expected => expected.isScalar = true
  | .oneOf allowed => ∀ candidate ∈ allowed, candidate.isScalar = true
  | .ofKind _ | .shape _ | .array _ | .union _ => True

/-- A native spec that stands for such a rule. -/
structure Store.Structural (σ : Store) (spec : Value) : Prop extends σ.Native spec where
  rule : ∀ rule, σ.Stands spec rule → rule.IsStructural

namespace World

variable {w : World} {options : Options} {v v' context : Value}
  {check : Validator → Value → Value → Run Value}

/-- A rule without parts ends alike on the same tree. -/
theorem judgeLeaf_eq {rule : Rule} (same : w.store.SameTree v v') (structural : rule.IsStructural)
    (context : Value) :
    w.judgeLeaf options v context rule = w.judgeLeaf options v' context rule := by
  have rendered : w.rendering options v = w.rendering options v' := rendering_eq same
  cases rule with
  | ofKind kind => simp only [judgeLeaf, same.kindOf_eq, same.displayKind_eq]
  | equals expected => simp only [judgeLeaf, same.strictEquals_eq structural, rendered]
  | instanceOf _ _ => cases structural
  | oneOf allowed =>
    have searched : allowed.anyM (w.store.sameValueZero v) =
        allowed.anyM (w.store.sameValueZero v') :=
      anyM_congr fun candidate member => same.sameValueZero_eq (structural candidate member)
    simp only [judgeLeaf, searched, rendered]
  | shape _ | array _ | union _ => rfl

/-- What a spec resolves to is checked alike on all values that are the same or the same tree. -/
def ChecksAlike (w : World) (check : Validator → Value → Value → Run Value) (spec : Value) : Prop :=
  ∀ validator part part' inner, w.resolve spec = .ok validator → w.SameOrTree part part' →
    check validator part inner = check validator part' inner

/-- The check of a field is alike if its spec is and its key asks for no field of an array. -/
theorem judgeField_eq {entry : Value × Value} {key : String} (same : w.store.SameTree v v')
    (plain : entry.1 = .str key)
    (missing : ∀ segment ∈ Text.segments key.toList, w.MissingInArrays (String.ofList segment))
    (alike : w.ChecksAlike check entry.2) :
    w.judgeField check v context (.ok entry) = w.judgeField check v' context (.ok entry) := by
  have reads := get_parallel same missing
  rw [← plain] at reads
  exact judgeField_congr reads alike

/-- A shape ends alike if its fields do. -/
theorem judgeShape_eq {fields : Value} {entries : List (Value × Value)}
    (same : w.store.SameTree v v') (held : w.store.entries? fields = some entries)
    (each : ∀ entry ∈ entries, w.judgeField check v context (.ok entry) =
      w.judgeField check v' context (.ok entry)) :
    w.judgeShape options check fields v context = w.judgeShape options check fields v' context := by
  exact judgeShape_congr held same.null_iff same.kindOf_eq same.displayKind_eq each

/-- An array ends alike if its items do: in both trees it has as many. -/
theorem judgeArray_eq {element : Value} (same : w.store.SameTree v v')
    (alike : w.ChecksAlike check element) :
    w.judgeArray options check element v context =
      w.judgeArray options check element v' context := by
  have display := same.displayKind_eq
  cases same with
  | leaf => rfl
  | mapping plain plain' => simp only [judgeArray, plain.arrayItems?, plain'.arrayItems?, display]
  | array plain plain' complete each =>
    have items := Store.SameTree.forall₂_items complete each
    exact judgeArray_congr plain.arrayItems? plain'.arrayItems? (items.imp fun _ _ => .single) alike

/-- A union ends alike if its alternatives do. -/
theorem judgeUnion_eq {alternatives : List Value} (same : w.store.SameTree v v')
    (alike : ∀ alternative ∈ alternatives, w.ChecksAlike check alternative) :
    w.judgeUnion check alternatives v context = w.judgeUnion check alternatives v' context := by
  have each : ∀ alternative ∈ alternatives, w.judgeAlternative check v context alternative =
      w.judgeAlternative check v' context alternative := by
    intro alternative member
    exact Run.bind_congr fun validator resolved =>
      alike alternative member validator v v' context resolved (.single same)
  simp only [judgeUnion, Run.allTrue_congr _ (List.forall₂_same.mpr each)]

/-- A spec that cannot tell containers apart is run alike on values that are the same or the same
tree. The induction follows the levels of the run; the specs that are reached on the way are those
of the outermost spec. -/
theorem judge_eq_of_sameTree {spec inner : Value} {levels : Nat} {validator : Validator}
    (structural : w.store.Throughout w.store.Structural spec)
    (missing : ∀ name, w.Names (w.store.Reaches spec) name → w.MissingInArrays name)
    (reached : w.store.Reaches spec inner) (resolved : w.resolve inner = .ok validator)
    (related : w.SameOrTree v v') :
    w.judge options levels validator v context = w.judge options levels validator v' context := by
  induction levels generalizing inner validator v v' context with
  | zero => rfl
  | succ levels inductionHypothesis =>
    cases related with
    | refl => rfl
    | single same =>
      have native := structural inner reached
      obtain ⟨rule, rfl, stands⟩ := native.toNative.stands resolved
      have alike : ∀ sub ∈ rule.subSpecs w.store, w.ChecksAlike (w.judge options levels) sub := by
        intro sub member validator part part' next subResolved related
        exact inductionHypothesis (.step reached stands member) subResolved related
      by_cases whole : rule.IsLeaf
      · rw [judge, judge, judgeWith_leaf whole, judgeWith_leaf whole,
          judgeLeaf_eq same (native.rule rule stands)]
      cases rule with
      | ofKind _ | equals _ | instanceOf _ _ | oneOf _ => exact absurd trivial whole
      | shape fields =>
        obtain ⟨entries, held⟩ := native.keyed.mapped stands fields rfl
        refine judgeShape_eq same held fun entry member => ?_
        obtain ⟨key, plain⟩ := native.keyed.key stands held member
        have names := names_of_key reached stands held member plain
        exact judgeField_eq same plain (fun segment member => missing _ (names segment member))
          (alike _ (Rule.mem_subSpecs_shape held member))
      | array element => exact judgeArray_eq same (alike element (List.mem_singleton_self element))
      | union alternatives => exact judgeUnion_eq same alike

/-- A check of the same tree in other containers is the same check: it has the same outcome and logs
the same events. The spec is made of kind names, mappings with plain texts for keys, lists of one
spec, scalars, and validators of the program that ask for no class and compare with scalars only;
no segment of its keys names a field of lists or tuples. -/
theorem check_eq_of_sameTree (w : World) (options : Options) (v v' spec root : Value)
    (same : w.store.SameTree v v') (structural : w.store.Throughout w.store.Structural spec)
    (missing : ∀ name, w.Names (w.store.Reaches spec) name → w.MissingInArrays name) :
    w.check options v spec root = w.check options v' spec root := by
  refine Run.bind_congr fun validator resolved => ?_
  rw [run, run, judge_eq_of_sameTree structural missing .refl resolved (.single same)]

end World

/-! ## In the catalogue -/

namespace Catalogue

open World

/-- In the world of the catalogue, the fields of plain lists and tuples are their class and their
methods. -/
theorem missingInArrays {σ : Store} {options : Options} {name : String}
    (noClass : name ≠ "__class__") (noList : name ∉ listMethods) (noTuple : name ∉ tupleMethods) :
    (world σ options).MissingInArrays name := by
  rintro address items (found | found)
  · have found : σ.cell? address = some (.list listClass items) := found
    simp [readField, world, Catalogue.field, noClass, found, cellField, method?, noList]
  · have found : σ.cell? address = some (.tuple tupleClass items) := found
    simp [readField, world, Catalogue.field, noClass, found, cellField, tupleField?, tupleClass,
      Class.standard, method?, noTuple]

/-- A mapping with a list two mappings deep, once in plain containers and once in others, and a spec
that asks for texts in the list and for the number five in its place. -/
def retold : World :=
  world ⟨#[
    .mapping dictClass [(.str "user", .object 1)],
    .mapping dictClass [(.str "tags", .object 2)],
    .list listClass [.str "x", .str "y"],
    .mapping orderedDictClass [(.str "user", .object 4)],
    .mapping proxyClass [(.str "tags", .object 5)],
    .tuple tupleClass [.str "x", .str "y"],
    .mapping dictClass [(.str "user.tags", .object 7), (.str "user", .int 5)],
    .list listClass [.str "string"]]⟩ {}

theorem retold_sameTree : retold.store.SameTree (.object 0) (.object 3) := by
  have text (s : String) : retold.store.SameTree (.str s) (.str s) := .leaf rfl rfl
  have standard : dictClass ∈ mappingClasses ∧ orderedDictClass ∈ mappingClasses ∧
      proxyClass ∈ mappingClasses := by simp [mappingClasses]
  obtain ⟨plain, ordered, proxy⟩ := standard
  have tags : retold.store.SameTree (.object 2) (.object 5) := by
    refine .array (.inl rfl) (.inr rfl) rfl ?_
    simp [text]
  have user : retold.store.SameTree (.object 1) (.object 4) := by
    refine .mapping ⟨_, plain, rfl⟩ ⟨_, proxy, rfl⟩ rfl (by simp) ?_
    simp [tags]
  refine .mapping ⟨_, plain, rfl⟩ ⟨_, ordered, rfl⟩ rfl (by simp) ?_
  simp [user]

theorem retold_enclosed : ∀ spec ∈ [.object 6, .object 7, .str "string", .int 5],
    retold.encloses [.object 6, .object 7, .str "string", .int 5] spec = true := by
  decide +kernel

/-- What the specs stand for. -/
theorem retold_stands {inner : Value} {rule : Rule}
    (reached : retold.store.Reaches (.object 6) inner) (stands : retold.store.Stands inner rule) :
    rule = .shape (.object 6) ∨ rule = .array (.str "string") ∨ rule = .ofKind .string ∨
      rule = .equals (.int 5) := by
  have resolved := resolve_of_stands (w := retold) stands
  have member := mem_of_reaches retold_enclosed (by simp) reached
  simp only [List.mem_cons, List.not_mem_nil, or_false] at member
  rcases member with rfl | rfl | rfl | rfl <;> cases resolved <;> simp

theorem retold_structural : retold.store.Throughout retold.store.Structural (.object 6) := by
  intro inner reached
  refine ⟨selfContained_of_encloses retold_enclosed (by simp) inner reached, ?_⟩
  intro rule stands
  rcases retold_stands reached stands with rfl | rfl | rfl | rfl
  · trivial
  · trivial
  · trivial
  · rfl

theorem retold_missing (name : String)
    (named : retold.Names (retold.store.Reaches (.object 6)) name) :
    retold.MissingInArrays name := by
  obtain ⟨inner, fields, entries, entry, key, reached, stands, held, member, same, inside⟩ := named
  have shape := retold_stands reached stands
  simp only [Rule.shape.injEq, reduceCtorEq, or_false] at shape
  subst shape
  cases held
  have split : Text.segments "user.tags".toList = ["user".toList, "tags".toList] := by
    decide +kernel
  have whole : Text.segments "user".toList = ["user".toList] := by decide +kernel
  have name : name = "user" ∨ name = "tags" := by
    simp only [List.mem_cons, List.not_mem_nil, or_false] at member
    rcases member with rfl | rfl <;> cases same
    · rw [split] at inside
      simpa [String.toList_inj, -String.reduceToList] using inside
    · rw [whole] at inside
      exact .inl (by simpa [String.toList_inj, -String.reduceToList] using inside)
  rcases name with rfl | rfl
  · exact missingInArrays (by decide) (by decide) (by decide)
  · exact missingInArrays (by decide) (by decide) (by decide)

/-- In both trees the texts pass and the mapping is not the number five; the message shows the
tuple and the other mapping like the list and the plain mapping. -/
theorem retold_check_eq :
    retold.store.SameTree (.object 0) (.object 3) ∧
      retold.store.Throughout retold.store.Structural (.object 6) ∧
      (∀ name, retold.Names (retold.store.Reaches (.object 6)) name →
        retold.MissingInArrays name) ∧
      (retold.check {} (.object 0) (.object 6) (.str "")).outcome = .ok (ownFailure
        "Expected value to equal 5 but received \x7btags: [\"x\", \"y\"]\x7d"
        (.path (.str "user") (.int 1) 0)) ∧
      retold.check {} (.object 0) (.object 6) (.str "") =
        retold.check {} (.object 3) (.object 6) (.str "") := by
  refine ⟨retold_sameTree, retold_structural, retold_missing, by decide +kernel, ?_⟩
  exact check_eq_of_sameTree retold {} (.object 0) (.object 3) (.object 6) (.str "")
    retold_sameTree retold_structural retold_missing

end Catalogue

end Conformance
