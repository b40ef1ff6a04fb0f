import Mathlib.Data.List.Forall2
import Mathlib.Logic.Relation
import Conformance.Proofs.Acceptance

/-!
# Order, repetition and grouping

A check looks at the fields of a shape and at the alternatives of a union in their order, and stops
at the first that decides. Which of them decides depends on the order; whether the value is accepted
does not. A shape asks for all of its fields and a union for any of its alternatives, so fields may
change places, alternatives may change places and be repeated, and a union among the alternatives of
a union may be replaced by its own alternatives.

Such rewrites are steps between specs written out as finite trees. The trees on the way from one
spec to another need not be in the store, so what a tree asks of a value is said without one.
Nothing is said about the errors of the two specs, or about which of their checks fault.
-/

namespace Conformance

/-- A finite spec written out. What has no parts is kept as it is, with all that a literal is
compared with. -/
inductive SpecTree where
  | leaf (spec : Value)
  | shape (fields : List (String × SpecTree))
  | array (element : SpecTree)
  | union (alternatives : List SpecTree)

namespace SpecTree

/-- One rewrite, at the root of a tree or anywhere below it. -/
inductive Rearranges : SpecTree → SpecTree → Prop
  | fields {fields fields' : List (String × SpecTree)} (permuted : fields.Perm fields') :
      Rearranges (.shape fields) (.shape fields')
  | alternatives {alternatives alternatives' : List SpecTree}
      (permuted : alternatives.Perm alternatives') :
      Rearranges (.union alternatives) (.union alternatives')
  | repeated (earlier : List SpecTree) (alternative : SpecTree) (later : List SpecTree) :
      Rearranges (.union (earlier ++ alternative :: later))
        (.union (earlier ++ alternative :: alternative :: later))
  | ungrouped (earlier inner later : List SpecTree) :
      Rearranges (.union (earlier ++ .union inner :: later)) (.union (earlier ++ inner ++ later))
  | inField (earlier : List (String × SpecTree)) (key : String) {tree tree' : SpecTree}
      (later : List (String × SpecTree)) (inner : Rearranges tree tree') :
      Rearranges (.shape (earlier ++ (key, tree) :: later))
        (.shape (earlier ++ (key, tree') :: later))
  | inElement {tree tree' : SpecTree} (inner : Rearranges tree tree') :
      Rearranges (.array tree) (.array tree')
  | inAlternative (earlier : List SpecTree) {tree tree' : SpecTree} (later : List SpecTree)
      (inner : Rearranges tree tree') :
      Rearranges (.union (earlier ++ tree :: later)) (.union (earlier ++ tree' :: later))

end SpecTree

/-- A tree is what a spec is when it is written out. No callable from outside occurs in it, and all
keys are plain texts. -/
inductive Store.Spells (σ : Store) : Value → SpecTree → Prop
  | leaf {spec : Value} (known : ¬ σ.IsForeign spec)
      (whole : ∀ rule, σ.Stands spec rule → rule.IsLeaf) : Spells σ spec (.leaf spec)
  | shape {spec fields : Value} {entries : List (Value × Value)}
      {branches : List (String × SpecTree)} (stands : σ.Stands spec (.shape fields))
      (held : σ.entries? fields = some entries) (complete : entries.length = branches.length)
      (keys : ∀ pair ∈ entries.zip branches, pair.1.1 = .str pair.2.1)
      (below : ∀ pair ∈ entries.zip branches, Spells σ pair.1.2 pair.2.2) :
      Spells σ spec (.shape branches)
  | array {spec element : Value} {branch : SpecTree} (stands : σ.Stands spec (.array element))
      (below : Spells σ element branch) : Spells σ spec (.array branch)
  | union {spec : Value} {alternatives : List Value} {branches : List SpecTree}
      (stands : σ.Stands spec (.union alternatives))
      (complete : alternatives.length = branches.length)
      (below : ∀ pair ∈ alternatives.zip branches, Spells σ pair.1 pair.2) :
      Spells σ spec (.union branches)

namespace World

variable {w : World} {options : Options} {limit depth : Nat} {spec v : Value}
  {tree tree' : SpecTree}

/-! ## What a tree asks -/

/-- A value satisfies a tree at a depth. -/
inductive Satisfies (w : World) (limit : Nat) : Nat → SpecTree → Value → Prop
  | leaf {depth : Nat} {spec v : Value} {rule : Rule} (stands : w.store.Stands spec rule)
      (meets : w.Meets v rule) : Satisfies w limit depth (.leaf spec) v
  | shape {depth : Nat} {v : Value} {fields : List (String × SpecTree)} (present : v ≠ .null)
      (object : w.store.kindOf v = .object) (below : depth < limit)
      (readable : ∀ field ∈ fields, ∃ part, w.get v (.str field.1) = .ok part)
      (satisfied : ∀ field ∈ fields, ∀ part, w.get v (.str field.1) = .ok part →
        Satisfies w limit (depth + 1) field.2 part) : Satisfies w limit depth (.shape fields) v
  | array {depth : Nat} {v : Value} {element : SpecTree} {items : List Value}
      (listed : w.store.arrayItems? v = some items) (below : depth < limit)
      (satisfied : ∀ item ∈ items, Satisfies w limit (depth + 1) element item) :
      Satisfies w limit depth (.array element) v
  | union {depth : Nat} {v : Value} {alternative : SpecTree} {alternatives : List SpecTree}
      (member : alternative ∈ alternatives) (satisfied : Satisfies w limit depth alternative v) :
      Satisfies w limit depth (.union alternatives) v

theorem satisfies_shape_iff {fields : List (String × SpecTree)} :
    w.Satisfies limit depth (.shape fields) v ↔
      v ≠ .null ∧ w.store.kindOf v = .object ∧ depth < limit ∧
        ∀ field ∈ fields, ∃ part, w.get v (.str field.1) = .ok part ∧
          w.Satisfies limit (depth + 1) field.2 part := by
  constructor
  · intro satisfies
    cases satisfies with
    | shape present object below readable satisfied =>
      refine ⟨present, object, below, ?_⟩
      intro field member
      obtain ⟨part, read⟩ := readable field member
      exact ⟨part, read, satisfied field member part read⟩
  · rintro ⟨present, object, below, satisfied⟩
    refine .shape present object below ?_ ?_
    · intro field member
      obtain ⟨part, read, _⟩ := satisfied field member
      exact ⟨part, read⟩
    · intro field member part read
      obtain ⟨part', read', satisfies⟩ := satisfied field member
      cases read.symm.trans read'
      exact satisfies

theorem satisfies_array_iff {element : SpecTree} :
    w.Satisfies limit depth (.array element) v ↔
      ∃ items, w.store.arrayItems? v = some items ∧ depth < limit ∧
        ∀ item ∈ items, w.Satisfies limit (depth + 1) element item := by
  constructor
  · intro satisfies
    cases satisfies with
    | array listed below satisfied => exact ⟨_, listed, below, satisfied⟩
  · rintro ⟨items, listed, below, satisfied⟩
    exact .array listed below satisfied

theorem satisfies_union_iff {alternatives : List SpecTree} :
    w.Satisfies limit depth (.union alternatives) v ↔
      ∃ alternative ∈ alternatives, w.Satisfies limit depth alternative v := by
  constructor
  · intro satisfies
    cases satisfies with
    | union member satisfied => exact ⟨_, member, satisfied⟩
  · rintro ⟨alternative, member, satisfied⟩
    exact .union member satisfied

/-- A rewrite changes nothing about what a tree asks. -/
theorem satisfies_iff_of_rearranges (step : tree.Rearranges tree') :
    w.Satisfies limit depth tree v ↔ w.Satisfies limit depth tree' v := by
  induction step generalizing depth v with
  | fields permuted => simp only [satisfies_shape_iff, permuted.mem_iff]
  | alternatives permuted => simp only [satisfies_union_iff, permuted.mem_iff]
  | repeated earlier alternative later => simp [satisfies_union_iff]
  | ungrouped earlier inner later =>
    simp [satisfies_union_iff, or_and_right, exists_or]
  | inField earlier key later _ inductionHypothesis =>
    simp [satisfies_shape_iff, or_imp, forall_and, inductionHypothesis]
  | inElement _ inductionHypothesis => simp only [satisfies_array_iff, inductionHypothesis]
  | inAlternative earlier later _ inductionHypothesis =>
    simp [satisfies_union_iff, or_and_right, exists_or, inductionHypothesis]

/-! ## Specs and their trees -/

/-- A spec written out as a tree is self-contained. -/
theorem selfContained_of_spells (spells : w.store.Spells spec tree) :
    w.store.SelfContained spec := by
  induction spells with
  | leaf known whole =>
    refine .of_sub ⟨?_, known⟩ ?_
    · intro fields stands
      cases whole _ stands
    · intro rule stands inner member
      have flat := whole rule stands
      cases rule with
      | ofKind _ | equals _ | instanceOf _ _ | oneOf _ => cases member
      | shape _ | array _ | union _ => cases flat
  | @shape spec fields entries branches stands held complete keys below inductionHypothesis =>
    have keyed : List.Forall₂ (fun entry branch => entry.1 = .str branch.1) entries branches :=
      List.forall₂_iff_zip.mpr ⟨complete, fun pair => keys _ pair⟩
    have contained : List.Forall₂ (fun entry _ => w.store.SelfContained entry.2) entries branches :=
      List.forall₂_iff_zip.mpr ⟨complete, fun pair => inductionHypothesis _ pair⟩
    refine .of_stands stands ?_ ?_
    · rintro _ ⟨⟩
      refine ⟨entries, held, ?_⟩
      intro entry member
      obtain ⟨branch, same⟩ := exists_of_forall₂ keyed member
      exact ⟨branch.1, same⟩
    · intro inner member
      simp only [Rule.subSpecs, held, Option.getD_some, List.mem_map] at member
      obtain ⟨entry, member, rfl⟩ := member
      obtain ⟨_, inside⟩ := exists_of_forall₂ contained member
      exact inside
  | array stands _ inductionHypothesis =>
    refine .of_stands stands (by simp) ?_
    intro inner member
    rw [List.mem_singleton.mp member]
    exact inductionHypothesis
  | @union spec alternatives branches stands complete below inductionHypothesis =>
    have contained : List.Forall₂ (fun alternative _ => w.store.SelfContained alternative)
        alternatives branches :=
      List.forall₂_iff_zip.mpr ⟨complete, fun pair => inductionHypothesis _ pair⟩
    refine .of_stands stands (by simp) ?_
    intro inner member
    obtain ⟨_, inside⟩ := exists_of_forall₂ contained member
    exact inside

/-- A value conforms to a spec exactly when it satisfies the spec written out. -/
theorem conforms_iff_satisfies (spells : w.store.Spells spec tree) :
    w.Conforms limit depth spec v ↔ w.Satisfies limit depth tree v := by
  induction spells generalizing depth v with
  | leaf known whole =>
    constructor
    · intro conforms
      cases conforms with
      | leaf stands meets => exact .leaf stands meets
      | shape stands | array stands | union stands => cases whole _ stands
    · intro satisfies
      cases satisfies with
      | leaf stands meets => exact .leaf stands meets
  | @shape spec fields entries branches stands held complete keys below inductionHypothesis =>
    rw [conforms_shape_iff stands held, satisfies_shape_iff]
    have each : List.Forall₂ (fun entry branch =>
        (∃ part, w.get v entry.1 = .ok part ∧ w.Conforms limit (depth + 1) entry.2 part) ↔
          ∃ part, w.get v (.str branch.1) = .ok part ∧
            w.Satisfies limit (depth + 1) branch.2 part) entries branches := by
      refine List.forall₂_iff_zip.mpr ⟨complete, fun {entry branch} pair => ?_⟩
      have same : entry.1 = .str branch.1 := keys _ pair
      simp only [same, inductionHypothesis _ pair]
    rw [forall_mem_iff_of_forall₂ each]
  | array stands _ inductionHypothesis =>
    simp only [conforms_array_iff stands, satisfies_array_iff, inductionHypothesis]
  | @union spec alternatives branches stands complete below inductionHypothesis =>
    rw [conforms_union_iff stands, satisfies_union_iff]
    have each : List.Forall₂ (fun alternative branch => w.Conforms limit depth alternative v ↔
        w.Satisfies limit depth branch v) alternatives branches :=
      List.forall₂_iff_zip.mpr ⟨complete, fun pair => inductionHypothesis _ pair⟩
    rw [exists_mem_iff_of_forall₂ each]

/-- A check that ends without a fault accepts its value exactly when the value satisfies the spec
written out, whatever is in the store besides. -/
theorem check_null_iff_satisfies {root result : Value} (spells : w.store.Spells spec tree)
    (returned : (w.check options v spec root).outcome = .ok result) :
    result = .null ↔ w.Satisfies options.maxDepth 0 tree v := by
  obtain ⟨validator, resolved, ended⟩ := check_ok returned
  have decides : w.Decides options.maxDepth 0 spec v result :=
    judge_decides (selfContained_of_spells spells) resolved rfl ended
  rw [← conforms_iff_satisfies spells]
  rcases decides with ⟨null, conforms⟩ | ⟨truthy, differs⟩
  · exact ⟨fun _ => conforms, fun _ => null⟩
  · refine ⟨?_, fun conforms => absurd conforms differs⟩
    rintro rfl
    cases truthy

/-- Any number of rewrites changes nothing about what a tree asks, and neither does undoing them. -/
theorem satisfies_iff_of_rearranged
    (rearranged : Relation.EqvGen SpecTree.Rearranges tree tree') :
    w.Satisfies limit depth tree v ↔ w.Satisfies limit depth tree' v := by
  induction rearranged with
  | rel _ _ step => exact satisfies_iff_of_rearranges step
  | refl _ => exact Iff.rfl
  | symm _ _ _ inductionHypothesis => exact inductionHypothesis.symm
  | trans _ _ _ _ _ first second => exact first.trans second

/-- Two specs that are written out as trees which rewrites lead from one to the other accept the
same values, as far as both checks end without a fault. The rewrites may be made in any number, at
any depth and in either direction. -/
theorem check_null_iff_of_rearranged (w : World) (options : Options)
    (v spec spec' root result result' : Value) (tree tree' : SpecTree)
    (spells : w.store.Spells spec tree) (spells' : w.store.Spells spec' tree')
    (rearranged : Relation.EqvGen SpecTree.Rearranges tree tree')
    (returned : (w.check options v spec root).outcome = .ok result)
    (returned' : (w.check options v spec' root).outcome = .ok result') :
    result = .null ↔ result' = .null := by
  rw [check_null_iff_satisfies spells returned, check_null_iff_satisfies spells' returned']
  exact satisfies_iff_of_rearranged rearranged

/-! ## A spec in two arrangements -/

/-- A name is written out as itself, whether or not it is that of a kind. -/
theorem spells_text (σ : Store) (name : String) (tag : Tag) :
    σ.Spells (.text name tag) (.leaf (.text name tag)) := by
  refine .leaf ?_ ?_
  · rintro ⟨callable, _⟩
    cases callable
  · intro rule stands
    cases stands with
    | kindName kind tag => trivial
    | made held => cases held
    | mapping _ held => cases held
    | single _ held => cases held
    | literal => trivial

/-- A world in which a mapping of two fields, or null, or a text is asked for in two ways. The
first spec groups null and the texts in a union of their own. The second asks for texts first and
then once more, and has the fields of the mapping in the other order. -/
def regrouped : World where
  store := ⟨#[
    .mapping (.standard "dict" ["Mapping"]) [(.str "a", .str "number"), (.str "b", .str "string")],
    .validator (.union [.str "null", .str "string"]),
    .validator (.union [.object 0, .object 1]),
    .mapping (.standard "dict" ["Mapping"]) [(.str "b", .str "string"), (.str "a", .str "number")],
    .validator (.union [.str "string", .str "string", .str "null", .object 3]),
    .mapping (.standard "dict" ["Mapping"]) [(.str "a", .int 1), (.str "b", .str "x")]]⟩
  external _ _ := .error (.notCallable "object")
  field _ _ := .ok none
  customs := .regular ⟨#[]⟩

/-- The two specs written out. -/
def groupedTree : SpecTree :=
  .union [.shape [("a", .leaf (.str "number")), ("b", .leaf (.str "string"))],
    .union [.leaf (.str "null"), .leaf (.str "string")]]

@[inherit_doc groupedTree]
def ungroupedTree : SpecTree :=
  .union [.leaf (.str "string"), .leaf (.str "string"), .leaf (.str "null"),
    .shape [("b", .leaf (.str "string")), ("a", .leaf (.str "number"))]]

theorem regrouped_spells :
    regrouped.store.Spells (.object 2) groupedTree ∧
      regrouped.store.Spells (.object 4) ungroupedTree := by
  have word (name : String) : regrouped.store.Spells (.str name) (.leaf (.str name)) :=
    spells_text _ name .plain
  have fields : regrouped.store.Spells (.object 0)
      (.shape [("a", .leaf (.str "number")), ("b", .leaf (.str "string"))]) :=
    .shape (.mapping rfl rfl) rfl rfl (by simp) (by simp [word])
  have fields' : regrouped.store.Spells (.object 3)
      (.shape [("b", .leaf (.str "string")), ("a", .leaf (.str "number"))]) :=
    .shape (.mapping rfl rfl) rfl rfl (by simp) (by simp [word])
  have group : regrouped.store.Spells (.object 1)
      (.union [.leaf (.str "null"), .leaf (.str "string")]) :=
    .union (.made rfl) rfl (by simp [word])
  constructor
  · exact .union (.made rfl) rfl (by simp [fields, group])
  · exact .union (.made rfl) rfl (by simp [fields', word])

/-- The inner union is dissolved and the texts are repeated, then the alternatives are reversed and
the fields of the mapping change places. -/
theorem regrouped_rearranged : Relation.EqvGen SpecTree.Rearranges groupedTree ungroupedTree := by
  refine .trans _ _ _ (.rel _ _ (.ungrouped [_] [_, _] [])) ?_
  refine .trans _ _ _ (.rel _ _ (.repeated [_, _] _ [])) ?_
  refine .trans _ _ _ (.rel _ _ (.alternatives (List.reverse_perm _).symm)) ?_
  exact .rel _ _ (.inAlternative [_, _, _] [] (.fields (.swap _ _ _)))

/-- The mapping of a number and a text is accepted in both arrangements, by the first alternative
of one and by the last of the other. -/
theorem regrouped_null_iff :
    regrouped.store.Spells (.object 2) groupedTree ∧
      regrouped.store.Spells (.object 4) ungroupedTree ∧
      Relation.EqvGen SpecTree.Rearranges groupedTree ungroupedTree ∧
      (regrouped.check {} (.object 5) (.object 2) (.str "")).outcome = .ok .null ∧
      (regrouped.check {} (.object 5) (.object 4) (.str "")).outcome = .ok .null := by
  obtain ⟨spells, spells'⟩ := regrouped_spells
  have accepted : (regrouped.check {} (.object 5) (.object 2) (.str "")).outcome = .ok .null := by
    decide +kernel
  have returned : ∃ result,
      (regrouped.check {} (.object 5) (.object 4) (.str "")).outcome = .ok result :=
    ⟨.null, by decide +kernel⟩
  obtain ⟨result, ended⟩ := returned
  have null := (check_null_iff_of_rearranged regrouped {} (.object 5) (.object 2) (.object 4)
    (.str "") .null result groupedTree ungroupedTree spells spells' regrouped_rearranged accepted
    ended).mp rfl
  exact ⟨spells, spells', regrouped_rearranged, accepted, by rw [ended, null]⟩

end World

end Conformance
