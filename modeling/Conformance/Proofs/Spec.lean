import Conformance.Rule
import Conformance.Proofs.Run

/-!
# What specs stand for

The forms of specs are given here one by one, apart from the function that resolves them, and the
two agree: resolving a spec gives a rule exactly when the spec stands for it, and a callable that
the program did not make exactly when it is one.

A spec reaches its sub-specs, theirs, and so on; since sub-specs may be shared or contain
themselves, a condition on all of a spec is a condition on everything it reaches. A spec is
self-contained when the keys of all its mappings are plain texts and no callable from outside
occurs in it; given everything that it reaches, this can be computed.
-/

namespace Conformance

namespace Kind

/-- Only the name of a kind names it. -/
theorem ofName?_eq_some {s : String} {k : Kind} (found : ofName? s = some k) : s = k.name := by
  unfold ofName? at found
  split at found <;> simp_all [Kind.name] <;> (subst found; rfl)

end Kind

namespace Store

/-- The rule a spec stands for, form by form. -/
inductive Stands (σ : Store) : Value → Rule → Prop
  /-- A text names a kind. -/
  | kindName (kind : Kind) (tag : Tag) : Stands σ (.text kind.name tag) (.ofKind kind)
  /-- A class stands for its instances. -/
  | cls (c : Class) : Stands σ (.cls c) (.instanceOf (.cls c) c.name)
  /-- A rule that was made directly stands for itself. -/
  | made {spec : Value} {rule : Rule} (held : σ.rule? spec = some rule) : Stands σ spec rule
  /-- A mapping describes fields. -/
  | mapping {spec : Value} {entries : List (Value × Value)} (silent : σ.isCallable spec = false)
      (held : σ.entries? spec = some entries) : Stands σ spec (.shape spec)
  /-- A list of one spec describes the items of an array. -/
  | single {spec element : Value} (silent : σ.isCallable spec = false)
      (held : σ.listItems? spec = some [element]) : Stands σ spec (.array element)
  /-- Every other value stands for itself. -/
  | literal {spec : Value} (silent : σ.isCallable spec = false)
      (wordless : ∀ s tag, spec ≠ .text s tag) (noMapping : σ.entries? spec = none)
      (noSingle : ∀ element, σ.listItems? spec ≠ some [element]) : Stands σ spec (.equals spec)

/-- A callable that is neither a class nor a validator of the program. -/
def IsForeign (σ : Store) (spec : Value) : Prop :=
  σ.isCallable spec = true ∧ σ.rule? spec = none ∧ ∀ c, spec ≠ .cls c

/-- A callable from outside stands for no rule. -/
theorem Stands.not_foreign {σ : Store} {spec : Value} {rule : Rule} (stands : σ.Stands spec rule) :
    ¬ σ.IsForeign spec := by
  rintro ⟨callable, noRule, classless⟩
  cases stands with
  | kindName => cases callable
  | cls c => exact classless c rfl
  | made held => cases held.symm.trans noRule
  | mapping silent | single silent | literal silent => cases silent.symm.trans callable

/-- A validator of the program can be called, like every function. -/
theorem isCallable_of_rule? {σ : Store} {spec : Value} {rule : Rule}
    (held : σ.rule? spec = some rule) : σ.isCallable spec = true := by
  obtain ⟨address, rfl, found⟩ := rule?_eq_some_iff.mp held
  simp [isCallable, found, Cell.classOf, Class.function, Class.withCallable]

theorem rule?_eq_none_of_silent {σ : Store} {spec : Value} (silent : σ.isCallable spec = false) :
    σ.rule? spec = none := by
  cases held : σ.rule? spec with
  | none => rfl
  | some rule => simp [isCallable_of_rule? held] at silent

/-- A list is no mapping. -/
theorem entries?_eq_none_of_listItems? {σ : Store} {v : Value} {items : List Value}
    (held : σ.listItems? v = some items) : σ.entries? v = none := by
  obtain ⟨address, cls, rfl, found⟩ := listItems?_eq_some_iff.mp held
  simp [entries?, found]

end Store

namespace World

variable {w : World}

/-- What a spec other than a text or a class resolves to. -/
theorem resolve_other {spec : Value} (wordless : ∀ s tag, spec ≠ .text s tag)
    (classless : ∀ c, spec ≠ .cls c) :
    w.resolve spec = match w.store.rule? spec with
      | some rule => .ok (.rule rule)
      | none =>
        if w.store.isCallable spec then .ok (.external spec)
        else if (w.store.entries? spec).isSome then .ok (.rule (.shape spec))
        else match w.store.listItems? spec with
          | some [element] => .ok (.rule (.array element))
          | _ => .ok (.rule (.equals spec)) := by
  cases spec <;> first
    | rfl
    | exact absurd rfl (wordless _ _)
    | exact absurd rfl (classless _)

/-- A text that resolves names a kind. -/
theorem resolve_text_ok {s : String} {tag : Tag} {validator : Validator}
    (resolved : w.resolve (.text s tag) = .ok validator) :
    ∃ kind : Kind, s = kind.name ∧ validator = .rule (.ofKind kind) := by
  simp only [resolve, kindRule] at resolved
  cases found : Kind.ofName? s with
  | some kind =>
    refine ⟨kind, Kind.ofName?_eq_some found, ?_⟩
    simpa [found, bind, Except.bind, pure, Except.pure, eq_comm] using resolved
  | none =>
    cases quoted : w.quoted (.text s tag) <;>
      simp [found, quoted, bind, Except.bind, throw, throwThe, MonadExceptOf.throw] at resolved

/-- Resolving a spec gives the rule it stands for. -/
theorem resolve_of_stands {spec : Value} {rule : Rule} (stands : w.store.Stands spec rule) :
    w.resolve spec = .ok (.rule rule) := by
  cases stands with
  | kindName kind tag =>
    simp [resolve, kindRule, Kind.ofName?_name, bind, Except.bind, pure, Except.pure]
  | cls c => rfl
  | made held =>
    obtain ⟨address, rfl, _⟩ := Store.rule?_eq_some_iff.mp held
    simp [resolve, held]
  | mapping silent held =>
    obtain ⟨address, cls, rfl, _⟩ := Store.entries?_eq_some_iff.mp held
    simp [resolve, Store.rule?_eq_none_of_silent silent, silent, held]
  | single silent held =>
    have noMapping := Store.entries?_eq_none_of_listItems? held
    obtain ⟨address, cls, rfl, _⟩ := Store.listItems?_eq_some_iff.mp held
    simp [resolve, Store.rule?_eq_none_of_silent silent, silent, noMapping, held]
  | literal silent wordless noMapping noSingle =>
    have classless : ∀ c, spec ≠ .cls c := by
      rintro c rfl
      simp [Store.isCallable] at silent
    rw [resolve_other wordless classless, Store.rule?_eq_none_of_silent silent]
    simp only [silent, noMapping]
    cases held : w.store.listItems? spec with
    | none => rfl
    | some items =>
      cases items with
      | nil => rfl
      | cons element rest =>
        cases rest with
        | nil => exact absurd held (noSingle element)
        | cons _ _ => rfl

/-- A spec that resolves to a rule stands for it; one that resolves to a callable from outside is
that callable. -/
theorem stands_or_foreign_of_resolve {spec : Value} {validator : Validator}
    (resolved : w.resolve spec = .ok validator) :
    (∃ rule, validator = .rule rule ∧ w.store.Stands spec rule) ∨
      (validator = .external spec ∧ w.store.IsForeign spec) := by
  by_cases wordless : ∀ s tag, spec ≠ .text s tag
  · by_cases classless : ∀ c, spec ≠ .cls c
    · rw [resolve_other wordless classless] at resolved
      cases held : w.store.rule? spec with
      | some rule =>
        simp only [held, Except.ok.injEq] at resolved
        exact .inl ⟨rule, resolved.symm, .made held⟩
      | none =>
        simp only [held] at resolved
        split at resolved
        · next callable =>
          exact .inr ⟨(Except.ok.inj resolved).symm, callable, held, classless⟩
        · next silent =>
          have silent : w.store.isCallable spec = false := by simpa using silent
          split at resolved
          · next mapping =>
            obtain ⟨entries, found⟩ := Option.isSome_iff_exists.mp mapping
            exact .inl ⟨_, (Except.ok.inj resolved).symm, .mapping silent found⟩
          · next noMapping =>
            have noMapping : w.store.entries? spec = none := by simpa using noMapping
            split at resolved
            · next element found =>
              exact .inl ⟨_, (Except.ok.inj resolved).symm, .single silent found⟩
            · next other =>
              exact .inl ⟨_, (Except.ok.inj resolved).symm,
                .literal silent wordless noMapping other⟩
    · obtain ⟨c, rfl⟩ : ∃ c, spec = .cls c := by simpa using classless
      exact .inl ⟨_, (Except.ok.inj resolved).symm, .cls c⟩
  · obtain ⟨s, tag, rfl⟩ : ∃ s tag, spec = .text s tag := by simpa using wordless
    obtain ⟨kind, rfl, same⟩ := resolve_text_ok resolved
    exact .inl ⟨_, same, .kindName kind tag⟩

/-- Resolving gives a rule exactly when the spec stands for it. -/
theorem resolve_eq_rule_iff {spec : Value} {rule : Rule} :
    w.resolve spec = .ok (.rule rule) ↔ w.store.Stands spec rule := by
  constructor
  · intro resolved
    rcases stands_or_foreign_of_resolve resolved with ⟨other, same, stands⟩ | ⟨same, _⟩
    · cases same
      exact stands
    · cases same
  · exact resolve_of_stands

/-- A spec stands for one rule only. -/
theorem stands_unique {spec : Value} {rule other : Rule} (stands : w.store.Stands spec rule)
    (stands' : w.store.Stands spec other) : rule = other := by
  have same := (resolve_of_stands stands).symm.trans (resolve_of_stands stands')
  simpa using same

end World

namespace Rule

/-- The specs that running a rule resolves: those of its fields, items or alternatives. -/
def subSpecs (σ : Store) : Rule → List Value
  | .shape fields => ((σ.entries? fields).getD []).map (·.2)
  | .array element => [element]
  | .union alternatives => alternatives
  | _ => []

theorem mem_subSpecs_shape {σ : Store} {fields : Value} {entries : List (Value × Value)}
    {entry : Value × Value} (held : σ.entries? fields = some entries) (member : entry ∈ entries) :
    entry.2 ∈ (shape fields).subSpecs σ := by
  simp only [subSpecs, held, Option.getD_some]
  exact List.mem_map_of_mem member

end Rule

namespace Store

/-- What a spec consists of: itself, its sub-specs, theirs, and so on. -/
inductive Reaches (σ : Store) (spec : Value) : Value → Prop
  | refl : Reaches σ spec spec
  | step {middle inner : Value} {rule : Rule} (reached : Reaches σ spec middle)
      (stands : σ.Stands middle rule) (member : inner ∈ rule.subSpecs σ) : Reaches σ spec inner

theorem Reaches.trans {σ : Store} {spec middle inner : Value} (reached : σ.Reaches spec middle)
    (further : σ.Reaches middle inner) : σ.Reaches spec inner := by
  induction further with
  | refl => exact reached
  | step _ stands member inductionHypothesis => exact .step inductionHypothesis stands member

/-- What a spec reaches is the spec itself, or is reached by one of its sub-specs. -/
theorem Reaches.cases_head {σ : Store} {spec inner : Value} (reached : σ.Reaches spec inner) :
    inner = spec ∨ ∃ rule sub, σ.Stands spec rule ∧ sub ∈ rule.subSpecs σ ∧ σ.Reaches sub inner := by
  induction reached with
  | refl => exact .inl rfl
  | step _ stands member inductionHypothesis =>
    rcases inductionHypothesis with rfl | ⟨rule, sub, first, subMember, further⟩
    · exact .inr ⟨_, _, stands, member, .refl⟩
    · exact .inr ⟨rule, sub, first, subMember, .step further stands member⟩

/-- A condition holds of a spec and of everything it reaches. -/
def Throughout (σ : Store) (condition : Value → Prop) (spec : Value) : Prop :=
  ∀ inner, σ.Reaches spec inner → condition inner

namespace Throughout

variable {σ : Store} {condition : Value → Prop} {spec : Value}

theorem here (throughout : σ.Throughout condition spec) : condition spec := throughout spec .refl

/-- What a sub-spec reaches, the spec reaches as well. -/
theorem sub {rule : Rule} {inner : Value} (throughout : σ.Throughout condition spec)
    (stands : σ.Stands spec rule) (member : inner ∈ rule.subSpecs σ) :
    σ.Throughout condition inner := by
  intro last reached
  have first : σ.Reaches spec inner := .step .refl stands member
  exact throughout last (first.trans reached)

/-- A condition that holds of a spec, and throughout all of its sub-specs, holds throughout it. -/
theorem of_sub (here : condition spec) (below : ∀ rule, σ.Stands spec rule →
    ∀ inner ∈ rule.subSpecs σ, σ.Throughout condition inner) : σ.Throughout condition spec := by
  intro inner reached
  rcases reached.cases_head with rfl | ⟨rule, sub, stands, member, further⟩
  · exact here
  · exact below rule stands sub member inner further

end Throughout

/-- A spec that is a union, or has one somewhere in it. -/
def HasUnion (σ : Store) (spec : Value) : Prop :=
  ∃ inner alternatives, σ.Reaches spec inner ∧ σ.Stands inner (.union alternatives)

/-- A spec without a union has none in its sub-specs either. -/
theorem not_hasUnion_sub {σ : Store} {spec inner : Value} {rule : Rule}
    (unionless : ¬ σ.HasUnion spec) (stands : σ.Stands spec rule)
    (member : inner ∈ rule.subSpecs σ) : ¬ σ.HasUnion inner := by
  rintro ⟨last, alternatives, reached, union⟩
  have first : σ.Reaches spec inner := .step .refl stands member
  exact unionless ⟨last, alternatives, first.trans reached, union⟩

/-- The fields of a shape are those of a mapping whose keys are plain texts. -/
def PlainlyKeyed (σ : Store) (spec : Value) : Prop :=
  ∀ fields, σ.Stands spec (.shape fields) →
    ∃ entries, σ.entries? fields = some entries ∧ ∀ entry ∈ entries, ∃ key, entry.1 = .str key

/-- The keys of fields that a plainly keyed spec stands for are texts. -/
theorem PlainlyKeyed.key {σ : Store} {spec fields : Value} {entries : List (Value × Value)}
    {entry : Value × Value} (keyed : σ.PlainlyKeyed spec) (stands : σ.Stands spec (.shape fields))
    (held : σ.entries? fields = some entries) (member : entry ∈ entries) :
    ∃ key, entry.1 = .str key := by
  obtain ⟨entries', held', keys⟩ := keyed fields stands
  cases held.symm.trans held'
  exact keys entry member

/-- A plainly keyed spec that stands for fields holds them in a mapping. -/
theorem PlainlyKeyed.mapped {σ : Store} {spec : Value} {rule : Rule} (keyed : σ.PlainlyKeyed spec)
    (stands : σ.Stands spec rule) :
    ∀ fields, rule = .shape fields → ∃ entries, σ.entries? fields = some entries := by
  rintro fields rfl
  obtain ⟨entries, held, _⟩ := keyed fields stands
  exact ⟨entries, held⟩

/-- A spec that is no callable from outside and, if it describes fields, has plain texts for
keys. -/
structure Native (σ : Store) (spec : Value) : Prop where
  keyed : σ.PlainlyKeyed spec
  known : ¬ σ.IsForeign spec

/-- A spec made of names, classes, literals, mappings with plain texts for keys, lists of one spec
and validators of the program only, all the way down. -/
def SelfContained (σ : Store) (spec : Value) : Prop := σ.Throughout σ.Native spec

/-- Nothing in a self-contained spec is a callable from outside. -/
theorem SelfContained.known {σ : Store} {spec : Value} (contained : σ.SelfContained spec) :
    ∀ inner, σ.Reaches spec inner → ¬ σ.IsForeign inner := by
  intro inner reached
  exact (contained inner reached).known

/-- A native spec that resolves stands for a rule. -/
theorem Native.stands {w : World} {spec : Value} {validator : Validator}
    (native : w.store.Native spec) (resolved : w.resolve spec = .ok validator) :
    ∃ rule, validator = .rule rule ∧ w.store.Stands spec rule := by
  rcases World.stands_or_foreign_of_resolve resolved with found | ⟨_, foreign⟩
  · exact found
  · exact absurd foreign native.known

/-- A spec is self-contained if it stands for a rule of which all sub-specs are, and the keys of
the rule, if it has any, are plain texts. -/
theorem SelfContained.of_stands {w : World} {spec : Value} {rule : Rule}
    (stands : w.store.Stands spec rule)
    (keyed : ∀ fields, rule = .shape fields → ∃ entries, w.store.entries? fields = some entries ∧
      ∀ entry ∈ entries, ∃ key, entry.1 = .str key)
    (below : ∀ inner ∈ rule.subSpecs w.store, w.store.SelfContained inner) :
    w.store.SelfContained spec := by
  refine .of_sub ⟨?_, stands.not_foreign⟩ ?_
  · intro fields stands'
    exact keyed fields (World.stands_unique stands stands')
  · intro rule' stands' inner member
    cases World.stands_unique stands stands'
    exact below inner member

end Store

/-! ## Self-containment, computed -/

namespace Value

/-- Whether a value is a plain text. -/
def isPlainText : Value → Bool
  | .text _ .plain => true
  | _ => false

theorem isPlainText_iff {v : Value} : v.isPlainText = true ↔ ∃ s, v = .str s := by
  constructor
  · intro plain
    unfold isPlainText at plain
    split at plain
    · exact ⟨_, rfl⟩
    · cases plain
  · rintro ⟨s, rfl⟩
    rfl

end Value

namespace Rule

/-- Whether the fields of a rule, if it has any, are those of a mapping with plain texts for
keys. -/
def hasPlainKeys (σ : Store) : Rule → Bool
  | .shape fields =>
    match σ.entries? fields with
    | some entries => entries.all fun entry => entry.1.isPlainText
    | none => false
  | _ => true

end Rule

namespace World

/-- Whether a spec has its sub-specs among the given specs, plain texts for the keys of its fields,
and is no callable from outside. -/
def encloses (w : World) (specs : List Value) (spec : Value) : Bool :=
  match w.resolve spec with
  | .error _ => true
  | .ok (.external _) => false
  | .ok (.rule rule) => (rule.subSpecs w.store).all specs.contains && rule.hasPlainKeys w.store

variable {w : World} {specs : List Value} {spec inner : Value}

/-- What an enclosed spec stands for. -/
theorem encloses_rule {rule : Rule} (enclosed : w.encloses specs spec = true)
    (stands : w.store.Stands spec rule) :
    rule.subSpecs w.store ⊆ specs ∧ rule.hasPlainKeys w.store = true := by
  simp only [encloses, resolve_of_stands stands, Bool.and_eq_true, List.all_eq_true,
    List.contains_iff_mem] at enclosed
  exact enclosed

/-- Specs that enclose one another reach nothing else. -/
theorem mem_of_reaches (enclosed : ∀ spec ∈ specs, w.encloses specs spec = true)
    (member : spec ∈ specs) (reached : w.store.Reaches spec inner) : inner ∈ specs := by
  induction reached with
  | refl => exact member
  | step _ stands below inductionHypothesis =>
    exact (encloses_rule (enclosed _ inductionHypothesis) stands).1 below

/-- A spec among specs that enclose one another is self-contained. -/
theorem selfContained_of_encloses (enclosed : ∀ spec ∈ specs, w.encloses specs spec = true)
    (member : spec ∈ specs) : w.store.SelfContained spec := by
  intro inner reached
  have closed := enclosed inner (mem_of_reaches enclosed member reached)
  constructor
  · intro fields stands
    have plain := (encloses_rule closed stands).2
    simp only [Rule.hasPlainKeys] at plain
    split at plain
    · next entries held =>
      refine ⟨entries, held, ?_⟩
      intro entry entryMember
      exact Value.isPlainText_iff.mp (List.all_eq_true.mp plain entry entryMember)
    · cases plain
  · rintro ⟨callable, noRule, classless⟩
    have wordless : ∀ s tag, inner ≠ .text s tag := by
      rintro s tag rfl
      cases callable
    simp [encloses, resolve_other wordless classless, noRule, callable] at closed

end World

/-! ## A spec that contains itself -/

namespace World

/-- A world without callables, fields and custom classes, in which a spec and a value contain
themselves. The spec asks a mapping for a list of which every item is a text or a mapping of the
same kind. Besides the value that contains itself there are one that ends in a text and one that
ends in null. -/
def ring : World where
  store := ⟨#[
    .mapping (.standard "dict" ["Mapping"]) [(.str "next", .object 2)],
    .validator (.union [.str "string", .object 0]),
    .list (.standard "list" ["Sequence"]) [.object 1],
    .mapping (.standard "dict" ["Mapping"]) [(.str "next", .object 4)],
    .list (.standard "list" ["Sequence"]) [.object 3],
    .mapping (.standard "dict" ["Mapping"]) [(.str "next", .object 6)],
    .list (.standard "list" ["Sequence"]) [.str "end"],
    .mapping (.standard "dict" ["Mapping"]) [(.str "next", .object 8)],
    .list (.standard "list" ["Sequence"]) [.null]]⟩
  external callee _ := .error (.notCallable (Store.typeName ⟨#[]⟩ callee))
  field _ _ := .ok none
  customs := .regular ⟨#[]⟩

/-- The spec of the ring consists of four specs. -/
def ringSpecs : List Value := [.object 0, .object 1, .object 2, .str "string"]

theorem ringSpecs_enclosed : ∀ spec ∈ ringSpecs, ring.encloses ringSpecs spec = true := by
  decide +kernel

theorem ring_selfContained : ring.store.SelfContained (.object 0) :=
  selfContained_of_encloses ringSpecs_enclosed (by simp [ringSpecs])

/-- The only fields that a spec of the ring stands for are those of its first object. -/
theorem ring_fields {spec fields : Value} (reached : ring.store.Reaches (.object 0) spec)
    (stands : ring.store.Stands spec (.shape fields)) : fields = .object 0 := by
  have resolved := resolve_of_stands (w := ring) stands
  have member := mem_of_reaches ringSpecs_enclosed (by simp [ringSpecs]) reached
  simp only [ringSpecs, List.mem_cons, List.not_mem_nil, or_false] at member
  rcases member with rfl | rfl | rfl | rfl <;> cases resolved
  rfl

/-- In the ring, the mapping whose list ends in null is a spec as well; it consists of three
specs. -/
def ringLiteral : List Value := [.object 7, .object 8, .null]

theorem ringLiteral_enclosed :
    ∀ spec ∈ ringLiteral, ring.encloses ringLiteral spec = true := by
  decide +kernel

/-- What the specs of the literal stand for: one mapping, one list and null. -/
theorem ringLiteral_stands {inner : Value} {rule : Rule}
    (reached : ring.store.Reaches (.object 7) inner) (stands : ring.store.Stands inner rule) :
    rule = .shape (.object 7) ∨ rule = .array .null ∨ rule = .equals .null := by
  have resolved := resolve_of_stands (w := ring) stands
  have member := mem_of_reaches ringLiteral_enclosed (by simp [ringLiteral]) reached
  simp only [ringLiteral, List.mem_cons, List.not_mem_nil, or_false] at member
  rcases member with rfl | rfl | rfl <;> cases resolved <;> simp

theorem ringLiteral_selfContained : ring.store.SelfContained (.object 7) :=
  selfContained_of_encloses ringLiteral_enclosed (by simp [ringLiteral])

theorem ringLiteral_no_union : ¬ ring.store.HasUnion (.object 7) := by
  rintro ⟨inner, alternatives, reached, stands⟩
  simpa using ringLiteral_stands reached stands

end World

end Conformance
