import Conformance.Proofs.Verdict

/-!
# Resolving a spec ahead of time

A check resolves the specs of fields, items and alternatives whenever it comes to them. Resolved
ahead of time, from the innermost specs outwards, they would all be validators before the first
check: a mapping becomes the rule for its fields with their specs replaced, a list of one spec the
rule for its items, a union the union of what its alternatives become, and everything else what
the check would resolve it to.

Run on any value at any context, both give the same outcome and log the same events, because a
validator resolves to itself and resolving a spec is the only thing that the check does with it.
Such a validator can be made of every finite spec without unknown names and callables from outside.
A spec that contains itself cannot be resolved to its end, and nothing is said about it here; but
validators made beforehand are not taken apart, so they may contain themselves.
-/

namespace Conformance

namespace Store

/-- A validator that is a spec resolved ahead of time, throughout. What is made beforehand, unions
apart, is left as it is. -/
inductive Eager (σ : Store) : Value → Value → Prop
  | mapping {spec ready fields : Value} {entries entries' : List (Value × Value)}
      (silent : σ.isCallable spec = false) (held : σ.entries? spec = some entries)
      (made : σ.rule? ready = some (.shape fields)) (held' : σ.entries? fields = some entries')
      (complete : entries.length = entries'.length)
      (keys : ∀ pair ∈ entries.zip entries', pair.2.1 = pair.1.1)
      (below : ∀ pair ∈ entries.zip entries', Eager σ pair.1.2 pair.2.2) : Eager σ spec ready
  | single {spec ready element element' : Value} (silent : σ.isCallable spec = false)
      (held : σ.listItems? spec = some [element]) (made : σ.rule? ready = some (.array element'))
      (below : Eager σ element element') : Eager σ spec ready
  | union {spec ready : Value} {alternatives alternatives' : List Value}
      (held : σ.rule? spec = some (.union alternatives))
      (made : σ.rule? ready = some (.union alternatives'))
      (complete : alternatives.length = alternatives'.length)
      (below : ∀ pair ∈ alternatives.zip alternatives', Eager σ pair.1 pair.2) : Eager σ spec ready
  | other {spec ready : Value} {rule : Rule} (stands : σ.Stands spec rule)
      (noMapping : σ.entries? spec = none)
      (noSingle : ∀ element, σ.listItems? spec ≠ some [element])
      (noUnion : ∀ alternatives, rule ≠ .union alternatives)
      (made : σ.rule? ready = some rule) : Eager σ spec ready

/-- It is a validator of the program. -/
theorem Eager.made {σ : Store} {spec ready : Value} (eager : σ.Eager spec ready) :
    ∃ rule, σ.rule? ready = some rule := by
  cases eager with
  | mapping _ _ made | single _ _ made | union _ made | other _ _ _ _ made => exact ⟨_, made⟩

end Store

namespace World

variable {w : World} {options : Options} {spec ready : Value}

/-! ## The same run -/

/-- Two specs resolve to validators that run alike, on every value and at every context. -/
def RunAlike (w : World) (options : Options) (spec ready : Value) : Prop :=
  ∃ validator validator', w.resolve spec = .ok validator ∧ w.resolve ready = .ok validator' ∧
    ∀ levels v context, w.judge options levels validator' v context =
      w.judge options levels validator v context

/-- Fields of one key are checked alike if their specs run alike. -/
theorem judgeField_eq_of_runAlike {levels : Nat} {v context : Value} {entry entry' : Value × Value}
    (key : entry'.1 = entry.1) (alike : w.RunAlike options entry.2 entry'.2) :
    w.judgeField (w.judge options levels) v context (.ok entry') =
      w.judgeField (w.judge options levels) v context (.ok entry) := by
  obtain ⟨validator, validator', resolved, resolved', same⟩ := alike
  simp only [judgeField, Run.lift_ok, pure_bind, resolved, resolved', key, same]

/-- Alternatives are checked alike if they run alike. -/
theorem judgeAlternative_eq_of_runAlike {levels : Nat} {v context alternative alternative' : Value}
    (alike : w.RunAlike options alternative alternative') :
    w.judgeAlternative (w.judge options levels) v context alternative' =
      w.judgeAlternative (w.judge options levels) v context alternative := by
  obtain ⟨validator, validator', resolved, resolved', same⟩ := alike
  simp only [judgeAlternative, Run.lift_ok, pure_bind, resolved, resolved', same]

/-- Rules that are run alike one level below whatever runs them are run alike. -/
theorem runAlike_of_judgeWith {rule rule' : Rule} (stands : w.store.Stands spec rule)
    (made : w.store.rule? ready = some rule')
    (same : ∀ levels v context,
      w.judgeWith options (w.judge options levels) (.rule rule') v context =
        w.judgeWith options (w.judge options levels) (.rule rule) v context) :
    w.RunAlike options spec ready := by
  refine ⟨_, _, resolve_of_stands stands, resolve_of_stands (.made made), ?_⟩
  intro levels v context
  cases levels with
  | zero => rfl
  | succ levels => exact same levels v context

/-- A spec and what it is when it is resolved ahead of time run alike. The induction follows the
resolution, from the innermost specs outwards. -/
theorem runAlike_of_eager (eager : w.store.Eager spec ready) : w.RunAlike options spec ready := by
  induction eager with
  | @mapping spec ready fields entries entries' silent held made held' complete keys _
      inductionHypothesis =>
    refine runAlike_of_judgeWith (.mapping silent held) made ?_
    intro levels v context
    have each : List.Forall₂ (fun entry' entry =>
        w.judgeField (w.judge options levels) v (w.contextOrRoot context) (.ok entry') =
          w.judgeField (w.judge options levels) v (w.contextOrRoot context) (.ok entry))
        entries' entries := by
      refine (List.forall₂_iff_zip.mpr ⟨complete, fun {entry entry'} pair => ?_⟩).flip
      exact judgeField_eq_of_runAlike (keys _ pair) (inductionHypothesis _ pair)
    simp only [judgeWith, judgeShape, declaredFields_of_entries? held,
      declaredFields_of_entries? held', Run.lift_ok, pure_bind, Run.firstTrue_map,
      Run.firstTrue_congr _ _ each]
  | @single spec ready element element' silent held made _ inductionHypothesis =>
    refine runAlike_of_judgeWith (.single silent held) made ?_
    intro levels v context
    obtain ⟨validator, validator', resolved, resolved', same⟩ := inductionHypothesis
    have checks : w.judge options levels validator' = w.judge options levels validator := by
      funext v context
      exact same levels v context
    simp only [judgeWith, judgeArray, resolved, resolved', Run.lift_ok, pure_bind, checks]
  | @union spec ready alternatives alternatives' held made complete _ inductionHypothesis =>
    refine runAlike_of_judgeWith (.made held) made ?_
    intro levels v context
    have each : List.Forall₂ (fun alternative' alternative =>
        w.judgeAlternative (w.judge options levels) v (w.contextOrRoot context) alternative' =
          w.judgeAlternative (w.judge options levels) v (w.contextOrRoot context) alternative)
        alternatives' alternatives := by
      refine (List.forall₂_iff_zip.mpr ⟨complete, fun {alternative alternative'} pair => ?_⟩).flip
      exact judgeAlternative_eq_of_runAlike (inductionHypothesis _ pair)
    simp only [judgeWith, judgeUnion, Run.allTrue_congr _ each]
  | other stands _ _ _ made =>
    exact runAlike_of_judgeWith stands made fun _ _ _ => rfl

/-- A validator that is a spec resolved ahead of time ends as the spec does when it is resolved step
by step, and logs the same events. -/
theorem run_eq_of_eager (eager : w.store.Eager spec ready) :
    ∃ rule, w.store.rule? ready = some rule ∧ ∀ options v context,
      w.run options (.rule rule) v context = w.runSpec options spec v context := by
  obtain ⟨rule, made⟩ := eager.made
  refine ⟨rule, made, ?_⟩
  intro options v context
  obtain ⟨validator, validator', resolved, resolved', same⟩ := runAlike_of_eager eager
  cases (resolve_of_stands (.made made)).symm.trans resolved'
  rw [runSpec, resolved, Run.lift_ok, pure_bind, run, run, same]

end World

/-! ## Making the validator -/

namespace Store

variable {σ σ' : Store} {spec : Value} {rule : Rule}

/-- A spec that is there stands for the same rule after the store has grown. -/
theorem GrowsTo.stands (grows : σ.GrowsTo σ') (present : spec.place ≤ σ.size)
    (stands : σ.Stands spec rule) : σ'.Stands spec rule := by
  obtain ⟨callable, entries, items, rules⟩ := grows.same present
  cases stands with
  | kindName kind tag => exact .kindName kind tag
  | cls c => exact .cls c
  | made held => exact .made (rules.trans held)
  | mapping silent held => exact .mapping (callable.trans silent) (entries.trans held)
  | single silent held => exact .single (callable.trans silent) (items.trans held)
  | literal silent wordless noMapping noSingle =>
    exact .literal (callable.trans silent) wordless (entries.trans noMapping) (items ▸ noSingle)

/-- A finite spec without unknown names and callables from outside: it is in the store and stands
for a rule, and so do its sub-specs, theirs, and so on, until there are none. -/
inductive FiniteSpec (σ : Store) : Value → Prop
  | intro {spec : Value} {rule : Rule} (present : spec.place ≤ σ.size) (stands : σ.Stands spec rule)
      (below : ∀ inner ∈ rule.subSpecs σ, FiniteSpec σ inner) : FiniteSpec σ spec

/-- A spec can be resolved ahead of time, however the store has grown: objects can be added so that
one of them is the spec resolved, and remains it. -/
def Readies (σ : Store) (spec : Value) : Prop :=
  ∀ σ', σ.GrowsTo σ' → ∃ σ'' ready, σ'.GrowsTo σ'' ∧ ∀ later, σ''.GrowsTo later →
    later.Eager spec ready

/-- One after the other, the members of a list can be resolved ahead of time if each can. -/
theorem readies_all {specs : List Value} (each : ∀ spec ∈ specs, σ.Readies spec)
    (grows : σ.GrowsTo σ') :
    ∃ σ'' readied, σ'.GrowsTo σ'' ∧ ∀ later, σ''.GrowsTo later →
      List.Forall₂ later.Eager specs readied := by
  induction specs generalizing σ' with
  | nil => exact ⟨σ', [], .refl σ', fun _ _ => .nil⟩
  | cons spec rest inductionHypothesis =>
    obtain ⟨first, ready, further, eager⟩ := each spec (by simp) σ' grows
    obtain ⟨last, readied, further', others⟩ :=
      inductionHypothesis (fun other member => each other (by simp [member])) (grows.trans further)
    refine ⟨last, ready :: readied, further.trans further', ?_⟩
    intro later grows'
    exact .cons (eager later (further'.trans grows')) (others later grows')

/-- Values paired with keys again are related to the values they were made from, under the same
keys. -/
theorem forall₂_zip_of_values {R : Value → Value → Prop} {entries : List (Value × Value)}
    {values : List Value} (each : List.Forall₂ R (entries.map (·.2)) values) :
    List.Forall₂ (fun entry entry' => entry'.1 = entry.1 ∧ R entry.2 entry'.2) entries
      ((entries.map (·.1)).zip values) := by
  induction entries generalizing values with
  | nil => exact .nil
  | cons entry rest inductionHypothesis =>
    cases each with
    | cons related others => exact .cons ⟨rfl, related⟩ (inductionHypothesis others)

/-- A rule that is added is that of its object, however the store grows. -/
theorem rule?_of_added (σ : Store) (rule : Rule) {later : Store}
    (grows : (σ.insert (.validator rule)).1.GrowsTo later) :
    later.rule? (.object (σ.insert (.validator rule)).2) = some rule :=
  rule?_eq_some_iff.mpr ⟨_, rfl, grows _ _ (cell?_insert_new σ _)⟩

/-- A spec without parts to be resolved ahead of it becomes a validator of its rule. -/
theorem readies_other (stands : σ.Stands spec rule) (present : spec.place ≤ σ.size)
    (noMapping : σ.entries? spec = none) (noSingle : ∀ element, σ.listItems? spec ≠ some [element])
    (noUnion : ∀ alternatives, rule ≠ .union alternatives) : σ.Readies spec := by
  intro σ' grows
  let last := σ'.insert (.validator rule)
  refine ⟨last.1, .object last.2, .insert σ' _, ?_⟩
  intro later grows'
  have whole : σ.GrowsTo later := (grows.trans (.insert σ' _)).trans grows'
  obtain ⟨_, entries, items, _⟩ := whole.same present
  exact .other (whole.stands present stands) (entries.trans noMapping) (items ▸ noSingle) noUnion
    (rule?_of_added σ' rule grows')

/-- A mapping becomes the rule for a mapping of the same keys, whose specs have been resolved. -/
theorem readies_mapping {entries : List (Value × Value)} (silent : σ.isCallable spec = false)
    (held : σ.entries? spec = some entries) (present : spec.place ≤ σ.size)
    (each : ∀ entry ∈ entries, σ.Readies entry.2) : σ.Readies spec := by
  intro σ' grows
  obtain ⟨_, cls, _, _⟩ := entries?_eq_some_iff.mp held
  have specs : ∀ spec ∈ entries.map (·.2), σ.Readies spec := by
    intro spec member
    obtain ⟨entry, listed, rfl⟩ := List.mem_map.mp member
    exact each entry listed
  obtain ⟨first, readied, further, eager⟩ := readies_all specs grows
  let cell : Cell := .mapping cls ((entries.map (·.1)).zip readied)
  let second := (first.insert cell).1
  let fields : Value := .object (first.insert cell).2
  let last := second.insert (.validator (.shape fields))
  refine ⟨last.1, .object last.2, (further.trans (.insert first cell)).trans (.insert second _), ?_⟩
  intro later grows'
  have fromSecond : second.GrowsTo later := (GrowsTo.insert second _).trans grows'
  have fromFirst : first.GrowsTo later := (GrowsTo.insert first cell).trans fromSecond
  have whole : σ.GrowsTo later := (grows.trans further).trans fromFirst
  obtain ⟨callable, _⟩ := whole.same present
  have made := rule?_of_added second (.shape fields) grows'
  have held' : later.entries? fields = some ((entries.map (·.1)).zip readied) :=
    entries?_eq_some_iff.mpr ⟨_, cls, rfl, fromSecond _ _ (cell?_insert_new first cell)⟩
  have pairs := List.forall₂_iff_zip.mp (forall₂_zip_of_values (eager later fromFirst))
  exact .mapping (callable.trans silent) (whole.entries? held) made held' pairs.1
    (fun pair member => (pairs.2 member).1) (fun pair member => (pairs.2 member).2)

/-- A list of one spec becomes the rule for items of that spec, which has been resolved. -/
theorem readies_single {element : Value} (silent : σ.isCallable spec = false)
    (held : σ.listItems? spec = some [element]) (present : spec.place ≤ σ.size)
    (inner : σ.Readies element) : σ.Readies spec := by
  intro σ' grows
  obtain ⟨first, ready, further, eager⟩ := inner σ' grows
  let last := first.insert (.validator (.array ready))
  refine ⟨last.1, .object last.2, further.trans (.insert first _), ?_⟩
  intro later grows'
  have fromFirst : first.GrowsTo later := (GrowsTo.insert first _).trans grows'
  have whole : σ.GrowsTo later := (grows.trans further).trans fromFirst
  obtain ⟨callable, _, items, _⟩ := whole.same present
  exact .single (callable.trans silent) (items.trans held)
    (rule?_of_added first (.array ready) grows') (eager later fromFirst)

/-- A union becomes the union of its alternatives, which have been resolved. -/
theorem readies_union {alternatives : List Value} (held : σ.rule? spec = some (.union alternatives))
    (each : ∀ alternative ∈ alternatives, σ.Readies alternative) : σ.Readies spec := by
  intro σ' grows
  obtain ⟨first, readied, further, eager⟩ := readies_all each grows
  let last := first.insert (.validator (.union readied))
  refine ⟨last.1, .object last.2, further.trans (.insert first _), ?_⟩
  intro later grows'
  have fromFirst : first.GrowsTo later := (GrowsTo.insert first _).trans grows'
  have whole : σ.GrowsTo later := (grows.trans further).trans fromFirst
  have pairs := List.forall₂_iff_zip.mp (eager later fromFirst)
  exact .union (whole.rule? held) (rule?_of_added first (.union readied) grows') pairs.1
    (fun pair member => pairs.2 member)

/-- Every finite spec can be resolved ahead of time. The induction follows the spec: what it is made
of has been resolved before it. -/
theorem exists_eager (finite : σ.FiniteSpec spec) :
    ∃ σ' ready, σ.GrowsTo σ' ∧ σ'.Eager spec ready := by
  have readies : σ.Readies spec := by
    induction finite with
    | @intro spec rule present stands _ below =>
      cases stands with
      | kindName kind tag =>
        exact readies_other (.kindName kind tag) present rfl (by simp [listItems?]) (by simp)
      | cls c => exact readies_other (.cls c) present rfl (by simp [listItems?]) (by simp)
      | literal silent wordless noMapping noSingle =>
        exact readies_other (.literal silent wordless noMapping noSingle) present noMapping noSingle
          (by simp)
      | mapping silent held =>
        exact readies_mapping silent held present
          fun entry member => below entry.2 (Rule.mem_subSpecs_shape held member)
      | single silent held =>
        exact readies_single silent held present (below _ (List.mem_singleton_self _))
      | made held =>
        by_cases union : ∃ alternatives, rule = .union alternatives
        · obtain ⟨alternatives, rfl⟩ := union
          exact readies_union held below
        · obtain ⟨address, rfl, found⟩ := rule?_eq_some_iff.mp held
          exact readies_other (.made held) present (by simp [Store.entries?, found])
            (by simp [listItems?, found]) (by simpa using union)
  obtain ⟨σ', ready, grows, eager⟩ := readies σ (.refl σ)
  exact ⟨σ', ready, grows, eager σ' (.refl σ')⟩

end Store

namespace World

/-- A finite spec can be resolved ahead of time, and wherever that has been done, the validator that
it has become ends as the spec does when it is resolved step by step: with the same outcome and the
same events, on every value, at every context and under all options. -/
theorem run_eager_eq (w : World) (spec : Value) (finite : w.store.FiniteSpec spec) :
    (∃ σ ready, w.store.GrowsTo σ ∧ σ.Eager spec ready) ∧
      ∀ (w' : World) (ready : Value), w'.store.Eager spec ready →
        ∃ rule, w'.store.rule? ready = some rule ∧ ∀ options v context,
          w'.run options (.rule rule) v context = w'.runSpec options spec v context :=
  ⟨Store.exists_eager finite, fun _ _ eager => run_eq_of_eager eager⟩

/-- A mapping with a list of texts and nulls, its specs resolved ahead of time, and a mapping whose
list ends in a number. -/
def readied : World where
  store := ⟨#[
    .mapping (.standard "dict" ["Mapping"]) [(.str "a", .str "number"), (.str "b", .object 1)],
    .list (.standard "list" ["Sequence"]) [.object 2],
    .validator (.union [.str "string", .null]),
    .validator (.ofKind .number),
    .validator (.ofKind .string),
    .validator (.equals .null),
    .validator (.union [.object 4, .object 5]),
    .validator (.array (.object 6)),
    .mapping (.standard "dict" ["Mapping"]) [(.str "a", .object 3), (.str "b", .object 7)],
    .validator (.shape (.object 8)),
    .mapping (.standard "dict" ["Mapping"]) [(.str "a", .int 1), (.str "b", .object 11)],
    .list (.standard "list" ["Sequence"]) [.str "x", .null, .int 2]]⟩
  external _ _ := .error (.notCallable "object")
  field _ _ := .ok none
  customs := .regular ⟨#[]⟩

/-- Null stands for itself. -/
theorem readied_null : readied.store.Stands .null (.equals .null) :=
  .literal rfl (by simp) rfl (by simp [Store.listItems?])

theorem readied_eager : readied.store.Eager (.object 0) (.object 9) := by
  have kind (k : Kind) {ready : Value} (made : readied.store.rule? ready = some (.ofKind k)) :
      readied.store.Eager (.str k.name) ready :=
    .other (.kindName k .plain) rfl (by simp [Store.listItems?, Value.str]) (by simp) made
  have null : readied.store.Eager .null (.object 5) :=
    .other readied_null rfl (by simp [Store.listItems?]) (by simp) rfl
  have either : readied.store.Eager (.object 2) (.object 6) := by
    refine .union rfl rfl rfl ?_
    simpa using ⟨kind .string rfl, null⟩
  have fields : readied.store.Eager (.object 1) (.object 7) := .single rfl rfl rfl either
  refine .mapping rfl rfl rfl rfl rfl (by simp) ?_
  simpa using ⟨kind .number rfl, fields⟩

theorem readied_finite : readied.store.FiniteSpec (.object 0) := by
  have kind (k : Kind) : readied.store.FiniteSpec (.str k.name) :=
    .intro (Nat.zero_le _) (.kindName k .plain) (by simp [Rule.subSpecs])
  have null : readied.store.FiniteSpec .null :=
    .intro (Nat.zero_le _) readied_null (by simp [Rule.subSpecs])
  have either : readied.store.FiniteSpec (.object 2) := by
    refine .intro (by decide) (.made rfl) ?_
    simpa [Rule.subSpecs] using ⟨kind .string, null⟩
  have fields : readied.store.FiniteSpec (.object 1) := by
    refine .intro (by decide) (.single rfl rfl) ?_
    simpa [Rule.subSpecs] using either
  have parts : (Rule.shape (.object 0)).subSpecs readied.store = [.str "number", .object 1] := rfl
  refine .intro (by decide) (.mapping rfl rfl) ?_
  rw [parts]
  simpa using ⟨kind .number, fields⟩

/-- Both ways the number is found to be neither a text nor null. -/
theorem readied_run_eq :
    readied.store.FiniteSpec (.object 0) ∧ readied.store.Eager (.object 0) (.object 9) ∧
      readied.run {} (.rule (.shape (.object 8))) (.object 10) (.rootPath (.str "")) =
        readied.runSpec {} (.object 0) (.object 10) (.rootPath (.str "")) ∧
      (readied.runSpec {} (.object 0) (.object 10) (.rootPath (.str ""))).outcome =
        .ok (.failure (.str ("Expected the value to pass one of the provided validators:\n" ++
          "b.2 |> Expected type string but received number\n" ++
          "b.2 |> Expected value to equal None but received 2"))
          (.path (.str "b.2") (.int 2) 0) 0) := by
  obtain ⟨rule, made, same⟩ := (run_eager_eq readied (.object 0) readied_finite).2 readied (.object 9)
    readied_eager
  cases made
  exact ⟨readied_finite, readied_eager, same _ _ _, by decide +kernel⟩

end World

end Conformance
