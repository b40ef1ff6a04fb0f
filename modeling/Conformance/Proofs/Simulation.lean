import Conformance.Proofs.Verdict

/-!
# Two runs in step

The same validator is run twice on the same value, at contexts that are equally deep, under options
that agree on the depth limit. What else may differ is kept in a simulation: the bases of the paths,
how values are rendered into messages, and what callables from outside make of either.

None of it decides anything. The depth guard looks at the depth alone, a rule without parts at the
value alone, and a loop goes on or stops by the truth of a result, not by its words. So the two runs
make the same calls, log the same kinds of events and end in the same way, whatever the number of
levels they are run through.
-/

namespace Conformance

/-- Two options under which containers may be equally deep. -/
def Options.SameLimit (options options' : Options) : Prop := options'.maxDepth = options.maxDepth

namespace Options.SameLimit

theorem refl (options : Options) : options.SameLimit options := rfl

theorem eq {options options' : Options} (same : options.SameLimit options') :
    options'.maxDepth = options.maxDepth := same

end Options.SameLimit

/-! ## Outcomes and runs in step -/

/-- Two outcomes in step: the same fault, or values that correspond. -/
inductive Parallel {α β : Type} (R : α → β → Prop) : Except Fault α → Except Fault β → Prop
  | fault (fault : Fault) : Parallel R (.error fault) (.error fault)
  | value {value : α} {value' : β} (related : R value value') : Parallel R (.ok value) (.ok value')

namespace Parallel

variable {α β γ δ : Type} {R : α → β → Prop} {S : γ → δ → Prop}

/-- An outcome is in step with itself when every value corresponds to itself. -/
theorem refl {R : α → α → Prop} (reflexive : ∀ value, R value value) (outcome : Except Fault α) :
    Parallel R outcome outcome := by
  cases outcome with
  | error fault => exact .fault fault
  | ok value => exact .value (reflexive value)

/-- What follows two outcomes in step is in step if it is so at the values they give. -/
theorem bind {first : Except Fault α} {first' : Except Fault β} {next : α → Except Fault γ}
    {next' : β → Except Fault δ} (start : Parallel R first first')
    (followed : ∀ value value', R value value' → Parallel S (next value) (next' value')) :
    Parallel S (first >>= next) (first' >>= next') := by
  cases start with
  | fault fault => exact .fault fault
  | value related => exact followed _ _ related

/-- What follows the same outcome is in step if it is so at the value of that outcome. -/
theorem next {outcome : Except Fault α} {next : α → Except Fault γ} {next' : α → Except Fault δ}
    (followed : ∀ value, outcome = .ok value → Parallel S (next value) (next' value)) :
    Parallel S (outcome >>= next) (outcome >>= next') := by
  cases outcome with
  | error fault => exact .fault fault
  | ok value => exact followed value rfl

/-- An outcome in step with a value is a value that corresponds to it. -/
theorem ok {value : α} {outcome : Except Fault β} (parallel : Parallel R (.ok value) outcome) :
    ∃ value', outcome = .ok value' ∧ R value value' := by
  cases parallel with
  | value related => exact ⟨_, rfl, related⟩

theorem ok_right {value' : β} {outcome : Except Fault α}
    (parallel : Parallel R outcome (.ok value')) : ∃ value, outcome = .ok value ∧ R value value' := by
  cases parallel with
  | value related => exact ⟨_, rfl, related⟩

/-- The outcomes of two lists are in step if they are so member by member. -/
theorem mapM {items : List α} {items' : List β} {outcome : α → Except Fault γ}
    {outcome' : β → Except Fault δ}
    (each : List.Forall₂ (fun item item' => Parallel S (outcome item) (outcome' item'))
      items items') :
    Parallel (List.Forall₂ S) (items.mapM outcome) (items'.mapM outcome') := by
  induction each with
  | nil => exact .value .nil
  | cons head _ inductionHypothesis =>
    rw [List.mapM_cons, List.mapM_cons]
    refine head.bind fun value value' related => ?_
    refine inductionHypothesis.bind fun values values' others => ?_
    exact .value (.cons related others)

end Parallel

namespace Run

variable {α β γ δ ι : Type} {E : Event → Event → Prop} {R : α → β → Prop} {S : γ → δ → Prop}

/-- Two runs in step: their events correspond one by one, and their outcomes are in step. -/
structure Parallel (E : Event → Event → Prop) (R : α → β → Prop) (run : Run α) (run' : Run β) :
    Prop where
  events : List.Forall₂ E run.events run'.events
  outcome : Conformance.Parallel R run.outcome run'.outcome

namespace Parallel

theorem pure {value : α} {value' : β} (related : R value value') :
    (Pure.pure value : Run α).Parallel E R (Pure.pure value') := ⟨.nil, .value related⟩

theorem lift {outcome : Except Fault α} {outcome' : Except Fault β}
    (parallel : Conformance.Parallel R outcome outcome') :
    (Run.lift outcome).Parallel E R (Run.lift outcome') := ⟨.nil, parallel⟩

/-- What follows two runs in step is in step if it is so at the values they give. -/
theorem bind {run : Run α} {run' : Run β} {next : α → Run γ} {next' : β → Run δ}
    (start : run.Parallel E R run')
    (followed : ∀ value value', R value value' → (next value).Parallel E S (next' value')) :
    (run >>= next).Parallel E S (run' >>= next') := by
  obtain ⟨events, outcome⟩ := start
  generalize ended : run.outcome = first at outcome
  generalize ended' : run'.outcome = first' at outcome
  cases outcome with
  | fault fault =>
    rw [bind_of_error ended, bind_of_error ended']
    exact ⟨events, .fault fault⟩
  | value related =>
    rw [bind_of_ok ended, bind_of_ok ended']
    have rest := followed _ _ related
    exact ⟨List.rel_append events rest.events, rest.outcome⟩

/-- What follows the same outcome is in step if it is so at the value of that outcome. -/
theorem next {outcome : Except Fault α} {next : α → Run γ} {next' : α → Run δ}
    (followed : ∀ value, outcome = .ok value → (next value).Parallel E S (next' value)) :
    (Run.lift outcome >>= next).Parallel E S (Run.lift outcome >>= next') := by
  cases outcome with
  | error fault => exact ⟨.nil, .fault fault⟩
  | ok value =>
    rw [lift_ok, pure_bind, pure_bind]
    exact followed value rfl

section Loops

variable {isTrue : α → Bool} {isTrue' : β → Bool} {step : ι → Run α} {step' : ι → Run β}
  {items : List ι} (truth : ∀ value value', R value value' → isTrue value = isTrue' value')
  (each : ∀ item ∈ items, (step item).Parallel E R (step' item))
include truth each

/-- Loops that stop at the first true value are in step if their steps are and values that
correspond are true together. -/
theorem firstTrue {otherwise : α} {otherwise' : β} (last : R otherwise otherwise') :
    (Run.firstTrue isTrue step otherwise [] items).Parallel E R
      (Run.firstTrue isTrue' step' otherwise' [] items) := by
  induction items with
  | nil => exact pure last
  | cons item rest inductionHypothesis =>
    rw [firstTrue_cons, firstTrue_cons]
    refine (each item (by simp)).bind fun value value' related => ?_
    rw [truth value value' related]
    split
    · exact pure related
    · exact inductionHypothesis fun other member => each other (by simp [member])

/-- Loops that stop at the first value that is not true are in step likewise. -/
theorem allTrue {earlier : List α} {earlier' : List β} (before : List.Forall₂ R earlier earlier') :
    (Run.allTrue isTrue step [] earlier items).Parallel E (Option.Rel (List.Forall₂ R))
      (Run.allTrue isTrue' step' [] earlier' items) := by
  induction items generalizing earlier earlier' with
  | nil => exact pure (.some (List.rel_reverse before))
  | cons item rest inductionHypothesis =>
    rw [allTrue_cons, allTrue_cons]
    refine (each item (by simp)).bind fun value value' related => ?_
    rw [truth value value' related]
    split
    · exact inductionHypothesis (fun other member => each other (by simp [member]))
        (.cons related before)
    · exact pure .none

end Loops

end Parallel

end Run

namespace World

variable {w : World} {options options' : Options} {v : Value}

/-! ## What corresponds along paths -/

/-- Messages that need not agree. -/
def AnyWords (_ _ : String) : Prop := True

/-- Results correspond when both are null, or both are failures that lie equally deep, at paths
whose bases correspond, and say what corresponds. -/
inductive ResultsAlong (bases : Value → Value → Prop) (worded : String → String → Prop) :
    Value → Value → Prop
  | null : ResultsAlong bases worded .null .null
  | failure {base base' : Value} {message message' : String} (depth : Int)
      (placed : bases base base') (said : worded message message') :
      ResultsAlong bases worded (ownFailure message (.path base (.int depth) 0))
        (ownFailure message' (.path base' (.int depth) 0))

/-- Events correspond when they are of one kind, lie at bases that correspond, and say what
corresponds. -/
inductive EventsAlong (bases : Value → Value → Prop) (worded : String → String → Prop) :
    Event → Event → Prop
  | rejected {base base' : Value} {message message' : String} (placed : bases base base')
      (said : worded message message') :
      EventsAlong bases worded (.rejected base (.str message)) (.rejected base' (.str message'))
  | depthExceeded {base base' : Value} (placed : bases base base') (limit : Nat) :
      EventsAlong bases worded (.depthExceeded base limit) (.depthExceeded base' limit)

section Along

variable {bases : Value → Value → Prop} {worded : String → String → Prop} {result result' : Value}

theorem ResultsAlong.truth (along : ResultsAlong bases worded result result') :
    w.store.isTrue result = w.store.isTrue result' := by
  cases along <;> rfl

/-- Failures that correspond can be written into the failure of a union together or not at all, if
this holds of the bases of their paths. -/
theorem ResultsAlong.line (along : ResultsAlong bases worded result result')
    (spoken : ∀ base base', bases base base' →
      Parallel (fun _ _ => True) (w.text base) (w.text base')) :
    Parallel (fun _ _ => True) (w.alternativeLine result) (w.alternativeLine result') := by
  cases along with
  | null => exact .fault _
  | failure depth placed said =>
    simp only [alternativeLine, asPair, parts?, ownFailure]
    refine (spoken _ _ placed).bind fun location location' _ => ?_
    exact .value trivial

end Along

/-- The base of a path after one more segment. -/
def lengthened (w : World) (base : Value) (segment : String) : Except Fault String := do
  if w.store.isTrue base then return (← w.text base) ++ "." ++ segment else return segment

/-- A path is extended by lengthening its base, and the extension is one deeper. -/
theorem call_eq_lengthened {segment : Value} (proper : segment ≠ .null) (base : Value)
    (depth : Int) (mark : Nat) :
    w.call (.path base (.int depth) mark) [segment] = do
      let segment ← w.text segment
      let location ← w.lengthened base segment
      return .path (.str location) (.int (depth + 1)) 0 := by
  have next : w.deeper (.int depth) = .ok (.int (depth + 1)) := rfl
  simp only [call, extendPath, proper, if_false, next, lengthened]
  congr 1
  funext text
  split
  · cases w.text base <;> rfl
  · rfl

/-- Under the same options a value is rendered alike. -/
theorem rendered_alike (w : World) (options : Options) (v : Value) :
    Parallel (fun shown shown' => options = options → shown' = shown)
      (w.rendering options v) (w.rendering options v) := .refl (fun _ _ => rfl) _

/-! ## Simulations -/

/-- What two runs of a validator may differ in, and why they stay in step in spite of it. -/
structure Simulation (w : World) (options options' : Options) where
  /-- Which bases of paths correspond. -/
  bases : Value → Value → Prop
  /-- Which messages correspond. -/
  worded : String → String → Prop
  /-- Which results correspond: those along the paths, and maybe others. -/
  results : Value → Value → Prop
  /-- The texts by which paths are extended. -/
  segments : String → Prop
  limit : options.SameLimit options'
  wording : ∀ message message', (options' = options → message' = message) → worded message message'
  rendered : ∀ v, Parallel (fun shown shown' => options' = options → shown' = shown)
    (w.rendering options v) (w.rendering options' v)
  numeral : ∀ place, segments (Text.natText place)
  lengthen : ∀ {base base' segment}, bases base base' → segments segment →
    Parallel (fun location location' => bases (.str location) (.str location'))
      (w.lengthened base segment) (w.lengthened base' segment)
  along : ∀ {result result'}, ResultsAlong bases worded result result' → results result result'
  truth : ∀ result result', results result result' →
    w.store.isTrue result = w.store.isTrue result'
  line : ∀ result result', results result result' →
    Parallel (fun _ _ => True) (w.alternativeLine result) (w.alternativeLine result')

namespace Simulation

variable (S : w.Simulation options options')

/-- Contexts correspond when they are equally deep paths whose bases correspond. -/
inductive Contexts : Value → Value → Prop
  | path {base base' : Value} (placed : S.bases base base') (depth : Int) :
      Contexts (.path base (.int depth) 0) (.path base' (.int depth) 0)

/-- The events that correspond. -/
abbrev Events : Event → Event → Prop := EventsAlong S.bases S.worded

/-- A spec that keeps its runs in step: paths are extended by the texts of its keys, a union occurs
only where all messages correspond, since the paths of its alternatives are part of its message,
and a callable from outside keeps step itself. -/
structure Admits (spec : Value) : Prop where
  keyed : ∀ fields, w.store.Stands spec (.shape fields) →
    ∃ entries, w.store.entries? fields = some entries ∧ ∀ entry ∈ entries,
      entry.1 ≠ .null ∧ ∀ text, w.text entry.1 = .ok text → S.segments text
  combined : ∀ alternatives, w.store.Stands spec (.union alternatives) →
    ∀ message message', S.worded message message'
  outside : w.store.IsForeign spec → ∀ v context context', S.Contexts context context' →
    Parallel S.results (w.call spec [v, context]) (w.call spec [v, context'])

variable {S} {context context' : Value} {check check' : Validator → Value → Value → Run Value}

theorem worded_refl (message : String) : S.worded message message :=
  S.wording message message fun _ => rfl

theorem null : S.results .null .null := S.along .null

/-- A native spec keeps its runs in step if its keys extend paths and its unions, should it stand
for one, may say anything. -/
theorem Admits.of_native {spec : Value} (native : w.store.Native spec)
    (spoken : ∀ fields entries, w.store.Stands spec (.shape fields) →
      w.store.entries? fields = some entries → ∀ entry ∈ entries, ∀ key, entry.1 = .str key →
        S.segments key)
    (combined : ∀ alternatives, w.store.Stands spec (.union alternatives) →
      ∀ message message', S.worded message message') : S.Admits spec := by
  refine ⟨?_, combined, fun foreign => absurd foreign native.known⟩
  intro fields stands
  obtain ⟨entries, held, keys⟩ := native.keyed fields stands
  refine ⟨entries, held, ?_⟩
  intro entry member
  obtain ⟨key, plain⟩ := keys entry member
  have segment := spoken fields entries stands held entry member key plain
  rw [plain]
  refine ⟨by simp [Value.str], ?_⟩
  rintro text written
  cases written
  exact segment

/-- Values in a row are rendered in step as well. -/
theorem renderings (S : w.Simulation options options') (values : List Value) :
    Parallel (fun shown shown' => options' = options → shown' = shown)
      (values.mapM (w.rendering options)) (values.mapM (w.rendering options')) := by
  induction values with
  | nil => exact .value fun _ => rfl
  | cons v rest inductionHypothesis =>
    rw [List.mapM_cons, List.mapM_cons]
    refine (S.rendered v).bind fun shown shown' same => ?_
    refine inductionHypothesis.bind fun others others' same' => ?_
    exact .value fun own => by rw [same own, same' own]

/-! ## Steps at contexts that correspond -/

namespace Contexts

theorem root (contexts : S.Contexts context context') :
    w.contextOrRoot context = context ∧ w.contextOrRoot context' = context' := by
  cases contexts
  exact ⟨rfl, rfl⟩

theorem failure (contexts : S.Contexts context context') {message message' : String}
    (said : S.worded message message') :
    S.results (ownFailure message context) (ownFailure message' context') := by
  cases contexts with
  | path placed depth => exact S.along (.failure depth placed said)

/-- Extended by the same segment, contexts that correspond do so again. -/
theorem extend (contexts : S.Contexts context context') {segment : Value}
    (proper : segment ≠ .null) (spoken : ∀ text, w.text segment = .ok text → S.segments text) :
    Parallel S.Contexts (w.call context [segment]) (w.call context' [segment]) := by
  cases contexts with
  | path placed depth =>
    rw [call_eq_lengthened proper, call_eq_lengthened proper]
    refine .next fun text written => ?_
    refine (S.lengthen placed (spoken text written)).bind fun location location' further => ?_
    exact .value (.path further (depth + 1))

/-- The guard looks at the depth only, and logs and fails at the context it was asked at. -/
theorem guard (contexts : S.Contexts context context') :
    (w.guardDepth options context).Parallel S.Events (Option.Rel S.results)
      (w.guardDepth options' context') := by
  cases contexts with
  | @path base base' placed depth =>
    have located : (Value.path base (.int depth) 0).depth? = some depth := rfl
    have located' : (Value.path base' (.int depth) 0).depth? = some depth := rfl
    by_cases below : depth < options.maxDepth
    · have below' : depth < options'.maxDepth := by rwa [S.limit.eq]
      rw [guardDepth_below located below, guardDepth_below located' below']
      exact .pure .none
    · have reached' : ¬ depth < options'.maxDepth := by rwa [S.limit.eq]
      obtain ⟨_, _, _, same, guard⟩ := guardDepth_reached (w := w) located below
      obtain ⟨_, _, _, same', guard'⟩ := guardDepth_reached (w := w) located' reached'
      cases same
      cases same'
      rw [guard, guard', S.limit.eq]
      refine ⟨.cons (.depthExceeded placed _) .nil, ?_⟩
      cases writable (Text.intText? options.maxDepth) with
      | error fault => exact .fault fault
      | ok limit => exact .value (.some (S.along (.failure depth placed (worded_refl _))))

/-- Whether a rule without parts passes depends on the value alone; options and context show only
in the failure. -/
theorem leaf (contexts : S.Contexts context context') {rule : Rule} (whole : rule.IsLeaf) :
    Parallel S.results (w.judgeLeaf options v context rule)
      (w.judgeLeaf options' v context' rule) := by
  have failed {message message' : String} (said : options' = options → message' = message) :
      S.results (w.failureAt context message) (w.failureAt context' message') := by
    rw [failureAt, failureAt, contexts.root.1, contexts.root.2]
    exact contexts.failure (S.wording message message' said)
  cases rule with
  | ofKind kind =>
    simp only [judgeLeaf]
    split
    · exact .value null
    · exact .value (failed fun _ => rfl)
  | equals expected =>
    refine .next fun passed _ => ?_
    cases passed with
    | true => exact .value null
    | false =>
      refine (S.rendered expected).bind fun shown shown' same => ?_
      refine (S.rendered v).bind fun received received' same' => ?_
      exact .value (failed fun own => by rw [same own, same' own])
  | instanceOf _ _ =>
    refine .next fun passed _ => ?_
    cases passed with
    | true => exact .value null
    | false =>
      refine (S.rendered v).bind fun received received' same' => ?_
      exact .value (failed fun own => by rw [same' own])
  | oneOf allowed =>
    refine .next fun passed _ => ?_
    cases passed with
    | true => exact .value null
    | false =>
      refine (S.renderings allowed).bind fun shown shown' same => ?_
      refine (S.rendered v).bind fun received received' same' => ?_
      exact .value (failed fun own => by rw [same own, same' own])
  | shape _ | array _ | union _ => cases whole

theorem field (contexts : S.Contexts context context') {entry : Value × Value}
    (proper : entry.1 ≠ .null) (spoken : ∀ text, w.text entry.1 = .ok text → S.segments text)
    (parts : ∀ validator part inner inner', w.resolve entry.2 = .ok validator →
      S.Contexts inner inner' →
      (check validator part inner).Parallel S.Events S.results (check' validator part inner')) :
    (w.judgeField check v context (.ok entry)).Parallel S.Events S.results
      (w.judgeField check' v context' (.ok entry)) := by
  simp only [judgeField, Run.lift_ok, pure_bind]
  refine .next fun validator resolved => ?_
  refine .next fun part _ => ?_
  refine (Run.Parallel.lift (contexts.extend proper spoken)).bind fun inner inner' deeper => ?_
  exact parts validator part inner inner' resolved deeper

/-- Shapes are in step if their fields are. -/
theorem shape (contexts : S.Contexts context context') {fields : Value}
    {entries : List (Value × Value)} (held : w.store.entries? fields = some entries)
    (each : ∀ entry ∈ entries, (w.judgeField check v context (.ok entry)).Parallel S.Events
      S.results (w.judgeField check' v context' (.ok entry))) :
    (w.judgeShape options check fields v context).Parallel S.Events S.results
      (w.judgeShape options' check' fields v context') := by
  simp only [judgeShape, declaredFields_of_entries? held, Run.lift_ok, pure_bind]
  split
  · exact .pure (contexts.failure (worded_refl _))
  split
  · exact .pure (contexts.failure (worded_refl _))
  refine contexts.guard.bind fun verdict verdict' related => ?_
  cases related with
  | some tooDeep => exact .pure tooDeep
  | none =>
    rw [Run.firstTrue_map, Run.firstTrue_map]
    exact .firstTrue S.truth each null

/-- Arrays are in step if the checks of their items are. -/
theorem array (contexts : S.Contexts context context') {element : Value}
    (parts : ∀ validator part inner inner', w.resolve element = .ok validator →
      S.Contexts inner inner' →
      (check validator part inner).Parallel S.Events S.results (check' validator part inner')) :
    (w.judgeArray options check element v context).Parallel S.Events S.results
      (w.judgeArray options' check' element v context') := by
  simp only [judgeArray]
  split
  · exact .pure (contexts.failure (worded_refl _))
  refine contexts.guard.bind fun verdict verdict' related => ?_
  cases related with
  | some tooDeep => exact .pure tooDeep
  | none =>
    refine .next fun validator resolved => ?_
    refine .firstTrue S.truth (fun item _ => ?_) null
    have spoken : ∀ text, w.text (.int item.2) = .ok text → S.segments text := by
      intro text written
      rw [text_place_ok written]
      exact S.numeral item.2
    refine (Run.Parallel.lift (contexts.extend (by simp [Value.int]) spoken)).bind
      fun inner inner' deeper => ?_
    exact parts validator item.1 inner inner' resolved deeper

/-- Unions are in step if their alternatives are and all messages correspond. -/
theorem union (contexts : S.Contexts context context') {alternatives : List Value}
    (combined : ∀ message message', S.worded message message')
    (parts : ∀ alternative ∈ alternatives, ∀ validator, w.resolve alternative = .ok validator →
      (check validator v context).Parallel S.Events S.results (check' validator v context')) :
    (w.judgeUnion check alternatives v context).Parallel S.Events S.results
      (w.judgeUnion check' alternatives v context') := by
  have looped : (Run.allTrue w.store.isTrue (w.judgeAlternative check v context) [] []
      alternatives).Parallel S.Events (Option.Rel (List.Forall₂ S.results))
      (Run.allTrue w.store.isTrue (w.judgeAlternative check' v context') [] [] alternatives) :=
    .allTrue S.truth (fun alternative member => .next (parts alternative member)) .nil
  refine looped.bind fun verdict verdict' related => ?_
  cases related with
  | none => exact .pure null
  | some errors =>
    have lines := Parallel.mapM (errors.imp S.line)
    refine .lift (lines.bind fun _ _ _ => ?_)
    exact .value (contexts.failure (combined _ _))

end Contexts

/-! ## Runs and checks -/

section Runs

variable {spec : Value} {validator : Validator} (throughout : w.store.Throughout S.Admits spec)
include throughout

/-- Runs at contexts that correspond are in step through every number of levels. The induction is
over the levels; the parts of a rule are run one level below. -/
theorem judge_parallel {levels : Nat} (resolved : w.resolve spec = .ok validator)
    (contexts : S.Contexts context context') :
    (w.judge options levels validator v context).Parallel S.Events S.results
      (w.judge options' levels validator v context') := by
  induction levels generalizing spec validator v context context' with
  | zero => exact ⟨.nil, .fault _⟩
  | succ levels inductionHypothesis =>
    obtain ⟨keyed, combined, outside⟩ := throughout.here
    simp only [judge]
    rcases stands_or_foreign_of_resolve resolved with ⟨rule, rfl, stands⟩ | ⟨rfl, foreign⟩
    · by_cases whole : rule.IsLeaf
      · rw [judgeWith_leaf whole, judgeWith_leaf whole]
        exact .lift (contexts.leaf whole)
      cases rule with
      | ofKind _ | equals _ | instanceOf _ _ | oneOf _ => exact absurd trivial whole
      | shape fields =>
        obtain ⟨entries, held, keys⟩ := keyed fields stands
        simp only [judgeWith, contexts.root]
        refine contexts.shape held fun entry member => ?_
        obtain ⟨proper, spoken⟩ := keys entry member
        have below := throughout.sub stands (Rule.mem_subSpecs_shape held member)
        exact contexts.field proper spoken fun _ _ _ _ subResolved deeper =>
          inductionHypothesis below subResolved deeper
      | array element =>
        simp only [judgeWith, contexts.root]
        have below := throughout.sub stands (List.mem_singleton_self element)
        exact contexts.array fun _ _ _ _ subResolved deeper =>
          inductionHypothesis below subResolved deeper
      | union alternatives =>
        simp only [judgeWith, contexts.root]
        refine contexts.union (combined alternatives stands) fun alternative member _ found => ?_
        exact inductionHypothesis (throughout.sub stands member) found contexts
    · exact .lift (outside foreign v context context' contexts)

variable {root root' : Value} (placed : S.bases root root')
  (levels : w.levelsFor options (.rootPath root) = w.levelsFor options' (.rootPath root'))
include placed levels

/-- Runs at roots that correspond are in step. -/
theorem run_parallel (resolved : w.resolve spec = .ok validator) :
    (w.run options validator v (.rootPath root)).Parallel S.Events S.results
      (w.run options' validator v (.rootPath root')) := by
  rw [run, run, levels]
  exact judge_parallel throughout resolved (.path placed 0)

/-- Checks at roots that correspond are in step if results correspond along the paths only. -/
theorem check_parallel
    (exactly : ∀ result result', S.results result result' →
      ResultsAlong S.bases S.worded result result') :
    (w.check options v spec root).Parallel S.Events (ResultsAlong S.bases S.worded)
      (w.check options' v spec root') := by
  refine .next fun validator resolved => ?_
  refine (run_parallel throughout placed levels resolved).bind fun result result' related => ?_
  cases exactly result result' related with
  | null => exact .pure .null
  | failure depth placed said =>
    exact ⟨.cons (.rejected placed said) .nil, .value (.failure depth placed said)⟩

end Runs

end Simulation

end World

end Conformance
