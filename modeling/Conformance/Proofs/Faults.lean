import Conformance.Proofs.Refusals
import Conformance.Proofs.Termination

/-!
# What a check can fault with

Failing is a result, not a fault. The check of a well-formed spec gives null or an error of the
program, and faults for two reasons only: a signaling not-a-number was compared with a number, or a
field of something in the value could not be read, one that the spec names or the label of a
callable that a message shows. All else that could fault on the way does not: kinds have names,
targets have instances, keys and places have texts, and so has every error that a union lists.

What custom classes do is code of their own that a check runs, so this takes it that they format
their texts, say what their instances are, and keep to the protocol of mappings. An object that has
no text is no such case: it is shown by the name of its class.
-/

namespace Conformance

/-! ## Comparisons -/

/-- Two numbers of which one is a signaling not-a-number. -/
inductive Value.Incomparable : Value → Value → Prop
  | numbers {x y : Number} {tag tag' : Tag} {mark mark' : Nat}
      (signaling : x.isSignaling = true ∨ y.isSignaling = true) :
      Incomparable (.number x tag mark) (.number y tag' mark')

/-- The values that a rule compares a value with. -/
inductive Rule.ComparesWith : Rule → Value → Prop
  | equals {expected : Value} : ComparesWith (.equals expected) expected
  | oneOf {allowed : List Value} {candidate : Value} (member : candidate ∈ allowed) :
      ComparesWith (.oneOf allowed) candidate

/-- Numbers are comparable unless one of them is a signaling not-a-number. -/
theorem Number.equal_error {x y : Number} {fault : Fault} (ended : x.equal y = .error fault) :
    fault = .signalingComparison ∧ (x.isSignaling = true ∨ y.isSignaling = true) := by
  rw [equal] at ended
  split at ended
  · next signaling =>
    simp only [Bool.or_eq_true, Bool.and_eq_true] at signaling
    exact ⟨(Except.error.inj ended).symm, signaling.imp And.left And.left⟩
  · cases ended

/-- Strict equality faults at incomparable numbers only. -/
theorem Store.strictEquals_error {σ : Store} {a b : Value} {fault : Fault}
    (ended : σ.strictEquals a b = .error fault) :
    fault = .signalingComparison ∧ a.Incomparable b := by
  unfold strictEquals at ended
  split at ended
  · obtain ⟨same, signaling⟩ := Number.equal_error ended
    exact ⟨same, .numbers signaling⟩
  · split at ended
    · cases ended
    · split at ended <;> cases ended

/-! ## Well-formed specs -/

namespace Store

/-- What instances are asked of: a class, a union of classes, or a tuple of classes. -/
inductive IsTarget (σ : Store) : Value → Prop
  | cls (c : Class) : IsTarget σ (.cls c)
  | classUnion {address : Nat} {classes : List Class}
      (held : σ.cell? address = some (.classUnion classes)) : IsTarget σ (.object address)
  | tuple {address : Nat} {c : Class} {targets : List Value}
      (held : σ.cell? address = some (.tuple c targets))
      (classes : ∀ target ∈ targets, ∃ c, target = .cls c) : IsTarget σ (.object address)

/-- A spec that, if it is a text, names a kind and, if it asks for instances, asks for those of a
target. -/
structure WellFormed (σ : Store) (spec : Value) : Prop where
  named : ∀ s tag, spec = .text s tag → ∃ kind : Kind, s = kind.name
  targeted : ∀ target label, σ.Stands spec (.instanceOf target label) → σ.IsTarget target

end Store

namespace World

variable {w : World} {options : Options} {condition : Value → Prop} {call next : Call}
  {depth : Int} {fault : Fault} {v spec target context : Value}

/-- A spec of whose literals, which messages show, all labels can be read. -/
def LabelledLiterals (w : World) (spec : Value) : Prop :=
  ∀ rule candidate, w.store.Stands spec rule → rule.ComparesWith candidate → w.Labelled candidate

/-- Where custom classes answer, the search for an instance of a target ends. -/
theorem isInstance_ne_error (answers : w.customs.Answers) (ready : w.store.IsTarget target) :
    w.isInstance v (w.store.size + 1) target ≠ .error fault := by
  have asked (c : Class) : w.isInstanceOf v c ≠ .error fault := by
    obtain ⟨answer, told⟩ := exists_isInstanceOf answers v c
    rw [told]
    intro impossible
    cases impossible
  intro ended
  cases ready with
  | cls c => exact asked c ended
  | classUnion held =>
    simp only [isInstance, held] at ended
    obtain ⟨c, _, ended⟩ := anyM_error ended
    exact asked c ended
  | tuple held classes =>
    have inside := (Array.getElem?_eq_some_iff.mp held).1
    obtain ⟨levels, size⟩ : ∃ levels, w.store.size = levels + 1 :=
      ⟨w.store.size - 1, (Nat.succ_pred_eq_of_pos (Nat.zero_lt_of_lt inside)).symm⟩
    rw [size] at ended
    simp only [isInstance, held] at ended
    obtain ⟨target, member, ended⟩ := anyM_error ended
    obtain ⟨c, rfl⟩ := classes target member
    exact asked c ended

/-- A rule without parts faults when a target is none, when it compares with an incomparable number,
or when what its message shows, the value or one that it is compared with, is not rendered. -/
theorem judgeLeaf_error {rule : Rule} (ended : w.judgeLeaf options v context rule = .error fault) :
    (∃ target label, rule = .instanceOf target label ∧
        w.isInstance v (w.store.size + 1) target = .error fault) ∨
      (fault = .signalingComparison ∧
        ∃ candidate, rule.ComparesWith candidate ∧ v.Incomparable candidate) ∨
      ∃ shown, (shown = v ∨ rule.ComparesWith shown) ∧
        w.rendering options shown = .error fault := by
  cases rule with
  | ofKind kind =>
    simp only [judgeLeaf] at ended
    split at ended <;> cases ended
  | equals expected =>
    simp only [judgeLeaf] at ended
    rcases bind_eq_error_iff.mp ended with unequal | ⟨answer, _, ended⟩
    · obtain ⟨same, incomparable⟩ := Store.strictEquals_error unequal
      exact .inr (.inl ⟨same, expected, .equals, incomparable⟩)
    cases answer with
    | true => cases ended
    | false =>
      rcases bind_eq_error_iff.mp ended with unshown | ⟨_, _, ended⟩
      · exact .inr (.inr ⟨expected, .inr .equals, unshown⟩)
      rcases bind_eq_error_iff.mp ended with unshown | ⟨_, _, ended⟩
      · exact .inr (.inr ⟨v, .inl rfl, unshown⟩)
      · cases ended
  | instanceOf target label =>
    simp only [judgeLeaf] at ended
    rcases bind_eq_error_iff.mp ended with unanswered | ⟨answer, _, ended⟩
    · exact .inl ⟨target, label, rfl, unanswered⟩
    cases answer with
    | true => cases ended
    | false =>
      rcases bind_eq_error_iff.mp ended with unshown | ⟨_, _, ended⟩
      · exact .inr (.inr ⟨v, .inl rfl, unshown⟩)
      · cases ended
  | oneOf allowed =>
    simp only [judgeLeaf] at ended
    rcases bind_eq_error_iff.mp ended with unanswered | ⟨answer, _, ended⟩
    · obtain ⟨candidate, member, unanswered⟩ := anyM_error unanswered
      rcases bind_eq_error_iff.mp unanswered with unequal | ⟨answer, _, ended⟩
      · obtain ⟨same, incomparable⟩ := Store.strictEquals_error unequal
        exact .inr (.inl ⟨same, candidate, .oneOf member, incomparable⟩)
      · cases answer <;> cases ended
    cases answer with
    | true => cases ended
    | false =>
      rcases bind_eq_error_iff.mp ended with unshown | ⟨_, _, ended⟩
      · obtain ⟨candidate, member, unshown⟩ := mapM_error unshown
        exact .inr (.inr ⟨candidate, .inr (.oneOf member), unshown⟩)
      rcases bind_eq_error_iff.mp ended with unshown | ⟨_, _, ended⟩
      · exact .inr (.inr ⟨v, .inl rfl, unshown⟩)
      · cases ended
  | shape _ | array _ | union _ => cases ended

/-- Only a text can fail to resolve, when it names no kind. -/
theorem resolve_error (unresolved : w.resolve spec = .error fault) :
    ∃ s tag, spec = .text s tag ∧ Kind.ofName? s = none := by
  by_cases wordless : ∀ s tag, spec ≠ .text s tag
  · by_cases classless : ∀ c, spec ≠ .cls c
    · rw [resolve_other wordless classless] at unresolved
      split at unresolved
      · cases unresolved
      split at unresolved
      · cases unresolved
      split at unresolved
      · cases unresolved
      split at unresolved <;> cases unresolved
    · obtain ⟨c, rfl⟩ : ∃ c, spec = .cls c := by simpa using classless
      cases unresolved
  · obtain ⟨s, tag, rfl⟩ : ∃ s tag, spec = .text s tag := by simpa using wordless
    cases found : Kind.ofName? s with
    | none => exact ⟨s, tag, rfl, found⟩
    | some kind =>
      rw [resolve, kindRule, found] at unresolved
      cases unresolved

/-- Well-formed specs resolve. -/
theorem resolve_ne_error (formed : w.store.WellFormed spec) : w.resolve spec ≠ .error fault := by
  intro unresolved
  obtain ⟨s, tag, rfl, unnamed⟩ := resolve_error unresolved
  obtain ⟨kind, rfl⟩ := formed.named s tag rfl
  rw [Kind.ofName?_name] at unnamed
  cases unnamed

/-! ## Contexts that can be written -/

/-- A path whose base is a text. -/
def IsWritten (context : Value) : Prop :=
  ∃ name tag depth mark, context = .path (.text name tag) depth mark

/-- A written context can be extended by all that has a text. -/
theorem call_of_written (located : context.depth? = some depth) (written : IsWritten context)
    {segment : Value} (spoken : ∃ text, w.text segment = .ok text) :
    w.call context [segment] ≠ .error fault := by
  obtain ⟨name, tag, _, mark, rfl⟩ := written
  obtain ⟨_, tag', mark', _, same⟩ := Value.depth?_eq_some_iff.mp located
  cases same
  obtain ⟨text, spoken⟩ := spoken
  have based := text_of_text (w := w) name tag
  simp only [call, extendPath, deeper, spoken, based]
  split
  · simp
  · split <;> simp [bind, Except.bind, pure, Except.pure]

/-- The greatest length of a sequence has fewer than sixty-four digits. -/
theorem maxLength_lt_pow {digits : Nat} (enough : 63 ≤ digits) :
    Store.maxLength < Nat.pow 10 digits := by
  have positive : 0 < 2 ^ 63 := Nat.pow_pos (by decide)
  have lower : 2 ^ 63 ≤ 10 ^ 63 := Nat.pow_le_pow_left (by decide) 63
  have higher : 10 ^ 63 ≤ 10 ^ digits := Nat.pow_le_pow_right (by decide) enough
  exact Nat.lt_of_lt_of_le (Nat.sub_lt positive Nat.one_pos) (lower.trans higher)

theorem maxLength_writable : Store.maxLength < Text.firstUnwritable := by
  have enough : 63 ≤ Text.maxDigits := by decide
  unfold Text.firstUnwritable
  exact maxLength_lt_pow enough

/-- Every context of a run has a text for its base, if the first has. -/
theorem Ready.chain_written (ready : w.Ready condition call depth) (layered : w.store.Layered)
    (written : IsWritten call.context)
    (chain : Relation.ReflTransGen (w.Makes options) call next) : IsWritten next.context := by
  induction chain with
  | refl => exact written
  | tail earlier makes inductionHypothesis =>
    obtain ⟨_, again, _⟩ := ready.chain layered earlier
    rcases again.step layered makes with ⟨location, same, _⟩ | ⟨same, _⟩
    · exact ⟨location, .plain, _, _, same⟩
    · rw [same]
      exact inductionHypothesis

/-- Every error of a run lies at a written context, if the run starts at one. -/
theorem Ready.error_written (ready : w.Ready condition call depth)
    (known : ∀ spec, condition spec → ¬ w.store.IsForeign spec) (layered : w.store.Layered)
    (written : IsWritten call.context) {result : Value}
    (ended : (w.run options call.validator call.value call.context).outcome = .ok result) :
    result = .null ∨ ∃ message context, result = ownFailure message context ∧
      IsWritten context := by
  rcases ready.error_origin known layered ended with null | ⟨source, chain, own⟩
  · exact .inl null
  · have placed := ready.chain_written layered written chain
    cases own with
    | expectation _ => exact .inr ⟨_, source.context, rfl, placed⟩
    | tooDeep _ _ _ => exact .inr ⟨_, source.context, rfl, placed⟩

/-- A context whose location has a text. -/
def HasLocation (w : World) (context : Value) : Prop :=
  ∃ location text, w.call context [] = .ok location ∧ w.text location = .ok text

theorem IsWritten.hasLocation (written : IsWritten context) : w.HasLocation context := by
  obtain ⟨name, tag, _, _, rfl⟩ := written
  exact ⟨.text name tag, shownText name tag, rfl, text_of_text name tag⟩

/-- An error at a context with a location has a line. -/
theorem alternativeLine_of_text {text : String} (message : String)
    (said : (w.call context [] >>= w.text) = .ok text) :
    w.alternativeLine (ownFailure message context) = .ok (text ++ " |> " ++ message) := by
  obtain ⟨location, called, spoken⟩ := bind_eq_ok_iff.mp said
  have told : w.text (.str message) = .ok message := rfl
  simp [alternativeLine, asPair, parts?, ownFailure, called, spoken, told, bind, Except.bind, pure,
    Except.pure]

theorem alternativeLine_of_located (message : String) (located : w.HasLocation context) :
    ∃ line, w.alternativeLine (ownFailure message context) = .ok line := by
  obtain ⟨location, text, called, spoken⟩ := located
  have said : (w.call context [] >>= w.text) = .ok text := by rw [called]; exact spoken
  exact ⟨text ++ " |> " ++ message, alternativeLine_of_text message said⟩

/-- Errors at contexts with a location can be listed in one. -/
theorem unionFailure_ok {errors : List Value}
    (located : ∀ error ∈ errors, ∃ message context, error = ownFailure message context ∧
      w.HasLocation context) (context : Value) :
    ∃ message, w.unionFailure errors context = .ok (ownFailure message context) := by
  have lines : ∀ error ∈ errors, ∃ line, w.alternativeLine error = .ok line := by
    intro error member
    obtain ⟨message, _, rfl, placed⟩ := located error member
    exact alternativeLine_of_located message placed
  obtain ⟨found, listed⟩ := mapM_ok_of_forall lines
  rw [unionFailure, listed]
  exact ⟨_, rfl⟩

/-- Errors at written contexts can be listed in one. -/
theorem unionFailure_ne_error {errors : List Value}
    (written : ∀ error ∈ errors, ∃ message context, error = ownFailure message context ∧
      IsWritten context) : w.unionFailure errors context ≠ .error fault := by
  have located : ∀ error ∈ errors, ∃ message context, error = ownFailure message context ∧
      w.HasLocation context := by
    intro error member
    obtain ⟨message, placed, same, written⟩ := written error member
    exact ⟨message, placed, same, written.hasLocation⟩
  obtain ⟨message, listed⟩ := unionFailure_ok located context
  rw [listed]
  intro impossible
  cases impossible

/-! ## What a call reads -/

/-- What a call reads: the values off which it reads a segment of a key, and the list or tuple of
which it checks the items. -/
inductive Reads (w : World) : Call → Value → Prop
  | segment {fields v context part : Value} {entries : List (Value × Value)}
      {entry : Value × Value} {key : String} (held : w.store.entries? fields = some entries)
      (member : entry ∈ entries) (same : entry.1 = .str key)
      (off : w.ReadOff v (Text.segments key.toList) part) :
      Reads w ⟨.rule (.shape fields), v, context⟩ part
  | items {element v context : Value} : Reads w ⟨.rule (.array element), v, context⟩ v

/-- Every sequence that a call reads is short enough to be asked for its length. -/
def Measured (w : World) (call : Call) : Prop :=
  ∀ part length, w.Reads call part → w.store.sequenceLength? part = some length →
    length ≤ Store.maxLength

/-- What is too long to be asked for its length is a sequence of such a length. -/
theorem sequenceLength?_of_isOverlong {part : Value} (overlong : w.store.isOverlong part = true) :
    ∃ length, w.store.sequenceLength? part = some length ∧ Store.maxLength < length := by
  unfold Store.isOverlong at overlong
  split at overlong
  · split at overlong
    · next start stop step found =>
      exact ⟨Store.rangeLength start stop step, by simp [Store.sequenceLength?, found],
        by simpa using overlong⟩
    · cases overlong
  · cases overlong

theorem Measured.not_overlong {part : Value} (measured : w.Measured call)
    (reads : w.Reads call part) : ¬ w.store.isOverlong part = true := by
  intro overlong
  obtain ⟨length, counted, long⟩ := sequenceLength?_of_isOverlong overlong
  exact Nat.not_lt.mpr (measured part length reads counted) long

/-! ## The two reasons -/

/-- The faults that a check may end with. A call of it compares something in the value with an
incomparable number, or it reads off something in the value a field that cannot be read: one that
the spec names, or the label of a callable that it shows in a message. -/
inductive Excused (w : World) (options : Options) (v spec root : Value) : Fault → Prop
  | comparison {call : Call} {rule : Rule} {candidate : Value}
      (inside : w.InCheck options v spec root call) (ruled : call.validator = .rule rule)
      (held : w.Holds (w.Names (w.store.Reaches spec)) v call.value)
      (compares : rule.ComparesWith candidate) (incomparable : call.value.Incomparable candidate) :
      Excused w options v spec root .signalingComparison
  | field {call : Call} {part : Value} {name : String} {fault : Fault}
      (inside : w.InCheck options v spec root call) (reads : w.Reads call part)
      (held : w.Holds (w.Names (w.store.Reaches spec)) v part) (present : part ≠ .null)
      (named : w.Names (w.store.Reaches spec) name)
      (unread : w.readField part name = .error fault) (other : fault.name ≠ "AttributeError") :
      Excused w options v spec root fault
  | label {call : Call} {part : Value} {fault : Fault}
      (inside : w.InCheck options v spec root call)
      (held : w.Holds (w.Names (w.store.Reaches spec)) v call.value)
      (shown : Relation.ReflTransGen w.Shows call.value part)
      (callable : w.store.isCallable part = true)
      (unread : w.readField part "__name__" = .error fault)
      (other : fault.name ≠ "AttributeError") : Excused w options v spec root fault

/-- A label that cannot be read is a field that cannot. -/
theorem label_error (ended : w.label v = .error fault) :
    w.readField v "__name__" = .error fault ∧ fault.name ≠ "AttributeError" := by
  unfold label at ended
  split at ended
  · cases ended
  · cases ended
  · split at ended
    · cases ended
    · exact fieldOrNull_error ended

/-- Nothing is shown in null but null itself, which is no callable. -/
theorem not_isCallable_of_shows_null {part : Value}
    (shown : Relation.ReflTransGen w.Shows .null part) : w.store.isCallable part = false := by
  rcases shown.cases_head with rfl | ⟨_, ⟨container, _, found, _⟩, _⟩
  · rfl
  · cases found

section Own

variable {source : Call} {root : Value} (inside : w.InCheck options v spec root source)
  (ready : w.Ready (w.store.Reaches spec) source depth)
  (known : ∀ inner, w.store.Reaches spec inner → ¬ w.store.IsForeign inner)
  (layered : w.store.Layered) (formed : w.store.Throughout w.store.WellFormed spec)
  (labelled : w.store.Throughout w.LabelledLiterals spec) (formats : w.customs.Formats)
  (answers : w.customs.Answers) (lawful : w.customs.Lawful) (measured : w.Measured source)
  (held : source.value = .null ∨ w.Holds (w.Names (w.store.Reaches spec)) v source.value)
  (written : IsWritten source.context)
include inside ready known layered formed labelled formats answers lawful measured held written

/-- What a call in the check of a well-formed spec faults with of its own accord is excused. -/
theorem OwnFault.excused (own : w.OwnFault options (w.run options) fault source) :
    w.Excused options v spec root fault := by
  have located := ready.located
  obtain ⟨sub, throughout, resolved⟩ := ready.resolved
  have reached := throughout.here
  cases own with
  | leaf whole judged =>
    have stands := resolve_eq_rule_iff.mp resolved
    rcases judgeLeaf_error judged with
      ⟨target, label, rfl, unanswered⟩ | ⟨rfl, candidate, compares, incomparable⟩ |
      ⟨shown, which, unshown⟩
    · have target := (formed sub reached).targeted target label stands
      exact absurd unanswered (isInstance_ne_error answers target)
    · rcases held with rfl | held
      · cases incomparable
      · exact .comparison inside rfl held compares incomparable
    · obtain ⟨part, within, refused⟩ := exists_shown_of_rendering_error unshown
      obtain ⟨callable, unlabelled⟩ := label_of_words_error formats answers refused
      rcases which with rfl | compares
      · obtain ⟨unread, other⟩ := label_error unlabelled
        rcases held with rfl | held
        · cases callable.symm.trans (not_isCallable_of_shows_null within)
        · exact .label inside held within callable unread other
      · obtain ⟨label, read⟩ :=
          labelled sub reached _ _ stands compares part within callable
        cases unlabelled.symm.trans read
  | resolve member unresolved =>
    have stands := resolve_eq_rule_iff.mp resolved
    exact absurd unresolved (resolve_ne_error (formed _ (reached.step stands member)))
  | @read fields value context entries entry found member unread =>
    have stands := resolve_eq_rule_iff.mp resolved
    obtain ⟨key, same⟩ := (ready.keyed sub reached).key stands found member
    have named := names_of_key reached stands found member same
    rw [same] at unread
    obtain ⟨part, name, below, off, present, asked, faulty⟩ :=
      get_error lawful named unread
    have reads : w.Reads ⟨.rule (.shape fields), value, context⟩ part :=
      .segment found member same off
    have below : w.Holds (w.Names (w.store.Reaches spec)) v part := by
      rcases held with rfl | held
      · exact absurd (eq_null_of_holds below) present
      · exact Relation.ReflTransGen.trans held below
    rcases readSegment_error lawful faulty with overlong | ⟨unread, other⟩
    · exact absurd overlong (measured.not_overlong reads)
    · exact .field inside reads below present asked unread other
  | key found member unextended =>
    have stands := resolve_eq_rule_iff.mp resolved
    obtain ⟨key, same⟩ := (ready.keyed sub reached).key stands found member
    rw [same] at unextended
    exact absurd unextended (call_of_written located written ⟨_, text_of_text key .plain⟩)
  | @place element value context items place listed counted unextended =>
    have bounded := measured value _ .items (sequenceLength?_of_arrayItems? listed)
    have short := Nat.lt_of_le_of_lt bounded maxLength_writable
    have spoken := text_place (w := w) (counted.trans short)
    exact absurd unextended (call_of_written located written ⟨_, spoken⟩)
  | @lines alternatives errors value context given unwritten =>
    refine absurd unwritten (unionFailure_ne_error ?_)
    intro error member
    obtain ⟨next, makes, ended, truthy⟩ := given error member
    obtain ⟨_, again, _⟩ := ready.step_need layered makes
    have placed := ready.chain_written layered written (.single makes)
    rcases again.error_written known layered placed ended with rfl | written
    · cases truthy
    · exact written

end Own

/-- Everything that the run of a spec logs is logged by the check. -/
theorem mem_events_check {validator : Validator} {root : Value} {event : Event}
    (resolved : w.resolve spec = .ok validator)
    (logged : event ∈ (w.run options validator v (.rootPath root)).events) :
    event ∈ (w.check options v spec root).events := by
  rw [check, resolved, Run.lift_ok, pure_bind]
  exact Run.events_subset_bind _ _ logged

/-- A check faults with what the run of its spec faults with; logging an error is no fault. -/
theorem check_error {root : Value} (ended : (w.check options v spec root).outcome = .error fault)
    (formed : w.store.WellFormed spec)
    (written : ∀ validator result, w.resolve spec = .ok validator →
      (w.run options validator v (.rootPath root)).outcome = .ok result →
      result = .null ∨ ∃ message context, result = ownFailure message context ∧
        IsWritten context) :
    ∃ validator, w.resolve spec = .ok validator ∧
      (w.run options validator v (.rootPath root)).outcome = .error fault := by
  rcases Run.bind_error ended with unresolved | ⟨validator, resolved, ended, _⟩
  · exact absurd unresolved (resolve_ne_error formed)
  rcases Run.bind_error ended with faulty | ⟨error, returned, ended, _⟩
  · exact ⟨validator, resolved, faulty⟩
  · rcases written validator error resolved returned with rfl | ⟨message, _, rfl, placed⟩
    · cases ended
    · obtain ⟨_, _, _, _, rfl⟩ := placed
      cases ended

/-- A world in which the size of an object cannot be read. -/
def brittle : World where
  store := ⟨#[
    .mapping (.standard "dict" ["Mapping"]) [(.str "size", .str "number")],
    .entity (.standard "Brittle" []) [] (.fixed "brittle")]⟩
  external _ _ := .error (.notCallable "object")
  field _ name := if name = "size" then .error (.raised "RuntimeError" "no size") else .ok none
  customs := .regular ⟨#[]⟩

theorem brittle_enclosed : ∀ spec ∈ [.object 0, .str "number"],
    brittle.encloses [.object 0, .str "number"] spec = true := by
  decide +kernel

/-- The specs of the brittle world name a kind or describe a field. -/
theorem brittle_wellFormed : brittle.store.Throughout brittle.store.WellFormed (.object 0) := by
  intro spec reached
  have member := mem_of_reaches brittle_enclosed (by simp) reached
  simp only [List.mem_cons, List.not_mem_nil, or_false] at member
  rcases member with rfl | rfl
  · constructor
    · rintro s tag same
      cases same
    · intro target label stands
      cases resolve_of_stands (w := brittle) stands
  · constructor
    · rintro s tag same
      cases same
      exact ⟨.number, rfl⟩
    · intro target label stands
      cases resolve_of_stands (w := brittle) stands

/-- None of them has a literal. -/
theorem brittle_labelled : brittle.store.Throughout brittle.LabelledLiterals (.object 0) := by
  intro spec reached rule candidate stands compares
  have member := mem_of_reaches brittle_enclosed (by simp) reached
  simp only [List.mem_cons, List.not_mem_nil, or_false] at member
  rcases member with rfl | rfl
  · cases resolve_of_stands (w := brittle) stands
    cases compares
  · cases resolve_of_stands (w := brittle) stands
    cases compares

/-- The check makes no call but its first, because the field of that gives no value. -/
theorem brittle_call {call : Call}
    (inside : brittle.InCheck {} (.object 1) (.object 0) (.str "") call) :
    call = ⟨.rule (.shape (.object 0)), .object 1, .rootPath (.str "")⟩ := by
  obtain ⟨validator, resolved, chain⟩ := inside
  cases resolved
  rcases Relation.ReflTransGen.cases_head chain with same | ⟨_, makes, _⟩
  · exact same.symm
  · cases makes with
    | field _ listed member _ read _ =>
      cases listed
      have same := Except.ok.inj (List.mem_singleton.mp member)
      cases same
      have unread : brittle.get (.object 1) (.str "size") =
          .error (.raised "RuntimeError" "no size") := by
        decide +kernel
      cases unread.symm.trans read

/-- No sequence is read. -/
theorem brittle_measured {call : Call}
    (inside : brittle.InCheck {} (.object 1) (.object 0) (.str "") call) :
    brittle.Measured call := by
  rw [brittle_call inside]
  intro part length reads counted
  cases reads with
  | segment found member same off =>
    cases found
    rw [List.mem_singleton.mp member] at same
    cases same
    have single : Text.segments "size".toList = ["size".toList] := by decide +kernel
    rw [single] at off
    have here : part = .object 1 := by simpa [ReadOff] using off
    rw [here] at counted
    cases counted

end World

end Conformance
