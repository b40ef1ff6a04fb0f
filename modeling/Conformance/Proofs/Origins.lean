import Conformance.Proofs.Verdict

/-!
# Where the outcome of a run comes from

A run is made of calls. The error it gives, a warning it logs and the fault it ends with were each
given by one of these calls of its own accord, and the calls above it passed them on unchanged:
an error and a fault as the outcome, a warning among the events. What a call can do of its own
accord is listed here, for errors, warnings and faults; statements about a whole run are statements
about the calls reached in it.

A union passes no error on, it writes the errors of its alternatives into one of its own. That
writing can fault, so the list of faults speaks of the errors that a union was given.
-/

namespace Conformance.World

/-! ## What a call does of its own accord -/

/-- The errors that a call gives of its own accord, at its own context. -/
inductive OwnError (w : World) (options : Options) (source : Call) : Value → Prop
  | expectation {message : String} (expectation : IsExpectation message) :
      OwnError w options source (ownFailure message source.context)
  | tooDeep {depth : Int} (guarded : w.Guarded source)
      (located : source.context.depth? = some depth) (reached : ¬ depth < options.maxDepth) :
      OwnError w options source (ownFailure (depthMessage options.maxDepth) source.context)

/-- The only event that a call logs of its own accord is the warning of the guard. -/
inductive OwnWarning (w : World) (options : Options) (source : Call) : Event → Prop
  | tooDeep {depth : Int} {base rest : Value} {mark : Nat} (guarded : w.Guarded source)
      (located : source.context.depth? = some depth) (reached : ¬ depth < options.maxDepth)
      (placed : source.context = .path base rest mark) :
      OwnWarning w options source (.depthExceeded base options.maxDepth)

/-- The faults that a call ends with of its own accord, the guard's apart. -/
inductive OwnFault (w : World) (options : Options) (check : Validator → Value → Value → Run Value)
    (fault : Fault) : Call → Prop
  | leaf {rule : Rule} {v context : Value} (whole : rule.IsLeaf)
      (judged : w.judgeLeaf options v context rule = .error fault) :
      OwnFault w options check fault ⟨.rule rule, v, context⟩
  | resolve {rule : Rule} {sub v context : Value} (member : sub ∈ rule.subSpecs w.store)
      (unresolved : w.resolve sub = .error fault) :
      OwnFault w options check fault ⟨.rule rule, v, context⟩
  | read {fields v context : Value} {entries : List (Value × Value)} {entry : Value × Value}
      (held : w.store.entries? fields = some entries) (member : entry ∈ entries)
      (unread : w.get v entry.1 = .error fault) :
      OwnFault w options check fault ⟨.rule (.shape fields), v, context⟩
  | key {fields v context : Value} {entries : List (Value × Value)} {entry : Value × Value}
      (held : w.store.entries? fields = some entries) (member : entry ∈ entries)
      (unextended : w.call context [entry.1] = .error fault) :
      OwnFault w options check fault ⟨.rule (.shape fields), v, context⟩
  | place {element v context : Value} {items : List Value} {place : Nat}
      (listed : w.store.arrayItems? v = some items) (inside : place < items.length)
      (unextended : w.call context [.int place] = .error fault) :
      OwnFault w options check fault ⟨.rule (.array element), v, context⟩
  | lines {alternatives errors : List Value} {v context : Value}
      (given : ∀ error ∈ errors, ∃ next,
        w.Makes options ⟨.rule (.union alternatives), v, context⟩ next ∧
          (check next.validator next.value next.context).outcome = .ok error ∧
          w.store.isTrue error = true)
      (unwritten : w.unionFailure errors context = .error fault) :
      OwnFault w options check fault ⟨.rule (.union alternatives), v, context⟩

variable {w : World} {options : Options} {check : Validator → Value → Value → Run Value}
  {condition : Value → Prop} {call : Call} {depth : Int} {fault : Fault}

/-! ## How a rule can end with a fault -/

/-- The ways in which the run of a call ends with a fault: of the call's own accord, by its guard,
or by a call it makes. What was logged before the fault is logged in the run. -/
inductive Faults (w : World) (options : Options) (check : Validator → Value → Value → Run Value)
    (fault : Fault) (call : Call) (run : Run Value) : Prop
  | own (own : w.OwnFault options check fault call)
  | guard (unwritten : (w.guardDepth options call.context).outcome = .error fault)
      (logged : (w.guardDepth options call.context).events ⊆ run.events)
  | part {next : Call} (makes : w.Makes options call next)
      (ended : (check next.validator next.value next.context).outcome = .error fault)
      (logged : (check next.validator next.value next.context).events ⊆ run.events)

/-- The check of a field faults on the way to its part or in the check of the part. -/
theorem judgeField_error {v context : Value} {entry : Value × Value}
    (ended : (w.judgeField check v context (.ok entry)).outcome = .error fault) :
    w.resolve entry.2 = .error fault ∨ w.get v entry.1 = .error fault ∨
      w.call context [entry.1] = .error fault ∨
      ∃ validator part inner, w.resolve entry.2 = .ok validator ∧ w.get v entry.1 = .ok part ∧
        w.call context [entry.1] = .ok inner ∧
        (check validator part inner).outcome = .error fault ∧
        (check validator part inner).events ⊆
          (w.judgeField check v context (.ok entry)).events := by
  rw [judgeField, Run.lift_ok, pure_bind] at ended ⊢
  rcases Run.bind_error ended with unresolved | ⟨validator, resolved, ended, first⟩
  · exact .inl unresolved
  rcases Run.bind_error ended with unread | ⟨part, read, ended, second⟩
  · exact .inr (.inl unread)
  rcases Run.bind_error ended with unextended | ⟨inner, extended, ended, third⟩
  · exact .inr (.inr (.inl unextended))
  · exact .inr (.inr (.inr ⟨validator, part, inner, resolved, read, extended, ended,
      List.Subset.trans (List.Subset.trans third second) first⟩))

/-- A shape faults of its own accord, by its guard, or by the check of a field. -/
theorem judgeShape_faults {fields v context : Value} {entries : List (Value × Value)}
    (located : context.depth? = some depth) (held : w.store.entries? fields = some entries)
    (ended : (w.judgeShape options check fields v context).outcome = .error fault) :
    w.Faults options check fault ⟨.rule (.shape fields), v, context⟩
      (w.judgeShape options check fields v context) := by
  have root := contextOrRoot_of_depth? (w := w) located
  simp only [judgeShape, declaredFields_of_entries? held] at ended ⊢
  split at ended
  · cases ended
  split at ended
  · cases ended
  next missing other =>
  rw [if_neg missing, if_neg other]
  rcases Run.bind_error ended with unwritten | ⟨verdict, entered, ended, guarded⟩
  · exact .guard unwritten (Run.events_subset_bind _ _)
  cases verdict with
  | some tooDeep => cases ended
  | none =>
    rw [Run.lift_ok, pure_bind] at ended guarded
    obtain ⟨field, member, judged, logged⟩ := Run.firstTrue_error _ _ _ ended
    obtain ⟨entry, entryMember, rfl⟩ := List.mem_map.mp member
    rcases judgeField_error judged with unresolved | unread | unextended |
      ⟨validator, part, inner, resolved, read, extended, checked, inside⟩
    · exact .own (.resolve (Rule.mem_subSpecs_shape held entryMember) unresolved)
    · exact .own (.read held entryMember unread)
    · exact .own (.key held entryMember unextended)
    · have makes : w.Makes options ⟨.rule (.shape fields), v, context⟩ ⟨validator, part, inner⟩ :=
        .field (by rw [root]; exact entered) (declaredFields_of_entries? held) member resolved read
          (by rw [root]; exact extended)
      have passed := List.Subset.trans inside (List.Subset.trans logged guarded)
      exact .part makes checked passed

/-- An array faults of its own accord, by its guard, or by the check of an item. -/
theorem judgeArray_faults {element v context : Value} (located : context.depth? = some depth)
    (ended : (w.judgeArray options check element v context).outcome = .error fault) :
    w.Faults options check fault ⟨.rule (.array element), v, context⟩
      (w.judgeArray options check element v context) := by
  have root := contextOrRoot_of_depth? (w := w) located
  rw [judgeArray] at ended ⊢
  cases listed : w.store.arrayItems? v with
  | none =>
    simp only [listed] at ended
    cases ended
  | some items =>
    simp only [listed] at ended ⊢
    rcases Run.bind_error ended with unwritten | ⟨verdict, entered, ended, guarded⟩
    · exact .guard unwritten (Run.events_subset_bind _ _)
    cases verdict with
    | some tooDeep => cases ended
    | none =>
      rcases Run.bind_error ended with unresolved | ⟨validator, resolved, ended, later⟩
      · exact .own (.resolve (List.mem_singleton_self element) unresolved)
      obtain ⟨⟨part, place⟩, member, judged, logged⟩ := Run.firstTrue_error _ _ _ ended
      rcases Run.bind_error judged with unextended | ⟨inner, extended, checked, inside⟩
      · have found := List.mem_zipIdx_iff_getElem?.mp member
        have inside : place < items.length := (List.getElem?_eq_some_iff.mp found).1
        exact .own (.place listed inside unextended)
      · have makes : w.Makes options ⟨.rule (.array element), v, context⟩
            ⟨validator, part, inner⟩ :=
          .item (by rw [root]; exact entered) listed member resolved (by rw [root]; exact extended)
        have passed := List.Subset.trans inside (List.Subset.trans logged later)
        exact .part makes checked (List.Subset.trans passed guarded)

/-- A union faults when an alternative does, or when the errors of all of them cannot be
written. -/
theorem judgeUnion_faults {alternatives : List Value} {v context : Value}
    (located : context.depth? = some depth)
    (ended : (w.judgeUnion check alternatives v context).outcome = .error fault) :
    w.Faults options check fault ⟨.rule (.union alternatives), v, context⟩
      (w.judgeUnion check alternatives v context) := by
  have root := contextOrRoot_of_depth? (w := w) located
  rcases Run.bind_error ended with looped | ⟨errors, looped, ended, _⟩
  · obtain ⟨alternative, member, judged, logged⟩ := Run.allTrue_error _ _ looped
    rcases Run.bind_error judged with unresolved | ⟨validator, resolved, checked, inside⟩
    · exact .own (.resolve member unresolved)
    · have makes : w.Makes options ⟨.rule (.union alternatives), v, context⟩
          ⟨validator, v, w.contextOrRoot context⟩ := .alternative member resolved
      rw [root] at makes
      have passed := List.Subset.trans inside logged
      exact .part makes checked (List.Subset.trans passed (Run.events_subset_bind _ _))
  · cases errors with
    | none => cases ended
    | some errors =>
      obtain ⟨found, same, failed⟩ := Run.allTrue_some _ _ looped
      simp only [List.reverse_nil, List.nil_append] at same
      subst same
      refine .own (.lines ?_ ended)
      intro error member
      obtain ⟨alternative, alternativeMember, judged, truthy⟩ := exists_mem_of_forall₂ failed member
      obtain ⟨validator, resolved, checked⟩ := judgeAlternative_ok judged
      have makes : w.Makes options ⟨.rule (.union alternatives), v, context⟩
          ⟨validator, v, w.contextOrRoot context⟩ := .alternative alternativeMember resolved
      rw [root] at makes
      exact ⟨_, makes, checked, truthy⟩

/-- The list is complete: a rule that ends with a fault does so in one of these ways. -/
theorem judgeWith_faults {rule : Rule} {v context : Value} (located : context.depth? = some depth)
    (mapped : ∀ fields, rule = .shape fields → ∃ entries, w.store.entries? fields = some entries)
    (ended : (w.judgeWith options check (.rule rule) v context).outcome = .error fault) :
    w.Faults options check fault ⟨.rule rule, v, context⟩
      (w.judgeWith options check (.rule rule) v context) := by
  by_cases whole : rule.IsLeaf
  · rw [judgeWith_leaf whole] at ended
    exact .own (.leaf whole ended)
  have root := contextOrRoot_of_depth? (w := w) located
  cases rule with
  | ofKind _ | equals _ | instanceOf _ _ | oneOf _ => exact absurd trivial whole
  | shape fields =>
    obtain ⟨entries, held⟩ := mapped fields rfl
    simp only [judgeWith, root] at ended ⊢
    exact judgeShape_faults located held ended
  | array element =>
    simp only [judgeWith, root] at ended ⊢
    exact judgeArray_faults located ended
  | union alternatives =>
    simp only [judgeWith, root] at ended ⊢
    exact judgeUnion_faults located ended

/-- A ready call of a native validator that faults does so in one of the listed ways. -/
theorem Ready.faults (ready : w.Ready condition call depth)
    (known : ∀ spec, condition spec → ¬ w.store.IsForeign spec) (layered : w.store.Layered)
    (ended : (w.run options call.validator call.value call.context).outcome = .error fault) :
    w.Faults options (w.run options) fault call
      (w.run options call.validator call.value call.context) := by
  rw [ready.run_eq layered options] at ended ⊢
  obtain ⟨located, keyed, spec, throughout, resolved⟩ := ready
  obtain ⟨validator, v, context⟩ := call
  rcases stands_or_foreign_of_resolve resolved with ⟨rule, rfl, stands⟩ | ⟨_, foreign⟩
  · have mapped := (keyed spec throughout.here).mapped stands
    exact judgeWith_faults located mapped ended
  · exact absurd foreign (known spec throughout.here)

/-! ## Origins -/

/-- Every error of a call is the own error of a call reached from it. The induction follows the
calls: an error is the call's own, or a field or an item gave it. -/
theorem Ready.error_origin (ready : w.Ready condition call depth)
    (known : ∀ spec, condition spec → ¬ w.store.IsForeign spec) (layered : w.store.Layered)
    {result : Value}
    (ended : (w.run options call.validator call.value call.context).outcome = .ok result) :
    result = .null ∨ ∃ source, Relation.ReflTransGen (w.Makes options) call source ∧
      w.OwnError options source result := by
  induction ready.acc_makes layered options generalizing depth result with
  | intro call _ inductionHypothesis =>
    have located := ready.located
    obtain ⟨rule, same, ends⟩ := ready.ends known layered ended
    have inner : ∀ next, w.Makes options call next →
        (w.run options next.validator next.value next.context).outcome = .ok result →
        result = .null ∨ ∃ source, Relation.ReflTransGen (w.Makes options) call source ∧
          w.OwnError options source result := by
      intro next makes nextEnded
      obtain ⟨_, again, _⟩ := ready.step_need layered makes
      rcases inductionHypothesis next makes again nextEnded with null | ⟨source, chain, own⟩
      · exact .inl null
      · exact .inr ⟨source, .head makes chain, own⟩
    obtain ⟨validator, v, context⟩ := call
    simp only at same
    subst same
    cases ends with
    | passedLeaf | passedFields | passedItems | passedAlternative => exact .inl rfl
    | failedLeaf _ _ expectation => exact .inr ⟨_, .refl, .expectation expectation⟩
    | nullShape | otherShape | otherArray | failedAlternatives =>
      refine .inr ⟨_, .refl, .expectation ?_⟩
      simp [IsExpectation, String.toList_append]
    | deepShape _ object reached =>
      exact .inr ⟨_, .refl, .tooDeep (.shape object) located reached⟩
    | deepArray listed reached =>
      exact .inr ⟨_, .refl, .tooDeep (.array listed) located reached⟩
    | failedField _ _ below held member judged _ =>
      obtain ⟨_, _, _, _, _, _, makes, checked⟩ := field_makes located below held member judged
      exact inner _ makes checked
    | failedItem listed below resolved member judged _ =>
      obtain ⟨_, _, makes, checked⟩ := item_makes located below listed resolved member judged
      exact inner _ makes checked

/-- Everything that a call logs is the own warning of a call reached from it. -/
theorem Ready.event_origin (ready : w.Ready condition call depth) (layered : w.store.Layered)
    {event : Event}
    (logged : event ∈ (w.run options call.validator call.value call.context).events) :
    ∃ source, Relation.ReflTransGen (w.Makes options) call source ∧
      w.OwnWarning options source event := by
  induction ready.acc_makes layered options generalizing depth with
  | intro call _ inductionHypothesis =>
    have located := ready.located
    rw [ready.run_eq layered options] at logged
    rcases mem_events_judgeWith logged with ⟨guarded, logged⟩ | ⟨next, makes, logged⟩
    · rw [contextOrRoot_of_depth? located] at logged
      obtain ⟨reached, base, rest, mark, placed, rfl⟩ := mem_events_guardDepth located logged
      exact ⟨call, .refl, .tooDeep guarded located reached placed⟩
    · obtain ⟨_, again, _⟩ := ready.step_need layered makes
      obtain ⟨source, chain, own⟩ := inductionHypothesis next makes again logged
      exact ⟨source, .head makes chain, own⟩

/-- Every fault of a call is the own fault of a call reached from it, unless a guard that the call
has logged could not write the limit. -/
theorem Ready.fault_origin (ready : w.Ready condition call depth)
    (known : ∀ spec, condition spec → ¬ w.store.IsForeign spec) (layered : w.store.Layered)
    (ended : (w.run options call.validator call.value call.context).outcome = .error fault) :
    (¬ options.maxDepth < Text.firstUnwritable ∧ ∃ path, .depthExceeded path options.maxDepth ∈
        (w.run options call.validator call.value call.context).events) ∨
      ∃ source, Relation.ReflTransGen (w.Makes options) call source ∧
        w.OwnFault options (w.run options) fault source := by
  induction ready.acc_makes layered options generalizing depth with
  | intro call _ inductionHypothesis =>
    have located := ready.located
    cases ready.faults known layered ended with
    | own own => exact .inr ⟨call, .refl, own⟩
    | guard unwritten logged =>
      obtain ⟨long, path, warned⟩ := guardDepth_error located unwritten
      exact .inl ⟨long, path, logged warned⟩
    | part makes nextEnded logged =>
      obtain ⟨_, again, _⟩ := ready.step_need layered makes
      rcases inductionHypothesis _ makes again nextEnded with
        ⟨long, path, warned⟩ | ⟨source, chain, own⟩
      · exact .inl ⟨long, path, logged warned⟩
      · exact .inr ⟨source, .head makes chain, own⟩

end Conformance.World
