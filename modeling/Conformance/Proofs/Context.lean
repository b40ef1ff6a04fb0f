import Conformance.Judge
import Conformance.Proofs.Run

/-!
# Contexts and the depth guard

A context is a path with a whole depth. It counts as true, so a check uses it as it is, and every
extension is one deeper. The guard lets a check into a container exactly at the depths below the
limit; otherwise it logs the path and fails at the same context.
-/

namespace Conformance

namespace Value

/-- The depth of a path with a whole depth. -/
def depth? : Value → Option Int
  | .path _ (.number (.int n) _ _) _ => some n
  | _ => none

theorem depth?_eq_some_iff {context : Value} {depth : Int} :
    context.depth? = some depth ↔
      ∃ base tag mark mark', context = .path base (.number (.int depth) tag mark) mark' := by
  unfold depth?
  split <;> simp_all

@[simp] theorem depth?_path (base : Value) (depth : Int) (mark : Nat) :
    (Value.path base (.int depth) mark).depth? = some depth := rfl

@[simp] theorem depth?_rootPath (base : Value) : (rootPath base).depth? = some 0 := rfl

end Value

namespace Store

@[simp] theorem isTrue_null (σ : Store) : σ.isTrue .null = false := rfl

@[simp] theorem isTrue_failure (σ : Store) (message context : Value) (mark : Nat) :
    σ.isTrue (.failure message context mark) = true := rfl

@[simp] theorem isTrue_path (σ : Store) (base depth : Value) (mark : Nat) :
    σ.isTrue (.path base depth mark) = true := rfl

end Store

namespace World

variable {w : World} {options : Options} {context : Value} {depth : Int}

theorem contextOrRoot_of_depth? (located : context.depth? = some depth) :
    w.contextOrRoot context = context := by
  obtain ⟨base, tag, mark, mark', rfl⟩ := Value.depth?_eq_some_iff.mp located
  simp [contextOrRoot, Store.isTrue]

/-- A context that was put in the place of one that counts as false is used as it is. -/
@[simp] theorem contextOrRoot_contextOrRoot (context : Value) :
    w.contextOrRoot (w.contextOrRoot context) = w.contextOrRoot context := by
  unfold contextOrRoot
  by_cases truthy : w.store.isTrue context
  · simp [truthy]
  · simp [truthy, Value.rootPath]

/-- A rule is run at a fresh root in place of a context that counts as false. -/
theorem run_contextOrRoot (rule : Rule) (v context : Value) :
    w.run options (.rule rule) v context =
      w.run options (.rule rule) v (w.contextOrRoot context) := by
  have levels : w.levelsFor options context = w.levelsFor options (w.contextOrRoot context) := by
    simp [levelsFor]
  rw [run, run, levels]
  cases w.levelsFor options (w.contextOrRoot context) with
  | zero => rfl
  | succ _ => cases rule <;> simp [judge, judgeWith, judgeLeaf, failureAt]

/-- A text is its own text, but a member of an enumeration may show its name instead. -/
theorem text_of_text (name : String) (tag : Tag) :
    w.text (.text name tag) = .ok (shownText name tag) := by
  cases tag <;> rfl

/-- Integers that can be written have a text. -/
theorem text_int {n : Int} (short : n.natAbs < Text.firstUnwritable) :
    w.text (.int n) = .ok (Text.intText n) := by
  have numeral : w.text (.int n) = writable (Text.intText? n) := rfl
  rw [numeral]
  simp [Text.intText?, short, writable]

/-- Places that can be written have a text. -/
theorem text_place {place : Nat} (short : place < Text.firstUnwritable) :
    w.text (.int place) = .ok (Text.natText place) := by
  have small : (place : Int).natAbs < Text.firstUnwritable := by simpa using short
  rw [text_int small]
  simp [Text.intText]

/-- A place that has a text is written as its numeral. -/
theorem text_place_ok {place : Nat} {text : String} (written : w.text (.int place) = .ok text) :
    text = Text.natText place := by
  by_cases short : place < Text.firstUnwritable
  · exact (Except.ok.inj ((text_place short).symm.trans written)).symm
  · have numeral : w.text (.int place) = writable (Text.intText? place) := rfl
    simp [numeral, Text.intText?, short, writable] at written

/-- Every proper extension of a context is a path one deeper. -/
theorem call_context (located : context.depth? = some depth) {segment inner : Value}
    (proper : segment ≠ .null) (extended : w.call context [segment] = .ok inner) :
    ∃ location, inner = .path (.str location) (.int (depth + 1)) 0 := by
  obtain ⟨base, tag, mark, mark', rfl⟩ := Value.depth?_eq_some_iff.mp located
  simp only [call, extendPath, proper, if_false, deeper, bind_eq_ok_iff] at extended
  obtain ⟨text, _, extended⟩ := extended
  split at extended
  · simp only [bind_eq_ok_iff] at extended
    obtain ⟨_, _, _, deeper, same⟩ := extended
    cases deeper
    exact ⟨_, (Except.ok.inj same).symm⟩
  · simp only [bind_eq_ok_iff] at extended
    obtain ⟨_, deeper, same⟩ := extended
    cases deeper
    exact ⟨_, (Except.ok.inj same).symm⟩

/-- The message of the guard's failure. -/
def depthMessage (limit : Nat) : String :=
  "Maximum validation depth of " ++ Text.intText limit ++ " exceeded"

theorem isBelow_of_depth? (located : context.depth? = some depth) (limit : Nat) :
    w.isBelow context limit = .ok (decide (depth < limit)) := by
  obtain ⟨base, tag, mark, mark', rfl⟩ := Value.depth?_eq_some_iff.mp located
  rfl

/-- Below the limit the guard does nothing. -/
theorem guardDepth_below (located : context.depth? = some depth)
    (below : depth < options.maxDepth) : w.guardDepth options context = pure none := by
  simp [guardDepth, isBelow_of_depth? located, below]

/-- At the limit the guard logs the path and fails at the same context, if the limit can be
written. -/
theorem guardDepth_reached (located : context.depth? = some depth)
    (reached : ¬ depth < options.maxDepth) :
    ∃ base rest mark, context = .path base rest mark ∧
      w.guardDepth options context = ⟨[.depthExceeded base options.maxDepth],
        (writable (Text.intText? options.maxDepth)).map fun limit =>
          some (.failure (.str ("Maximum validation depth of " ++ limit ++ " exceeded"))
            context 0)⟩ := by
  have above := isBelow_of_depth? (w := w) located options.maxDepth
  obtain ⟨base, tag, mark, mark', rfl⟩ := Value.depth?_eq_some_iff.mp located
  refine ⟨base, _, mark', rfl, ?_⟩
  cases written : writable (Text.intText? options.maxDepth) <;>
    simp only [guardDepth, above, reached, written, call, Run.lift_ok, pure_bind, decide_false,
      Bool.false_eq_true, if_false] <;> rfl

/-- A guard that ends has either let the check pass, below the limit, or failed at the same
context. -/
theorem guardDepth_ok (located : context.depth? = some depth) {verdict : Option Value}
    (ended : (w.guardDepth options context).outcome = .ok verdict) :
    (depth < options.maxDepth ∧ verdict = none) ∨
      (¬ depth < options.maxDepth ∧
        verdict = some (.failure (.str (depthMessage options.maxDepth)) context 0)) := by
  by_cases below : depth < options.maxDepth
  · rw [guardDepth_below located below] at ended
    exact .inl ⟨below, (Except.ok.inj ended).symm⟩
  · obtain ⟨base, rest, mark, rfl, guard⟩ := guardDepth_reached (w := w) located below
    refine .inr ⟨below, ?_⟩
    rw [guard] at ended
    unfold Text.intText? at ended
    split at ended
    · exact (Except.ok.inj ended).symm
    · cases ended

/-- A guard that faults has logged that the limit is reached, and the limit is too long to be
written. -/
theorem guardDepth_error (located : context.depth? = some depth) {fault : Fault}
    (ended : (w.guardDepth options context).outcome = .error fault) :
    ¬ options.maxDepth < Text.firstUnwritable ∧
      ∃ path, .depthExceeded path options.maxDepth ∈ (w.guardDepth options context).events := by
  by_cases below : depth < options.maxDepth
  · rw [guardDepth_below located below] at ended
    cases ended
  · obtain ⟨base, rest, mark, rfl, guard⟩ := guardDepth_reached (w := w) located below
    rw [guard] at ended ⊢
    refine ⟨?_, base, by simp⟩
    intro small
    simp [Text.intText?, small, writable, Except.map] at ended

/-- All the guard logs is that the limit is reached, at the path of the context. -/
theorem mem_events_guardDepth (located : context.depth? = some depth) {event : Event}
    (logged : event ∈ (w.guardDepth options context).events) :
    ¬ depth < options.maxDepth ∧ ∃ base rest mark, context = .path base rest mark ∧
      event = .depthExceeded base options.maxDepth := by
  by_cases below : depth < options.maxDepth
  · rw [guardDepth_below located below] at logged
    simp at logged
  · obtain ⟨base, rest, mark, same, guard⟩ := guardDepth_reached (w := w) located below
    rw [guard] at logged
    exact ⟨below, base, rest, mark, same, by simpa using logged⟩

end World

end Conformance
