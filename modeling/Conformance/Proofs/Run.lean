import Mathlib.Data.List.Forall2
import Conformance.Run

/-!
# Laws of runs

A run is a writer of events over outcomes, so it obeys the laws of a monad, and its outcome alone
is that of the outcomes it is made of. The accumulators of the two loops hold what came before
and nothing else: both loops are the plain recursion over their items. A loop that ends with a
value has looked at every item up to the one that decided it.
-/

namespace Conformance

/-- An outcome followed by another is a value exactly when both are. -/
theorem bind_eq_ok_iff {α β : Type} {outcome : Except Fault α} {next : α → Except Fault β}
    {value : β} : (outcome >>= next) = .ok value ↔
      ∃ middle, outcome = .ok middle ∧ next middle = .ok value := by
  cases outcome <;> simp [bind, Except.bind]

/-- An outcome followed by another is a fault when either is, the first of them. -/
theorem bind_eq_error_iff {α β : Type} {outcome : Except Fault α} {next : α → Except Fault β}
    {fault : Fault} : (outcome >>= next) = .error fault ↔
      outcome = .error fault ∨ ∃ middle, outcome = .ok middle ∧ next middle = .error fault := by
  cases outcome <;> simp [bind, Except.bind]

/-- A search that faults was ended by one of its items. -/
theorem anyM_error {α : Type} {holds : α → Except Fault Bool} {items : List α} {fault : Fault}
    (ended : items.anyM holds = .error fault) : ∃ item ∈ items, holds item = .error fault := by
  induction items with
  | nil => cases ended
  | cons item rest inductionHypothesis =>
    rw [List.anyM, bind_eq_error_iff] at ended
    rcases ended with faulty | ⟨first, _, followed⟩
    · exact ⟨item, by simp, faulty⟩
    · cases first with
      | true => cases followed
      | false =>
        obtain ⟨other, member, faulty⟩ := inductionHypothesis followed
        exact ⟨other, by simp [member], faulty⟩

/-- A row of outcomes that faults does so at one of its items. -/
theorem mapM_error {α β : Type} {items : List α} {outcome : α → Except Fault β} {fault : Fault}
    (ended : items.mapM outcome = .error fault) : ∃ item ∈ items, outcome item = .error fault := by
  induction items with
  | nil => cases ended
  | cons item rest inductionHypothesis =>
    rw [List.mapM_cons] at ended
    rcases bind_eq_error_iff.mp ended with first | ⟨value, _, ended⟩
    · exact ⟨item, by simp, first⟩
    rcases bind_eq_error_iff.mp ended with later | ⟨values, _, ended⟩
    · obtain ⟨other, member, found⟩ := inductionHypothesis later
      exact ⟨other, by simp [member], found⟩
    · cases ended

/-- A list of which every item has an outcome has them all. -/
theorem mapM_ok_of_forall {α β : Type} {items : List α} {outcome : α → Except Fault β}
    (each : ∀ item ∈ items, ∃ value, outcome item = .ok value) :
    ∃ values, items.mapM outcome = .ok values := by
  induction items with
  | nil => exact ⟨[], rfl⟩
  | cons item rest inductionHypothesis =>
    have later : ∀ other ∈ rest, ∃ value, outcome other = .ok value := by
      intro other member
      exact each other (by simp [member])
    obtain ⟨value, first⟩ := each item (by simp)
    obtain ⟨values, others⟩ := inductionHypothesis later
    exact ⟨value :: values, by simp [List.mapM_cons, first, others, bind, Except.bind, pure,
      Except.pure]⟩

/-- The first item that holds or faults decides whether any item holds. -/
theorem anyM_ok {α : Type} {holds : α → Except Fault Bool} {items : List α} {answer : Bool}
    (ended : items.anyM holds = .ok answer) :
    (answer = true ∧ ∃ item ∈ items, holds item = .ok true) ∨
      (answer = false ∧ ∀ item ∈ items, holds item = .ok false) := by
  induction items with
  | nil => exact .inr ⟨(Except.ok.inj ended).symm, by simp⟩
  | cons item rest inductionHypothesis =>
    rw [List.anyM, bind_eq_ok_iff] at ended
    obtain ⟨first, tested, followed⟩ := ended
    cases first with
    | true => exact .inl ⟨(Except.ok.inj followed).symm, item, by simp, tested⟩
    | false =>
      rcases inductionHypothesis followed with ⟨same, other, member, found⟩ | ⟨same, none⟩
      · exact .inl ⟨same, other, by simp [member], found⟩
      · refine .inr ⟨same, ?_⟩
        intro other member
        rcases List.mem_cons.mp member with rfl | member
        · exact tested
        · exact none other member

/-- Searches that test every item alike are the same search. -/
theorem anyM_congr {α : Type} {holds holds' : α → Except Fault Bool} {items : List α}
    (each : ∀ item ∈ items, holds item = holds' item) : items.anyM holds = items.anyM holds' := by
  induction items with
  | nil => rfl
  | cons item rest inductionHypothesis =>
    have later : ∀ other ∈ rest, holds other = holds' other := by
      intro other member
      exact each other (by simp [member])
    rw [List.anyM, List.anyM, each item (by simp), inductionHypothesis later]

/-- A search that no item ends with a fault finds something exactly when some item holds. -/
theorem anyM_of_answers {α : Type} {holds : α → Except Fault Bool} {answer : α → Bool}
    {items : List α} (each : ∀ item ∈ items, holds item = .ok (answer item)) :
    items.anyM holds = .ok (items.any answer) := by
  induction items with
  | nil => rfl
  | cons item rest inductionHypothesis =>
    have later : ∀ other ∈ rest, holds other = .ok (answer other) := by
      intro other member
      exact each other (by simp [member])
    rw [List.anyM, each item (by simp), List.any_cons]
    cases answer item with
    | true => rfl
    | false => exact inductionHypothesis later

/-- Of two lists related item by item, every item of the first is related to something. -/
theorem exists_of_forall₂ {α β : Type} {R : α → β → Prop} {items : List α} {values : List β}
    (each : List.Forall₂ R items values) {item : α} (member : item ∈ items) :
    ∃ value, R item value := by
  induction each with
  | nil => simp at member
  | cons related _ inductionHypothesis =>
    rcases List.mem_cons.mp member with rfl | member
    · exact ⟨_, related⟩
    · exact inductionHypothesis member

/-- Of two lists related item by item, every item of the second is related to one of the first. -/
theorem exists_mem_of_forall₂ {α β : Type} {R : α → β → Prop} {items : List α} {values : List β}
    (each : List.Forall₂ R items values) {value : β} (member : value ∈ values) :
    ∃ item ∈ items, R item value := by
  induction each with
  | nil => simp at member
  | cons related _ inductionHypothesis =>
    rcases List.mem_cons.mp member with rfl | member
    · exact ⟨_, by simp, related⟩
    · obtain ⟨item, inside, found⟩ := inductionHypothesis member
      exact ⟨item, by simp [inside], found⟩

/-- Of two lists related item by item, all items of one are as required exactly when all items of
the other are. -/
theorem forall_mem_iff_of_forall₂ {α β : Type} {P : α → Prop} {Q : β → Prop} {items : List α}
    {values : List β} (each : List.Forall₂ (fun item value => P item ↔ Q value) items values) :
    (∀ item ∈ items, P item) ↔ ∀ value ∈ values, Q value := by
  induction each with
  | nil => simp
  | cons same _ inductionHypothesis => simp [same, inductionHypothesis]

/-- And some item of one is exactly when some item of the other is. -/
theorem exists_mem_iff_of_forall₂ {α β : Type} {P : α → Prop} {Q : β → Prop} {items : List α}
    {values : List β} (each : List.Forall₂ (fun item value => P item ↔ Q value) items values) :
    (∃ item ∈ items, P item) ↔ ∃ value ∈ values, Q value := by
  induction each with
  | nil => simp
  | cons same _ inductionHypothesis => simp [same, inductionHypothesis]

/-- Lists related item by item are so when each item comes with its place. -/
theorem forall₂_zipIdx {α β : Type} {R : α → β → Prop} {items : List α} {values : List β}
    (each : List.Forall₂ R items values) (first : Nat) :
    List.Forall₂ (fun item value => value.2 = item.2 ∧ R item.1 value.1) (items.zipIdx first)
      (values.zipIdx first) := by
  induction each generalizing first with
  | nil => exact .nil
  | cons related _ inductionHypothesis => exact .cons ⟨rfl, related⟩ (inductionHypothesis (first + 1))

/-- Whether an event is the warning that a container was too deep to be entered. -/
def Event.isWarning : Event → Bool
  | .depthExceeded _ _ => true
  | .rejected _ _ => false

namespace Run

variable {α β ι : Type}

/-- A run in which no container was too deep to be entered. -/
def Unwarned (run : Run α) : Prop := ∀ event ∈ run.events, event.isWarning = false

instance (run : Run α) : Decidable run.Unwarned :=
  inferInstanceAs (Decidable (∀ event ∈ run.events, event.isWarning = false))

theorem ext {run other : Run α} (events : run.events = other.events)
    (outcome : run.outcome = other.outcome) : run = other := by
  cases run
  cases other
  simp_all

@[simp] theorem events_pure (value : α) : (Pure.pure value : Run α).events = [] := rfl

@[simp] theorem outcome_pure (value : α) : (Pure.pure value : Run α).outcome = .ok value := rfl

@[simp] theorem events_lift (outcome : Except Fault α) : (lift outcome).events = [] := rfl

@[simp] theorem outcome_lift (outcome : Except Fault α) : (lift outcome).outcome = outcome := rfl

@[simp] theorem lift_ok (value : α) : lift (.ok value) = (Pure.pure value : Run α) := rfl

/-- Whether a run goes on depends on its outcome only. -/
theorem outcome_bind (run : Run α) (next : α → Run β) :
    (run >>= next).outcome = run.outcome >>= fun value => (next value).outcome := by
  change (Run.bind run next).outcome = _
  cases found : run.outcome <;> simp [Run.bind, found, Bind.bind, Except.bind]

/-- A faulty run ends with the events it has. -/
theorem bind_of_error {run : Run α} {fault : Fault} (ended : run.outcome = .error fault)
    (next : α → Run β) : run >>= next = ⟨run.events, .error fault⟩ := by
  change Run.bind run next = _
  simp [Run.bind, ended]

/-- A run with a value goes on with it, and its events come first. -/
theorem bind_of_ok {run : Run α} {value : α} (ended : run.outcome = .ok value)
    (next : α → Run β) :
    run >>= next = ⟨run.events ++ (next value).events, (next value).outcome⟩ := by
  change Run.bind run next = _
  simp [Run.bind, ended]

/-- What follows a run matters only at the value the run ends with. -/
theorem bind_congr {run : Run α} {next next' : α → Run β}
    (same : ∀ value, run.outcome = .ok value → next value = next' value) :
    run >>= next = run >>= next' := by
  cases ended : run.outcome with
  | error fault => rw [bind_of_error ended, bind_of_error ended]
  | ok value => rw [bind_of_ok ended, bind_of_ok ended, same value ended]

/-- The events of a run that goes on are its own and those of what follows. -/
theorem mem_events_bind {run : Run α} {next : α → Run β} {event : Event} :
    event ∈ (run >>= next).events ↔
      event ∈ run.events ∨ ∃ value, run.outcome = .ok value ∧ event ∈ (next value).events := by
  cases ended : run.outcome with
  | error fault => simp [bind_of_error ended]
  | ok value => simp [bind_of_ok ended]

/-- A run that goes on keeps its events. -/
theorem events_subset_bind (run : Run α) (next : α → Run β) :
    run.events ⊆ (run >>= next).events := by
  intro event logged
  exact mem_events_bind.mpr (.inl logged)

/-- A run that ends with a fault does so at once, or it goes on and what follows does; the events
of what follows are among its own. -/
theorem bind_error {run : Run α} {next : α → Run β} {fault : Fault}
    (ended : (run >>= next).outcome = .error fault) :
    run.outcome = .error fault ∨ ∃ value, run.outcome = .ok value ∧
      (next value).outcome = .error fault ∧ (next value).events ⊆ (run >>= next).events := by
  rw [outcome_bind, bind_eq_error_iff] at ended
  rcases ended with faulty | ⟨value, found, followed⟩
  · exact .inl faulty
  · refine .inr ⟨value, found, followed, ?_⟩
    intro event logged
    exact mem_events_bind.mpr (.inr ⟨value, found, logged⟩)

instance : LawfulMonad Run := by
  refine LawfulMonad.mk' _ ?_ ?_ ?_
  · intro α run
    change Run.bind run _ = run
    cases ended : run.outcome <;> exact ext (by simp [Run.bind, ended, Run.pure]) (by
      simp [Run.bind, ended, Run.pure])
  · intro α β value next
    exact ext rfl rfl
  · intro α β γ run next last
    cases ended : run.outcome with
    | error fault =>
      have stopped : (⟨run.events, .error fault⟩ : Run β).outcome = .error fault := rfl
      simp only [bind_of_error ended, bind_of_error stopped]
    | ok value =>
      cases followed : (next value).outcome with
      | error fault => simp [bind_of_ok ended, bind_of_error, followed]
      | ok middle => simp [bind_of_ok, ended, followed, List.append_assoc]

/-! ## The loop that stops at the first true value -/

section FirstTrue

variable (isTrue : α → Bool) (step : ι → Run α) (otherwise : α)

/-- The events given to the loop come before its own. -/
theorem firstTrue_events (events : List Event) (items : List ι) :
    firstTrue isTrue step otherwise events items =
      ⟨events ++ (firstTrue isTrue step otherwise [] items).events,
        (firstTrue isTrue step otherwise [] items).outcome⟩ := by
  induction items generalizing events with
  | nil => simp [firstTrue]
  | cons item rest inductionHypothesis =>
    simp only [firstTrue, List.nil_append]
    cases ended : (step item).outcome with
    | error fault => rfl
    | ok value =>
      by_cases truthy : isTrue value
      · simp [truthy]
      · simp only [truthy]
        rw [inductionHypothesis (events ++ (step item).events),
          inductionHypothesis (step item).events]
        simp [List.append_assoc]

/-- One step decides the loop unless its value counts as false. -/
theorem firstTrue_cons (item : ι) (rest : List ι) :
    firstTrue isTrue step otherwise [] (item :: rest) = (do
      let value ← step item
      if isTrue value then return value else firstTrue isTrue step otherwise [] rest) := by
  simp only [firstTrue, List.nil_append]
  cases ended : (step item).outcome with
  | error fault => rw [bind_of_error ended]
  | ok value =>
    rw [bind_of_ok ended]
    by_cases truthy : isTrue value
    · simp [truthy]
    · simp only [truthy]
      rw [firstTrue_events]
      rfl

theorem firstTrue_map {κ : Type} (f : κ → ι) (items : List κ) :
    firstTrue isTrue step otherwise [] (items.map f) =
      firstTrue isTrue (fun item => step (f item)) otherwise [] items := by
  induction items with
  | nil => rfl
  | cons item rest inductionHypothesis =>
    rw [List.map_cons, firstTrue_cons, firstTrue_cons, inductionHypothesis]

/-- A loop with a value has either passed every item, or was decided by one of them. -/
theorem firstTrue_ok {items : List ι} {result : α}
    (ended : (firstTrue isTrue step otherwise [] items).outcome = .ok result) :
    (result = otherwise ∧
        ∀ item ∈ items, ∃ value, (step item).outcome = .ok value ∧ isTrue value = false) ∨
      ∃ item ∈ items, (step item).outcome = .ok result ∧ isTrue result = true := by
  induction items with
  | nil => exact .inl ⟨(Except.ok.inj ended).symm, by simp⟩
  | cons item rest inductionHypothesis =>
    rw [firstTrue_cons, outcome_bind, bind_eq_ok_iff] at ended
    obtain ⟨value, stepped, followed⟩ := ended
    by_cases truthy : isTrue value
    · have same : value = result := by simpa [truthy] using followed
      subst same
      exact .inr ⟨item, by simp, stepped, truthy⟩
    · simp only [truthy] at followed
      rcases inductionHypothesis followed with ⟨same, passed⟩ | ⟨other, member, decided⟩
      · refine .inl ⟨same, ?_⟩
        intro other member
        rcases List.mem_cons.mp member with rfl | member
        · exact ⟨value, stepped, by simpa using truthy⟩
        · exact passed other member
      · exact .inr ⟨other, by simp [member], decided⟩

/-- A loop that ends with a fault was ended by one of its steps, whose events are among its own. -/
theorem firstTrue_error {items : List ι} {fault : Fault}
    (ended : (firstTrue isTrue step otherwise [] items).outcome = .error fault) :
    ∃ item ∈ items, (step item).outcome = .error fault ∧
      (step item).events ⊆ (firstTrue isTrue step otherwise [] items).events := by
  induction items with
  | nil => cases ended
  | cons item rest inductionHypothesis =>
    rw [firstTrue_cons] at ended ⊢
    rcases bind_error ended with faulty | ⟨value, _, followed, later⟩
    · exact ⟨item, by simp, faulty, events_subset_bind _ _⟩
    · by_cases truthy : isTrue value
      · simp [truthy] at followed
      · rw [if_neg truthy] at followed later
        obtain ⟨other, member, faulty, logged⟩ := inductionHypothesis followed
        exact ⟨other, by simp [member], faulty, List.Subset.trans logged later⟩

/-- Every event of a loop comes from one of its steps. -/
theorem mem_events_firstTrue {items : List ι} {event : Event}
    (logged : event ∈ (firstTrue isTrue step otherwise [] items).events) :
    ∃ item ∈ items, event ∈ (step item).events := by
  induction items with
  | nil => simp [firstTrue] at logged
  | cons item rest inductionHypothesis =>
    rw [firstTrue_cons, mem_events_bind] at logged
    rcases logged with logged | ⟨value, _, logged⟩
    · exact ⟨item, by simp, logged⟩
    · by_cases truthy : isTrue value
      · simp [truthy] at logged
      · simp only [truthy] at logged
        obtain ⟨other, member, found⟩ := inductionHypothesis logged
        exact ⟨other, by simp [member], found⟩

/-- Loops over items of which each makes the same step are the same loop. -/
theorem firstTrue_congr {κ : Type} {step : ι → Run α} {step' : κ → Run α} {items : List ι}
    {items' : List κ}
    (each : List.Forall₂ (fun item item' => step item = step' item') items items') :
    firstTrue isTrue step otherwise [] items = firstTrue isTrue step' otherwise [] items' := by
  induction each with
  | nil => rfl
  | cons same _ inductionHypothesis => rw [firstTrue_cons, firstTrue_cons, same, inductionHypothesis]

/-- If every step that gives something false logs nothing, the whole loop is the run of the step
that decides it, or of nothing at all. -/
theorem firstTrue_eq_step {items : List ι}
    (quiet : ∀ item ∈ items, ∀ value, (step item).outcome = .ok value → isTrue value = false →
      (step item).events = []) :
    firstTrue isTrue step otherwise [] items = Pure.pure otherwise ∨
      ∃ item ∈ items, firstTrue isTrue step otherwise [] items = step item := by
  induction items with
  | nil => exact .inl rfl
  | cons item rest inductionHypothesis =>
    rw [firstTrue_cons]
    cases ended : (step item).outcome with
    | error fault =>
      rw [bind_of_error ended]
      exact .inr ⟨item, by simp, ext rfl ended.symm⟩
    | ok value =>
      rw [bind_of_ok ended]
      by_cases truthy : isTrue value
      · exact .inr ⟨item, by simp, ext (by simp [truthy]) (by simp [truthy, ended])⟩
      · have silent := quiet item (by simp) value ended (by simpa using truthy)
        simp only [truthy, silent, List.nil_append]
        rcases inductionHypothesis fun other member => quiet other (by simp [member]) with
          nothing | ⟨other, member, same⟩
        · exact .inl nothing
        · exact .inr ⟨other, by simp [member], same⟩

end FirstTrue

/-! ## The loop that stops at the first value that is not true -/

section AllTrue

variable (isTrue : α → Bool) (step : ι → Run α)

/-- The events given to the loop come before its own. -/
theorem allTrue_events (events : List Event) (earlier : List α) (items : List ι) :
    allTrue isTrue step events earlier items =
      ⟨events ++ (allTrue isTrue step [] earlier items).events,
        (allTrue isTrue step [] earlier items).outcome⟩ := by
  induction items generalizing events earlier with
  | nil => simp [allTrue]
  | cons item rest inductionHypothesis =>
    simp only [allTrue, List.nil_append]
    cases ended : (step item).outcome with
    | error fault => rfl
    | ok value =>
      by_cases truthy : isTrue value
      · simp only [truthy]
        rw [inductionHypothesis (events ++ (step item).events),
          inductionHypothesis (step item).events]
        simp [List.append_assoc]
      · simp [truthy]

/-- The loop goes on as long as the values count as true, and keeps them. -/
theorem allTrue_cons (earlier : List α) (item : ι) (rest : List ι) :
    allTrue isTrue step [] earlier (item :: rest) = (do
      let value ← step item
      if isTrue value then allTrue isTrue step [] (value :: earlier) rest else return none) := by
  simp only [allTrue, List.nil_append]
  cases ended : (step item).outcome with
  | error fault => rw [bind_of_error ended]
  | ok value =>
    rw [bind_of_ok ended]
    by_cases truthy : isTrue value
    · simp only [truthy]
      rw [allTrue_events]
      rfl
    · simp [truthy]

/-- A loop that ends with `none` was ended by one of its items. -/
theorem allTrue_none {items : List ι} {earlier : List α}
    (ended : (allTrue isTrue step [] earlier items).outcome = .ok none) :
    ∃ item ∈ items, ∃ value, (step item).outcome = .ok value ∧ isTrue value = false := by
  induction items generalizing earlier with
  | nil => simp [allTrue] at ended
  | cons item rest inductionHypothesis =>
    rw [allTrue_cons, outcome_bind, bind_eq_ok_iff] at ended
    obtain ⟨value, stepped, followed⟩ := ended
    by_cases truthy : isTrue value
    · simp only [truthy] at followed
      obtain ⟨other, member, found⟩ := inductionHypothesis followed
      exact ⟨other, by simp [member], found⟩
    · exact ⟨item, by simp, value, stepped, by simpa using truthy⟩

/-- A loop that ends with values has one for each item, in order. -/
theorem allTrue_some {items : List ι} {earlier values : List α}
    (ended : (allTrue isTrue step [] earlier items).outcome = .ok (some values)) :
    ∃ found, values = earlier.reverse ++ found ∧
      List.Forall₂ (fun item value => (step item).outcome = .ok value ∧ isTrue value = true)
        items found := by
  induction items generalizing earlier with
  | nil =>
    have same : earlier.reverse = values := by simpa [allTrue] using ended
    exact ⟨[], by simp [same], .nil⟩
  | cons item rest inductionHypothesis =>
    rw [allTrue_cons, outcome_bind, bind_eq_ok_iff] at ended
    obtain ⟨value, stepped, followed⟩ := ended
    by_cases truthy : isTrue value
    · simp only [truthy] at followed
      obtain ⟨found, split, each⟩ := inductionHypothesis followed
      exact ⟨value :: found, by simp [split], .cons ⟨stepped, truthy⟩ each⟩
    · simp [truthy] at followed

/-- A loop that ends with a fault was ended by one of its steps, whose events are among its own. -/
theorem allTrue_error {items : List ι} {earlier : List α} {fault : Fault}
    (ended : (allTrue isTrue step [] earlier items).outcome = .error fault) :
    ∃ item ∈ items, (step item).outcome = .error fault ∧
      (step item).events ⊆ (allTrue isTrue step [] earlier items).events := by
  induction items generalizing earlier with
  | nil => cases ended
  | cons item rest inductionHypothesis =>
    rw [allTrue_cons] at ended ⊢
    rcases bind_error ended with faulty | ⟨value, _, followed, later⟩
    · exact ⟨item, by simp, faulty, events_subset_bind _ _⟩
    · by_cases truthy : isTrue value
      · rw [if_pos truthy] at followed later
        obtain ⟨other, member, faulty, logged⟩ := inductionHypothesis followed
        exact ⟨other, by simp [member], faulty, List.Subset.trans logged later⟩
      · simp [truthy] at followed

/-- Every event of a loop comes from one of its steps. -/
theorem mem_events_allTrue {items : List ι} {earlier : List α} {event : Event}
    (logged : event ∈ (allTrue isTrue step [] earlier items).events) :
    ∃ item ∈ items, event ∈ (step item).events := by
  induction items generalizing earlier with
  | nil => simp [allTrue] at logged
  | cons item rest inductionHypothesis =>
    rw [allTrue_cons, mem_events_bind] at logged
    rcases logged with logged | ⟨value, _, logged⟩
    · exact ⟨item, by simp, logged⟩
    · by_cases truthy : isTrue value
      · simp only [truthy] at logged
        obtain ⟨other, member, found⟩ := inductionHypothesis logged
        exact ⟨other, by simp [member], found⟩
      · simp [truthy] at logged

/-- Loops over items of which each makes the same step are the same loop. -/
theorem allTrue_congr {κ : Type} {step : ι → Run α} {step' : κ → Run α} {earlier : List α}
    {items : List ι} {items' : List κ}
    (each : List.Forall₂ (fun item item' => step item = step' item') items items') :
    allTrue isTrue step [] earlier items = allTrue isTrue step' [] earlier items' := by
  induction each generalizing earlier with
  | nil => rfl
  | cons same _ inductionHypothesis =>
    simp only [allTrue_cons, same, inductionHypothesis]

/-- A loop of which every step tests one thing is a search. It ends with `none` where the search
finds something, and otherwise with what all the steps gave. -/
theorem outcome_allTrue_of_search {κ : Type} {holds : κ → Except Fault Bool} {passed : α}
    {failed : κ → α} (falsy : isTrue passed = false)
    (truthy : ∀ tested, isTrue (failed tested) = true) {items : List ι} {tested : List κ}
    (each : List.Forall₂ (fun item tested => (step item).outcome =
      (holds tested).map fun found => if found then passed else failed tested) items tested)
    (earlier : List α) :
    (allTrue isTrue step [] earlier items).outcome = (tested.anyM holds).map fun found =>
      if found then none else some (earlier.reverse ++ tested.map failed) := by
  induction each generalizing earlier with
  | nil =>
    change Except.ok (some earlier.reverse) = Except.ok (some (earlier.reverse ++ []))
    rw [List.append_nil]
  | @cons item first items rest stepped _ inductionHypothesis =>
    rw [allTrue_cons, outcome_bind, stepped, List.anyM]
    cases holds first with
    | error fault => rfl
    | ok found =>
      cases found with
      | true =>
        change (if isTrue passed then _ else _ : Run (Option (List α))).outcome = Except.ok none
        simp [falsy]
      | false =>
        have next := inductionHypothesis (failed first :: earlier)
        simp only [List.reverse_cons, List.append_assoc, List.singleton_append] at next
        change (if isTrue (failed first) then _ else _ : Run (Option (List α))).outcome =
          Except.map _ (rest.anyM holds)
        rw [if_pos (truthy first)]
        exact next

end AllTrue

/-! ## Relations between runs -/

section Related

/-- A relation between runs that passes from the runs of the parts to the run of the whole. -/
structure Congruence (R : ∀ ⦃α : Type⦄, Run α → Run α → Prop) : Prop where
  refl : ∀ {α : Type} (run : Run α), R run run
  bind : ∀ {α β : Type} {run run' : Run α} {next next' : α → Run β}, R run run' →
    (∀ value, run.outcome = .ok value → R (next value) (next' value)) →
    R (run >>= next) (run' >>= next')

theorem congruence_eq : Congruence fun _ run run' => run = run' where
  refl _ := rfl
  bind := by
    rintro _ _ run _ next next' rfl same
    exact bind_congr same

variable {R : ∀ ⦃α : Type⦄, Run α → Run α → Prop} (congruence : Congruence R)
  (isTrue : α → Bool) {step step' : ι → Run α} {items : List ι}
include congruence

/-- What follows the same run may differ as the relation allows. -/
theorem Congruence.next {run : Run α} {next next' : α → Run β}
    (related : ∀ value, run.outcome = .ok value → R (next value) (next' value)) :
    R (run >>= next) (run >>= next') := congruence.bind (congruence.refl run) related

/-- Two loops that stop at the first true value are related if their steps are. -/
theorem Congruence.firstTrue (otherwise : α)
    (related : ∀ item ∈ items, R (step item) (step' item)) :
    R (firstTrue isTrue step otherwise [] items) (firstTrue isTrue step' otherwise [] items) := by
  induction items with
  | nil => exact congruence.refl _
  | cons item rest inductionHypothesis =>
    rw [firstTrue_cons, firstTrue_cons]
    refine congruence.bind (related item (by simp)) ?_
    intro value _
    split
    · exact congruence.refl _
    · exact inductionHypothesis fun other member => related other (by simp [member])

/-- Two loops that stop at the first value that is not true are related if their steps are. -/
theorem Congruence.allTrue (earlier : List α)
    (related : ∀ item ∈ items, R (step item) (step' item)) :
    R (allTrue isTrue step [] earlier items) (allTrue isTrue step' [] earlier items) := by
  induction items generalizing earlier with
  | nil => exact congruence.refl _
  | cons item rest inductionHypothesis =>
    rw [allTrue_cons, allTrue_cons]
    refine congruence.bind (related item (by simp)) ?_
    intro value _
    split
    · exact inductionHypothesis _ fun other member => related other (by simp [member])
    · exact congruence.refl _

end Related

end Run

end Conformance
