import Conformance.Proofs.Faults

/-!
# The lines of a union's message

When every alternative of a union fails, the message is a header and, below it, the location and the
message of each alternative's own error, in order. They are put there as they are. Nothing keeps a
message from having newlines: one that shows a text shows its newlines as well, and the message of a
union among the alternatives has several lines anyhow. So the message of a union has one line for
each alternative exactly when none of their errors has a newline in it, and otherwise it has more.
-/

namespace Conformance

namespace Text

/-- The lines of a text: what stands between its newlines. -/
def lines (s : String) : List String := (s.toList.splitOn '\n').map String.ofList

theorem lines_append_newline (first second : String) :
    lines (first ++ "\n" ++ second) = lines first ++ lines second := by
  have split : (first ++ "\n" ++ second).toList = first.toList ++ '\n' :: second.toList := by
    simp [String.toList_append]
  rw [lines, split, List.splitOn, List.splitOnP_append_cons _ _ (by simp), List.map_append]
  rfl

/-- A text without newlines is one line. -/
theorem lines_eq_singleton {s : String} (unbroken : '\n' ∉ s.toList) : lines s = [s] := by
  rw [lines, List.splitOn_eq_singleton unbroken]
  simp

theorem lines_length_pos (s : String) : 0 < (lines s).length := by
  rw [lines, List.length_map]
  exact List.length_pos_iff.mpr (List.splitOnP_ne_nil _ _)

/-- A text has one line exactly when it has no newlines. -/
theorem lines_length_eq_one_iff {s : String} : (lines s).length = 1 ↔ '\n' ∉ s.toList := by
  constructor
  · intro single broken
    obtain ⟨before, after, split⟩ := List.append_of_mem broken
    have whole : s = String.ofList before ++ "\n" ++ String.ofList after := by
      apply String.toList_injective
      simp [split, String.toList_append]
    have first := lines_length_pos (String.ofList before)
    have second := lines_length_pos (String.ofList after)
    rw [whole, lines_append_newline, List.length_append] at single
    omega
  · intro unbroken
    rw [lines_eq_singleton unbroken]
    rfl

/-- Texts joined by newlines have their lines, in order. -/
theorem lines_intercalate {texts : List String} (given : texts ≠ []) :
    lines ("\n".intercalate texts) = texts.flatMap lines := by
  induction texts with
  | nil => exact absurd rfl given
  | cons first rest inductionHypothesis =>
    cases rest with
    | nil => simp
    | cons second others =>
      rw [String.intercalate_cons_cons, lines_append_newline, inductionHypothesis (by simp)]
      rfl

theorem length_le_length_flatMap_lines (texts : List String) :
    texts.length ≤ (texts.flatMap lines).length := by
  induction texts with
  | nil => simp
  | cons first rest inductionHypothesis =>
    have one := lines_length_pos first
    simp only [List.flatMap_cons, List.length_append, List.length_cons]
    omega

/-- Texts have as many lines as there are texts exactly when none has a newline. -/
theorem length_flatMap_lines_iff {texts : List String} :
    (texts.flatMap lines).length = texts.length ↔ ∀ s ∈ texts, '\n' ∉ s.toList := by
  induction texts with
  | nil => simp
  | cons first rest inductionHypothesis =>
    have one := lines_length_pos first
    have others := length_le_length_flatMap_lines rest
    rw [List.forall_mem_cons, ← inductionHypothesis, ← lines_length_eq_one_iff, List.flatMap_cons,
      List.length_append, List.length_cons]
    omega

theorem flatMap_lines_eq {texts : List String} (unbroken : ∀ s ∈ texts, '\n' ∉ s.toList) :
    texts.flatMap lines = texts := by
  induction texts with
  | nil => rfl
  | cons first rest inductionHypothesis =>
    have later : ∀ s ∈ rest, '\n' ∉ s.toList := by
      intro s member
      exact unbroken s (by simp [member])
    rw [List.flatMap_cons, lines_eq_singleton (unbroken first (by simp)), inductionHypothesis later]
    rfl

end Text

/-- A loop that finds every value true ends with all of them, in order. -/
theorem Run.allTrue_of_forall₂ {α ι : Type} {isTrue : α → Bool} {step : ι → Run α} {items : List ι}
    {values earlier : List α}
    (each : List.Forall₂ (fun item value => (step item).outcome = .ok value ∧ isTrue value = true)
      items values) :
    (Run.allTrue isTrue step [] earlier items).outcome =
      .ok (some (earlier.reverse ++ values)) := by
  induction each generalizing earlier with
  | nil => simp [Run.allTrue]
  | @cons item value items values head _ inductionHypothesis =>
    obtain ⟨stepped, truthy⟩ := head
    rw [Run.allTrue_cons, Run.bind_of_ok stepped, if_pos truthy, inductionHypothesis]
    simp

/-- If every item has something related to it, so has the list, item by item. -/
theorem exists_forall₂_of_forall {α β : Type} {R : α → β → Prop} {items : List α}
    (each : ∀ item ∈ items, ∃ value, R item value) : ∃ values, List.Forall₂ R items values := by
  induction items with
  | nil => exact ⟨[], .nil⟩
  | cons item rest inductionHypothesis =>
    have later : ∀ other ∈ rest, ∃ value, R other value := by
      intro other member
      exact each other (by simp [member])
    obtain ⟨value, first⟩ := each item (by simp)
    obtain ⟨values, others⟩ := inductionHypothesis later
    exact ⟨value :: values, .cons first others⟩

namespace World

variable {w : World} {options : Options} {spec v context : Value} {alternatives : List Value}
  {depth : Int}

/-- What an alternative reports if it fails: the text of its error's location, and the message. -/
def Reports (w : World) (options : Options) (v context alternative : Value)
    (report : String × String) : Prop :=
  ∃ place, (w.runSpec options alternative v context).outcome = .ok (ownFailure report.2 place) ∧
    (w.call place [] >>= w.text) = .ok report.1

/-- How a report is written. -/
def reportLine (report : String × String) : String := report.1 ++ " |> " ++ report.2

/-- What stands above the reports. -/
def unionHeader : String := "Expected the value to pass one of the provided validators:"

/-- A self-contained alternative that ends with an error reports it. -/
theorem exists_reports {alternative error : Value} (layered : w.store.Layered)
    (contained : w.store.SelfContained alternative) (located : context.depth? = some depth)
    (written : IsWritten context)
    (ended : (w.runSpec options alternative v context).outcome = .ok error)
    (failed : error ≠ .null) :
    ∃ report, w.Reports options v context alternative report := by
  have judged := ended
  rw [runSpec, Run.outcome_bind, bind_eq_ok_iff] at judged
  obtain ⟨validator, resolved, judged⟩ := judged
  have ready : w.Ready w.store.Native ⟨validator, v, context⟩ depth :=
    ⟨located, fun _ native => native.keyed, alternative, contained, resolved⟩
  rcases ready.error_written (fun _ native => native.known) layered written judged with
    null | ⟨message, place, rfl, placed⟩
  · exact absurd null failed
  · obtain ⟨location, text, called, spoken⟩ := placed.hasLocation (w := w)
    refine ⟨(text, message), place, ended, ?_⟩
    rw [called]
    exact spoken

/-- Alternatives that report all fail, and their errors are listed as the reports. -/
theorem exists_errors_of_reports {reports : List (String × String)}
    (reported : List.Forall₂ (w.Reports options v context) alternatives reports) :
    ∃ errors : List Value,
      List.Forall₂ (fun alternative error =>
        (w.judgeAlternative (w.run options) v context alternative).outcome = .ok error ∧
          w.store.isTrue error = true) alternatives errors ∧
      errors.mapM w.alternativeLine = .ok (reports.map reportLine) := by
  induction reported with
  | nil => exact ⟨[], .nil, rfl⟩
  | @cons alternative report alternatives reports head _ inductionHypothesis =>
    obtain ⟨place, ended, said⟩ := head
    obtain ⟨errors, failed, lines⟩ := inductionHypothesis
    refine ⟨ownFailure report.2 place :: errors, .cons ⟨ended, rfl⟩ failed, ?_⟩
    rw [List.mapM_cons, alternativeLine_of_text report.2 said, lines]
    rfl

/-- A union whose alternatives all report fails at its own context, with the header and all their
reports below it. -/
theorem runSpec_union_of_reports {reports : List (String × String)} (layered : w.store.Layered)
    (contained : w.store.SelfContained spec) (stands : w.store.Stands spec (.union alternatives))
    (located : context.depth? = some depth)
    (reported : List.Forall₂ (w.Reports options v context) alternatives reports) :
    (w.runSpec options spec v context).outcome = .ok (ownFailure
      (unionHeader ++ "\n" ++ "\n".intercalate (reports.map reportLine)) context) := by
  have resolved := resolve_of_stands stands
  have ready : w.Ready w.store.Native ⟨.rule (.union alternatives), v, context⟩ depth :=
    ⟨located, fun _ native => native.keyed, spec, contained, resolved⟩
  obtain ⟨errors, failed, lines⟩ := exists_errors_of_reports reported
  have looped : (Run.allTrue w.store.isTrue
      (w.judgeAlternative (w.run options) v context) [] [] alternatives).outcome =
        .ok (some errors) := Run.allTrue_of_forall₂ failed
  have root := contextOrRoot_of_depth? (w := w) located
  have header : "Expected the value to pass one of the provided validators:\n" =
      unionHeader ++ "\n" := by decide
  rw [runSpec, resolved, Run.lift_ok, pure_bind, ready.run_eq layered options]
  simp only [judgeWith, root, judgeUnion, Run.outcome_bind, looped]
  change w.unionFailure errors context = _
  rw [unionFailure, lines, header]
  rfl

/-- The lines of a header with reports below it. -/
theorem lines_of_reports {reports : List (String × String)} (given : reports ≠ []) :
    Text.lines (unionHeader ++ "\n" ++ "\n".intercalate (reports.map reportLine)) =
      unionHeader :: (reports.map reportLine).flatMap Text.lines := by
  have some_ : reports.map reportLine ≠ [] := by simpa using given
  have header : Text.lines unionHeader = [unionHeader] := Text.lines_eq_singleton (by decide)
  rw [Text.lines_append_newline, Text.lines_intercalate some_, header]
  rfl

/-- A union of alternatives that all end with an error fails at its own context. The lines of its
message are the header and then, alternative by alternative, the lines of the location and message
of the alternative's own error. So there is one line for each alternative, and one more, exactly
when none of these has a newline. -/
theorem union_message_lines (layered : w.store.Layered) (contained : w.store.SelfContained spec)
    (stands : w.store.Stands spec (.union alternatives)) (given : alternatives ≠ [])
    (located : context.depth? = some depth) (written : IsWritten context)
    (rejected : ∀ alternative ∈ alternatives, ∃ error,
      (w.runSpec options alternative v context).outcome = .ok error ∧ error ≠ .null) :
    ∃ reports message, List.Forall₂ (w.Reports options v context) alternatives reports ∧
      (w.runSpec options spec v context).outcome = .ok (ownFailure message context) ∧
      Text.lines message = unionHeader :: (reports.map reportLine).flatMap Text.lines ∧
      ((Text.lines message).length = alternatives.length + 1 ↔
        ∀ report ∈ reports, '\n' ∉ (reportLine report).toList) ∧
      ((∀ report ∈ reports, '\n' ∉ (reportLine report).toList) →
        Text.lines message = unionHeader :: reports.map reportLine) := by
  have each : ∀ alternative ∈ alternatives, ∃ report,
      w.Reports options v context alternative report := by
    intro alternative member
    obtain ⟨error, ended, failed⟩ := rejected alternative member
    have below : w.store.SelfContained alternative := contained.sub stands member
    exact exists_reports layered below located written ended failed
  obtain ⟨reports, reported⟩ := exists_forall₂_of_forall each
  have count : reports.length = alternatives.length := reported.length_eq.symm
  have some_ : reports ≠ [] := by
    apply List.ne_nil_of_length_pos
    rw [count]
    exact List.length_pos_iff.mpr given
  have lines := lines_of_reports some_
  have unbroken : ((reports.map reportLine).flatMap Text.lines).length = alternatives.length ↔
      ∀ report ∈ reports, '\n' ∉ (reportLine report).toList := by
    rw [← count, ← List.length_map reportLine, Text.length_flatMap_lines_iff, List.forall_mem_map]
  refine ⟨reports, _, reported,
    runSpec_union_of_reports layered contained stands located reported, lines, ?_, ?_⟩
  · rw [lines, List.length_cons, ← unbroken]
    omega
  · intro single
    rw [lines, Text.flatMap_lines_eq (List.forall_mem_map.mpr single)]

/-- A union of two kinds, one around an equality, and one around a union of a single kind. -/
def divided : World :=
  ⟨⟨#[.validator (.union [.str "string", .str "null"]), .validator (.equals (.int 1)),
      .validator (.union [.object 1]), .validator (.union [.str "null"]),
      .validator (.union [.object 3])]⟩,
    fun _ _ => .ok .null, fun _ _ => .ok none, .regular ⟨#[]⟩⟩

theorem divided_layered : divided.store.Layered :=
  Store.layered_of_isLayered (by decide +kernel)

/-- What the union of two kinds reports of a number. -/
theorem divided_reports {reports : List (String × String)}
    (reported : List.Forall₂ (divided.Reports {} (.int 7) (.rootPath (.str "age")))
      [.str "string", .str "null"] reports) :
    reports = [("age", "Expected type string but received number"),
      ("age", "Expected type null but received number")] := by
  have text : (divided.runSpec {} (.str "string") (.int 7) (.rootPath (.str "age"))).outcome =
      .ok (ownFailure "Expected type string but received number" (.rootPath (.str "age"))) := by
    decide +kernel
  have null : (divided.runSpec {} (.str "null") (.int 7) (.rootPath (.str "age"))).outcome =
      .ok (ownFailure "Expected type null but received number" (.rootPath (.str "age"))) := by
    decide +kernel
  cases reported with
  | @cons _ first _ _ head tail =>
    cases tail with
    | @cons _ second _ _ next last =>
      cases last
      obtain ⟨place, ended, said⟩ := head
      obtain ⟨place', ended', said'⟩ := next
      rw [text] at ended
      rw [null] at ended'
      obtain ⟨location, message⟩ := first
      obtain ⟨location', message'⟩ := second
      cases ended
      cases ended'
      cases said
      cases said'
      rfl

/-- A number is neither of the two kinds, so the message has a header and two lines. -/
theorem divided_message_lines :
    ∃ message,
      (divided.runSpec {} (.object 0) (.int 7) (.rootPath (.str "age"))).outcome =
        .ok (ownFailure message (.rootPath (.str "age"))) ∧
      Text.lines message = [unionHeader, "age |> Expected type string but received number",
        "age |> Expected type null but received number"] := by
  have enclosed : ∀ spec ∈ [Value.object 0, .str "string", .str "null"],
      divided.encloses [.object 0, .str "string", .str "null"] spec = true := by decide +kernel
  have contained : divided.store.SelfContained (.object 0) :=
    selfContained_of_encloses enclosed (by simp)
  have rejected : ∀ alternative ∈ [Value.str "string", .str "null"], ∃ error,
      (divided.runSpec {} alternative (.int 7) (.rootPath (.str "age"))).outcome = .ok error ∧
        error ≠ .null := by
    intro alternative member
    simp only [List.mem_cons, List.not_mem_nil, or_false] at member
    rcases member with rfl | rfl
    · exact ⟨ownFailure "Expected type string but received number" (.rootPath (.str "age")),
        by decide +kernel, by decide⟩
    · exact ⟨ownFailure "Expected type null but received number" (.rootPath (.str "age")),
        by decide +kernel, by decide⟩
  obtain ⟨reports, message, reported, ended, _, _, single⟩ :=
    union_message_lines divided_layered contained (.made rfl) (by simp) rfl
      ⟨"age", .plain, _, _, rfl⟩ rejected
  cases divided_reports reported
  refine ⟨message, ended, ?_⟩
  rw [single (by decide +kernel)]
  decide

/-- A single alternative that fails does not always add a single line: a text is shown with its
newline, and a union in a union brings a header of its own. Either way the message has three
lines. -/
theorem divided_broken_lines :
    (divided.runSpec {} (.object 1) (.str "a\nb") (.rootPath (.str ""))).outcome =
        .ok (ownFailure "Expected value to equal 1 but received \"a\nb\"" (.rootPath (.str ""))) ∧
      (divided.runSpec {} (.object 2) (.str "a\nb") (.rootPath (.str ""))).outcome =
        .ok (ownFailure (unionHeader ++ "\n |> Expected value to equal 1 but received \"a\nb\"")
          (.rootPath (.str ""))) ∧
      Text.lines (unionHeader ++ "\n |> Expected value to equal 1 but received \"a\nb\"") =
        [unionHeader, " |> Expected value to equal 1 but received \"a", "b\""] ∧
      (divided.runSpec {} (.object 4) (.int 7) (.rootPath (.str ""))).outcome =
        .ok (ownFailure (unionHeader ++ "\n |> " ++ unionHeader ++
          "\n |> Expected type null but received number") (.rootPath (.str ""))) ∧
      Text.lines (unionHeader ++ "\n |> " ++ unionHeader ++
          "\n |> Expected type null but received number") =
        [unionHeader, " |> " ++ unionHeader, " |> Expected type null but received number"] := by
  refine ⟨by decide +kernel, by decide +kernel, by decide +kernel, by decide +kernel, ?_⟩
  decide +kernel

end World

end Conformance
