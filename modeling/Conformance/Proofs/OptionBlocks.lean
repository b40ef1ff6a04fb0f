import Conformance.Options.Limit
import Conformance.Session

/-!
# Options along nested blocks

A block runs its body inside an options context and closes the context again, whether the body ends
normally or by an exception. Programs are put together from blocks, from operations that have
nothing to do with options, by sequence, and by attempts that catch exceptions. A run of a program
records the options in effect at every point that it passes, and what became of every block that it
came to.

At every point the options are determined by the blocks around it alone: the defaults, overridden
by one block after the other from the outermost to the innermost. They are always positive. A block
with an override that is not accepted raises before its body is entered, and every block leaves
the options as it found them. Options contexts have names; a name may be used again, but not for a
block inside one of that name.

How a value given for an option is read is a parameter. Of a reading two things are needed: what it
gives is positive, and a positive integer is read as itself. So the options in effect stay what they
are when they are read again along with the overrides of a block.
-/

namespace Conformance

/-- The values given for some names. Of several values for one name the last counts. -/
abbrev Overrides := List (String × Value)

namespace Options

variable {read : Reading} {overrides : Overrides} {name : String} {current : Options}

/-! ## Readings -/

/-- A reading that gives nothing but positive integers, and those that are given as they are. -/
structure Reading.Sound (read : Reading) : Prop where
  positive : ∀ {v : Value} {n : Nat}, read v = .ok n → 0 < n
  unchanged : ∀ {n : Nat}, 0 < n → read (.int n) = .ok n

/-- A limit is positive, and a positive integer stands for itself. -/
theorem limit_sound : Reading.Sound Value.limit where
  positive := by
    intro v n taken
    unfold Value.limit at taken
    cases whole : v.wholeNumber with
    | error cause => simp [whole, bind, Except.bind] at taken
    | ok m =>
      by_cases positive : 0 < m
      · have same : m.toNat = n := by
          simpa [whole, positive, bind, Except.bind, pure, Except.pure] using taken
        omega
      · simp [whole, positive, bind, Except.bind, throw, throwThe, MonadExceptOf.throw] at taken
  unchanged := by
    intro n positive
    simp [Value.int, Value.limit, Value.wholeNumber, Number.whole, positive, bind, Except.bind,
      pure, Except.pure]

/-! ## The options inside blocks -/

/-- All three options are positive. -/
structure Positive (options : Options) : Prop where
  depth : 0 < options.maxDepth
  renderLength : 0 < options.maxRenderLength
  renderDepth : 0 < options.maxRenderDepth

/-- Every name that is given is that of an option, and its value can be read. -/
def Accepts (read : Reading) (overrides : Overrides) : Prop :=
  ∀ name v, lastGiven? overrides name = some v → name ∈ names ∧ ∃ n, read v = .ok n

/-- An option inside a block: what its override is read as or, if the block does not name it, what
it is around the block. -/
def optionWithin (read : Reading) (overrides : Overrides) (name : String) (outer : Nat) : Nat :=
  match lastGiven? overrides name with
  | some v => (read v).toOption.getD outer
  | none => outer

/-- The options inside a block. -/
def within (read : Reading) (outer : Options) (overrides : Overrides) : Options :=
  ⟨optionWithin read overrides "max_depth" outer.maxDepth,
    optionWithin read overrides "max_render_length" outer.maxRenderLength,
    optionWithin read overrides "max_render_depth" outer.maxRenderDepth⟩

/-- The options inside blocks, the innermost of which comes first; outside of all blocks they are
the defaults. -/
def inside (read : Reading) : List Overrides → Options
  | [] => {}
  | overrides :: outer => (inside read outer).within read overrides

/-- An option stays positive inside a block. -/
theorem optionWithin_pos (sound : read.Sound) {outer : Nat} (positive : 0 < outer) :
    0 < optionWithin read overrides name outer := by
  unfold optionWithin
  cases lastGiven? overrides name with
  | none => exact positive
  | some v =>
    cases reading : read v with
    | error cause => simpa [reading, Except.toOption] using positive
    | ok n => simpa [reading, Except.toOption] using sound.positive reading

/-- Inside of any blocks all three options are positive. -/
theorem inside_positive (sound : read.Sound) (blocks : List Overrides) :
    (inside read blocks).Positive := by
  induction blocks with
  | nil => exact ⟨Nat.succ_pos _, Nat.succ_pos _, Nat.succ_pos _⟩
  | cons overrides outer inductionHypothesis =>
    obtain ⟨depth, renderLength, renderDepth⟩ := inductionHypothesis
    constructor
    · exact optionWithin_pos sound depth
    · exact optionWithin_pos sound renderLength
    · exact optionWithin_pos sound renderDepth

/-! ## What is given -/

/-- A name is given a value exactly when it is among the names given. -/
theorem lastGiven?_isSome_iff :
    (∃ v, lastGiven? overrides name = some v) ↔ name ∈ overrides.map (·.1) := by
  rw [← Option.isSome_iff_exists, lastGiven?, Option.isSome_map, List.find?_isSome]
  simp

/-- No name is unknown exactly when all that are given are those of options. -/
theorem unknownNames_eq_nil_iff :
    unknownNames overrides = [] ↔ ∀ name v, lastGiven? overrides name = some v → name ∈ names := by
  have given : unknownNames overrides = [] ↔ ∀ name ∈ overrides.map (·.1), name ∈ names := by
    simp [unknownNames, List.filter_eq_nil_iff, List.mem_eraseDups]
  rw [given]
  constructor
  · intro known name v found
    exact known name (lastGiven?_isSome_iff.mp ⟨v, found⟩)
  · intro known name member
    obtain ⟨v, found⟩ := lastGiven?_isSome_iff.mpr member
    exact known name v found

/-- An option whose value, if it is given one, can be read is taken as it is read. -/
theorem taken_of_accepted {outer : Nat}
    (accepted : ∀ v, lastGiven? overrides name = some v → ∃ n, read v = .ok n) :
    taken read overrides name outer = .ok (optionWithin read overrides name outer) := by
  unfold taken optionWithin
  cases given : lastGiven? overrides name with
  | none => rfl
  | some v =>
    obtain ⟨n, reading⟩ := accepted v given
    simp [reading, Except.toOption]

/-- An option can be taken only from a value that can be read. -/
theorem accepted_of_taken {outer n : Nat} (reading : taken read overrides name outer = .ok n) :
    ∀ v, lastGiven? overrides name = some v → ∃ n, read v = .ok n := by
  intro v given
  exact ⟨n, by simpa [taken, given] using reading⟩

/-! ## Overriding -/

/-- Of two lists of overrides the second counts where it gives a value. -/
theorem lastGiven?_append (first second : Overrides) (name : String) :
    lastGiven? (first ++ second) name = (lastGiven? second name).or (lastGiven? first name) := by
  rw [lastGiven?, List.reverse_append, List.find?_append, Option.map_or]
  rfl

/-- An option that is given as it is, and then perhaps overridden, is the option overridden. -/
theorem taken_append (sound : read.Sound) {first : Overrides} {n : Nat} (positive : 0 < n)
    (given : lastGiven? first name = some (.int n)) (outer : Nat) :
    taken read (first ++ overrides) name outer = taken read overrides name n := by
  unfold taken
  rw [lastGiven?_append, given]
  cases lastGiven? overrides name with
  | none => exact sound.unchanged positive
  | some v => rfl

/-- And there is an issue with it just when there is one with the override. -/
theorem issueOf?_append (sound : read.Sound) {first : Overrides} {n : Nat} (positive : 0 < n)
    (given : lastGiven? first name = some (.int n)) :
    issueOf? read (first ++ overrides) name = issueOf? read overrides name := by
  unfold issueOf?
  rw [taken_append sound positive given]
  unfold taken
  cases lastGiven? overrides name <;> rfl

/-- It makes no difference whether the items that fail a test are left out before or after all
repetitions are. -/
theorem eraseDups_filter (keep : String → Bool) (given : List String) :
    (given.filter keep).eraseDups = given.eraseDups.filter keep := by
  induction length : given.length using Nat.strongRecOn generalizing given with
  | ind size inductionHypothesis =>
    cases given with
    | nil => rfl
    | cons name rest =>
      have shorter : (rest.filter fun other => !other == name).length < size := by
        have bound := List.length_filter_le (fun other => !other == name) rest
        simp only [List.length_cons] at length
        omega
      have commute : (rest.filter fun other => !other == name).filter keep =
          (rest.filter keep).filter fun other => !other == name := by
        simp only [List.filter_filter, Bool.and_comm]
      have others := inductionHypothesis _ shorter _ rfl
      rw [commute] at others
      by_cases kept : keep name = true
      · rw [List.filter_cons_of_pos kept, List.eraseDups_cons, List.eraseDups_cons,
          List.filter_cons_of_pos kept, others]
      · have absent : (rest.filter keep).filter (fun other => !other == name) =
            rest.filter keep := by
          rw [List.filter_eq_self]
          intro other member
          have passes : keep other = true := (List.mem_filter.mp member).2
          have different : other ≠ name := fun same => kept (same ▸ passes)
          simpa using different
        rw [List.filter_cons_of_neg kept, List.eraseDups_cons, List.filter_cons_of_neg kept,
          ← others, absent]

/-- Names of options are never among the unknown ones. -/
theorem unknownNames_append {first : Overrides} (known : first.map (·.1) = names) :
    unknownNames (first ++ overrides) = unknownNames overrides := by
  have none : names.eraseDups.filter (fun name => !names.contains name) = [] := by decide
  have rest : ((overrides.map (·.1)).removeAll names).filter (fun name => !names.contains name) =
      (overrides.map (·.1)).filter fun name => !names.contains name := by
    rw [List.removeAll, List.filter_filter]
    simp
  rw [unknownNames, List.map_append, known, List.eraseDups_append, List.filter_append, none,
    List.nil_append, ← eraseDups_filter, rest, eraseDups_filter, unknownNames]

/-- Positive options are overridden one by one: each is taken from the overrides, or stays. -/
theorem override_eq (sound : read.Sound) (positive : current.Positive) (overrides : Overrides) :
    current.override read overrides =
      assemble (taken read overrides "max_depth" current.maxDepth)
        (taken read overrides "max_render_length" current.maxRenderLength)
        (taken read overrides "max_render_depth" current.maxRenderDepth) (unknownNames overrides)
        (issues read overrides) := by
  have depth : lastGiven? current.written "max_depth" = some (.int current.maxDepth) := rfl
  have length : lastGiven? current.written "max_render_length" =
    some (.int current.maxRenderLength) := rfl
  have renderDepth : lastGiven? current.written "max_render_depth" =
    some (.int current.maxRenderDepth) := rfl
  have known : unknownNames (current.written ++ overrides) = unknownNames overrides :=
    unknownNames_append rfl
  have same : issues read (current.written ++ overrides) = issues read overrides := by
    simp only [issues, names, List.filterMap_cons, issueOf?_append sound positive.depth depth,
      issueOf?_append sound positive.renderLength length,
      issueOf?_append sound positive.renderDepth renderDepth, known, List.filterMap_nil]
  simp only [override, make, taken_append sound positive.depth depth,
    taken_append sound positive.renderLength length,
    taken_append sound positive.renderDepth renderDepth, known, same]

/-- Overrides that are accepted take effect. -/
theorem override_of_accepts (sound : read.Sound) (positive : current.Positive)
    (accepted : Accepts read overrides) :
    current.override read overrides = .ok (current.within read overrides) := by
  have known : unknownNames overrides = [] :=
    unknownNames_eq_nil_iff.mpr fun name v given => (accepted name v given).1
  have taken (name : String) (outer : Nat) :
      taken read overrides name outer = .ok (optionWithin read overrides name outer) :=
    taken_of_accepted fun v given => (accepted name v given).2
  simp only [override_eq sound positive, taken, known, assemble, within]

/-- Overrides that are not all accepted are refused as a whole, with all their issues. -/
theorem override_of_not_accepts (sound : read.Sound) (positive : current.Positive)
    (refused : ¬ Accepts read overrides) :
    current.override read overrides = .error (issues read overrides) := by
  rw [override_eq sound positive]
  unfold assemble
  split
  · next depth renderLength renderDepth known =>
    refine absurd ?_ refused
    intro name v given
    have listed : name ∈ names := unknownNames_eq_nil_iff.mp known name v given
    have option : name = "max_depth" ∨ name = "max_render_length" ∨ name = "max_render_depth" := by
      simpa [names] using listed
    refine ⟨listed, ?_⟩
    rcases option with rfl | rfl | rfl
    · exact accepted_of_taken depth v given
    · exact accepted_of_taken renderLength v given
    · exact accepted_of_taken renderDepth v given
  · rfl

end Options

/-! ## Programs -/

/-- An operation that leaves the options and the open contexts as they are. It may raise. -/
structure Errand where
  act : Making Unit
  options : ∀ s : Session, (act.run.run s).2.options = s.options
  opened : ∀ s : Session, (act.run.run s).2.opened = s.opened

/-- An operation that does nothing but raise. -/
def Errand.raise (fault : Fault) : Errand := ⟨throw fault, fun _ => rfl, fun _ => rfl⟩

/-- A program that runs while the contexts of the names `around` are open. -/
inductive Program : List String → Type
  | errand {around : List String} (operation : Errand) : Program around
  | sequence {around : List String} (first second : Program around) : Program around
  /-- If the first program raises, the second goes on in its place. -/
  | attempt {around : List String} (first second : Program around) : Program around
  /-- A block, by the name that its context has while it is open. -/
  | block {around : List String} (name : String) (fresh : name ∉ around) (overrides : Overrides)
      (body : Program (name :: around)) : Program around

/-- Why a program does not go on. -/
inductive Interruption where
  | fault (fault : Fault)
  /-- The overrides of a block were not accepted. -/
  | refused (issues : List Issue)

/-- A point of a program: the blocks around it, the innermost first, and the options in effect. -/
structure Point where
  around : List Overrides
  options : Options

/-- What became of a block that was come to at a point. -/
structure Passage extends Point where
  overrides : Overrides
  /-- The points passed in the body. -/
  body : List Point
  /-- The options in effect when the block is over. -/
  after : Options
  raised : Option Interruption

/-- The course of a program: how it ends, the points it passes and the blocks it comes to. -/
structure Course where
  session : Session
  raised : Option Interruption
  points : List Point
  blocks : List Passage

namespace Course

/-- Goes on with another program if the way this one ended is a reason to. -/
def followedBy (course : Course) (goesOn : Option Interruption → Bool) (next : Session → Course) :
    Course :=
  if goesOn course.raised then
    let later := next course.session
    ⟨later.session, later.raised, course.points ++ later.points, course.blocks ++ later.blocks⟩
  else course

/-- Closes the context of a block behind its body, however that ended. -/
def closed (body : Course) (name : String) (overrides : Overrides) (here : Point) : Course :=
  let (session, raised) : Session × Option Interruption :=
    match body.session.leave name with
    | .ok session => (session, body.raised)
    | .error fault => (body.session, some (.fault fault))
  { session, raised
    points := here :: body.points ++ [⟨here.around, session.options⟩]
    blocks := body.blocks ++
      [{ here with overrides, body := body.points, after := session.options, raised }] }

/-- A block that is not entered. -/
def refused (s : Session) (overrides : Overrides) (here : Point) (issues : List Issue) : Course :=
  { session := s, raised := some (.refused issues), points := [here]
    blocks :=
      [{ here with overrides, body := [], after := s.options, raised := some (.refused issues) }] }

end Course

/-- The course of a program inside blocks, from a session. -/
def Program.run (read : Options.Reading) {around : List String} (program : Program around)
    (outer : List Overrides) (s : Session) : Course :=
  let here : Point := ⟨outer, s.options⟩
  match program with
  | .errand operation =>
    let ended := operation.act.run.run s
    { session := ended.2, points := [here, ⟨outer, ended.2.options⟩], blocks := []
      raised := match ended.1 with
        | .ok () => none
        | .error fault => some (.fault fault) }
  | .sequence first second =>
    (first.run read outer s).followedBy Option.isNone (second.run read outer)
  | .attempt first second =>
    (first.run read outer s).followedBy Option.isSome (second.run read outer)
  | .block name _ overrides body =>
    match s.enter read name overrides with
    | .ok inner => (body.run read (overrides :: outer) inner).closed name overrides here
    | .error issues => Course.refused s overrides here issues

/-! ## What a program leaves as it was -/

/-- The options at a point are those inside the blocks around it. -/
def Point.Settled (read : Options.Reading) (point : Point) : Prop :=
  point.options = Options.inside read point.around

/-- A block leaves the options as it found them. If its overrides are accepted, its body starts
under them; otherwise nothing of the body is run and the block raises. -/
structure Passage.Settled (read : Options.Reading) (block : Passage) : Prop where
  before : block.toPoint.Settled read
  after : block.after = block.options
  entered : Options.Accepts read block.overrides → ∃ rest, block.body =
    ⟨block.overrides :: block.around, block.options.within read block.overrides⟩ :: rest
  refused : ¬ Options.Accepts read block.overrides → block.body = [] ∧
    block.raised = some (.refused (Options.issues read block.overrides))

/-- A course that started in a session, left its options and open contexts as they were, and went
through points and blocks as it should. -/
structure Course.Settled (read : Options.Reading) (course : Course) (s : Session) : Prop where
  options : course.session.options = s.options
  opened : course.session.opened = s.opened
  points : ∀ point ∈ course.points, point.Settled read
  blocks : ∀ block ∈ course.blocks, block.Settled read

namespace Session

variable {read : Options.Reading} {s : Session} {name : String} {overrides : Overrides}

/-- Contexts of other names are kept when those of one name are dropped. -/
theorem filter_of_fresh {opened : List (String × Options)} (fresh : name ∉ opened.map (·.1)) :
    opened.filter (fun context => context.1 != name) = opened := by
  rw [List.filter_eq_self]
  intro context member
  have different : context.1 ≠ name := by
    rintro rfl
    exact fresh (List.mem_map_of_mem member)
  simpa using different

/-- A context of a new name is opened if its overrides are accepted. -/
theorem enter_of_accepts (sound : read.Sound) (positive : s.options.Positive)
    (accepted : Options.Accepts read overrides) (fresh : name ∉ s.opened.map (·.1)) :
    s.enter read name overrides = .ok { s with
      options := s.options.within read overrides
      opened := (name, s.options) :: s.opened } := by
  simp only [enter, Options.override_of_accepts sound positive accepted, filter_of_fresh fresh]
  rfl

/-- It is not opened if they are not. -/
theorem enter_of_not_accepts (sound : read.Sound) (positive : s.options.Positive)
    (refused : ¬ Options.Accepts read overrides) :
    s.enter read name overrides = .error (Options.issues read overrides) := by
  simp only [enter, Options.override_of_not_accepts sound positive refused]
  rfl

/-- The context opened last can be closed, which puts back the options it replaced. -/
theorem leave_of_opened {outer : Options} {opened : List (String × Options)}
    (last : s.opened = (name, outer) :: opened) (fresh : name ∉ opened.map (·.1)) :
    s.leave name = .ok { s with options := outer, opened := opened } := by
  simp [leave, last, filter_of_fresh fresh]

end Session

namespace Course

variable {read : Options.Reading} {course : Course} {s : Session}

/-- The first point stays the first whatever follows. -/
theorem points_followedBy {goesOn : Option Interruption → Bool} {next : Session → Course}
    {first : Point} (started : ∃ rest, course.points = first :: rest) :
    ∃ rest, (course.followedBy goesOn next).points = first :: rest := by
  obtain ⟨rest, started⟩ := started
  by_cases continued : goesOn course.raised = true
  · exact ⟨rest ++ (next course.session).points, by simp [followedBy, continued, started]⟩
  · exact ⟨rest, by simp [followedBy, continued, started]⟩

/-- A program that may be followed by another settles if both do. -/
theorem Settled.followedBy {goesOn : Option Interruption → Bool} {next : Session → Course}
    (first : course.Settled read s)
    (second : ∀ later : Session, later.options = s.options → later.opened = s.opened →
      (next later).Settled read later) : (course.followedBy goesOn next).Settled read s := by
  unfold Course.followedBy
  by_cases continued : goesOn course.raised = true
  · have later := second course.session first.options first.opened
    rw [if_pos continued]
    refine ⟨later.options.trans first.options, later.opened.trans first.opened, ?_, ?_⟩
    · intro point member
      rcases List.mem_append.mp member with earlier | next
      · exact first.points point earlier
      · exact later.points point next
    · intro block member
      rcases List.mem_append.mp member with earlier | next
      · exact first.blocks block earlier
      · exact later.blocks block next
  · rw [if_neg continued]
    exact first

/-- A block that is not entered changes nothing. -/
theorem settled_refused {overrides : Overrides} {outer : List Overrides}
    (standing : s.options = Options.inside read outer)
    (refused : ¬ Options.Accepts read overrides) : (Course.refused s overrides ⟨outer, s.options⟩
      (Options.issues read overrides)).Settled read s := by
  refine ⟨rfl, rfl, ?_, ?_⟩
  · intro point member
    cases List.mem_singleton.mp member
    exact standing
  · intro block member
    cases List.mem_singleton.mp member
    exact ⟨standing, rfl, fun accepted => absurd accepted refused, fun _ => ⟨rfl, rfl⟩⟩

/-- A block whose body settles settles itself: closing its context puts back the options that were
in effect before it, whichever way the body ended. -/
theorem Settled.closed {body : Course} {inner : Session} {name : String} {overrides : Overrides}
    {outer : List Overrides} {rest : List Point} (settled : body.Settled read inner)
    (opened : inner.opened = (name, s.options) :: s.opened) (fresh : name ∉ s.opened.map (·.1))
    (standing : s.options = Options.inside read outer) (accepted : Options.Accepts read overrides)
    (started : body.points = ⟨overrides :: outer, s.options.within read overrides⟩ :: rest) :
    (body.closed name overrides ⟨outer, s.options⟩).Settled read s := by
  have left := Session.leave_of_opened (settled.opened.trans opened) fresh
  have here : Point.Settled read ⟨outer, s.options⟩ := standing
  simp only [Course.closed, left]
  refine ⟨rfl, rfl, ?_, ?_⟩
  · intro point member
    simp only [List.cons_append, List.mem_cons, List.mem_append, List.not_mem_nil, or_false]
      at member
    rcases member with rfl | within | rfl
    · exact here
    · exact settled.points point within
    · exact here
  · intro block member
    rcases List.mem_append.mp member with within | last
    · exact settled.blocks block within
    · cases List.mem_singleton.mp last
      exact ⟨here, rfl, fun _ => ⟨rest, started⟩, fun refused => absurd accepted refused⟩

end Course

namespace Program

variable {read : Options.Reading} {around : List String}

/-- The first point of a program is the one it is started at. -/
theorem points_run (read : Options.Reading) (program : Program around) (outer : List Overrides)
    (s : Session) : ∃ rest, (program.run read outer s).points = ⟨outer, s.options⟩ :: rest := by
  induction program generalizing outer s with
  | errand operation => exact ⟨_, rfl⟩
  | sequence first second started _ => exact Course.points_followedBy (started outer s)
  | attempt first second started _ => exact Course.points_followedBy (started outer s)
  | block name fresh overrides body _ =>
    rw [run]
    cases s.enter read name overrides with
    | ok inner => exact ⟨_, rfl⟩
    | error issues => exact ⟨_, rfl⟩

/-- A program that is started inside blocks whose contexts are open, and under the options inside
them, settles. -/
theorem run_settled (sound : read.Sound) (program : Program around) (outer : List Overrides)
    (s : Session) (opened : s.opened.map (·.1) = around)
    (standing : s.options = Options.inside read outer) :
    (program.run read outer s).Settled read s := by
  induction program generalizing outer s with
  | errand operation =>
    have options := operation.options s
    refine ⟨options, operation.opened s, ?_, by simp [run]⟩
    intro point member
    have before : Point.Settled read ⟨outer, s.options⟩ := standing
    have after : Point.Settled read ⟨outer, (operation.act.run.run s).2.options⟩ :=
      options.trans standing
    simp only [run, List.mem_cons, List.not_mem_nil, or_false] at member
    rcases member with rfl | rfl
    · exact before
    · exact after
  | sequence first second settledFirst settledSecond =>
    refine (settledFirst outer s opened standing).followedBy ?_
    intro later options same
    exact settledSecond outer later (same ▸ opened) (options.trans standing)
  | attempt first second settledFirst settledSecond =>
    refine (settledFirst outer s opened standing).followedBy ?_
    intro later options same
    exact settledSecond outer later (same ▸ opened) (options.trans standing)
  | block name fresh overrides body settledBody =>
    subst opened
    rw [run]
    have positive : s.options.Positive := standing ▸ Options.inside_positive sound outer
    by_cases accepted : Options.Accepts read overrides
    · rw [Session.enter_of_accepts sound positive accepted fresh]
      have within : s.options.within read overrides = Options.inside read (overrides :: outer) := by
        rw [standing, Options.inside]
      obtain ⟨rest, started⟩ := body.points_run read (overrides :: outer) { s with
        options := s.options.within read overrides
        opened := (name, s.options) :: s.opened }
      exact (settledBody (overrides :: outer) _ rfl within).closed rfl fresh standing accepted
        started
    · rw [Session.enter_of_not_accepts sound positive accepted]
      exact Course.settled_refused standing accepted

/-- However overrides are read, as long as what is read is positive and positive integers are read
as they are: whatever blocks a program opens and however it leaves them, the options at each of its
points are the defaults overridden by the blocks around that point, and they are positive. A block
whose overrides are not accepted raises before its body is entered, every other body starts under
the options overridden, and after a block, as after the program, the options are those before
it. -/
theorem options_follow_blocks (read : Options.Reading) (sound : read.Sound)
    (program : Program []) :
    let course := program.run read [] Session.initial
    (∀ point ∈ course.points,
      point.options = Options.inside read point.around ∧ point.options.Positive) ∧
    (∀ block ∈ course.blocks, block.options = Options.inside read block.around ∧
      block.after = block.options ∧
      (Options.Accepts read block.overrides → ∃ rest, block.body =
        ⟨block.overrides :: block.around, block.options.within read block.overrides⟩ :: rest) ∧
      (¬ Options.Accepts read block.overrides → block.body = [] ∧
        block.raised = some (.refused (Options.issues read block.overrides)))) ∧
    course.session.options = {} := by
  have settled := program.run_settled sound [] Session.initial rfl rfl
  refine ⟨?_, ?_, settled.options⟩
  · intro point member
    have here : point.options = Options.inside read point.around := settled.points point member
    exact ⟨here, here ▸ Options.inside_positive sound point.around⟩
  · intro block member
    have passed := settled.blocks block member
    exact ⟨passed.before, passed.after, passed.entered, passed.refused⟩

/-- In a block for the depth, one with a wrong name is refused and the exception caught; the block
for the length that follows is left by an exception, which leaves the outer block as well. -/
def abandoned : Program [] :=
  .block "outer" (by decide) [("max_depth", .int 5)]
    (.sequence
      (.attempt
        (.block "wrong" (by decide) [("max_depth", .int 9), ("depth", .int 1)]
          (.errand (.raise .unbounded)))
        (.block "inner" (by decide) [("max_render_length", .str "7")]
          (.errand (.raise .unbounded))))
      (.block "never" (by decide) [] (.errand (.raise .unbounded))))

/-- The options at the points that are passed, and at the end the defaults. -/
theorem abandoned_options :
    Options.Reading.Sound Value.limit ∧
      (abandoned.run Value.limit [] Session.initial).points.map
          (fun point => (point.options.maxDepth, point.options.maxRenderLength)) =
        [(100, 200), (5, 200), (5, 200), (5, 7), (5, 7), (5, 200), (100, 200)] ∧
      (abandoned.run Value.limit [] Session.initial).session.options = {} :=
  ⟨Options.limit_sound, by decide +kernel,
    (options_follow_blocks Value.limit Options.limit_sound abandoned).2.2⟩

end Program

end Conformance
