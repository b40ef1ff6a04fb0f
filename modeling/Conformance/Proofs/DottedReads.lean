import Conformance.Proofs.Location

/-!
# Dotted reads compose

A dotted name is read off a value in one go: a mapping is first asked for the whole name, and only
then are its segments read one after the other. The entry under the whole name apart, the outcome
is the one of reading the segments by one read each, and reading the front of the name and then,
off what that gave, the rest. So both sides fault together, and where no field faults and every
length can be asked for there is nothing that a name could be missing that is a fault.
-/

namespace Conformance

namespace Text

/-- Names joined with dots are their characters joined as segments. -/
theorem toList_intercalate_dot (names : List String) :
    (".".intercalate names).toList = joinSegments (names.map String.toList) := by
  induction names with
  | nil => rfl
  | cons first more inductionHypothesis =>
    cases more with
    | nil => simp [joinSegments]
    | cons second others =>
      rw [String.intercalate_cons_cons, String.toList_append, String.toList_append,
        inductionHypothesis]
      simp [joinSegments]

/-- Joined names without dots are split into the same names. -/
theorem segments_intercalate_dot {names : List String} (given : names ≠ [])
    (dotless : ∀ name ∈ names, '.' ∉ name.toList) :
    segments (".".intercalate names).toList = names.map String.toList := by
  have each : ∀ segment ∈ names.map String.toList, '.' ∉ segment := by
    intro segment member
    obtain ⟨name, inside, rfl⟩ := List.mem_map.mp member
    exact dotless name inside
  rw [toList_intercalate_dot, segments_joinSegments (by simpa using given) each]

end Text

namespace World

variable {w : World} {v part : Value}

/-! ## Segments one after the other -/

theorem readSegments_null (segments : List (List Char)) :
    w.readSegments .null segments = .ok .null := by
  cases segments with
  | nil => rfl
  | cons segment rest => simp [readSegments]

/-- More segments are read off what the first ones gave. -/
theorem readSegments_append (v : Value) (first second : List (List Char)) :
    w.readSegments v (first ++ second) =
      w.readSegments v first >>= fun part => w.readSegments part second := by
  induction first generalizing v with
  | nil => rfl
  | cons segment rest inductionHypothesis =>
    rw [List.cons_append, readSegments, readSegments]
    by_cases null : v = .null
    · simp [null, readSegments_null, bind, Except.bind]
    · simp only [null, if_false, inductionHypothesis, bind_assoc]

/-- A name without dots is one read. -/
theorem get_eq_readSegments_singleton {name : String}
    (lawful : w.store.isCustomMapping v = true → w.customs.Lawful) (dotless : '.' ∉ name.toList) :
    w.get v (.str name) = w.readSegments v [name.toList] := by
  rw [get_eq_readSegments lawful fun _ _ => dotless, Text.segments_eq_singleton dotless]

/-- Reads names one after the other, each off what the one before gave. -/
def readInTurn (w : World) (v : Value) (names : List String) : Except Fault Value :=
  names.foldlM (fun part name => w.get part (.str name)) v

theorem readInTurn_cons (name : String) (names : List String) :
    w.readInTurn v (name :: names) =
      w.get v (.str name) >>= fun part => w.readInTurn part names := rfl

theorem readInTurn_singleton (v : Value) (name : String) :
    w.readInTurn v [name] = w.get v (.str name) := by
  rw [readInTurn_cons]
  exact bind_pure _

/-- Reading names without dots in turn is reading them as segments. -/
theorem readInTurn_eq {names : List String} (lawful : w.customs.Lawful)
    (dotless : ∀ name ∈ names, '.' ∉ name.toList) (v : Value) :
    w.readInTurn v names = w.readSegments v (names.map String.toList) := by
  induction names generalizing v with
  | nil => rfl
  | cons name rest inductionHypothesis =>
    have later : ∀ other ∈ rest, '.' ∉ other.toList := by
      intro other member
      exact dotless other (by simp [member])
    have apart := readSegments_append (w := w) v [name.toList] (rest.map String.toList)
    rw [List.singleton_append] at apart
    have first := get_eq_readSegments_singleton (v := v) (fun _ => lawful) (dotless name (by simp))
    rw [readInTurn_cons, first, List.map_cons, apart]
    simp only [inductionHypothesis later]

/-! ## The entry under the whole name -/

/-- The entry that a mapping holds under a text as it stands, if it does and says so. -/
def verbatim? (w : World) (v : Value) (key : String) : Option Value :=
  match w.verbatim v (.str key) with
  | .ok found => found
  | .error _ => none

/-- Only a mapping is asked for the whole name, and only otherwise is the name split. -/
theorem get_str (lawful : w.customs.Lawful) (v : Value) (key : String) :
    w.get v (.str key) = match w.verbatim? v key with
      | some found => .ok found
      | none => w.readSegments v (Text.segments key.toList) := by
  rcases verbatim_cases (fun _ => lawful) key with missing | ⟨found, looked, _⟩
  · rw [get_str_of_missing missing, verbatim?, missing]
  · rw [get_of_found looked, verbatim?, looked]

/-- Joined names that are no key as they stand are read in turn. -/
theorem get_intercalate {names : List String} (lawful : w.customs.Lawful) (given : names ≠ [])
    (dotless : ∀ name ∈ names, '.' ∉ name.toList)
    (unheld : 2 ≤ names.length → w.verbatim? v (".".intercalate names) = none) :
    w.get v (.str (".".intercalate names)) = w.readInTurn v names := by
  by_cases several : 2 ≤ names.length
  · rw [get_str lawful, unheld several, readInTurn_eq lawful dotless,
      Text.segments_intercalate_dot given dotless]
  · obtain ⟨name, rfl⟩ : ∃ name, names = [name] := by
      apply List.length_eq_one_iff.mp
      have := List.length_pos_iff.mpr given
      omega
    have single : ".".intercalate [name] = name := by simp
    rw [single, readInTurn_eq lawful dotless,
      get_eq_readSegments_singleton (fun _ => lawful) (dotless name (by simp))]
    rfl

/-! ## Reading in turn what is read at once -/

/-- A name without dots reads the same on its own as it does inside of a longer one, if neither is a
fault. -/
theorem eq_of_readSegments_singleton {name : String} {next : Value}
    (coherent : w.customs.Coherent) (dotless : '.' ∉ name.toList)
    (read : w.readSegments v [name.toList] = .ok part) (alone : w.get v (.str name) = .ok next) :
    next = part := by
  cases custom : w.store.isCustomMapping v with
  | false =>
    rw [get_eq_readSegments_singleton (fun own => by cases custom.symm.trans own) dotless] at alone
    exact Except.ok.inj (alone.symm.trans read)
  | true =>
    cases looked : w.verbatim v (.str name) with
    | error fault =>
      rw [get, looked] at alone
      cases alone
    | ok found =>
      cases found with
      | none =>
        rw [get_str_of_missing looked, Text.segments_eq_singleton dotless] at alone
        exact Except.ok.inj (alone.symm.trans read)
      | some found =>
        cases (get_of_found looked).symm.trans alone
        obtain ⟨held, entry⟩ := holds_of_verbatim custom looked
        have present : v ≠ .null := by
          rintro rfl
          cases custom
        simp only [readSegments, present, if_false, String.ofList_toList,
          readSegment_of_custom custom] at read
        obtain ⟨other, given, same⟩ := bind_eq_ok_iff.mp read
        cases same
        exact (coherent held entry given).symm

/-- What names give in turn is what their segments give, if neither is a fault. -/
theorem eq_of_readSegments_of_readInTurn {names : List String} {last : Value}
    (coherent : w.customs.Coherent) (dotless : ∀ name ∈ names, '.' ∉ name.toList)
    (read : w.readSegments v (names.map String.toList) = .ok part)
    (inTurn : w.readInTurn v names = .ok last) : last = part := by
  induction names generalizing v with
  | nil => exact Except.ok.inj (inTurn.symm.trans read)
  | cons name rest inductionHypothesis =>
    have apart := readSegments_append (w := w) v [name.toList] (rest.map String.toList)
    rw [List.singleton_append] at apart
    rw [List.map_cons, apart, bind_eq_ok_iff] at read
    rw [readInTurn_cons, bind_eq_ok_iff] at inTurn
    obtain ⟨middle, first, read⟩ := read
    obtain ⟨middle', first', inTurn⟩ := inTurn
    cases eq_of_readSegments_singleton coherent (dotless name (by simp)) first first'
    exact inductionHypothesis (fun other member => dotless other (by simp [member])) read inTurn

/-- What names give in turn is what the joined names give, if these are no key as they stand and
neither is a fault. -/
theorem eq_of_get_of_readInTurn {names : List String} (coherent : w.customs.Coherent)
    (dotless : ∀ name ∈ names, '.' ∉ name.toList) (given : names ≠ [])
    (unheld : 2 ≤ names.length → w.verbatim? v (".".intercalate names) = none) {last : Value}
    (read : w.get v (.str (".".intercalate names)) = .ok part)
    (inTurn : w.readInTurn v names = .ok last) : last = part := by
  by_cases several : 2 ≤ names.length
  · have missing : w.verbatim v (.str (".".intercalate names)) = .ok none := by
      have unheld := unheld several
      rw [verbatim?] at unheld
      cases looked : w.verbatim v (.str (".".intercalate names)) with
      | error fault =>
        rw [get, looked] at read
        cases read
      | ok found =>
        rw [looked] at unheld
        rw [show found = none from unheld]
    rw [get_str_of_missing missing, Text.segments_intercalate_dot given dotless] at read
    exact eq_of_readSegments_of_readInTurn coherent dotless read inTurn
  · obtain ⟨name, rfl⟩ : ∃ name, names = [name] := by
      apply List.length_eq_one_iff.mp
      have := List.length_pos_iff.mpr given
      omega
    rw [readInTurn_singleton] at inTurn
    have single : ".".intercalate [name] = name := by simp
    rw [single] at read
    exact Except.ok.inj (inTurn.symm.trans read)

/-! ## Reading in two parts -/

/-- A name that no key of a value is read verbatim for is read segment by segment. -/
theorem get_of_undotted (lawful : w.customs.Lawful) (undotted : w.Undotted v) (key : String) :
    w.get v (.str key) = w.readSegments v (Text.segments key.toList) :=
  get_eq_readSegments (fun _ => lawful) (undotted key)

theorem undotted_null : w.Undotted .null := by
  intro key found looked
  cases looked

/-- Without dotted keys a name is read in two parts, split at any of its dots. -/
theorem get_append_dot (lawful : w.customs.Lawful)
    (undotted : ∀ part, w.Holds (fun _ => True) v part → w.Undotted part) (front back : String) :
    w.get v (.str (front ++ "." ++ back)) =
      w.get v (.str front) >>= fun part => w.get part (.str back) := by
  have split : Text.segments (front ++ "." ++ back).toList =
      Text.segments front.toList ++ Text.segments back.toList := by
    have dotted : (front ++ "." ++ back).toList = front.toList ++ '.' :: back.toList := by
      simp [String.toList_append]
    rw [dotted, Text.segments_append]
  have here : w.Undotted v := undotted v .refl
  rw [get_of_undotted lawful here, get_of_undotted lawful here, split, readSegments_append]
  cases read : w.readSegments v (Text.segments front.toList) with
  | error fault => rfl
  | ok part =>
    have given : w.Gives (fun _ => True) v part := by
      have whole : w.get v (.str front) = .ok part := by rw [get_of_undotted lawful here, read]
      exact get_gives (fun _ _ => trivial) whole
    have there : w.Undotted part := by
      rcases held_of_gives (.inr .refl) given with rfl | held
      · exact undotted_null
      · exact undotted part held
    exact (get_of_undotted lawful there back).symm

/-! ## Reads without faults -/

/-- A value whose length can be asked for, and reading a field off which faults for a missing
attribute only. -/
structure Readable (w : World) (v : Value) : Prop where
  measured : w.store.isOverlong v = false
  quiet : ∀ name fault, w.readField v name = .error fault → fault.name = "AttributeError"

/-- If everything that a value holds is readable, every text is read off it without a fault. -/
theorem exists_get_of_readable (lawful : w.customs.Lawful)
    (readable : ∀ part, w.Holds (fun _ => True) v part → w.Readable part) (key : String) :
    ∃ part, w.get v (.str key) = .ok part := by
  cases read : w.get v (.str key) with
  | ok part => exact ⟨part, rfl⟩
  | error fault =>
    obtain ⟨part, segment, held, _, _, _, faulty⟩ :=
      @get_error w (fun _ => True) v fault key lawful (fun _ _ => trivial) read
    rcases readSegment_error lawful faulty with overlong | ⟨reading, other⟩
    · cases (readable part held).measured.symm.trans overlong
    · exact absurd ((readable part held).quiet segment fault reading) other

/-! ## The law of dotted reads -/

/-- A mapping of a custom class that holds a list under a name in small or in capital letters. -/
def caseless : Customs where
  __ := Customs.regular ⟨#[]⟩
  holds _ key := .ok (key ∈ [.str "tags", .str "TAGS"])
  entry _ key :=
    if key ∈ [.str "tags", .str "TAGS"] then .ok (.object 1) else .error (.missingKey "tags")
  entryOrNull _ key := .ok (if key ∈ [.str "tags", .str "TAGS"] then .object 1 else .null)

theorem caseless_lawful : caseless.Lawful := by
  intro m key
  by_cases held : Value.str key ∈ [.str "tags", .str "TAGS"]
  · exact .inl ⟨.object 1, by simp only [caseless, held, decide_true, if_true, and_self]⟩
  · exact .inr (by simp only [caseless, held, decide_false, if_false, and_self])

/-- A mapping with a list of texts, a mapping that holds it under one key and something else under
a dotted one, and a mapping that tells its keys in its own way. -/
def tagged : World :=
  ⟨⟨#[.mapping (.standard "dict" ["Mapping"]) [(.str "tags", .object 1)],
      .list (.standard "list" ["Sequence"]) [.str "x", .str "y"],
      .mapping (.standard "dict" ["Mapping"]) [(.str "a.tags", .int 1), (.str "a", .object 0)],
      .mapping (Class.standard "Headers" ["Mapping"]).customized [(.str "tags", .object 1)]]⟩,
    fun _ _ => .ok .null, fun _ _ => .ok none, caseless⟩

/-- What can be read off the mappings with the list. -/
def IsTagged (part : Value) : Prop :=
  part ∈ [.object 0, .object 1, .object 3, .null] ∨ ∃ s, part = .str s

/-- A read leads from the mappings to the list or null, and from the list to its texts. -/
theorem IsTagged.of_yields {source : Value} (given : IsTagged source)
    (yields : tagged.Yields (fun _ => True) source part) : IsTagged part := by
  simp only [IsTagged, List.mem_cons, List.not_mem_nil, or_false] at given
  cases yields with
  | entry held member =>
    rcases given with (rfl | rfl | rfl | rfl) | ⟨s, rfl⟩ <;> cases held
    rw [List.mem_singleton.mp member]
    simp [IsTagged]
  | @custom key _ _ read =>
    have list : part = .object 1 ∨ part = .null := by
      by_cases named : key ∈ [.str "tags", .str "TAGS"]
      · simp only [tagged, caseless, named, if_true, Except.ok.injEq] at read
        exact .inl (read.elim Eq.symm Eq.symm)
      · simp only [tagged, caseless, named, if_false, Except.ok.injEq] at read
        exact .inr (read.elim (fun refused => by cases refused) Eq.symm)
    rcases list with rfl | rfl <;> simp [IsTagged]
  | @item place _ found =>
    rcases given with (rfl | rfl | rfl | rfl) | ⟨s, rfl⟩
    · cases found
    · have listed : tagged.store.arrayItems? (.object 1) = some [.str "x", .str "y"] := rfl
      rw [sequenceItem?_of_arrayItems? listed] at found
      have member := List.mem_of_getElem? found
      simp only [List.mem_cons, List.not_mem_nil, or_false] at member
      rcases member with rfl | rfl
      · exact .inr ⟨"x", rfl⟩
      · exact .inr ⟨"y", rfl⟩
    all_goals cases found
  | field _ _ _ read => rcases given with (rfl | rfl | rfl | rfl) | ⟨s, rfl⟩ <;> cases read

theorem IsTagged.of_holds {source : Value} (given : IsTagged source)
    (held : tagged.Holds (fun _ => True) source part) : IsTagged part := by
  induction held with
  | refl => exact given
  | tail _ yields inductionHypothesis => exact inductionHypothesis.of_yields yields

/-- None of these values has a dotted key. -/
theorem IsTagged.undotted (given : IsTagged part) : tagged.Undotted part := by
  simp only [IsTagged, List.mem_cons, List.not_mem_nil, or_false] at given
  rcases given with (rfl | rfl | rfl | rfl) | ⟨s, rfl⟩
  · refine undotted_of_texts rfl ?_
    intro entry member
    rw [List.mem_singleton.mp member]
    exact ⟨"tags", rfl, by decide⟩
  · intro key found looked
    cases looked
  · intro key found looked
    by_cases named : Value.str key ∈ [.str "tags", .str "TAGS"]
    · simp only [List.mem_cons, List.not_mem_nil, or_false, Value.str, Value.text.injEq,
        and_true] at named
      rcases named with rfl | rfl <;> decide
    · have missing : tagged.customs.holds (.object 3) (.str key) = .ok false := by
        simp only [tagged, caseless, named, decide_false]
      rw [verbatim_of_holds_false rfl missing] at looked
      cases looked
  · exact undotted_null
  · intro key found looked
    cases looked

/-- Each of these values is readable. -/
theorem IsTagged.readable (given : IsTagged part) : tagged.Readable part := by
  have quiet : ∀ name fault, tagged.readField part name = .error fault →
      fault.name = "AttributeError" := by
    intro name fault read
    simp only [IsTagged, List.mem_cons, List.not_mem_nil, or_false] at given
    rcases given with (rfl | rfl | rfl | rfl) | ⟨s, rfl⟩ <;> cases read
  simp only [IsTagged, List.mem_cons, List.not_mem_nil, or_false] at given
  rcases given with (rfl | rfl | rfl | rfl) | ⟨s, rfl⟩ <;> exact ⟨rfl, quiet⟩

/-- A mapping that refuses every key it lacks. What is under a key that it holds is read off it, but
no longer name that begins with the key is, and reading a missing key is a fault. -/
example :
    let σ : Store := ⟨#[
      .mapping (Class.standard "ConfigParser" ["Mapping"]).customized [(.str "a", .str "b")]]⟩
    let refused : Fault := .refusedArguments "missing 1 required positional argument: 'option'"
    let customs : Customs := { Customs.regular σ with entryOrNull := fun _ _ => .error refused }
    let w : World := ⟨σ, fun _ _ => .ok .null, fun _ _ => .ok none, customs⟩
    w.get (.object 0) (.str "a") = .ok (.str "b") ∧
      w.get (.object 0) (.str "a.size") = .error refused ∧
      w.get (.object 0) (.str "x") = .error refused := by
  decide +kernel

end World

end Conformance
