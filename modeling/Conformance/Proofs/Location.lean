import Conformance.Proofs.Numerals
import Conformance.Proofs.Parts
import Conformance.Proofs.Verdict

/-!
# Where a reported path leads

Three things meet here that know nothing of one another: the descent of a check, the path that
its context builds on the way, and the reading of a property by a dotted name. When the keys a
spec declares are segments of their own, the value is no mapping with dotted keys, and mappings of
custom classes keep to their protocol, reading the reported path from the value gives the very part
that failed, and following it through the spec gives the sub-spec that part was checked against:
running it there again gives the same error. The protocol matters because a key is not read in the
same way on its own as it is inside of a path.

The induction follows the calls from the root to the call whose own failure the error is. An error
that a union sets aside is not reported, so a path never leads into a union.
-/

namespace Conformance

/-! ## Segments and keys -/

/-- A text that is one segment of a dotted name and can be joined to a path. -/
def Text.IsSegment (cs : List Char) : Prop := cs ≠ [] ∧ '.' ∉ cs

namespace Store

/-- The keys that a spec declares: each occurs once and is a segment. -/
def Addressable (σ : Store) (spec : Value) : Prop :=
  ∀ fields entries, σ.Stands spec (.shape fields) → σ.entries? fields = some entries →
    (entries.map (·.1)).Nodup ∧
      ∀ entry ∈ entries, ∀ key, entry.1 = .str key → Text.IsSegment key.toList

/-- Texts are the same key when they are the same text. -/
theorem keyMatches_str {σ : Store} {s t : String} :
    σ.keyMatches (.str s) (.str t) = true ↔ s = t := by
  by_cases same : s = t
  · simp [keyMatches, samePart, same]
  · simp [keyMatches, samePart, same, looselyEqual, equalityLevels, looselyEqualWithin, Value.str,
      Value.asNumber?, classOf, Value.tagClass, Class.equalsAll, Class.string, Class.standard]

end Store

/-- Among entries of which no two have the same key, the entry with a key is found by it. -/
theorem find?_of_nodup {entries : List (Value × Value)} {entry : Value × Value}
    (distinct : (entries.map (·.1)).Nodup) (member : entry ∈ entries) :
    entries.find? (fun other => other.1 = entry.1) = some entry := by
  induction entries with
  | nil => simp at member
  | cons first rest inductionHypothesis =>
    simp only [List.map_cons, List.nodup_cons] at distinct
    rcases List.mem_cons.mp member with rfl | later
    · simp
    · have different : first.1 ≠ entry.1 := by
        intro same
        exact distinct.1 (same ▸ List.mem_map_of_mem later)
      rw [List.find?_cons_of_neg (by simpa using different)]
      exact inductionHypothesis distinct.2 later

namespace World

/-! ## Paths of segments -/

/-- The text of a path after one more segment. -/
def joined (base segment : String) : String :=
  if base.isEmpty then segment else base ++ "." ++ segment

/-- The text of a path after some more segments. -/
def joinedAll (base : String) (segments : List (List Char)) : String :=
  String.ofList (Text.joinSegments (if base.isEmpty then segments else base.toList :: segments))

/-- The context after some segments. -/
def contextAlong (base : String) (depth : Int) (segments : List (List Char)) : Value :=
  .path (.str (joinedAll base segments)) (.int (depth + segments.length)) 0

theorem contextAlong_nil (base : String) (depth : Int) :
    contextAlong base depth [] = .path (.str base) (.int depth) 0 := by
  have same : joinedAll base [] = base := by
    by_cases empty : base.isEmpty
    · have nothing : base = "" := String.isEmpty_iff.mp empty
      simp [joinedAll, nothing, Text.joinSegments]
    · simp [joinedAll, empty, Text.joinSegments]
  simp [contextAlong, same]

/-- Joining segments one by one or all at once makes no difference. -/
theorem contextAlong_joined {segment : String} (given : segment ≠ "") (base : String)
    (depth : Int) (segments : List (List Char)) :
    contextAlong (joined base segment) (depth + 1) segments =
      contextAlong base depth (segment.toList :: segments) := by
  have same : joinedAll (joined base segment) segments =
      joinedAll base (segment.toList :: segments) := by
    by_cases empty : base.isEmpty
    · simp [joinedAll, joined, empty, String.isEmpty_iff, given]
    · simp [joinedAll, joined, empty, String.isEmpty_iff, String.toList_append,
        Text.joinSegments_append_dot]
  have deeper : depth + 1 + (segments.length : Int) = depth + (segments.length + 1 : Int) := by
    omega
  simp only [contextAlong, same, deeper, List.length_cons, Int.natCast_add, Int.cast_ofNat_Int]

variable {w : World} {options : Options} {spec v : Value} {base : String} {depth : Int}

/-- A context is extended by the text of a segment. -/
theorem call_text {segment : Value} {s : String} (proper : segment ≠ .null)
    (written : w.text segment = .ok s) :
    w.call (.path (.str base) (.int depth) 0) [segment] =
      .ok (.path (.str (joined base s)) (.int (depth + 1)) 0) := by
  have own : w.text (.str base) = .ok base := rfl
  have next : w.deeper (.int depth) = .ok (.int (depth + 1)) := rfl
  have truth : w.store.isTrue (.str base) = !base.isEmpty := rfl
  by_cases empty : base.isEmpty
  · simp [call, extendPath, proper, written, truth, empty, next, joined, bind, Except.bind, pure,
      Except.pure]
  · simp [call, extendPath, proper, written, own, truth, empty, next, joined, bind, Except.bind,
      pure, Except.pure]

/-- A context is extended by the numeral of a place, if that can be written. -/
theorem call_place {place : Nat} {inner : Value}
    (extended : w.call (.path (.str base) (.int depth) 0) [.int place] = .ok inner) :
    place < Text.firstUnwritable ∧
      inner = .path (.str (joined base (Text.natText place))) (.int (depth + 1)) 0 := by
  have numeral : w.text (.int place) = writable (Text.intText? place) := rfl
  have proper : Value.int place ≠ .null := by simp [Value.int]
  by_cases small : place < Text.firstUnwritable
  · rw [call_text proper (text_place small)] at extended
    exact ⟨small, (Except.ok.inj extended).symm⟩
  · have unwritten : w.text (.int place) = .error .tooManyDigits := by
      rw [numeral]
      simp [Text.intText?, small, writable]
    simp [call, extendPath, proper, unwritten, bind, Except.bind] at extended

/-! ## Reading segments -/

/-- If a value is a mapping, no dotted text finds one of its own keys. -/
def Undotted (w : World) (v : Value) : Prop :=
  ∀ (key : String) (found : Value), w.verbatim v (.str key) = .ok (some found) → '.' ∉ key.toList

/-- A mapping that has texts for keys and is read by its entries is undotted when none of the keys
has a dot. -/
theorem undotted_of_texts {entries : List (Value × Value)}
    (held : w.store.table? v = some entries)
    (texts : ∀ entry ∈ entries, ∃ key, entry.1 = .str key ∧ '.' ∉ key.toList) : w.Undotted v := by
  intro key found looked
  rw [verbatim_of_table? held] at looked
  obtain ⟨entry, member, matching, _⟩ := lookup?_some looked
  obtain ⟨own, same, dotless⟩ := texts entry member
  rw [same, Store.keyMatches_str] at matching
  rw [matching]
  exact dotless

/-- A key that is found as it stands only if it has no dots is read segment by segment. -/
theorem get_eq_readSegments {key : String}
    (lawful : w.store.isCustomMapping v = true → w.customs.Lawful)
    (dotless : ∀ found, w.verbatim v (.str key) = .ok (some found) → '.' ∉ key.toList) :
    w.get v (.str key) = w.readSegments v (Text.segments key.toList) := by
  rcases verbatim_cases lawful key with missing | ⟨found, looked, read⟩
  · exact get_str_of_missing missing
  · have present : v ≠ .null := by
      rintro rfl
      cases looked
    rw [get_of_found looked, Text.segments_eq_singleton (dotless found looked)]
    simp only [readSegments, present, if_false, String.ofList_toList, read]
    rfl

/-- A part that a key without dots reads off a value comes first when more is read. -/
theorem readSegments_of_get {key : String} {part : Value}
    (lawful : w.store.isCustomMapping v = true → w.customs.Lawful) (present : v ≠ .null)
    (dotless : '.' ∉ key.toList) (read : w.get v (.str key) = .ok part)
    (segments : List (List Char)) :
    w.readSegments v (key.toList :: segments) = w.readSegments part segments := by
  rw [get_eq_readSegments lawful fun _ _ => dotless, Text.segments_eq_singleton dotless] at read
  simp only [readSegments, present, if_false, bind_eq_ok_iff] at read ⊢
  obtain ⟨first, reading, same⟩ := read
  cases same
  rw [reading]
  rfl

/-- An item that the numeral of its place reads off a list comes first when more is read. -/
theorem readSegments_of_item {items : List Value} {item : Value} {place : Nat}
    (listed : w.store.arrayItems? v = some items) (found : items[place]? = some item)
    (small : place < Text.firstUnwritable) (segments : List (List Char)) :
    w.readSegments v ((Text.natText place).toList :: segments) = w.readSegments item segments := by
  have present : v ≠ .null := by
    rintro rfl
    cases listed
  have inside : place < items.length := (List.getElem?_eq_some_iff.mp found).1
  have placed : placeOf? items.length place = some place := by simp [placeOf?, inside]
  have numeral : Text.readInt? (Text.natText place).toList = some (place : Int) := by
    rw [← Text.intText_natCast, Text.readInt?_intText, Int.natAbs_natCast, if_pos small]
  have reading : w.readSegment v (Text.natText place) = .ok item := by
    simp [readSegment_of_arrayItems? listed, numeral, placed, found]
  simp only [readSegments, present, if_false, String.ofList_toList, reading]
  rfl

/-! ## Following segments through a spec -/

/-- The sub-spec that segments lead to: a declared field of a mapping, or the spec of all items of
an array. -/
def specAlong (w : World) : List (List Char) → Value → Option Value
  | [], spec => some spec
  | segment :: rest, spec =>
    match w.resolve spec with
    | .ok (.rule (.shape fields)) =>
      match ((w.store.entries? fields).getD []).find? fun entry =>
        entry.1 = .str (String.ofList segment) with
      | some entry => specAlong w rest entry.2
      | none => none
    | .ok (.rule (.array element)) => specAlong w rest element
    | _ => none

theorem specAlong_field {fields : Value} {entries : List (Value × Value)} {entry : Value × Value}
    {key : String} (stands : w.store.Stands spec (.shape fields))
    (held : w.store.entries? fields = some entries) (distinct : (entries.map (·.1)).Nodup)
    (member : entry ∈ entries) (same : entry.1 = .str key) (segments : List (List Char)) :
    w.specAlong (key.toList :: segments) spec = w.specAlong segments entry.2 := by
  have found := find?_of_nodup distinct member
  rw [same] at found
  simp [specAlong, resolve_of_stands stands, held, found]

theorem specAlong_item {element : Value} (stands : w.store.Stands spec (.array element))
    (segment : List Char) (segments : List (List Char)) :
    w.specAlong (segment :: segments) spec = w.specAlong segments element := by
  simp [specAlong, resolve_of_stands stands]

/-! ## Finding an error again -/

/-- An error that segments lead to: it lies at the context after them, and running the sub-spec
they lead to on the part they lead to gives it again, at that context. -/
structure FoundAlong (w : World) (options : Options) (spec v : Value) (base : String) (depth : Int)
    (error : Value) (segments : List (List Char)) : Prop where
  proper : ∀ segment ∈ segments, Text.IsSegment segment
  placed : ∃ message, error = ownFailure message (contextAlong base depth segments)
  again : ∃ sub part, w.specAlong segments spec = some sub ∧
    w.readSegments v segments = .ok part ∧
    (w.runSpec options sub part (contextAlong base depth segments)).outcome = .ok error

/-- An error of a spec's own is found without any segments. -/
theorem FoundAlong.here {validator : Validator} {message : String}
    (resolved : w.resolve spec = .ok validator)
    (ended : (w.run options validator v (.path (.str base) (.int depth) 0)).outcome =
      .ok (ownFailure message (.path (.str base) (.int depth) 0))) :
    w.FoundAlong options spec v base depth
      (ownFailure message (.path (.str base) (.int depth) 0)) [] := by
  refine ⟨by simp, ⟨message, by rw [contextAlong_nil]⟩, spec, v, rfl, rfl, ?_⟩
  rw [contextAlong_nil, runSpec, resolved, Run.lift_ok, pure_bind]
  exact ended

/-- An error found from a part is found from the whole, one segment before. -/
theorem FoundAlong.below {sub part error : Value} {segment : String}
    {segments : List (List Char)} (proper : Text.IsSegment segment.toList)
    (found : w.FoundAlong options sub part (joined base segment) (depth + 1) error segments)
    (descends : w.specAlong (segment.toList :: segments) spec = w.specAlong segments sub)
    (reads : w.readSegments v (segment.toList :: segments) = w.readSegments part segments) :
    w.FoundAlong options spec v base depth error (segment.toList :: segments) := by
  obtain ⟨later, placed, again⟩ := found
  have given : segment ≠ "" := by
    rintro rfl
    exact proper.1 rfl
  rw [contextAlong_joined given] at placed again
  refine ⟨?_, placed, ?_⟩
  · intro other member
    rcases List.mem_cons.mp member with rfl | member
    · exact proper
    · exact later other member
  · rw [descends, reads]
    exact again

/-- A numeral is a segment. -/
theorem isSegment_natText (place : Nat) : Text.IsSegment (Text.natText place).toList := by
  rw [Text.natText, String.toList_ofList]
  exact ⟨Text.digits_ne_nil place, Text.dot_not_mem_digits place⟩

/-- A call on the way to an error is ready. -/
theorem ready_of_placed {call : Call}
    (throughout : w.store.Throughout
      (fun inner => w.store.Native inner ∧ w.store.Addressable inner) spec)
    (resolved : w.resolve spec = .ok call.validator)
    (placed : call.context = .path (.str base) (.int depth) 0) :
    w.Ready (fun inner => w.store.Native inner ∧ w.store.Addressable inner) call depth :=
  ⟨by rw [placed]; rfl, fun _ both => both.1.keyed, spec, throughout, resolved⟩

/-- Every error of a call is found along some segments. The induction follows the calls: an error
is the call's own, or it was given by a field or item, one segment further. -/
theorem exists_foundAlong (call : Call) {error : Value} (lawful : w.customs.Lawful)
    (layered : w.store.Layered)
    (throughout : w.store.Throughout
      (fun inner => w.store.Native inner ∧ w.store.Addressable inner) spec)
    (resolved : w.resolve spec = .ok call.validator)
    (placed : call.context = .path (.str base) (.int depth) 0)
    (ended : (w.run options call.validator call.value call.context).outcome = .ok error)
    (failed : error ≠ .null) :
    ∃ segments, w.FoundAlong options spec call.value base depth error segments := by
  have calls : Acc (fun next call => w.Makes options call next) call :=
    (ready_of_placed throughout resolved placed).acc_makes layered options
  induction calls generalizing spec base depth error with
  | intro call _ inductionHypothesis =>
    have ready := ready_of_placed throughout resolved placed
    have located := ready.located
    obtain ⟨rule, same, ends⟩ := ready.ends (fun _ both => both.1.known) layered ended
    obtain ⟨validator, v, context⟩ := call
    simp only at same placed
    subst same placed
    have stands := resolve_eq_rule_iff.mp resolved
    obtain ⟨native, addressable⟩ := throughout.here
    cases ends with
    | passedLeaf | passedFields | passedItems | passedAlternative => exact absurd rfl failed
    | failedLeaf | nullShape | otherShape | deepShape | otherArray | deepArray
    | failedAlternatives => exact ⟨[], .here resolved ended⟩
    | @failedField _ _ _ entry present _ below held member judged _ =>
      obtain ⟨key, keyed⟩ := native.keyed.key stands held member
      obtain ⟨distinct, proper⟩ := addressable _ _ stands held
      have segment := proper entry member key keyed
      obtain ⟨other, part, inner, subResolved, read, extended, makes, checked⟩ :=
        field_makes located below held member judged
      have written : w.text (.str key) = .ok key := rfl
      rw [keyed, call_text (by simp [Value.str]) written] at extended
      cases extended
      rw [keyed] at read
      obtain ⟨segments, found⟩ := inductionHypothesis _ makes
        (throughout.sub stands (Rule.mem_subSpecs_shape held member)) subResolved rfl checked failed
      exact ⟨key.toList :: segments, found.below segment
        (specAlong_field stands held distinct member keyed segments)
        (readSegments_of_get (fun _ => lawful) present segment.2 read segments)⟩
    | @failedItem element _ items _ item listed below subResolved member judged _ =>
      obtain ⟨inner, extended, makes, checked⟩ :=
        item_makes located below listed subResolved member judged
      obtain ⟨small, rfl⟩ := call_place extended
      obtain ⟨segments, found⟩ := inductionHypothesis _ makes
        (throughout.sub stands (List.mem_singleton_self element)) subResolved rfl checked failed
      exact ⟨(Text.natText item.2).toList :: segments, found.below (isSegment_natText item.2)
        (specAlong_item stands _ segments)
        (readSegments_of_item listed (List.mem_zipIdx_iff_getElem?.mp member) small segments)⟩

/-! ## The reported path -/

/-- The part of a value that a context speaks of: the value itself at the root, and elsewhere the
property that the path names. -/
def partAt (w : World) (path : String) (depth : Int) (v : Value) : Except Fault Value :=
  if depth = 0 then .ok v else w.get v (.str path)

/-- The sub-spec that a context speaks of: the spec itself at the root, and elsewhere the one that
the segments of the path lead to. -/
def specAt (w : World) (path : String) (depth : Int) (spec : Value) : Option Value :=
  if depth = 0 then some spec else w.specAlong (Text.segments path.toList) spec

/-- The path after some segments from the root is split into them again. -/
theorem segments_joinedAll {segments : List (List Char)} (deep : (0 + segments.length : Int) ≠ 0)
    (proper : ∀ segment ∈ segments, Text.IsSegment segment) :
    Text.segments (joinedAll "" segments).toList = segments := by
  have given : segments ≠ [] := by
    rintro rfl
    simp at deep
  have empty : "".isEmpty = true := rfl
  simp only [joinedAll, empty, if_true, String.toList_ofList]
  apply Text.segments_joinSegments given
  intro segment member
  exact (proper segment member).2

/-- The path of an error leads to the failure. The error lies at some context; the part and the
sub-spec that this context speaks of are there, and running the one on the other at the same
context gives exactly the same error again. Of mappings of custom classes it is assumed that they
keep to their protocol: those that refuse a key that they lack do so when a path is read, although
the check that reported the path has read every key on its own. -/
theorem reported_path_locates (w : World) (options : Options) (v spec error : Value)
    (lawful : w.customs.Lawful) (contained : w.store.SelfContained spec)
    (layered : w.store.Layered) (addressable : w.store.Throughout w.store.Addressable spec)
    (undotted : w.Undotted v)
    (returned : (w.check options v spec (.str "")).outcome = .ok error) (failed : error ≠ .null) :
    ∃ message path depth sub part,
      error = .failure (.str message) (.path (.str path) (.int depth) 0) 0 ∧
      w.specAt path depth spec = some sub ∧ w.partAt path depth v = .ok part ∧
      (w.runSpec options sub part (.path (.str path) (.int depth) 0)).outcome = .ok error := by
  obtain ⟨validator, resolved, ended⟩ := check_ok returned
  have throughout : w.store.Throughout
      (fun inner => w.store.Native inner ∧ w.store.Addressable inner) spec := by
    intro inner reached
    exact ⟨contained inner reached, addressable inner reached⟩
  obtain ⟨segments, proper, ⟨message, placed⟩, sub, part, descends, reads, again⟩ :=
    exists_foundAlong ⟨validator, v, .rootPath (.str "")⟩ lawful layered throughout resolved rfl
      ended failed
  refine ⟨message, joinedAll "" segments, 0 + segments.length, sub, part, placed, ?_, ?_, again⟩
  · rw [specAt]
    split
    · next root =>
      have none : segments = [] := List.length_eq_zero_iff.mp (by omega)
      subst none
      exact descends
    · next deep =>
      rw [segments_joinedAll deep proper]
      exact descends
  · rw [partAt]
    split
    · next root =>
      have none : segments = [] := List.length_eq_zero_iff.mp (by omega)
      subst none
      exact reads
    · next deep =>
      rw [get_eq_readSegments (fun _ => lawful) (undotted _), segments_joinedAll deep proper]
      exact reads

/-- The list in the ring that ends in null fails at its only item, and the path leads there. -/
theorem ring_path_locates :
    ring.customs.Lawful ∧ ring.store.SelfContained (.object 0) ∧ ring.store.Layered ∧
      ring.store.Throughout ring.store.Addressable (.object 0) ∧ ring.Undotted (.object 7) ∧
      ∃ error sub part,
        (ring.check {} (.object 7) (.object 0) (.str "")).outcome = .ok error ∧ error ≠ .null ∧
        ring.specAt "next.0" 2 (.object 0) = some sub ∧
        ring.partAt "next.0" 2 (.object 7) = .ok part ∧
        (ring.runSpec {} sub part (.path (.str "next.0") (.int 2) 0)).outcome = .ok error := by
  have addressable : ring.store.Throughout ring.store.Addressable (.object 0) := by
    intro spec reached fields entries stands held
    rw [ring_fields reached stands] at held
    cases held
    refine ⟨by simp, ?_⟩
    intro entry member key same
    simp only [List.mem_singleton] at member
    subst member
    cases same
    exact ⟨by simp, by decide⟩
  have lawful : ring.customs.Lawful := Customs.regular_lawful _
  have undotted : ring.Undotted (.object 7) := by
    refine undotted_of_texts rfl ?_
    intro entry member
    simp only [List.mem_singleton] at member
    subst member
    exact ⟨"next", rfl, by decide⟩
  have returned : (ring.check {} (.object 7) (.object 0) (.str "")).outcome =
      .ok (ownFailure ("Expected the value to pass one of the provided validators:\n" ++
          "next.0 |> Expected type string but received null\n" ++
          "next.0 |> Expected value to be a non-null object but received null")
        (.path (.str "next.0") (.int 2) 0)) := by
    decide +kernel
  obtain ⟨message, path, depth, sub, part, placed, descends, reads, again⟩ :=
    reported_path_locates ring {} (.object 7) (.object 0) _ lawful ring_selfContained ring_layered
      addressable undotted returned (by simp [ownFailure])
  cases placed
  exact ⟨lawful, ring_selfContained, ring_layered, addressable, undotted, _, sub, part, returned,
    by simp [ownFailure], descends, reads, again⟩

end World

end Conformance
