import Conformance.Catalogue.Functions
import Conformance.Proofs.DottedReads

/-!
# Items read by numerals

The numeral of an integer reads off a list or tuple the item that the integer names, counted from
the start, or from the end if it is negative; an integer that names no item reads null, and never
another item. A numeral too long to be read as an integer is read as a field, and no list or tuple
has a field of that name. No list is so long that such a numeral would name an item of it.

An array is checked item by item, at contexts whose last segment is the numeral of the place, so
this segment reads the item again that was checked there.
-/

namespace Conformance

/-! ## Integers that name items -/

/-- The item that an integer names: the one at this place, or, for a negative integer, the one as
many places before the end; null where there is none. -/
def itemNamed (items : List Value) (n : Int) : Value :=
  if 0 ≤ n ∧ n < items.length then items.getD n.toNat .null
  else if -(items.length : Int) ≤ n ∧ n < 0 then items.getD (items.length + n).toNat .null
  else .null

variable {items : List Value}

theorem itemNamed_of_getElem? {item : Value} {place : Nat} (found : items[place]? = some item) :
    itemNamed items place = item := by
  obtain ⟨inside, same⟩ := List.getElem?_eq_some_iff.mp found
  simp [itemNamed, inside, same]

/-- Integers larger than the length of a list name no item of it. -/
theorem itemNamed_of_length_lt {n : Int} (large : items.length < n.natAbs) :
    itemNamed items n = .null := by
  have after : ¬ (0 ≤ n ∧ n < items.length) := by omega
  have before : ¬ (-(items.length : Int) ≤ n ∧ n < 0) := by omega
  rw [itemNamed, if_neg after, if_neg before]

/-- The place that is read for an integer is that of the item it names. -/
theorem getElem?_placeOf? (items : List Value) (n : Int) :
    ((World.placeOf? items.length n).bind (items[·]?)).getD .null = itemNamed items n := by
  by_cases start : 0 ≤ n
  · have noEnd : ¬ n < 0 := by omega
    by_cases inside : n < items.length <;> simp [World.placeOf?, itemNamed, start, inside, noEnd]
  -- The place is compared with the bounds once it is counted from the start, the integer before.
  · have ending : n < 0 := by omega
    have behind : items.length + n < (items.length : Int) := by omega
    by_cases inside : -(items.length : Int) ≤ n
    · have present : 0 ≤ items.length + n := by omega
      simp [World.placeOf?, itemNamed, start, ending, inside, behind, present]
    · have absent : ¬ 0 ≤ items.length + n := by omega
      simp [World.placeOf?, itemNamed, start, inside, absent]

/-! ## Numerals -/

namespace Text

/-- A name with a character that no numeral has. -/
def IsWord (name : String) : Bool := name.toList.any fun c => c != '-' && !c.isDigit

theorem isDigit_of_mem_digits {n : Nat} {c : Char} (member : c ∈ digits n) : c.isDigit = true := by
  rw [digits_eq] at member
  obtain ⟨d, inside, rfl⟩ := List.mem_map.mp member
  have small : d < 10 := places_lt_ten (List.mem_reverse.mp inside)
  interval_cases d <;> decide

/-- No word is a numeral. -/
theorem intText_ne_of_isWord {name : String} (word : IsWord name = true) (n : Int) :
    intText n ≠ name := by
  rintro rfl
  obtain ⟨c, member, foreign⟩ := List.any_eq_true.mp word
  obtain ⟨unsigned, undigited⟩ : c ≠ '-' ∧ c.isDigit = false := by simpa using foreign
  have digit : c ∈ digits n.natAbs := by
    rw [toList_intText] at member
    split at member
    · exact (List.mem_cons.mp member).resolve_left unsigned
    · exact member
  simp [isDigit_of_mem_digits digit] at undigited

end Text

namespace Catalogue

/-- No numeral is the name of a method. -/
theorem method?_intText (methods : List String)
    (words : ∀ name ∈ methods, Text.IsWord name = true) (n : Int) :
    method? methods (Text.intText n) = none := by
  have absent : Text.intText n ∉ methods := by
    intro member
    exact Text.intText_ne_of_isWord (words _ member) n rfl
  simp [method?, absent]

/-- No list of the catalogue has a field that goes by a numeral, and no tuple, as long as its items
go by words. -/
theorem field_intText {σ : Store} {v : Value} (listed : σ.arrayItems? v = some items)
    (words : ∀ name ∈ (σ.classOf v).itemNames, Text.IsWord name = true) (n : Int) :
    field σ v (Text.intText n) = .ok none := by
  have other : Text.intText n ≠ "__class__" := Text.intText_ne_of_isWord (by decide) n
  obtain ⟨address, cls, rfl, held | held⟩ := Store.arrayItems?_eq_some_iff.mp listed
  · have methods := method?_intText listMethods (by decide) n
    simp [field, other, held, cellField, methods]
  · have methods := method?_intText tupleMethods (by decide) n
    have unnamed : (cls.itemNames.zip items).find? (·.1 == Text.intText n) = none := by
      rw [List.find?_eq_none]
      intro item member same
      have named : item.1 ∈ cls.itemNames := (List.of_mem_zip member).1
      have own : σ.classOf (.object address) = cls := by
        simp [Store.classOf, held, Cell.classOf]
      rw [own] at words
      exact Text.intText_ne_of_isWord (words item.1 named) n (eq_of_beq same).symm
    simp [field, other, held, cellField, tupleField?, unnamed, methods]

end Catalogue

namespace World

variable {w : World} {v : Value}

/-- A numeral reads off a list or tuple the item that its integer names, or a field if it is too
long to be read as an integer. -/
theorem get_intText (listed : w.store.arrayItems? v = some items) (n : Int) :
    w.get v (.str (Text.intText n)) =
      if n.natAbs < Text.firstUnwritable then .ok (itemNamed items n)
      else w.fieldOrNull v (Text.intText n) := by
  have present : v ≠ .null := by
    rintro rfl
    cases listed
  have noMapping := Store.entries?_eq_none_iff.mp (Store.entries?_eq_none_of_arrayItems? listed)
  have segment : w.get v (.str (Text.intText n)) = w.readSegment v (Text.intText n) := by
    rw [get_eq_readSegments_singleton (fun custom => by cases noMapping.2.symm.trans custom)
      (Text.dot_not_mem_intText n)]
    simp only [readSegments, present, if_false, String.ofList_toList]
    exact bind_pure _
  rw [segment, readSegment_of_arrayItems? listed, Text.readInt?_intText]
  by_cases short : n.natAbs < Text.firstUnwritable
  · simp only [if_pos short, getElem?_placeOf?]
  · simp only [if_neg short]

/-! ## The law of numerals -/

/-- Off a list or tuple without a field that goes by an overlong numeral, every numeral reads the
item that its integer names, unless it is overlong; then it reads null, which is also what its
integer names in any list of fewer items than there are numbers that can be written. Each item of
an array is checked at the context extended by a numeral, which reads this very item. -/
theorem numeral_reads_item (w : World) {v : Value} {items : List Value}
    (listed : w.store.arrayItems? v = some items)
    (unnamed : ∀ n : Int, ¬ n.natAbs < Text.firstUnwritable →
      w.readField v (Text.intText n) = .ok none) :
    (∀ n : Int, w.get v (.str (Text.intText n)) =
      .ok (if n.natAbs < Text.firstUnwritable then itemNamed items n else .null)) ∧
    (items.length < Text.firstUnwritable →
      ∀ n : Int, w.get v (.str (Text.intText n)) = .ok (itemNamed items n)) ∧
    ∀ (check : Value → Value → Run Value) (base : String) (depth : Int),
      ∀ item ∈ items.zipIdx, item.2 < Text.firstUnwritable →
        w.judgeItem check (.path (.str base) (.int depth) 0) item =
            check item.1
              (.path (.str (joined base (Text.intText item.2))) (.int (depth + 1)) 0) ∧
          w.get v (.str (Text.intText item.2)) = .ok item.1 := by
  have overlong : ∀ n : Int, ¬ n.natAbs < Text.firstUnwritable →
      w.get v (.str (Text.intText n)) = .ok .null := by
    intro n long
    rw [get_intText listed, if_neg long, fieldOrNull, unnamed n long]
    rfl
  refine ⟨?each, ?bounded, ?checked⟩
  case each =>
    intro n
    by_cases short : n.natAbs < Text.firstUnwritable
    · rw [get_intText listed, if_pos short, if_pos short]
    · rw [overlong n short, if_neg short]
  case bounded =>
    intro bounded n
    by_cases short : n.natAbs < Text.firstUnwritable
    · rw [get_intText listed, if_pos short]
    · have large : items.length < n.natAbs := by omega
      rw [overlong n short, itemNamed_of_length_lt large]
  case checked =>
    intro check base depth item member short
    have small : (item.2 : Int).natAbs < Text.firstUnwritable := by simpa using short
    have found : items[item.2]? = some item.1 := List.mem_zipIdx_iff_getElem?.mp member
    constructor
    · rw [judgeItem, call_text (by simp [Value.int]) (text_int small), Run.lift_ok, pure_bind]
    · rw [get_intText listed, if_pos small, itemNamed_of_getElem? found]

/-- A list of three texts and a point. -/
def row : World :=
  Catalogue.world
    ⟨#[.list Catalogue.listClass [.str "a", .str "b", .str "c"],
      .tuple Catalogue.pointClass [.int 3, .int 4]]⟩ {}

/-- The last item of the list is read by its place and from the end, and beyond both ends there is
null, as there is for the least overlong numeral. The first coordinate of the point is checked at a
path that reads it again. -/
theorem numeral_reads_item_row :
    (∀ v ∈ [Value.object 0, .object 1], ∀ n : Int, ¬ n.natAbs < Text.firstUnwritable →
      row.readField v (Text.intText n) = .ok none) ∧
    row.get (.object 0) (.str "2") = .ok (.str "c") ∧
    row.get (.object 0) (.str "-1") = .ok (.str "c") ∧
    row.get (.object 0) (.str "3") = .ok .null ∧
    row.get (.object 0) (.str "-4") = .ok .null ∧
    row.get (.object 0) (.str (Text.intText Text.firstUnwritable)) = .ok .null ∧
    row.judgeItem (fun _ context => .pure context) (.rootPath (.str "at")) (.int 3, 0) =
      .pure (.path (.str "at.0") (.int 1) 0) ∧
    row.get (.object 1) (.str "0") = .ok (.int 3) := by
  have listed : row.store.arrayItems? (.object 0) = some [.str "a", .str "b", .str "c"] := rfl
  have paired : row.store.arrayItems? (.object 1) = some [.int 3, .int 4] := rfl
  have unnamed : ∀ n : Int, ¬ n.natAbs < Text.firstUnwritable →
      row.readField (.object 0) (Text.intText n) = .ok none :=
    fun n _ => Catalogue.field_intText listed (by decide) n
  have unnamed' : ∀ n : Int, ¬ n.natAbs < Text.firstUnwritable →
      row.readField (.object 1) (Text.intText n) = .ok none :=
    fun n _ => Catalogue.field_intText paired (by decide) n
  have few : 3 < Text.firstUnwritable := Text.lt_firstUnwritable_of_lt_ten (by decide)
  obtain ⟨each, bounded, _⟩ := numeral_reads_item row listed unnamed
  obtain ⟨_, _, checked⟩ := numeral_reads_item row paired unnamed'
  have texts : Text.intText 2 = "2" ∧ Text.intText (-1) = "-1" ∧ Text.intText 3 = "3" ∧
      Text.intText (-4) = "-4" ∧ Text.intText (0 : Nat) = "0" := by decide +kernel
  obtain ⟨two, last, three, before, first⟩ := texts
  obtain ⟨placed, read⟩ := checked (fun _ context => .pure context) "at" 0 (.int 3, 0) (by decide)
    (Text.lt_firstUnwritable_of_lt_ten (by decide))
  refine ⟨?unnamed, two ▸ bounded few 2, last ▸ bounded few (-1), three ▸ bounded few 3,
    before ▸ bounded few (-4), ?overlong, ?checked, first ▸ read⟩
  case unnamed =>
    intro v member
    rcases List.mem_cons.mp member with rfl | member
    · exact unnamed
    · cases List.mem_singleton.mp member
      exact unnamed'
  case overlong => rw [each, Int.natAbs_natCast, if_neg (Nat.lt_irrefl _)]
  case checked =>
    rw [Value.rootPath, placed, first]
    rfl

end World

end Conformance
