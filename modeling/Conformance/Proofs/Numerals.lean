import Mathlib.Data.Nat.Digits.Lemmas
import Mathlib.Tactic.IntervalCases
import Conformance.Text.Numeral
import Conformance.Text.Segments

/-!
# Names and numerals read back

A numeral is written as the digits of the number, and reading it as an index gives the number
back, as far as numerals are written at all. None of its characters is a dot, so it is one segment
of a dotted name, and a name that was joined from segments without dots is split into them again.
-/

namespace Conformance.Text

/-! ## Digits -/

/-- The decimal places of a number, the least first; zero has one. -/
def places (n : Nat) : List Nat := if n = 0 then [0] else Nat.digits 10 n

theorem places_ne_nil (n : Nat) : places n ≠ [] := by
  unfold places
  split
  · simp
  · next positive => simpa [Nat.digits_ne_nil_iff_ne_zero] using positive

theorem places_lt_ten {n d : Nat} (member : d ∈ places n) : d < 10 := by
  unfold places at member
  split at member
  · have zero : d = 0 := by simpa using member
    omega
  · exact Nat.digits_lt_base (by omega) member

theorem ofDigits_eq (ds : List Nat) : ofDigits ds = Nat.ofDigits 10 ds := by
  induction ds with
  | nil => rfl
  | cons d rest inductionHypothesis =>
    rw [Nat.ofDigits_cons, ← inductionHypothesis]
    simp only [ofDigits, List.foldr_cons]
    omega

theorem ofDigits_places (n : Nat) : ofDigits (places n) = n := by
  unfold places
  split
  · next zero => simp [zero, ofDigits]
  · rw [ofDigits_eq, Nat.ofDigits_digits]

/-- Numbers of one digit can be written. -/
theorem lt_firstUnwritable_of_lt_ten {n : Nat} (single : n < 10) : n < firstUnwritable := by
  have further {digits : Nat} (some_ : digits ≠ 0) : n < Nat.pow 10 digits := by
    have least : 10 ≤ 10 ^ digits := Nat.le_self_pow some_ 10
    exact Nat.lt_of_lt_of_le single least
  unfold firstUnwritable
  exact further (by decide)

/-- The numbers that can be written are those with no more places than may be read. -/
theorem length_places_le_iff {n : Nat} : (places n).length ≤ maxDigits ↔ n < firstUnwritable := by
  unfold places
  split
  · next zero =>
    have writable : n < firstUnwritable := lt_firstUnwritable_of_lt_ten (by omega)
    exact iff_of_true (by decide) writable
  · have bounded {limit : Nat} : (Nat.digits 10 n).length ≤ limit ↔ n < Nat.pow 10 limit :=
      Nat.digits_length_le_iff (by omega) n
    unfold firstUnwritable
    exact bounded

/-- The digits of a number stand for its places, the greatest first. -/
theorem digitsBefore_eq (n : Nat) (rest : List Char) :
    digitsBefore n rest = (places n).reverse.map Nat.digitChar ++ rest := by
  induction n using Nat.strong_induction_on generalizing rest with
  | _ n inductionHypothesis =>
    rw [digitsBefore]
    by_cases single : n < 10
    · have only : places n = [n] := by
        unfold places
        split
        · next zero => rw [zero]
        · next positive => exact Nat.digits_of_lt 10 n positive single
      simp [single, only]
    · have more : places n = n % 10 :: places (n / 10) := by
        have front : n / 10 ≠ 0 := by omega
        have positive : n ≠ 0 := by omega
        simp only [places, front, positive, if_false]
        exact Nat.digits_def' (by omega) (by omega)
      rw [if_neg single, inductionHypothesis (n / 10) (by omega), more]
      simp

theorem digits_eq (n : Nat) : digits n = (places n).reverse.map Nat.digitChar := by
  rw [digits, digitsBefore_eq, List.append_nil]

/-! ## Reading digits -/

theorem digitValue?_digitChar {d : Nat} (small : d < 10) :
    digitValue? (Nat.digitChar d) = some d := by
  interval_cases d <;> decide

/-- A character that neither a reader of numerals nor a dotted name treats in a way of its own. -/
structure Ordinary (c : Char) : Prop where
  dense : isBlank c = false
  unsigned : c ≠ '-' ∧ c ≠ '+'
  joined : c ≠ '_'
  dotless : c ≠ '.'

theorem ordinary_digitChar {d : Nat} (small : d < 10) : Ordinary (Nat.digitChar d) := by
  interval_cases d <;> exact ⟨by decide, by decide, by decide, by decide⟩

/-- A run of digits is read digit by digit. -/
theorem digitRun?_digits {ds : List Nat} (given : ds ≠ []) (small : ∀ d ∈ ds, d < 10)
    (read : List Nat) :
    digitRun? digitValue? read (ds.map Nat.digitChar) = some (ds.reverse ++ read) := by
  induction ds generalizing read with
  | nil => exact absurd rfl given
  | cons d rest inductionHypothesis =>
    have first := digitValue?_digitChar (small d (by simp))
    cases rest with
    | nil => simp [digitRun?, first]
    | cons next others =>
      have ordinary := ordinary_digitChar (small next (by simp))
      have later : ∀ other ∈ next :: others, other < 10 := by
        intro other member
        exact small other (by simp [List.mem_cons.mp member])
      have step := inductionHypothesis (by simp) later (d :: read)
      rw [List.map_cons] at step
      rw [List.map_cons, List.map_cons, digitRun?, first]
      simp only
      split
      · next underscore => exact absurd underscore (by simp)
      · next underscore => exact absurd (List.cons.inj underscore).1 ordinary.joined
      · next same =>
        rw [← List.cons.inj same |>.1, ← List.cons.inj same |>.2, step]
        simp

/-- Text without blanks has none to be dropped. -/
theorem trimBlanks_eq {cs : List Char} (dense : ∀ c ∈ cs, isBlank c = false) :
    trimBlanks cs = cs := by
  have keeps : ∀ ds : List Char, (∀ c ∈ ds, isBlank c = false) → ds.dropWhile isBlank = ds := by
    intro ds dense
    cases ds with
    | nil => rfl
    | cons c rest => simp [List.dropWhile, dense c (by simp)]
  unfold trimBlanks
  rw [keeps cs dense, keeps cs.reverse (by simpa using dense), List.reverse_reverse]

/-- Text that begins with neither sign has none to be split off. -/
theorem splitSign_eq {c : Char} (minus : c ≠ '-') (plus : c ≠ '+') (rest : List Char) :
    splitSign (c :: rest) = (false, c :: rest) := by
  unfold splitSign
  split
  · next same => exact absurd (List.cons.inj same).1 minus
  · next same => exact absurd (List.cons.inj same).1 plus
  · rfl

theorem digits_ne_nil (n : Nat) : digits n ≠ [] := by
  rw [digits_eq]
  simpa using places_ne_nil n

theorem ordinary_of_mem_digits {n : Nat} {c : Char} (member : c ∈ digits n) : Ordinary c := by
  rw [digits_eq] at member
  obtain ⟨d, inside, rfl⟩ := List.mem_map.mp member
  exact ordinary_digitChar (places_lt_ten (List.mem_reverse.mp inside))

theorem dot_not_mem_digits (n : Nat) : '.' ∉ digits n := by
  intro member
  exact (ordinary_of_mem_digits member).dotless rfl

/-- The digits of a number are read as its places. -/
theorem digitRun?_digits_eq_places (n : Nat) :
    digitRun? digitValue? [] (digits n) = some (places n) := by
  have given : (places n).reverse ≠ [] := by simpa using places_ne_nil n
  have bounded : ∀ d ∈ (places n).reverse, d < 10 := by
    intro d member
    exact places_lt_ten (List.mem_reverse.mp member)
  rw [digits_eq, digitRun?_digits given bounded]
  simp

/-- A sign and a numeral after it are read together, as far as the numeral may be read. -/
theorem readInt?_of_splitSign {cs : List Char} {negative : Bool} {n : Nat}
    (dense : ∀ c ∈ cs, isBlank c = false) (signed : splitSign cs = (negative, digits n)) :
    readInt? cs =
      if n < firstUnwritable then some (if negative then -(n : Int) else n) else none := by
  have digitsRead := digitRun?_digits_eq_places n
  simp only [readInt?, trimBlanks_eq dense, signed, digitsRead, ofDigits_places]
  by_cases small : n < firstUnwritable
  · have short := length_places_le_iff.mpr small
    simp [small, Nat.not_lt.mpr short]
  · have long : maxDigits < (places n).length := by
      rw [← Nat.not_le, length_places_le_iff]
      exact small
    simp [small, long]

/-- A numeral is read as its number if the number can be written, and else not at all. -/
theorem readInt?_digits (n : Nat) :
    readInt? (digits n) = if n < firstUnwritable then some (n : Int) else none := by
  have dense : ∀ c ∈ digits n, isBlank c = false := by
    intro c member
    exact (ordinary_of_mem_digits member).dense
  have unsigned : splitSign (digits n) = (false, digits n) := by
    cases found : digits n with
    | nil => exact absurd found (digits_ne_nil n)
    | cons c rest =>
      have member : c ∈ digits n := by simp [found]
      obtain ⟨minus, plus⟩ := (ordinary_of_mem_digits member).unsigned
      exact splitSign_eq minus plus rest
  simpa using readInt?_of_splitSign dense unsigned

/-- And so is one with a minus sign in front. -/
theorem readInt?_minus_digits (n : Nat) :
    readInt? ('-' :: digits n) = if n < firstUnwritable then some (-(n : Int)) else none := by
  have dense : ∀ c ∈ '-' :: digits n, isBlank c = false := by
    intro c member
    rcases List.mem_cons.mp member with rfl | member
    · decide
    · exact (ordinary_of_mem_digits member).dense
  have signed : splitSign ('-' :: digits n) = (true, digits n) := rfl
  simpa using readInt?_of_splitSign dense signed

/-- The text of an integer is its numeral, behind a minus sign if it is negative. -/
theorem toList_intText (n : Int) :
    (intText n).toList = if n < 0 then '-' :: digits n.natAbs else digits n.natAbs := by
  unfold intText natText
  split <;> simp [String.toList_append]

theorem intText_ne_empty (n : Int) : intText n ≠ "" := by
  intro empty
  have none : (intText n).toList = [] := by simp [empty]
  rw [toList_intText] at none
  split at none
  · cases none
  · exact digits_ne_nil n.natAbs none

/-- The text of an integer is one segment of a dotted name. -/
theorem dot_not_mem_intText (n : Int) : '.' ∉ (intText n).toList := by
  rw [toList_intText]
  split
  · simp [dot_not_mem_digits]
  · exact dot_not_mem_digits n.natAbs

theorem intText_natCast (n : Nat) : intText n = natText n := by simp [intText]

/-- The text of an integer is read as the integer if it can be written, and else not at all. -/
theorem readInt?_intText (n : Int) :
    readInt? (intText n).toList = if n.natAbs < firstUnwritable then some n else none := by
  rw [toList_intText]
  split
  · next negative =>
    have same : -(n.natAbs : Int) = n := by omega
    rw [readInt?_minus_digits, same]
  · next positive =>
    have same : (n.natAbs : Int) = n := by omega
    rw [readInt?_digits, same]

example : readInt? (digits 4096) = some 4096 := by decide +kernel

/-! ## Segments -/

/-- A name without dots is one segment. -/
theorem segments_eq_singleton {cs : List Char} (dotless : '.' ∉ cs) : segments cs = [cs] := by
  induction cs with
  | nil => rfl
  | cons c rest inductionHypothesis =>
    have ordinary : c ≠ '.' := by
      rintro rfl
      simp at dotless
    have later : '.' ∉ rest := by
      intro member
      exact dotless (by simp [member])
    rw [segments_cons ordinary, inductionHypothesis later]
    rfl

/-- A name is split at a dot into the segments before it and those after it. -/
theorem segments_append (cs rest : List Char) :
    segments (cs ++ '.' :: rest) = segments cs ++ segments rest := by
  induction cs with
  | nil => rw [List.nil_append, segments_dot]; rfl
  | cons c others inductionHypothesis =>
    by_cases dot : c = '.'
    · subst dot
      rw [List.cons_append, segments_dot, segments_dot, inductionHypothesis, List.cons_append]
    · rw [List.cons_append, segments_cons dot, segments_cons dot, inductionHypothesis]
      cases found : segments others with
      | nil => exact absurd found (segments_ne_nil others)
      | cons first more => simp

/-- A name whose first segment was joined already is the join of all its segments. -/
theorem joinSegments_append_dot (first second : List Char) (rest : List (List Char)) :
    joinSegments ((first ++ '.' :: second) :: rest) = joinSegments (first :: second :: rest) := by
  cases rest with
  | nil => rfl
  | cons third others => simp [joinSegments]

/-- Segments without dots are found again behind those of any name that they were joined to. -/
theorem segments_joinSegments_cons (name : List Char) {parts : List (List Char)}
    (dotless : ∀ segment ∈ parts, '.' ∉ segment) :
    segments (joinSegments (name :: parts)) = segments name ++ parts := by
  induction parts generalizing name with
  | nil => simp [joinSegments]
  | cons first more inductionHypothesis =>
    have behind : joinSegments (name :: first :: more) =
        name ++ '.' :: joinSegments (first :: more) := by simp [joinSegments]
    have later : ∀ segment ∈ more, '.' ∉ segment := by
      intro segment member
      exact dotless segment (by simp [member])
    rw [behind, segments_append, inductionHypothesis first later,
      segments_eq_singleton (dotless first (by simp)), List.singleton_append]

/-- Splitting a name that was joined from segments without dots gives these segments. -/
theorem segments_joinSegments {parts : List (List Char)} (given : parts ≠ [])
    (dotless : ∀ segment ∈ parts, '.' ∉ segment) : segments (joinSegments parts) = parts := by
  cases parts with
  | nil => exact absurd rfl given
  | cons first more =>
    have later : ∀ segment ∈ more, '.' ∉ segment := by
      intro segment member
      exact dotless segment (by simp [member])
    rw [segments_joinSegments_cons first later, segments_eq_singleton (dotless first (by simp)),
      List.singleton_append]

example : segments (joinSegments ["tags".toList, "0".toList]) = ["tags".toList, "0".toList] := by
  decide

end Conformance.Text
