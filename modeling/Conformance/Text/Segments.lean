/-!
# Dotted names

A dotted name is a list of segments joined by dots. Splitting keeps empty segments, so a name
with `n` dots has `n + 1` segments.
-/

namespace Conformance.Text

/-- The segments of a dotted name, in order. -/
def segments (cs : List Char) : List (List Char) :=
  cs.foldr (fun c rest =>
    if c = '.' then [] :: rest
    else match rest with
      | [] => [[c]]
      | first :: more => (c :: first) :: more) [[]]

/-- Joins segments with dots. -/
def joinSegments : List (List Char) → List Char
  | [] => []
  | [only] => only
  | first :: more => first ++ '.' :: joinSegments more

/-- A name has at least one segment. -/
theorem segments_ne_nil (cs : List Char) : segments cs ≠ [] := by
  cases cs with
  | nil => simp [segments]
  | cons c cs =>
    simp only [segments, List.foldr_cons]
    split
    · simp
    · split <;> simp

theorem segments_dot (cs : List Char) : segments ('.' :: cs) = [] :: segments cs := by
  simp [segments]

/-- A character other than the dot goes into the first segment of what follows it. -/
theorem segments_cons {c : Char} (ordinary : c ≠ '.') (cs : List Char) :
    segments (c :: cs) =
      (c :: (segments cs).headD []) :: (segments cs).tail := by
  have whole : segments (c :: cs) = match segments cs with
      | [] => [[c]]
      | first :: more => (c :: first) :: more := by
    simp [segments, ordinary]
  rw [whole]
  cases found : segments cs with
  | nil => exact absurd found (segments_ne_nil cs)
  | cons first more => rfl

end Conformance.Text
