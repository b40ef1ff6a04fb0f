import Conformance.Options.Issue
import Conformance.Number.Reading

/-!
# Integers in the text of an option

The text of an option is brought into canonical form before it is read. Surrounding blanks and a
plus sign go first, then leading zeros with the underscores among them, then a fraction of zeros,
then underscores that stand singly between other characters. What is left has to be a canonical
integer: an optional minus sign, and digits without a leading zero unless zero is the only one.

A minus sign may also come behind leading zeros, because those are gone by the time it is read.
-/

namespace Conformance.OptionText

/-- A character that an integer without leading zeros can start with. -/
def isLeading (c : Char) : Bool := c == '-' || ('1' ≤ c && c ≤ '9')

/-- Drops zeros and the underscores among them, where `last` was dropped before. A point keeps the
character in front of it, and so does the end. -/
def dropZeros? (last : Char) : List Char → Option (List Char)
  | [] => some [last]
  | c :: cs =>
    if c == '0' || c == '_' then dropZeros? c cs
    else if isLeading c then some (c :: cs)
    else if c == '.' then some (last :: c :: cs)
    else none

/-- What is left of an unsigned integer without its leading zeros. -/
def significant? : List Char → Option (List Char)
  | [] => none
  | c :: cs => if c == '0' then dropZeros? c cs else if isLeading c then some (c :: cs) else none

/-- Drops a fraction of one or more zeros. -/
def dropFraction (cs : List Char) : List Char :=
  match cs.dropWhile (· != '.') with
  | _ :: place :: places =>
    if (place :: places).all (· == '0') then cs.takeWhile (· != '.') else cs
  | _ => cs

/-- Whether two underscores stand side by side. -/
def hasDoubleUnderscore : List Char → Bool
  | '_' :: '_' :: _ => true
  | _ :: cs => hasDoubleUnderscore cs
  | [] => false

/-- Drops the underscores if each of them stands singly between other characters. -/
def dropUnderscores (cs : List Char) : List Char :=
  if cs.head? == some '_' || cs.getLast? == some '_' || hasDoubleUnderscore cs then cs
  else cs.filter (· != '_')

/-- The canonical form of a text, if its start is that of an integer. -/
def canonical? (cs : List Char) : Option (List Char) :=
  match Text.trimBlanks cs with
  | '-' :: body => (significant? body).map fun body => '-' :: dropUnderscores (dropFraction body)
  | '+' :: '-' :: _ => none
  | '+' :: body | body => (significant? body).map fun body => dropUnderscores (dropFraction body)

/-- Reads a canonical integer. A minus sign counts as one of the digits it may have. -/
def readCanonical (cs : List Char) : Except IssueCause Int :=
  let negative := cs.head? == some '-'
  let body := if negative then cs.drop 1 else cs
  let run := body.takeWhile fun c => (asciiDigit? c).isSome
  if body.head? == some '0' then
    if body.length = 1 then .ok 0 else .error .unreadable
  else if Text.maxDigits < (if negative then run.length + 1 else run.length) then
    .error .oversized
  else if run.isEmpty || run.length < body.length then .error .unreadable
  else match asciiNat? run with
    | some n => .ok (if negative then -(n : Int) else n)
    | none => .error .unreadable

/-- Reads an integer from the text of an option. -/
def read (cs : List Char) : Except IssueCause Int :=
  match canonical? cs with
  | some cs => readCanonical cs
  | none => .error .unreadable

end Conformance.OptionText
