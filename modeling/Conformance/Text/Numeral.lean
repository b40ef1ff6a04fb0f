import Conformance.Text.DecimalDigit

/-!
# Integers written and read in decimal

Writing is canonical: no leading zero, and a minus sign for negative numbers. Reading is lenient:
surrounding blanks, either sign, leading zeros, single underscores between digits and digits of
any script are accepted. Both directions stop at 4300 digits; beyond that a number has no text
and a text has no number.
-/

namespace Conformance.Text

/-- The most digits an integer is written with or read from. -/
def maxDigits : Nat := 4300

/-- The least number whose text would be too long. -/
def firstUnwritable : Nat := Nat.pow 10 maxDigits

/-- The decimal digits of a number, most significant first, in front of `rest`. -/
def digitsBefore (n : Nat) (rest : List Char) : List Char :=
  if n < 10 then Nat.digitChar n :: rest
  else digitsBefore (n / 10) (Nat.digitChar (n % 10) :: rest)

/-- The canonical decimal digits of a number. -/
def digits (n : Nat) : List Char := digitsBefore n []

/-- The canonical decimal text of a number, of any length. -/
def natText (n : Nat) : String := String.ofList (digits n)

/-- The canonical decimal text of an integer, of any length. -/
def intText (n : Int) : String :=
  if n < 0 then "-" ++ natText n.natAbs else natText n.natAbs

/-- The text of an integer, unless it would be too long. -/
def intText? (n : Int) : Option String :=
  if n.natAbs < firstUnwritable then some (intText n) else none

/-- The blanks that may surround a number: tab to carriage return, the space, and above ASCII
every character with the white-space property. -/
def isBlank (c : Char) : Bool :=
  let n := c.toNat
  (0x09 ≤ n && n ≤ 0x0d) || n == 0x20 || n == 0x85 || n == 0xa0 || n == 0x1680 ||
    (0x2000 ≤ n && n ≤ 0x200a) || n == 0x2028 || n == 0x2029 || n == 0x202f || n == 0x205f ||
    n == 0x3000

/-- Drops the blanks at both ends. -/
def trimBlanks (cs : List Char) : List Char :=
  (((cs.dropWhile isBlank).reverse).dropWhile isBlank).reverse

/-- Splits off a sign; the flag tells whether it was a minus. -/
def splitSign : List Char → Bool × List Char
  | '-' :: cs => (true, cs)
  | '+' :: cs => (false, cs)
  | cs => (false, cs)

/-- Reads digits that may have single underscores between them, most recent digit first. -/
def digitRun? (valueOf : Char → Option Nat) : List Nat → List Char → Option (List Nat)
  | _, [] => none
  | read, c :: cs =>
    match valueOf c with
    | none => none
    | some d =>
      match cs with
      | [] => some (d :: read)
      | '_' :: after => digitRun? valueOf (d :: read) after
      | next :: after => digitRun? valueOf (d :: read) (next :: after)

/-- The number with these digits, least significant first. -/
def ofDigits (ds : List Nat) : Nat := ds.foldr (fun d n => 10 * n + d) 0

/-- Reads an integer as the text of an index. -/
def readInt? (cs : List Char) : Option Int :=
  let (negative, body) := splitSign (trimBlanks cs)
  match digitRun? digitValue? [] body with
  | none => none
  | some ds =>
    if maxDigits < ds.length then none
    else some (if negative then -(ofDigits ds : Int) else (ofDigits ds : Int))

end Conformance.Text
