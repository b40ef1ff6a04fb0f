/-!
# Templates

A template is a text with places to be filled in. A place is a percent sign followed by flags, a
width, a precision, a length mark and the letter of a conversion; two percent signs in a row stand
for one. A star as width or precision is filled in like a place of its own.

Here a template is filled in with one integer, and only whether that works out matters: the text
it would give is not built. The first thing that is wrong decides, from left to right, and a
template without any place is wrong at its end.
-/

namespace Conformance.Text

/-- Why a template cannot be filled in with one integer. -/
inductive TemplateFault where
  /-- The template ends inside a place. -/
  | incomplete
  /-- A place asks for its argument by name. -/
  | named
  /-- There are more places than arguments. -/
  | tooFew
  /-- There is no place at all. -/
  | unused
  | widthTooLarge
  | precisionTooLarge
  /-- The letter of a conversion that is not for integers. -/
  | refused (letter : Char)
  /-- No letter of a conversion, where it stands, and whether a width or precision in digits comes
  right before it. -/
  | unknown (letter : Char) (place : Nat) (afterDigits : Bool)
deriving DecidableEq, Repr

/-- The letters of conversions: those that write an integer, and others. -/
structure Conversions where
  ofInteger : List Char
  others : List Char

namespace Conversions

/-- The conversions of numbers. -/
def ofNumbers : List Char := "diuoxXeEfFgGc".toList

/-- The conversions of texts. -/
def ofTexts : Conversions := ⟨ofNumbers ++ ['s', 'r', 'a'], []⟩

/-- The conversions of bytes. -/
def ofBytes : Conversions := ⟨ofNumbers ++ ['r', 'a'], ['s', 'b']⟩

end Conversions

namespace Template

def isFlag (c : Char) : Bool := c == '-' || c == '+' || c == ' ' || c == '#' || c == '0'

def isDigit (c : Char) : Bool := '0' ≤ c && c ≤ '9'

def digitsValue (cs : List Char) : Nat :=
  cs.foldl (fun n c => 10 * n + (c.toNat - '0'.toNat)) 0

/-- The greatest width. -/
def maxWidth : Nat := Nat.pow 2 63 - 1

/-- The greatest precision. -/
def maxPrecision : Nat := Nat.pow 2 31 - 1

/-- Uses the one argument up. -/
def takeArgument (used : Bool) : Except TemplateFault Bool :=
  if used then .error .tooFew else .ok true

/-- How far a place has been read. -/
structure Progress where
  /-- Whether the argument is used up. -/
  used : Bool
  /-- Whether the last that was read are digits. -/
  afterDigits : Bool
  /-- What follows. -/
  rest : List Char

/-- Reads a width or precision: a star, digits, or nothing. -/
def readSize (limit : Nat) (tooLarge : TemplateFault) (used : Bool) (cs : List Char) :
    Except TemplateFault Progress :=
  match cs with
  | '*' :: rest => return ⟨← takeArgument used, false, rest⟩
  | cs =>
    let digits := cs.takeWhile isDigit
    if limit < digitsValue digits then .error tooLarge
    else .ok ⟨used, !digits.isEmpty, cs.drop digits.length⟩

/-- Reads a precision behind its point, if there is one. -/
def readPrecision (progress : Progress) : Except TemplateFault Progress :=
  match progress.rest with
  | '.' :: rest => readSize maxPrecision .precisionTooLarge progress.used rest
  | _ => .ok progress

/-- Drops one length mark. -/
def dropLength (progress : Progress) : Progress :=
  match progress.rest with
  | 'h' :: rest | 'l' :: rest | 'L' :: rest => ⟨progress.used, false, rest⟩
  | _ => progress

/-- Reads a place behind its percent sign. Gives what follows. -/
def readPlace (conversions : Conversions) (total : Nat) (used : Bool) (cs : List Char) :
    Except TemplateFault (List Char) := do
  let width ← readSize maxWidth .widthTooLarge used (cs.dropWhile isFlag)
  let progress := dropLength (← readPrecision width)
  match progress.rest with
  | [] => throw .incomplete
  | letter :: rest =>
    let _ ← takeArgument progress.used
    if conversions.ofInteger.contains letter then return rest
    else if conversions.others.contains letter then throw (.refused letter)
    else throw (.unknown letter (total - rest.length - 1) progress.afterDigits)

/-- Fills in what is left of a template of `total` characters; each step drops one at least. -/
def fillFrom (conversions : Conversions) (total : Nat) :
    Nat → Bool → List Char → Except TemplateFault Unit
  | 0, used, _ => if used then .ok () else .error .unused
  | steps + 1, used, cs =>
    match cs with
    | [] => if used then .ok () else .error .unused
    | '%' :: '%' :: rest => fillFrom conversions total steps used rest
    | '%' :: '(' :: _ => .error .named
    | '%' :: rest => do
      fillFrom conversions total steps true (← readPlace conversions total used rest)
    | _ :: rest => fillFrom conversions total steps used rest

/-- Fills in a template with one integer. -/
def fill (conversions : Conversions) (cs : List Char) : Except TemplateFault Unit :=
  fillFrom conversions cs.length (cs.length + 1) false cs

end Template

end Conformance.Text
