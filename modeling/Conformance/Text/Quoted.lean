import Conformance.Text.Printable
import Conformance.Text.Surrogate

/-!
# Quoted text

A text is quoted with single quotes unless it holds a single quote and no double one. The quote
in use and the backslash are escaped, line feed, carriage return and tab have short escapes, and
every other character without a visible form is written by its code point with two, four or
eight hexadecimal digits. Bytes follow the same rule behind a `b`, with every byte outside
printable ASCII written as two digits; in a buffer a single quote is escaped even between double
ones.
-/

namespace Conformance.Text

/-- The last `width` hexadecimal digits of a number. -/
def hexDigits (width n : Nat) : List Char :=
  (List.range width).reverse.map fun place => Nat.digitChar (n / Nat.pow 16 place % 16)

/-- The quote that encloses a text. -/
def quoteFor (cs : List Char) : Char :=
  if cs.contains '\'' && !cs.contains '"' then '"' else '\''

/-- The escapes that texts and bytes share. -/
def escapeCommon? (quote c : Char) : Option (List Char) :=
  if c == quote || c == '\\' then some ['\\', c]
  else if c == '\n' then some ['\\', 'n']
  else if c == '\r' then some ['\\', 'r']
  else if c == '\t' then some ['\\', 't']
  else none

/-- A code point by its number. -/
def escapeCode (code : Nat) : List Char :=
  if code < 0x100 then '\\' :: 'x' :: hexDigits 2 code
  else if code < 0x10000 then '\\' :: 'u' :: hexDigits 4 code
  else '\\' :: 'U' :: hexDigits 8 code

/-- One character of a quoted text. -/
def escapeChar (quote c : Char) : List Char :=
  match escapeCommon? quote c with
  | some escaped => escaped
  | none => if isPrintable c then [c] else escapeCode (codePoint c)

/-- A text between quotes. -/
def quote (s : String) : String :=
  let cs := s.toList
  let mark := quoteFor cs
  String.ofList (mark :: cs.flatMap (escapeChar mark) ++ [mark])

/-- One byte of quoted bytes. -/
def escapeByte (quote : Char) (byte : UInt8) : List Char :=
  let c := Char.ofNat byte.toNat
  match escapeCommon? quote c with
  | some escaped => escaped
  | none => if 0x20 ≤ byte && byte < 0x7f then [c] else '\\' :: 'x' :: hexDigits 2 byte.toNat

/-- Bytes between the quotes that suit them, behind a `b`, each escaped by a rule that may depend
on the quote. -/
def enquoteBytes (escape : Char → UInt8 → List Char) (bytes : List UInt8) : String :=
  let mark := quoteFor (bytes.map fun byte => Char.ofNat byte.toNat)
  String.ofList ('b' :: mark :: bytes.flatMap (escape mark) ++ [mark])

/-- Bytes between quotes: of the two quotes only the one in use is escaped. -/
def quoteBytes (bytes : List UInt8) : String := enquoteBytes escapeByte bytes

/-- The bytes of a buffer: a single quote is escaped whichever quote is in use. -/
def quoteBuffer (bytes : List UInt8) : String :=
  "bytearray(" ++ enquoteBytes (fun _ => escapeByte '\'') bytes ++ ")"

end Conformance.Text
