import Conformance.Catalogue.Classes
import Conformance.Text.Surrogate
import Conformance.Text.Template
import Conformance.World

/-!
# Remainders by two

What a value gives as its remainder by two depends on its class: numbers divide, texts and bytes
are templates that the two is filled into, and other values have no remainder. Only whether the
remainder is zero matters here, and a text that was filled in never is.

A decimal is divided with a precision of 28 digits. A quotient with more digits is a fault, and a
remainder too small for the least exponent is rounded to zero.
-/

namespace Conformance

/-- The magnitude from which on the half of a decimal has too many digits. -/
def divisibleBelow : Exact := .scaled 2 28

/-- The greatest magnitude of a decimal that is rounded to zero. -/
def roundedToZero : Exact := .scaled (1 / 2 : Rat) (-1000026)

/-- Whether a rational is twice an integer. -/
def isTwiceInteger (q : Rat) : Bool := (q / 2).den = 1

/-- Whether the remainder of a decimal by two is zero. -/
def Decimal.isEven (x : Decimal) : Except Fault Bool :=
  match x with
  | .infinity _ | .nan _ true _ => .error .signalingComparison
  | .nan _ false _ => .ok false
  | x =>
    let magnitude := x.exact.magnitude
    if magnitude.isZero then .ok true
    else if !magnitude.less divisibleBelow then
      .error (.raised "InvalidOperation" "[<class 'decimal.DivisionImpossible'>]")
    else if magnitude.less (.rational 2) then .ok (!roundedToZero.less magnitude)
    else .ok ((magnitude.toRat?.map isTwiceInteger).getD false)

/-- Whether the remainder of a number by two is zero. -/
def Number.isEven : Number → Except Fault Bool
  | .complex _ _ =>
    .error (.refusedArguments "unsupported operand type(s) for %: 'complex' and 'int'")
  | .decimal x => x.isEven
  | x => .ok ((x.realPart.toRat?.map isTwiceInteger).getD false)

namespace Text

/-- How templates of texts and of bytes differ. -/
structure TemplateWording where
  conversions : Conversions
  name : String
  precisionName : String
  /-- How the letter of an unknown conversion is shown, if it can be, given whether digits come
  right before it. -/
  shown? : Char → Bool → Option String

/-- Templates of texts: letters outside ASCII are shown as a question mark. -/
def textWording : TemplateWording :=
  ⟨.ofTexts, "string", "precision", fun c _ =>
    some (if 31 ≤ c.toNat && c.toNat ≤ 126 then String.singleton c else "?")⟩

/-- Templates of bytes: letters outside ASCII can only be shown behind digits. -/
def bytesWording : TemplateWording :=
  ⟨.ofBytes, "bytes", "prec", fun c afterDigits =>
    if afterDigits || c.toNat < 128 then some (String.singleton c) else none⟩

/-- A code in hexadecimal without leading zeros. -/
def shortHex (n : Nat) : String := String.ofList (Nat.toDigits 16 n)

/-- The fault of a template that cannot be filled in with an integer. -/
def TemplateFault.fault (wording : TemplateWording) : TemplateFault → Fault
  | .incomplete => .raised "ValueError" "incomplete format"
  | .named => .refusedArguments "format requires a mapping"
  | .tooFew => .refusedArguments "not enough arguments for format string"
  | .unused =>
    .refusedArguments ("not all arguments converted during " ++ wording.name ++ " formatting")
  | .widthTooLarge => .raised "ValueError" "width too big"
  | .precisionTooLarge => .raised "ValueError" (wording.precisionName ++ " too big")
  | .refused _ =>
    .refusedArguments ("%b requires a bytes-like object, or an object that implements " ++
      "__bytes__, not 'int'")
  | .unknown letter place afterDigits =>
    match wording.shown? letter afterDigits with
    | some shown =>
      .raised "ValueError" ("unsupported format character '" ++ shown ++ "' (0x" ++
        shortHex (codePoint letter) ++ ") at index " ++ natText place)
    | none => .raised "OverflowError" "character argument not in range(0x110000)"

/-- Fills a template in with two, which never gives zero. -/
def remainder (wording : TemplateWording) (cs : List Char) : Except Fault Bool :=
  match Template.fill wording.conversions cs with
  | .ok _ => .ok false
  | .error cause => .error (cause.fault wording)

/-- Bytes as the characters of their codes. -/
def byteChars (bytes : List UInt8) : List Char := bytes.map fun byte => Char.ofNat byte.toNat

end Text

/-- Whether the remainder of a value by two is zero. -/
def World.isEven (w : World) (v : Value) : Except Fault Bool :=
  let unsupported : Except Fault Bool :=
    .error (.refusedArguments ("unsupported operand type(s) for %: '" ++
      w.store.reportedName v ++ "' and 'int'"))
  match v with
  | .bool b => .ok !b
  | .number x _ _ => x.isEven
  | .text s _ => Text.remainder Text.textWording s.toList
  | .bytes bytes => Text.remainder Text.bytesWording (Text.byteChars bytes)
  | .object address =>
    match w.store.cell? address with
    | some (.buffer bytes) => Text.remainder Text.bytesWording (Text.byteChars bytes)
    | _ => unsupported
  | _ => unsupported

end Conformance
