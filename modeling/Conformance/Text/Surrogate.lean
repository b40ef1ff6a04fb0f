/-!
# Unpaired surrogates

The code points from `0xd800` to `0xdfff` are no characters, but a text may come with one that has
lost its partner. Such a code point is kept as its stand-in: the character at the same place of a
block for private use. Stand-ins count as one character each, and wherever codes are written the
stand-in is written with the code it stands for.
-/

namespace Conformance.Text

/-- The first code point that is no character. -/
def firstSurrogate : Nat := 0xd800

/-- How many code points are no characters. -/
def surrogates : Nat := 0x800

/-- The first of the characters that stand for them. -/
def firstStandIn : Nat := 0x10a000

/-- Whether a code point is no character. -/
def isSurrogate (code : Nat) : Bool :=
  firstSurrogate ≤ code && code < firstSurrogate + surrogates

/-- Whether a character stands for a code point that is none. -/
def isStandIn (c : Char) : Bool :=
  firstStandIn ≤ c.toNat && c.toNat < firstStandIn + surrogates

/-- The character of a code point, or its stand-in. -/
def ofCodePoint (code : Nat) : Char :=
  Char.ofNat (if isSurrogate code then code - firstSurrogate + firstStandIn else code)

/-- The code point that a character is or stands for. -/
def codePoint (c : Char) : Nat :=
  if isStandIn c then c.toNat - firstStandIn + firstSurrogate else c.toNat

end Conformance.Text
