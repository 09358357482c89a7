import AssetBroker.Unicode.Data

/-!
# Character classes

The classes of characters that text handling needs, read from the tables
of `Unicode.Data`. Each table is decoded once.

* A character is *printable* when a diagnostic literal may show it as it
  is: not a control, format, surrogate, private-use or unassigned code
  point, and not a separator other than the space.
* A character *extends a grapheme* when it attaches to the character
  before it, like a combining accent; a diagnostic literal escapes these
  too, so that they never combine with a quote.
* A character is *alphanumeric* when it is alphabetic or numeric.
* The *columns* of a character are those a terminal gives it: none for a
  control character or one that takes no room of its own, two for a wide
  East Asian character, three for one Khmer abbreviation sign, one
  otherwise. Wrapped paragraphs count them by the tables of version 17.0,
  the lines of source snippets by those of version 15.1.
-/

namespace AssetBroker

namespace Unicode

def unprintable : Array Nat := numbers unprintableText

def graphemeExtending : Array Nat := numbers graphemeExtendingText

def alphanumerical : Array Nat := numbers alphanumericalText

def zeroWidth : Array Nat := numbers zeroWidthText

def wideColumns : Array Nat := numbers wideColumnsText

def lineBreaking : Array Nat × Array String := runs lineBreakingText

/-- The decoded boundaries of the code points that take no column in a
source snippet. -/
def snippetZeroWidth : Array Nat := numbers snippetZeroWidthText

/-- The decoded boundaries of the code points that take two columns in a
source snippet. -/
def snippetWideColumns : Array Nat := numbers snippetWideColumnsText

/-- Whether a diagnostic literal may show a character as it is. ASCII is
decided directly: the controls below the space are not printable, the
rest up to `~` are. -/
def isPrintable (c : Char) : Bool :=
  if c.toNat < 0x20 then false
  else if c.toNat < 0x7F then true
  else !memberOf unprintable c

/-- Whether a character extends the grapheme before it. Nothing below
`U+0300` does. -/
def isGraphemeExtend (c : Char) : Bool :=
  c.toNat ≥ 0x300 && memberOf graphemeExtending c

def isAlphanumeric (c : Char) : Bool :=
  if c.toNat < 0x80 then c.isAlphanum else memberOf alphanumerical c

/-- The columns a character takes on a terminal, by the tables of
characters of no width and of wide characters: none for the controls
(`U+0000` to `U+001F` and `U+007F` to `U+009F`) and for characters of no
width, three for the Khmer sign beyyal `U+17D8` (an abbreviation written as
three letters), two for wide characters, one for the rest. -/
def columnsBy (zero wide : Array Nat) (c : Char) : Nat :=
  let n := c.toNat
  if n < 0x20 then 0
  else if n < 0x7F then 1
  else if n < 0xA0 then 0
  else if n == 0x17D8 then 3
  else if memberOf zero c then 0
  else if memberOf wide c then 2
  else 1

/-- The columns a character takes in a wrapped paragraph. -/
def columns (c : Char) : Nat := columnsBy zeroWidth wideColumns c

/-- The columns a character takes on a line of a source snippet, measured
with the tables of version 15.1. -/
def snippetColumns (c : Char) : Nat := columnsBy snippetZeroWidth snippetWideColumns c

/-- The line breaking class name of a character, as in the table. -/
def lineBreakName (c : Char) : String := valueOf lineBreaking "XX" c

end Unicode

end AssetBroker
