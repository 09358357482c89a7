import AssetBroker.Unicode.Properties

/-!
# Diagnostic literals

Error messages quote strings and characters the way a diagnostic dump shows
them: in double quotes for a string and single quotes for a character. The
quote of the literal, the backslash, the null character, tab, line feed and
carriage return get short escapes. Any other character that is not
printable, or that would attach to the character before it (a combining
accent, a variation selector), is written as its hexadecimal code point in
braces, `\u{301}`, so that what the literal holds is always visible.
-/

namespace AssetBroker

/-- The hexadecimal escape of a character: its code point in lower-case
digits in braces. -/
def codePointEscape (c : Char) : List Char :=
  ['\\', 'u', '\x7b'] ++ Nat.toDigits 16 c.toNat ++ ['\x7d']

/-- The escape of one character inside a diagnostic literal, where `quote`
is the quote character of that literal. -/
def debugEscape (quote : Char) (c : Char) : List Char :=
  if c == quote then ['\\', quote]
  else if c == '\\' then ['\\', '\\']
  else if c == '\n' then ['\\', 'n']
  else if c == '\r' then ['\\', 'r']
  else if c == '\t' then ['\\', 't']
  else if c.toNat == 0 then ['\\', '0']
  else if Unicode.isGraphemeExtend c || !Unicode.isPrintable c then codePointEscape c
  else [c]

/-- A string as a diagnostic literal: `"a\"b"`. -/
def debugQuote (s : String) : String :=
  String.ofList ('"' :: (s.toList.flatMap (debugEscape '"') ++ ['"']))

/-- A character as a diagnostic literal: `'a'`, `'\''`. -/
def debugChar (c : Char) : String :=
  String.ofList ('\'' :: (debugEscape '\'' c ++ ['\'']))

/-- The diagnostic text of a list of texts: each quoted, in brackets. -/
def debugList (items : List String) : String := "[" ++ ", ".intercalate (items.map debugQuote) ++ "]"

end AssetBroker
