import GraphIngest.Text.PrintTable

/-!
# Texts quoted inside messages

A message shows a text between double quotes. Quotes, backslashes and line control characters are
escaped by a backslash; a character that has no visible form of its own, or that would join the
character before it, is written by its code point. The halfwidth sound marks extend the character
before them, but have a width of their own, and stand as they are.
-/

namespace GraphIngest.Text

/-- The lower case hexadecimal digits of a number. -/
def hexDigits (n : Nat) : List Char := Nat.toDigits 16 n

/-- The halfwidth sound marks. -/
def soundMarkRanges : List CharRange := [(0xFF9E, 0xFF9F)]

/-- The letters that fill the place of a letter and show nothing. -/
def fillerRanges : List CharRange := [(0x115F, 0x1160), (0x3164, 0x3164), (0xFFA0, 0xFFA0)]

/-- The character would join the one before it. -/
def joinsBefore (c : Char) : Bool :=
  inRanges graphemeExtendRanges c && !inRanges soundMarkRanges c

/-- The character has no visible form of its own. -/
def isInvisible (c : Char) : Bool := inRanges unprintableRanges c || inRanges fillerRanges c

/-- One character as it stands in a quoted text. -/
def quotedChar (c : Char) : List Char :=
  if c = '\x00' then ['\\', '0']
  else if c = '\t' then ['\\', 't']
  else if c = '\r' then ['\\', 'r']
  else if c = '\n' then ['\\', 'n']
  else if c = '\\' || c = '"' then ['\\', c]
  else if joinsBefore c || isInvisible c then
    ['\\', 'u', '\x7b'] ++ hexDigits c.toNat ++ ['\x7d']
  else [c]

/-- A text between double quotes, with everything escaped that would not show as itself. -/
def quoted (s : String) : String :=
  String.ofList ('"' :: s.toList.flatMap quotedChar ++ ['"'])

end GraphIngest.Text
