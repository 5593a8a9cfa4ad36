import GraphIngest.Text.CharRange

/-!
# Blank characters and trimming

Blank characters are those with the Unicode property `White_Space`. Names count as missing when
they consist of blank characters only, and trimming removes blank characters at both ends.
-/

namespace GraphIngest.Text

/-- The code points with the property `White_Space`. -/
def blankRanges : List CharRange :=
  [(0x9, 0xD), (0x20, 0x20), (0x85, 0x85), (0xA0, 0xA0), (0x1680, 0x1680), (0x2000, 0x200A),
   (0x2028, 0x2029), (0x202F, 0x202F), (0x205F, 0x205F), (0x3000, 0x3000)]

/-- A character with the property `White_Space`. -/
def isBlank (c : Char) : Bool := inRanges blankRanges c

/-- Drops the blank characters in front. -/
def trimStart (cs : List Char) : List Char := cs.dropWhile isBlank

/-- Drops the blank characters at the end. -/
def trimEnd (cs : List Char) : List Char := (cs.reverse.dropWhile isBlank).reverse

/-- Drops the blank characters at both ends. -/
def trimChars (cs : List Char) : List Char := trimEnd (trimStart cs)

/-- A text without the blank characters at its ends. -/
def trim (s : String) : String := String.ofList (trimChars s.toList)

/-- A text without any character that is not blank. -/
def isBlankText (s : String) : Bool := s.toList.all isBlank

end GraphIngest.Text
