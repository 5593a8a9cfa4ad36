import GraphIngest.Text.CaseTable

/-!
# Lower case of a text

The full lower case mapping: one code point for one code point by `lowerRuns`, with two exceptions.
A capital I with a dot above becomes two code points, and a capital sigma depends on its place: it
takes its final form after a cased character and before none, where case-ignorable characters
between them do not count.
-/

namespace GraphIngest.Text

/-- The lower case form of a character whose form is one code point. -/
def lowerChar (c : Char) : Char :=
  match lowerRuns.find? fun r =>
      r.first ≤ c.toNat && c.toNat ≤ r.last && (c.toNat - r.first) % r.stride == 0 with
  | some r => Char.ofNat (c.toNat + r.shift).toNat
  | none => c

/-- The first character that is not case-ignorable exists and is cased. -/
def casedAhead (cs : List Char) : Bool :=
  match cs.dropWhile (inRanges caseIgnorableRanges) with
  | c :: _ => inRanges casedRanges c
  | [] => false

/-- The form of a capital sigma, given the characters before it, nearest first, and after it. -/
def lowerSigma (before after : List Char) : Char :=
  if casedAhead before && !casedAhead after then 'ς' else 'σ'

/-- The lower case form of the characters `cs` that follow `before`, nearest first. -/
def lowerAfter (before : List Char) : List Char → List Char
  | [] => []
  | c :: cs =>
    if c.toNat = 0x3A3 then lowerSigma before cs :: lowerAfter (c :: before) cs
    else if c.toNat = 0x130 then 'i' :: '\u0307' :: lowerAfter (c :: before) cs
    else lowerChar c :: lowerAfter (c :: before) cs

/-- The lower case form of a list of characters. -/
def lowerChars (cs : List Char) : List Char := lowerAfter [] cs

/-- The lower case form of a text. -/
def lowercase (s : String) : String := String.ofList (lowerChars s.toList)

end GraphIngest.Text
