import GraphIngest.Json.Decoder
import GraphIngest.Text.Lines

/-!
# Session identifiers

A universally unique identifier of 128 bits: 32 hexadecimal digits in groups of 8, 4, 4, 4 and 12.
It is printed with hyphens in lower case, and read in any letter case with or without hyphens, in
braces, or behind `urn:uuid:`.
-/

namespace GraphIngest

open Json (Decoder)

/-- The identifier of one refinement, a number below `2 ^ 128`. -/
structure SessionId where
  value : Nat
  deriving DecidableEq, Repr, Inhabited

namespace SessionId

/-- The identifier of random bits; four bits say that it is random, and two that its form is the
usual one. -/
def ofRandomBits (n : Nat) : SessionId :=
  let low := n % 2 ^ 62
  let middle := n / 2 ^ 62 % 2 ^ 12
  let high := n / 2 ^ 74 % 2 ^ 48
  ⟨high * 2 ^ 80 + 4 * 2 ^ 76 + middle * 2 ^ 64 + 2 * 2 ^ 62 + low⟩

/-- The lengths of the groups of digits. -/
def groups : List Nat := [8, 4, 4, 4, 12]

/-- Cuts digits into groups. -/
def cut : List Nat → List Char → List (List Char)
  | [], _ => []
  | n :: ns, cs => cs.take n :: cut ns (cs.drop n)

/-- All 32 digits of an identifier. -/
def digits (id : SessionId) : List Char :=
  let ds := Nat.toDigits 16 id.value
  List.replicate (32 - ds.length) '0' ++ ds

/-- The digits in groups with hyphens between them. -/
def text (id : SessionId) : String := String.ofList (['-'].intercalate (cut groups id.digits))

/-- The number of hexadecimal digits. -/
def number? (cs : List Char) : Option Nat :=
  cs.foldlM (fun n c => (hexValue? c).map (n * 16 + ·)) 0

/-- The identifier of groups that are joined by hyphens. -/
def ofGroups? (cs : List Char) : Option SessionId :=
  let parts := Text.segments '-' cs
  if parts.map List.length = groups then (number? parts.flatten).map (⟨·⟩) else none

/-- What may stand in front of the groups, in any letter case. -/
def namePrefix : List Char := "urn:uuid:".toList

/-- What surrounds the groups: the text within, its offset, and whether it may have no hyphens. -/
def unwrap (cs : List Char) : List Char × Nat × Bool :=
  if cs.head? == some '\x7b' && cs.getLast? == some '\x7d' && 2 ≤ cs.length then
    ((cs.drop 1).dropLast, 1, false)
  else if (cs.take namePrefix.length).map Char.toLower == namePrefix then
    (cs.drop namePrefix.length, namePrefix.length, false)
  else (cs, 0, true)

/-- The first character that is neither a digit nor a hyphen, with its offset. -/
def strayChar? (offset : Nat) : List Char → Option (Char × Nat)
  | [] => none
  | c :: cs =>
    if c = '-' || (hexValue? c).isSome then strayChar? (offset + 1) cs else some (c, offset)

/-- The bytes before the last group of an identifier without anything around it. -/
def lastGroupStart : Nat := 24

/-- The message about the first group of a wrong length. The last group is taken to be all that
stands behind the place where it begins when nothing surrounds the groups, in a text of `size`
bytes. -/
def groupMessage (size : Nat) (parts : List (List Char)) : String :=
  let lengths := parts.dropLast.map List.length ++ [size - lastGroupStart]
  let wrong := (lengths.zip groups).zipIdx.find? fun p => p.1.1 != p.1.2
  match wrong with
  | some ((found, expected), i) =>
    "invalid group length in group " ++ toString i ++ ": expected " ++ toString expected ++
      ", found " ++ toString found
  | none => "failed to parse a UUID"

/-- The most bytes that an identifier may take, with everything around it. -/
def longest : Nat := 45

/-- The message about a length that no identifier has. -/
def lengthMessage (size : Nat) : String := "invalid length: found " ++ toString size

/-- The message about a text that is no identifier. -/
def failure (s : String) : String :=
  let (body, offset, simple) := unwrap s.toList
  let size := s.utf8ByteSize
  if longest < size then lengthMessage size
  else match strayChar? offset body with
    | some (c, i) => "invalid character: found `" ++ String.ofList [c] ++ "` at " ++ toString i
    | none =>
      let parts := Text.segments '-' body
      if parts.length = 1 && simple then lengthMessage size
      else if parts.length ≠ groups.length then
        "invalid group count: expected 5, found " ++ toString parts.length
      else groupMessage size parts

/-- The identifier that a text names, or what is wrong with the text. -/
def ofText (s : String) : Except String SessionId :=
  let cs := s.toList
  let (body, _, simple) := unwrap cs
  let found := if simple && cs.length = 32 then (number? cs).map (⟨·⟩) else ofGroups? body
  match found with
  | some id => .ok id
  | none => .error ("UUID parsing failed: " ++ failure s)

/-- An identifier is written as its text. -/
def toJson (id : SessionId) : Json := .string id.text

/-- Decodes an identifier. -/
def decoder : Decoder SessionId := Decoder.stringWith "a formatted UUID string" ofText

end SessionId

end GraphIngest
