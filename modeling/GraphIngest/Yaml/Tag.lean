import GraphIngest.Decimal.Literal
import GraphIngest.Yaml.Cursor
import GraphIngest.Yaml.Token

/-!
# Names, tags and directives

A node may have a name, by which other places refer to it, and a tag, which tells its type. A tag is
short for a longer one by its handle, or stands between angle brackets in full. Directives before a
document tell the version of the language and declare handles.
-/

namespace GraphIngest.Yaml

/-- A character of a word: of a handle, of the name of a directive, and of the name of a node in the
early edition. -/
def isWordChar (c : Char) : Bool := c.isAlphanum || c = '_' || c = '-'

/-- The character is one of a text. -/
def isOneOf (marks : String) (c : Char) : Bool := marks.toList.contains c

/-- A character of a tag in full, of which a percent sign begins an escape. -/
def isAddressChar (e : Edition) (c : Char) : Bool :=
  isWordChar c || isOneOf ";/?:@&=+$,.!~*'()[]%" c || (e = .late && c = '#')

/-- A character of a tag behind its handle. -/
def isSuffixChar (e : Edition) (c : Char) : Bool :=
  isAddressChar e c && !flowMarks.contains c && !(e = .late && c = '!')

/-! ## Escapes -/

/-- Reads a byte behind a percent sign. -/
def readByte (k : Cursor) : Option (Nat × Cursor) :=
  match k.rest with
  | '%' :: a :: b :: _ => do
    let n ← digitsValue? 16 [a, b]
    some (n, k.drop 3)
  | _ => none

/-- The number of bytes of a character, by its first one. -/
def byteCount? (n : Nat) : Option Nat :=
  if n < 0x80 then some 1
  else if 0xC0 ≤ n && n < 0xE0 then some 2
  else if 0xE0 ≤ n && n < 0xF0 then some 3
  else if 0xF0 ≤ n && n < 0xF8 then some 4
  else none

/-- Reads the further bytes of a character onto the bits of those before; the late edition takes
each byte as a whole. -/
def readMoreBytes (bits : Nat) : Nat → Cursor → Option (Nat × Cursor)
  | 0, k => some (bits, k)
  | count + 1, k => do
    let (n, next) ← readByte k
    if n < 0x80 || 0xC0 ≤ n then none
    let bits := match k.edition with
      | .early => bits * 0x40 + n % 0x40
      | .late => bits * 0x100 + n
    readMoreBytes bits count next

/-- Reads a character that is written by its bytes. The late edition takes the bytes for a code
point, which has to be one. -/
def readByteChar (k : Cursor) : Option (Char × Cursor) := do
  let (n, next) ← readByte k
  let count ← byteCount? n
  let lead := match k.edition with
    | .early => if count = 1 then n else n % 2 ^ (7 - count)
    | .late => n
  let (code, next) ← readMoreBytes lead (count - 1) next
  if k.edition = .late && !code.isValidChar then none else some (Char.ofNat code, next)

/-- Reads the characters of a class, where escapes are resolved. -/
def readAddress (p : Char → Bool) : Nat → List Char → Cursor → Option (List Char × Cursor)
  | 0, acc, k => some (acc.reverse, k)
  | fuel + 1, acc, k =>
    match k.rest with
    | [] => some (acc.reverse, k)
    | c :: _ =>
      if !p c then some (acc.reverse, k)
      else if c = '%' then do
        let (v, k) ← readByteChar k
        readAddress p fuel (v :: acc) k
      else readAddress p fuel (c :: acc) k.next

/-! ## Names and tags -/

/-- Reads the name of a node behind its mark. -/
def readName (k : Cursor) : Option (String × Cursor) :=
  let p : Char → Bool := match k.edition with
    | .early => isWordChar
    | .late => fun c =>
      !(isBlankChar c || c = '\n' || flowMarks.contains c || c.toNat = 0xFEFF)
  let name := k.rest.takeWhile p
  let behind := k.drop name.length
  let closed := k.edition = .late || behind.atWordEnd || behind.test (isOneOf "?:,]\x7d%@\x60")
  if name.isEmpty || !closed then none else some (String.ofList name, behind)

/-- Reads a handle: a word between exclamation marks, one of them alone, or one with a word behind
it. -/
def readHandle (k : Cursor) : Option (List Char × Cursor) :=
  if !k.isAt '!' then none
  else
    let word := k.next.rest.takeWhile isWordChar
    let behind := k.next.drop word.length
    if behind.isAt '!' then some ('!' :: word ++ ['!'], behind.next) else some ('!' :: word, behind)

/-- The handle is closed by a second exclamation mark. -/
def isClosedHandle (handle : List Char) : Bool := 2 ≤ handle.length && handle.getLast? == some '!'

/-- Reads a tag in full behind its angle bracket. -/
def readFullTag (k : Cursor) : Option (Token × Cursor) := do
  let (name, k) ← readAddress (isAddressChar k.edition) (k.rest.length + 1) [] k
  if !k.isAt '>' || (name.isEmpty && k.edition = .early) then none
  else some (.tag "" (String.ofList name), k.next)

/-- Reads a tag with a handle. An exclamation mark alone is a tag without one. -/
def readShortTag (k : Cursor) : Option (Token × Cursor) := do
  let (handle, k) ← readHandle k
  let (suffix, k) ← readAddress (isSuffixChar k.edition) (k.rest.length + 1) [] k
  if isClosedHandle handle then
    if suffix.isEmpty then none
    else some (.tag (String.ofList handle) (String.ofList suffix), k)
  else
    let suffix := handle.drop 1 ++ suffix
    if suffix.isEmpty then some (.tag "" "!", k) else some (.tag "!" (String.ofList suffix), k)

/-- Reads a tag. -/
def readTag (flow : Bool) (k : Cursor) : Option (Token × Cursor) := do
  let (tag, k) ← if k.testNext (· = '<') then readFullTag (k.drop 2) else readShortTag k
  let closed := k.atWordEnd || (flow && k.test fun c =>
    c = ',' || (k.edition = .late && flowMarks.contains c))
  if closed then some (tag, k) else none

/-! ## Directives -/

/-- Reads a number of a version, of nine digits at most. -/
def readVersionNumber (k : Cursor) : Option (Nat × Cursor) := do
  let ds := k.rest.takeWhile Char.isDigit
  let n ← digitsValue? 10 ds
  if 9 < ds.length then none else some (n, k.drop ds.length)

/-- Reads what the version directive says. -/
def readVersion (k : Cursor) : Option (Token × Cursor) := do
  let (major, k) ← readVersionNumber k
  if !k.isAt '.' then none
  let (minor, k) ← readVersionNumber k.next
  some (.version major minor, k)

/-- Reads what the directive that declares a handle says. -/
def readDeclaration (k : Cursor) : Option (Token × Cursor) := do
  let (handle, k) ← readHandle k
  if !isClosedHandle handle && handle != ['!'] then none
  if k.edition = .early && !k.atBlank then none
  let k := k.skipBlanks
  if k.edition = .late && k.test flowMarks.contains then none
  let (stem, k) ← readAddress (isAddressChar k.edition) (k.rest.length + 1) [] k
  if stem.isEmpty || !k.atWordEnd then none
  else some (.handle (String.ofList handle) (String.ofList stem), k)

/-- Reads a directive and the end of its line. The early edition knows all directives; the late one
passes over those that it does not know, as if they declared nothing. -/
def readDirective (k : Cursor) : Option (Token × Cursor) := do
  let k := k.next
  let name := String.ofList (k.rest.takeWhile isWordChar)
  let k := k.dropWhile isWordChar
  if name.isEmpty || !k.atWordEnd then none
  let (token, k) ← (if name = "YAML" then readVersion k.skipBlanks
    else if name = "TAG" then readDeclaration k.skipBlanks
    else match k.edition with
      | .early => none
      | .late => some (.handle "" "", k.dropWhile (!k.edition.isBreak ·)))
  let k ← (match k.edition with
    | .early => some k.skipBlanks.skipComment
    | .late => k.skipBehind.map (·.2))
  if k.atLineEnd then some (token, k.next) else none

end GraphIngest.Yaml
