import GraphIngest.Settings.Value
import GraphIngest.Yaml.Node

/-!
# Settings in YAML

A scalar in quotes is a text, and a plain one is what it looks like, unless its tag tells the type.
A tag that its scalar does not fit makes it an invalid node, which stands for nothing, and is passed
over where a key is wanted. No key may stand in a mapping twice.
-/

namespace GraphIngest

open Yaml (ScalarStyle Tag)

/-- What a scalar stands for; a number with a point keeps its text. -/
inductive YamlAtom where
  | text (value : String)
  | integer (value : Int)
  | real (digits : String)
  | bool (value : Bool)
  | null
  | invalid
  deriving DecidableEq, Repr

namespace YamlAtom

/-- The integer of 64 bits of digits to a base; a sign may lead. -/
def basedInteger? (base : Nat) (cs : List Char) : Option Int := do
  let (sign, ds) : Int × List Char := match cs with
    | '-' :: ds => (-1, ds)
    | '+' :: ds => (1, ds)
    | ds => (1, ds)
  let i := sign * (← digitsValue? base ds)
  if -2 ^ 63 ≤ i && i < 2 ^ 63 then some i else none

/-- The integer that a plain scalar is. A plus sign may stand before another sign. -/
def integer? (s : String) : Option Int :=
  let marked? := match s.toList with
    | '0' :: 'x' :: ds => basedInteger? 16 ds
    | '0' :: 'o' :: ds => basedInteger? 8 ds
    | '+' :: ds => int64? ds
    | _ => none
  marked?.or (int64? s.toList)

/-- The words for infinity and for no number. -/
def realWords : List String :=
  [".inf", ".Inf", ".INF", "+.inf", "+.Inf", "+.INF", "-.inf", "-.Inf", "-.INF",
   ".nan", "NaN", ".NAN"]

/-- The scalar is a number: one of the words, or a decimal with a digit. -/
def isReal (s : String) : Bool :=
  realWords.contains s || (s.toList.any Char.isDigit && (Setting.ofNumberText? s.toList).isSome)

/-- What a plain scalar without a tag stands for. -/
def ofPlain (s : String) : YamlAtom :=
  if s = "~" ∨ s = "null" then null
  else if s = "true" then bool true
  else if s = "false" then bool false
  else match integer? s with
    | some i => integer i
    | none => if isReal s then real s else text s

/-- What a plain scalar stands for whose tag is a core one of a name. -/
def ofCoreTag (name s : String) : YamlAtom :=
  if name = "bool" then
    if s = "true" then bool true else if s = "false" then bool false else invalid
  else if name = "int" then (int64? s.toList).elim invalid integer
  else if name = "float" then if isReal s then real s else invalid
  else if name = "null" then if s = "~" ∨ s = "null" then null else invalid
  else text s

/-- What a scalar stands for. -/
def ofScalar (s : String) (style : ScalarStyle) (tag? : Option Tag) : YamlAtom :=
  match style, tag? with
  | .plain, none => ofPlain s
  | .plain, some tag => if tag.stem = Tag.coreStem then ofCoreTag tag.suffix s else text s
  | _, _ => text s

/-- The setting that an atom is. Infinity and no number are not among the settings by their words
with a point. -/
def setting? : YamlAtom → Option Setting
  | text s => some (.text s)
  | integer i => some (.integer i)
  | real s => Setting.ofNumberText? s.toList
  | bool b => some (.bool b)
  | null | invalid => some .absent

/-- The key that an atom is. -/
def key? : YamlAtom → Option String
  | text s | real s => some s
  | integer i => some (toString i)
  | bool b => some (if b then "true" else "false")
  | null | invalid => none

end YamlAtom

namespace Setting

/-- A node in a mapping, before it is known whether it is a key: what it stands for as a scalar, and
the setting that it is. -/
structure YamlEntry where
  atom? : Option YamlAtom
  setting? : Option Setting

/-- The members of a mapping from its keys and values in turn. Where a key is invalid, the value
behind it is taken for a key, and a key at the end that has no value does not count. -/
def pairEntries : Option YamlEntry → List YamlEntry → List (YamlEntry × YamlEntry)
  | _, [] => []
  | none, e :: es => pairEntries (if e.atom? = some .invalid then none else some e) es
  | some key, e :: es => (key, e) :: pairEntries none es

/-- The table of keys with their values. -/
def ofEntries? (es : List YamlEntry) : Option Setting := do
  let pairs := pairEntries none es
  let atoms ← pairs.mapM fun p => p.1.atom?
  if !decide atoms.Nodup then none
  let ms ← pairs.mapM fun p => do return (← (← p.1.atom?).key?, ← p.2.setting?)
  return ofMembers ms

/-- What a node stands for as a scalar. -/
def atomOfYaml? : YamlNode → Option YamlAtom
  | .scalar s style tag? => some (.ofScalar s style tag?)
  | .reference _ | .unfinished => some .invalid
  | .list _ | .mapping _ => none

mutual

/-- The setting that a node is. -/
def ofYaml? : YamlNode → Option Setting
  | .scalar s style tag? => (YamlAtom.ofScalar s style tag?).setting?
  | .list items => (ofYamlItems? items).map list
  | .mapping ms => ofEntries? (ofYamlMembers ms)
  | .reference _ | .unfinished => some absent

/-- The settings that the items of a list are. -/
def ofYamlItems? : List YamlNode → Option (List Setting)
  | [] => some []
  | n :: ns => do
    let v ← ofYaml? n
    return v :: (← ofYamlItems? ns)

/-- The keys and values of a mapping in turn. -/
def ofYamlMembers : List (YamlNode × YamlNode) → List YamlEntry
  | [] => []
  | (k, n) :: ms =>
    ⟨atomOfYaml? k, ofYaml? k⟩ :: ⟨atomOfYaml? n, ofYaml? n⟩ :: ofYamlMembers ms

end

/-- The settings that a text of YAML holds; a text without a document holds none. -/
def ofYamlText? (s : String) : Option Setting := do
  match ← YamlDocument.ofText .late s with
  | some d => ofYaml? d.root
  | none => some (table [])

end Setting

end GraphIngest
