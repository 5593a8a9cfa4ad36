import GraphIngest.Decimal.Literal
import GraphIngest.Decimal.Shortest
import GraphIngest.Text.Lowercase

/-!
# Values of a configuration

Configuration files of several formats and the environment come down to the same kind of value.
Whoever asks for a text, a size or a name takes what was meant: a number is a fine text, and a text
of digits is a fine size. Nothing is taken for a table or a list but a table or a list.
-/

namespace GraphIngest

/-- A value of a configuration. -/
inductive Setting where
  | absent
  | bool (value : Bool)
  | integer (value : Int)
  | float (value : Binary64)
  | infinity (negative : Bool)
  | notANumber
  | text (value : String)
  | list (items : List Setting)
  | table (members : List (String × Setting))
  deriving Repr, Inhabited

namespace Setting

/-- The text of a number without an exponent; a whole number has no point. -/
def floatText (x : Binary64) : String :=
  let (whole, part) := x.shortest.positional
  let body := if part.isEmpty then whole else whole ++ '.' :: part
  String.ofList (if x.negative then '-' :: body else body)

/-- The text that a value is taken for. -/
def text? : Setting → Option String
  | text s => some s
  | bool b => some (if b then "true" else "false")
  | integer i => some (toString i)
  | float x => some (floatText x)
  | infinity negative => some (if negative then "-inf" else "inf")
  | notANumber => some "NaN"
  | absent | list _ | table _ => none

/-- The greatest size. -/
def greatestSize : Nat := 2 ^ 64 - 1

/-- The size that a text is taken for: words of agreement count one and words of refusal zero. -/
def sizeOfText? (s : String) : Option Nat :=
  let word := Text.lowercase s
  if ["true", "on", "yes"].contains word then some 1
  else if ["false", "off", "no"].contains word then some 0
  else nat64? s.toList

/-- The size that a value is taken for; a fraction is rounded, a half going up, and what is out of
range is the nearest size. -/
def size? : Setting → Option Nat
  | integer i => if 0 ≤ i then some i.toNat else none
  | bool b => some b.toNat
  | float x => some (if x.negative then 0 else min x.roundToNat greatestSize)
  | infinity negative => some (if negative then 0 else greatestSize)
  | notANumber => some 0
  | text s => sizeOfText? s
  | absent | list _ | table _ => none

/-- The name that a value is taken for: a text, or the only key of a table. -/
def name? : Setting → Option String
  | text s => some s
  | table [(key, _)] => some key
  | _ => none

/-- The choice that a value names, in any letter case. -/
def choice? {α : Type} (known : List (String × α)) (v : Setting) : Option α := do
  let name ← v.name?
  (known.find? fun k => Text.lowercase k.1 == Text.lowercase name).map (·.2)

/-- The members of a table; the items of a list stand for the leading keys. -/
def members? (keys : List String) : Setting → Option (List (String × Setting))
  | table ms => some ms
  | list items => some (keys.zip items)
  | _ => none

/-- The value under a key. -/
def find? (ms : List (String × Setting)) (key : String) : Option Setting :=
  (ms.find? (·.1 == key)).map (·.2)

/-- The decoded value under a key, or a default where the key is missing. -/
def valueOr? {α : Type} (ms : List (String × Setting)) (key : String)
    (decode : Setting → Option α) (default : α) : Option α :=
  match find? ms key with
  | some v => decode v
  | none => some default

/-- A value that may be absent. -/
def optional? {α : Type} (decode : Setting → Option α) : Setting → Option (Option α)
  | absent => some none
  | v => (decode v).map some

/-- A member of a table with its value replaced, or put behind the others. -/
def insert (ms : List (String × Setting)) (key : String) (v : Setting) :
    List (String × Setting) :=
  match ms with
  | [] => [(key, v)]
  | m :: ms => if m.1 = key then (key, v) :: ms else m :: insert ms key v

/-- A table of members of which the last one of a key counts. -/
def ofMembers (ms : List (String × Setting)) : Setting :=
  table (ms.foldl (fun t m => insert t m.1 m.2) [])

/-- The number of a decimal literal; one that is out of range is infinite. -/
def ofLiteral (d : DecimalLiteral) : Setting :=
  match d.toBinary64? with
  | some x => float x
  | none => infinity d.negative

/-- The number that a text is: a decimal with a sign, an infinity in words, or no number in
words. -/
def ofNumberText? (cs : List Char) : Option Setting :=
  let (negative, body) := match cs with
    | '-' :: r => (true, r)
    | '+' :: r => (false, r)
    | r => (false, r)
  let word := String.ofList (body.map Char.toLower)
  if word = "inf" ∨ word = "infinity" then some (infinity negative)
  else if word = "nan" then some notANumber
  else if body.head? = some '-' then none
  else (DecimalLiteral.ofChars? body).map fun d => ofLiteral { d with negative := negative }

/-- The integer of 64 bits that a text of digits is; a sign may lead. -/
def ofIntegerText? (cs : List Char) : Option Setting := (int64? cs).map integer

end Setting

end GraphIngest
