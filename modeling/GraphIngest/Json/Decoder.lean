import GraphIngest.Json.Reader
import GraphIngest.Json.Printer

/-!
# Decoding JSON into typed values

A decoder walks a tree from left to right and stops at the first fault: a place where the text is
malformed or ends, or a well-formed value of another shape. Values are decoded directly from the
text, where nesting is limited and an array longer than the record it stands for is malformed; or
from a value that was read before, where neither holds (`Origin`).

* `record` reads a structure from an object with known, unknown, repeated and missing fields, or
  from an array of its fields in order;
* `variant` reads one of a list of names;
* `untagged`, `tagged` and `adjacent` read the three forms of a choice between shapes.
-/

namespace GraphIngest.Json

/-- Where a tree comes from: from the text, with the levels of nesting still allowed, or from a
value that was read before. -/
inductive Origin where
  | direct (levels : Nat)
  | buffered
  deriving DecidableEq, Repr

/-- A decoder of one type of values. -/
abbrev Decoder (α : Type) := Origin → Tree → Except Fault α

/-- Arrays and objects nest at most this deep, less one, in a text. -/
def nestingLimit : Nat := 128

/-- Steps into an array or object. -/
def Origin.enter : Origin → Except Fault Origin
  | .direct (levels + 2) => .ok (.direct (levels + 1))
  | .direct _ => .error (.malformed .nestingTooDeep)
  | .buffered => .ok .buffered

/-- A fault about the shape of a value. -/
def mismatch {α : Type} (m : Mismatch) : Except Fault α := .error (.mismatch m)

/-- The fault of a value that is not of the expected type; a malformed value is reported first. -/
def unexpected {α : Type} (expected : String) : Tree → Except Fault α
  | .null => mismatch (.invalidType .null expected)
  | .bool b => mismatch (.invalidType (.bool b) expected)
  | .number n => do mismatch (.invalidType (.number (← n)) expected)
  | .string token => do mismatch (.invalidType (.string (← token.content)) expected)
  | .array _ _ => mismatch (.invalidType .sequence expected)
  | .object _ _ => mismatch (.invalidType .map expected)
  | .cut f _ | .missing f => .error f

/-- The content of an object's key. -/
def keyText : Tree → Except Fault String
  | .string token => token.content
  | _ => .error (.malformed .keyNotString)

/-- Fails with a fault, if there is one. -/
def check (f? : Option Fault) : Except Fault Unit := Tree.failing f?

namespace Decoder

/-! ## Plain values -/

/-- A text. -/
def string : Decoder String
  | _, .string token => token.content
  | _, t => unexpected "a string" t

/-- A truth value. -/
def bool : Decoder Bool
  | _, .bool b => .ok b
  | _, t => unexpected "a boolean" t

/-- A natural number of 64 bits. -/
def size : Decoder Nat
  | _, .number n => do
    match ← n with
    | .integer i =>
      if i < 0 then mismatch (.invalidValue (.number (.integer i)) "usize") else .ok i.toNat
    | .float x => mismatch (.invalidType (.number (.float x)) "usize")
  | _, t => unexpected "usize" t

/-- A floating point number, also when it is written as an integer. -/
def float : Decoder Binary64
  | _, .number n => do
    match ← n with
    | .integer i => .ok (.ofInt i)
    | .float x => .ok x
  | _, t => unexpected "f64" t

/-- Nothing but `null`. -/
def unit : Decoder Unit
  | _, .null => .ok ()
  | .buffered, .object [] .closed => .ok ()
  | _, t => unexpected "unit" t

/-- A value that may be `null`. -/
def option {α : Type} (decode : Decoder α) : Decoder (Option α)
  | _, .null => .ok none
  | o, t => (decode o t).map some

/-- Decodes what follows from a text by a rule that may reject it with a message. -/
def stringWith {α : Type} (expected : String) (rule : String → Except String α) : Decoder α
  | _, .string token => do
    match rule (← token.content) with
    | .ok a => .ok a
    | .error message => mismatch (.rejected message)
  | _, t => unexpected expected t

/-! ## Lists and values of any shape -/

/-- Decodes items one by one, then the end of the array. -/
def items {α : Type} (decode : Tree → Except Fault α) (ending : Ending) :
    List Tree → Except Fault (List α)
  | [] => do check ending.arrayFault?; return []
  | t :: ts => do
    let a ← decode t
    let as ← items decode ending ts
    return a :: as

/-- A list. -/
def list {α : Type} (decode : Decoder α) : Decoder (List α)
  | o, .array ts ending => do
    let o ← o.enter
    items (decode o) ending ts
  | _, t => unexpected "a sequence" t

/-- Decodes the members of an object one by one, then its end. -/
def members {α : Type} (decode : Tree → Except Fault α) (ending : Ending) :
    List (Tree × Tree) → Except Fault (List (String × α))
  | [] => do check ending.objectFault?; return []
  | (k, t) :: ms => do
    let key ← keyText k
    let a ← decode t
    let rest ← members decode ending ms
    return (key, a) :: rest

/-- The members of an object in their order, repeated keys included. -/
def map {α : Type} (expected : String) (decode : Decoder α) : Decoder (List (String × α))
  | o, .object ms ending => do
    let o ← o.enter
    members (decode o) ending ms
  | _, t => unexpected expected t

mutual

/-- A value of any shape. -/
def value : Tree → Origin → Except Fault Json
  | .null, _ => .ok .null
  | .bool b, _ => .ok (.bool b)
  | .number n, _ => n.map .number
  | .string token, _ => token.content.map .string
  | .array ts ending, o => do
    let js ← valueItems ts (← o.enter)
    check ending.arrayFault?
    return .array js
  | .object ms ending, o => do
    let js ← valueMembers ms (← o.enter)
    check ending.objectFault?
    return .object js
  | .cut f _, _ | .missing f, _ => .error f

/-- The items of an array of any shape. -/
def valueItems : List Tree → Origin → Except Fault (List Json)
  | [], _ => .ok []
  | t :: ts, o => do
    let j ← value t o
    let js ← valueItems ts o
    return j :: js

/-- The members of an object of any shape. -/
def valueMembers : List (Tree × Tree) → Origin → Except Fault (List (String × Json))
  | [], _ => .ok []
  | (k, t) :: ms, o => do
    let key ← keyText k
    let j ← value t o
    let js ← valueMembers ms o
    return (key, j) :: js

end

/-- A value of any shape. -/
def any : Decoder Json := fun o t => value t o

/-! ## Records -/

/-- When a field may be left out. -/
inductive Presence where
  /-- Never. -/
  | required
  /-- In an object, not in an array of fields. -/
  | optionalByName
  /-- Always; the record starts with a default for it. -/
  | optional
  deriving DecidableEq, Repr

/-- A field of a record `ρ`: its key, when it may be left out, and how it is stored. -/
structure Field (ρ : Type) where
  key : String
  presence : Presence
  store : Origin → Tree → ρ → Except Fault ρ

/-- A field that is decoded and put into the record. -/
def Field.of {ρ α : Type} (key : String) (presence : Presence) (decode : Decoder α)
    (put : α → ρ → ρ) : Field ρ :=
  ⟨key, presence, fun o t r => do let a ← decode o t; return put a r⟩

/-- Stores the members of an object; `seen` are the keys of known fields met so far. -/
def recordMembers {ρ : Type} (fields : List (Field ρ)) (o : Origin) (ending : Ending) :
    List (Tree × Tree) → List String → ρ → Except Fault (ρ × List String)
  | [], seen, r => do check ending.objectFault?; return (r, seen)
  | (k, t) :: ms, seen, r => do
    let key ← keyText k
    match fields.find? (·.key == key) with
    | some f =>
      if seen.contains key then mismatch (.duplicateField key)
      else
        let r ← f.store o t r
        recordMembers fields o ending ms (key :: seen) r
    | none =>
      t.skip
      recordMembers fields o ending ms seen r

/-- The first field that may not be left out of an object and was not seen. -/
def missingField? {ρ : Type} (fields : List (Field ρ)) (seen : List String) : Option String :=
  (fields.find? fun f => f.presence == .required && !seen.contains f.key).map (·.key)

/-- A count of elements in the words of a message. -/
def elements (n : Nat) : String := toString n ++ (if n = 1 then " element" else " elements")

/-- Stores the items of an array in the order of the fields; returns the items left. -/
def recordItems {ρ : Type} (expected : String) (total : Nat) (o : Origin) (ending : Ending) :
    List (Field ρ) → Nat → List Tree → ρ → Except Fault (ρ × List Tree)
  | [], _, ts, r => .ok (r, ts)
  | f :: fs, i, [], r => do
    check ending.arrayFault?
    if f.presence == .optional then recordItems expected total o ending fs (i + 1) [] r
    else mismatch (.invalidLength i (expected ++ " with " ++ elements total))
  | f :: fs, i, t :: ts, r => do
    let r ← f.store o t r
    recordItems expected total o ending fs (i + 1) ts r

/-- The end of an array after the items that its reader asked for. -/
def closeItems (o : Origin) (asked : Nat) (left : List Tree) (ending : Ending) :
    Except Fault Unit :=
  match o, left with
  | _, [] => check ending.afterLastItem?
  | .direct _, _ :: _ => .error (.malformed .trailingCharacters)
  | .buffered, left =>
    mismatch (.invalidLength (asked + left.length) (elements asked ++ " in sequence"))

/-- A record that messages call `expected`; `initial` holds the defaults of the fields that may be
left out. -/
def recordBody {ρ : Type} (expected : String) (initial : ρ) (fields : List (Field ρ)) :
    Decoder ρ
  | o, .object ms ending => do
    let o ← o.enter
    let (r, seen) ← recordMembers fields o ending ms [] initial
    match missingField? fields seen with
    | some key => mismatch (.missingField key)
    | none => return r
  | o, .array ts ending => do
    let o ← o.enter
    let (r, left) ← recordItems expected fields.length o ending fields 0 ts initial
    closeItems o fields.length left ending
    return r
  | _, t => unexpected expected t

/-- A record of its own. -/
def record {ρ : Type} (name : String) (initial : ρ) (fields : List (Field ρ)) : Decoder ρ :=
  recordBody ("struct " ++ name) initial fields

/-- The record of one shape of a choice. -/
def variantRecord {ρ : Type} (choice name : String) (initial : ρ) (fields : List (Field ρ)) :
    Decoder ρ :=
  recordBody ("struct variant " ++ choice ++ "::" ++ name) initial fields

/-! ## Choices -/

/-- The value that belongs to a name. -/
def lookupVariant {α : Type} (known : List (String × α)) (name : String) : Except Fault α :=
  match known.find? (·.1 == name) with
  | some (_, a) => .ok a
  | none => mismatch (.unknownVariant name (known.map (·.1)))

/-- One of a list of names, as the tag of a choice. -/
def tag {α : Type} (known : List (String × α)) : Decoder α
  | _, .string token => do lookupVariant known (← token.content)
  | _, t => unexpected "variant identifier" t

/-- One of a list of names, alone or as the only key of an object with the value `null`. -/
def variant {α : Type} (known : List (String × α)) : Decoder α
  | o, .string token => tag known o (.string token)
  | .direct levels, .object ((k, t) :: ms) ending => do
    let o ← Origin.enter (.direct levels)
    let a ← lookupVariant known (← keyText k)
    unit o t
    match ms, ending with
    | [], .closed => return a
    | [], .ended => .error (.ended .object)
    | _, _ => .error (.malformed .expectedValue)
  | .direct levels, .object [] ending => do
    let _ ← Origin.enter (.direct levels)
    match ending with
    | .ended => .error (.ended .value)
    | _ => .error (.malformed .expectedValue)
  | .direct _, .missing f => .error f
  | .direct _, _ => .error (.malformed .expectedValue)
  | .buffered, .object [(k, t)] _ => do
    let a ← tag known .buffered k
    unit .buffered t
    return a
  | .buffered, .object _ _ => mismatch (.invalidValue .map "map with a single key")
  | .buffered, t => unexpected "string or map" t

/-- The first of several shapes that fits a value, which is read as a whole before. -/
def untagged {α : Type} (name : String) (shapes : List (Decoder α)) : Decoder α := fun o t => do
  let j ← any o t
  let fits? := shapes.findSome? fun decode => (decode .buffered (toTree j)).toOption
  match fits? with
  | some a => return a
  | none => mismatch (.noVariant name)

/-- Reads the tag of an object and buffers its other members. -/
def tagMembers {α : Type} (key : String) (known : List (String × α)) (o : Origin)
    (ending : Ending) : List (Tree × Tree) → Option α → List (String × Json) →
    Except Fault (Option α × List (String × Json))
  | [], found, others => do check ending.objectFault?; return (found, others.reverse)
  | (k, t) :: ms, found, others => do
    let name ← keyText k
    if name = key then
      match found with
      | some _ => mismatch (.duplicateField key)
      | none =>
        let a ← tag known o t
        tagMembers key known o ending ms (some a) others
    else
      let j ← any o t
      tagMembers key known o ending ms found ((name, j) :: others)

/-- A choice whose name stands under a key among the fields of the chosen shape. -/
def tagged {α : Type} (name key : String) (known : List (String × Decoder α)) : Decoder α
  | o, .object ms ending => do
    let o ← o.enter
    match ← tagMembers key known o ending ms none [] with
    | (none, _) => mismatch (.missingField key)
    | (some decode, others) => decode .buffered (toTree (.object others))
  | o, .array [] ending => do
    let _ ← o.enter
    check ending.arrayFault?
    mismatch (.missingField key)
  | o, .array (t :: ts) ending => do
    let o ← o.enter
    let decode ← tag known o t
    let js ← items (any o) ending ts
    decode .buffered (toTree (.array js))
  | o, t => do
    let _ ← any o t
    unexpected ("internally tagged enum " ++ name) t

/-- Passes over unknown members up to the tag or the content; returns which of the two it is. -/
def nextRelevant (tagKey contentKey : String) (ending : Ending) :
    List (Tree × Tree) → Except Fault (Option (Bool × Tree) × List (Tree × Tree))
  | [] => do check ending.objectFault?; return (none, [])
  | (k, t) :: ms => do
    let name ← keyText k
    if name = tagKey then return (some (true, t), ms)
    else if name = contentKey then return (some (false, t), ms)
    else
      t.skip
      nextRelevant tagKey contentKey ending ms

/-- A choice whose name and content stand under two keys, in either order, or in an array of two,
where the name is a plain text. -/
def adjacent {α : Type} (name tagKey contentKey : String) (known : List (String × Decoder α)) :
    Decoder α
  | o, .object ms ending => do
    let o ← o.enter
    let next := nextRelevant tagKey contentKey ending
    let finish (a : α) (ms : List (Tree × Tree)) : Except Fault α := do
      match ← next ms with
      | (none, _) => return a
      | (some (true, _), _) => mismatch (.duplicateField tagKey)
      | (some (false, _), _) => mismatch (.duplicateField contentKey)
    match ← next ms with
    | (none, _) => mismatch (.missingField tagKey)
    | (some (true, t), ms) =>
      let decode ← variant known o t
      match ← next ms with
      | (none, _) => mismatch (.missingField contentKey)
      | (some (true, _), _) => mismatch (.duplicateField tagKey)
      | (some (false, c), ms) => finish (← decode o c) ms
    | (some (false, c), ms) =>
      let j ← any o c
      match ← next ms with
      | (none, _) => mismatch (.missingField tagKey)
      | (some (false, _), _) => mismatch (.duplicateField contentKey)
      | (some (true, t), ms) =>
        let decode ← variant known o t
        finish (← decode .buffered (toTree j)) ms
  | o, .array ts ending => do
    let o ← o.enter
    let expected := "adjacently tagged enum " ++ name
    match ts with
    | [] => do check ending.arrayFault?; mismatch (.invalidLength 0 expected)
    | [t] => do
      let _ ← tag known o t
      check ending.arrayFault?
      mismatch (.invalidLength 1 expected)
    | t :: c :: left => do
      let decode ← tag known o t
      let a ← decode o c
      closeItems o 2 left ending
      return a
  | _, t => unexpected ("adjacently tagged enum " ++ name) t

end Decoder

/-- Decodes a text: one value, and only white space behind it. -/
def decodeText {α : Type} (decode : Decoder α) (s : String) : Except Fault α := do
  let (t, trailing?) := Tree.ofText s
  let a ← decode (.direct nestingLimit) t
  check trailing?
  return a

end GraphIngest.Json
