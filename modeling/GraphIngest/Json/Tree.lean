import GraphIngest.Json.Fault

/-!
# What a JSON text holds, up to its first fault

A `Tree` is the shape of a text together with the place where reading it stops, so that a decoder
that walks the tree from left to right meets every fault at the place where the text has it. Faults
that only matter to a reader of the value are kept lazily: the content of a string, which may hold
a lone surrogate, and the value of a number, which may be out of range.
-/

namespace GraphIngest.Json

/-- A string literal: its content or what is wrong with it, and the fault that leaves it open. -/
structure StringToken where
  content : Except Fault String
  open? : Option Fault

/-- How a list of items or members ends. -/
inductive Ending where
  | closed
  | ended
  | endedAfterComma
  | trailingComma
  | noSeparator
  deriving DecidableEq, Repr

/-- The shape of a text up to the first fault. -/
inductive Tree where
  | null
  | bool (value : Bool)
  | number (value : Except Fault JsonNumber)
  | string (token : StringToken)
  | array (items : List Tree) (ending : Ending)
  | object (members : List (Tree × Tree)) (ending : Ending)
  /-- A literal that begins like a value and breaks off: the fault for who reads the value, and the
  fault for who passes over it. -/
  | cut (fault passing : Fault)
  /-- No value begins here. -/
  | missing (fault : Fault)

instance : Inhabited Tree := ⟨.null⟩

namespace Ending

/-- The fault of an array that does not close, for a reader of its items. -/
def arrayFault? : Ending → Option Fault
  | closed => none
  | ended => some (.ended .list)
  | endedAfterComma => some (.ended .value)
  | trailingComma => some (.malformed .trailingComma)
  | noSeparator => some (.malformed .expectedListEnd)

/-- The fault of an object that does not close, for a reader of its members. -/
def objectFault? : Ending → Option Fault
  | closed => none
  | ended => some (.ended .object)
  | endedAfterComma => some (.ended .value)
  | trailingComma => some (.malformed .trailingComma)
  | noSeparator => some (.malformed .expectedObjectEnd)

/-- The fault of an array after the last item that its reader asks for. -/
def afterLastItem? : Ending → Option Fault
  | closed => none
  | ended => some (.ended .list)
  | trailingComma => some (.malformed .trailingComma)
  | endedAfterComma | noSeparator => some (.malformed .trailingCharacters)

/-- The fault of an array that is passed over. -/
def skippedArrayFault? : Ending → Option Fault
  | trailingComma => some (.malformed .expectedValue)
  | e => e.arrayFault?

/-- The fault of an object that is passed over. -/
def skippedObjectFault? : Ending → Option Fault
  | trailingComma => some (.malformed .keyNotString)
  | endedAfterComma => some (.ended .object)
  | e => e.objectFault?

end Ending

namespace Tree

/-- The result of a check that finds at most one fault. -/
def failing : Option Fault → Except Fault Unit
  | none => .ok ()
  | some f => .error f

mutual

/-- Passes over a value that nobody asks for: only faults of its form count, so a number may be out
of range, a surrogate may stand alone, and the nesting may be of any depth. -/
def skip : Tree → Except Fault Unit
  | null | bool _ | number _ => .ok ()
  | string token => failing token.open?
  | array items ending => do skipItems items; failing ending.skippedArrayFault?
  | object members ending => do skipMembers members; failing ending.skippedObjectFault?
  | cut _ fault | missing fault => .error fault

/-- Passes over the items of an array. -/
def skipItems : List Tree → Except Fault Unit
  | [] => .ok ()
  | t :: ts => do skip t; skipItems ts

/-- Passes over the members of an object. -/
def skipMembers : List (Tree × Tree) → Except Fault Unit
  | [] => .ok ()
  | (key, t) :: ms => do
    match key with
    | string token => failing token.open?
    | _ => .error (.malformed .keyNotString)
    skip t
    skipMembers ms

end

end Tree

mutual

/-- The tree of a value: it has no fault. -/
def toTree : Json → Tree
  | .null => .null
  | .bool b => .bool b
  | .number n => .number (.ok n)
  | .string s => .string ⟨.ok s, none⟩
  | .array items => .array (toTreeItems items) .closed
  | .object members => .object (toTreeMembers members) .closed

/-- The trees of the items of an array. -/
def toTreeItems : List Json → List Tree
  | [] => []
  | j :: js => toTree j :: toTreeItems js

/-- The trees of the members of an object. -/
def toTreeMembers : List (String × Json) → List (Tree × Tree)
  | [] => []
  | (k, j) :: ms => (.string ⟨.ok k, none⟩, toTree j) :: toTreeMembers ms

end

end GraphIngest.Json
