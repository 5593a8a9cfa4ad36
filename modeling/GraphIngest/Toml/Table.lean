import GraphIngest.Settings.Value

/-!
# Tables of a TOML document

A table is defined once: by its header, by the keys with points that lead through it, or by being
written in place. Headers may come in any order, so that a table may be implied by a table below it
before it is defined; a table under keys with points takes more such keys but no header. A value,
and so a table or list that is written in place, is closed.
-/

namespace GraphIngest.Toml

/-- How a table came to be. -/
inductive TableKind where
  /-- By a header of its own, or as the document. -/
  | defined
  /-- By a header of a table below it. -/
  | implied
  /-- By keys with points. -/
  | dotted
  deriving DecidableEq, Repr

/-- What stands under a key. -/
inductive Node where
  | value (setting : Setting)
  | table (kind : TableKind) (members : List (String × Node))
  /-- The tables of a list, each with a header. -/
  | tables (items : List (List (String × Node)))
  deriving Inhabited

/-- The members of a table. -/
abbrev Members := List (String × Node)

namespace Members

/-- What stands under a key. -/
def find? (ms : Members) (key : String) : Option Node := (List.find? (·.1 == key) ms).map (·.2)

/-- Replaces what stands under a key, or puts it behind the others. -/
def insert (key : String) (n : Node) : Members → Members
  | [] => [(key, n)]
  | m :: ms => if m.1 = key then (key, n) :: ms else m :: insert key n ms

/-- The kind of the tables that a path makes. -/
def madeKind (byKey : Bool) : TableKind := if byKey then .dotted else .implied

/-- Changes the table at the end of a path, through the last table of each list. A key with points
leads through no table that is defined. -/
def update (byKey : Bool) (change : TableKind → Members → Option Members) :
    List String → TableKind → Members → Option Members
  | [], kind, ms => change kind ms
  | key :: path, _, ms =>
    match find? ms key with
    | none => do
      let made := madeKind byKey
      return insert key (.table made (← update byKey change path made [])) ms
    | some (.value _) => none
    | some (.table kind inner) =>
      if byKey && kind = .defined then none
      else do return insert key (.table kind (← update byKey change path kind inner)) ms
    | some (.tables items) => do
      let last ← items.getLast?
      return insert key (.tables (items.dropLast ++ [← update byKey change path .defined last])) ms

/-- Adds a value under a key that is free. -/
def addValue (key : String) (v : Setting) (ms : Members) : Option Members :=
  match find? ms key with
  | none => some (insert key (.value v) ms)
  | some _ => none

/-- Adds a value under a key with points; only a table of such keys takes it. -/
def assign (path : List String) (v : Setting) (ms : Members) : Option Members := do
  let key ← path.getLast?
  let within := path.dropLast
  update true (fun kind ms =>
    if (kind == .dotted) == within.isEmpty then none else addValue key v ms) within .defined ms

/-- Defines the table of a header. -/
def define (path : List String) (ms : Members) : Option Members := do
  let key ← path.getLast?
  update false (fun _ ms =>
    match find? ms key with
    | none => some (insert key (.table .defined []) ms)
    | some (.table .implied inner) => some (insert key (.table .defined inner) ms)
    | some _ => none) path.dropLast .defined ms

/-- Begins the next table of a list of tables. -/
def append (path : List String) (ms : Members) : Option Members := do
  let key ← path.getLast?
  update false (fun _ ms =>
    match find? ms key with
    | none => some (insert key (.tables [[]]) ms)
    | some (.tables items) => some (insert key (.tables (items ++ [[]])) ms)
    | some _ => none) path.dropLast .defined ms

/-- Adds a value under a key in the table of a header. -/
def assignIn (header path : List String) (v : Setting) (ms : Members) : Option Members :=
  update false (fun _ ms => assign path v ms) header .defined ms

end Members

mutual

/-- The value of a node. -/
def Node.setting : Node → Setting
  | .value v => v
  | .table _ ms => .table (memberSettings ms)
  | .tables items => .list (itemSettings items)

/-- The values of the members of a table. -/
def memberSettings : List (String × Node) → List (String × Setting)
  | [] => []
  | (key, n) :: ms => (key, n.setting) :: memberSettings ms

/-- The values of the tables of a list. -/
def itemSettings : List (List (String × Node)) → List Setting
  | [] => []
  | ms :: items => .table (memberSettings ms) :: itemSettings items

end

end GraphIngest.Toml
