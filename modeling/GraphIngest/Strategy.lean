import GraphIngest.Json.Decoder
import GraphIngest.Text.Blank
import GraphIngest.Text.Lowercase

/-!
# Ingestion strategies and batch sizes

Rows either arrive in batches as a parameter of the statement, or the server reads them from a
staged file in transactions of a given number of rows.
-/

namespace GraphIngest

open Json (Decoder)

/-- How rows reach the database. -/
inductive Strategy where
  /-- Batches of rows are a parameter of the statement. -/
  | standard
  /-- The server reads the rows from a staged file. -/
  | loadCsv
  deriving DecidableEq, Repr, Inhabited

namespace Strategy

/-- The name of a strategy. -/
def name : Strategy → String
  | standard => "standard"
  | loadCsv => "load_csv"

/-- The strategy with a name, in any letter case and with blanks around it. -/
def ofName? (s : String) : Option Strategy :=
  let key := Text.lowercase (Text.trim s)
  if key = "standard" then some standard
  else if key = "load_csv" then some loadCsv
  else none

/-- The message about a name that is no strategy. -/
def unsupportedMessage (s : String) : String :=
  "Unsupported ingestion strategy: " ++ s ++ " (expected standard or load_csv)"

/-- The names with their strategies. -/
def known : List (String × Strategy) := [("standard", standard), ("load_csv", loadCsv)]

/-- A strategy is written as its name. -/
def toJson (s : Strategy) : Json := .string s.name

/-- Decodes the exact name of a strategy. -/
def decoder : Decoder Strategy := Decoder.variant known

end Strategy

/-- Rows in a batch or transaction. -/
structure BatchSizes where
  nodes : Nat
  relationships : Nat
  deriving DecidableEq, Repr

namespace BatchSizes

/-- A relationship locks both of its ends, so its batches are smaller. -/
def default : BatchSizes := ⟨1000, 500⟩

instance : Inhabited BatchSizes := ⟨default⟩

/-- The JSON form of batch sizes. -/
def toJson (b : BatchSizes) : Json :=
  .object [("nodes", .nat b.nodes), ("relationships", .nat b.relationships)]

/-- Decodes batch sizes. -/
def decoder : Decoder BatchSizes :=
  Decoder.record "BatchSizes" default
    [.of "nodes" .optional .size fun v b => { b with nodes := v },
     .of "relationships" .optional .size fun v b => { b with relationships := v }]

end BatchSizes

end GraphIngest
