import GraphIngest.Cypher.Format
import GraphIngest.Files.Access
import GraphIngest.Json.Decoder
import GraphIngest.Text.Blank

/-!
# Statements of the user

Statements that run before or after the generated ones come as a text of statements between
semicolons, as a file with such a text, or as a list. A single text that ends in `.cql` or `.cypher`
names a file. `splitStatements` makes one clean statement of each part between semicolons: its lines
are trimmed, blank lines are dropped, and the lines after the first are indented by one step.
-/

namespace GraphIngest

open Json (Decoder)

/-- Statements that run before or after the generated ones. -/
inductive IngestCode where
  | text (value : String)
  | file (path : String)
  | statements (values : List String)
  deriving DecidableEq, Repr

/-- A file of statements that cannot be read. -/
structure IngestCodeError where
  path : String
  cause : FileError
  deriving DecidableEq, Repr

/-- The message about a file of statements that cannot be read. -/
def IngestCodeError.message (e : IngestCodeError) : String :=
  "Unusable ingest code: cannot read " ++ e.path ++ ": " ++ e.cause.message

namespace IngestCode

/-- The trimmed lines of a part that are not blank. -/
def statementLines (part : List Char) : List (List Char) :=
  ((Text.lines part).map Text.trimChars).filter (!·.isEmpty)

/-- The statement of a part, if it has a line. -/
def statement? (part : List Char) : Option (List Char) :=
  match statementLines part with
  | [] => none
  | lines => some (('\n' :: Cypher.indentation.toList).intercalate lines)

/-- The statements of a list of characters. -/
def splitChars (cs : List Char) : List (List Char) :=
  (Text.segments ';' cs).filterMap statement?

/-- The statements of a text. -/
def splitStatements (s : String) : List String := (splitChars s.toList).map String.ofList

/-- The endings of the names of statement files. -/
def fileEndings : List String := [".cql", ".cypher"]

/-- A single text: the name of a file by its ending, or else statements. -/
def ofText (s : String) : IngestCode :=
  let trimmed := Text.trim s
  if fileEndings.any fun e => e.toList.isSuffixOf trimmed.toList then file trimmed else text s

/-- The statements, without terminators. -/
def toStatements {m : Type → Type} [Monad m] [FileAccess m] :
    IngestCode → m (Except IngestCodeError (List String))
  | text s => pure (.ok (splitStatements s))
  | file path => do
    match ← FileAccess.readText path with
    | .ok s => return .ok (splitStatements s)
    | .error e => return .error ⟨path, e⟩
  | statements ss => pure (.ok ss)

/-- The statements of code that may be absent. -/
def optionStatements {m : Type → Type} [Monad m] [FileAccess m] :
    Option IngestCode → m (Except IngestCodeError (List String))
  | none => pure (.ok [])
  | some code => code.toStatements

/-- Decodes a single text or a list of statements. -/
def decoder : Decoder IngestCode :=
  Decoder.untagged "RawIngestCode"
    [fun o t => (Decoder.string o t).map ofText,
     fun o t => (Decoder.list Decoder.string o t).map statements]

end IngestCode

end GraphIngest
