import GraphIngest.SourceFile
import GraphIngest.Text.Lines

/-!
# The written form of Cypher

A plain name is a letter or underscore followed by letters, digits and underscores, all of them
ASCII; any other name is quoted by backticks, and a backtick within it is written twice. Values are
read from the columns of a row that is bound to `row`.
-/

namespace GraphIngest.Cypher

/-- One step of indentation. -/
def indentation : String := "    "

/-- The quotation mark of names. -/
def backtick : Char := '\x60'

/-- A character that a plain name may begin with. -/
def isNameStart (c : Char) : Bool := c.isAlpha || c = '_'

/-- A character that may follow in a plain name. -/
def isNamePart (c : Char) : Bool := c.isAlphanum || c = '_'

/-- A name that needs no quotes. -/
def isPlainName : List Char → Bool
  | [] => false
  | c :: cs => isNameStart c && cs.all isNamePart

/-- Writes every backtick twice. -/
def doubleBackticks : List Char → List Char
  | [] => []
  | c :: cs => if c = backtick then c :: c :: doubleBackticks cs else c :: doubleBackticks cs

/-- A name as it stands in a statement. -/
def identifierChars (name : List Char) : List Char :=
  if isPlainName name then name else backtick :: doubleBackticks name ++ [backtick]

/-- A name as it stands in a statement. -/
def identifier (name : String) : String := String.ofList (identifierChars name.toList)

/-- The value of a column in the current row. -/
def rowColumn (column : String) : String := "row." ++ identifier column

/-- A map from property names to the values of columns. -/
def propertyMap (pairs : List (String × String)) : String :=
  "\x7b" ++ ", ".intercalate (pairs.map fun p => identifier p.1 ++ ": " ++ rowColumn p.2) ++ "\x7d"

/-- Sets properties of a variable from columns; nothing when there are none. -/
def setClause (var : String) (pairs : List (String × String)) : String :=
  if pairs.isEmpty then ""
  else "SET " ++
    ", ".intercalate (pairs.map fun p => var ++ "." ++ identifier p.1 ++ " = " ++ rowColumn p.2)

/-- Indents every line of a block by one step. -/
def indent (block : String) : String :=
  "\n".intercalate ((Text.lines block.toList).map fun line => indentation ++ String.ofList line)

/-- Ends each statement with a semicolon and a line break, with an empty line between two. -/
def joinStatements (statements : List String) : String :=
  "\n".intercalate (statements.map (· ++ ";\n"))

/-- The characters of a text within single quotes: a quote is escaped by a backslash. -/
def escapeQuotes : List Char → List Char
  | [] => []
  | c :: cs => if c = '\'' then '\\' :: c :: escapeQuotes cs else c :: escapeQuotes cs

/-- The address of the staged file of a source, as a literal between single quotes. -/
def fileLiteral (source : String) : String :=
  "'file:///" ++ String.ofList (escapeQuotes (SourceFile.csvName source).toList) ++ "'"

end GraphIngest.Cypher
