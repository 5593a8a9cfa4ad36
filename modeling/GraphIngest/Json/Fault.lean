import GraphIngest.Json.Value
import GraphIngest.Text.Quoted

/-!
# Faults of a JSON text

Reading stops at the first fault met from left to right. The text may end too early, it may be
malformed, or it may be well-formed but not of the shape that is wanted there.
-/

namespace GraphIngest.Json

/-- What was being read when the text ended. -/
inductive Unfinished where
  | list
  | object
  | string
  | value
  deriving DecidableEq, Repr

/-- What makes a text malformed. -/
inductive Malformation where
  | expectedColon
  | expectedListEnd
  | expectedObjectEnd
  | expectedIdent
  | expectedValue
  | invalidEscape
  | invalidNumber
  | numberOutOfRange
  | controlCharacter
  | keyNotString
  | loneSurrogate
  | trailingComma
  | trailingCharacters
  | unfinishedSurrogate
  | nestingTooDeep
  deriving DecidableEq, Repr

/-- A value as a message about it shows it. -/
inductive Found where
  | null
  | bool (value : Bool)
  | number (value : JsonNumber)
  | string (value : String)
  | sequence
  | map
  deriving DecidableEq, Repr

/-- How a well-formed value differs from what is wanted. -/
inductive Mismatch where
  | invalidType (found : Found) (expected : String)
  | invalidValue (found : Found) (expected : String)
  | invalidLength (length : Nat) (expected : String)
  | missingField (name : String)
  | duplicateField (name : String)
  | unknownVariant (name : String) (known : List String)
  | noVariant (type : String)
  | rejected (message : String)
  deriving DecidableEq, Repr

/-- The first fault of a text. -/
inductive Fault where
  | ended (within : Unfinished)
  | malformed (cause : Malformation)
  | mismatch (cause : Mismatch)
  deriving DecidableEq, Repr

/-- The message about a text that ended too early. -/
def Unfinished.message : Unfinished → String
  | .list => "EOF while parsing a list"
  | .object => "EOF while parsing an object"
  | .string => "EOF while parsing a string"
  | .value => "EOF while parsing a value"

/-- The message about a malformed text. -/
def Malformation.message : Malformation → String
  | .expectedColon => "expected `:`"
  | .expectedListEnd => "expected `,` or `]`"
  | .expectedObjectEnd => "expected `,` or `\x7d`"
  | .expectedIdent => "expected ident"
  | .expectedValue => "expected value"
  | .invalidEscape => "invalid escape"
  | .invalidNumber => "invalid number"
  | .numberOutOfRange => "number out of range"
  | .controlCharacter => "control character (\\u0000-\\u001F) found while parsing a string"
  | .keyNotString => "key must be a string"
  | .loneSurrogate => "lone leading surrogate in hex escape"
  | .trailingComma => "trailing comma"
  | .trailingCharacters => "trailing characters"
  | .unfinishedSurrogate => "unexpected end of hex escape"
  | .nestingTooDeep => "recursion limit exceeded"

/-- A found value in the words of a message. -/
def Found.describe : Found → String
  | .null => "null"
  | .bool b => "boolean `" ++ (if b then "true" else "false") ++ "`"
  | .number (.integer i) => "integer `" ++ String.ofList (JsonNumber.integerText i) ++ "`"
  | .number (.float x) => "floating point `" ++ String.ofList (JsonNumber.floatText x) ++ "`"
  | .string s => "string " ++ Text.quoted s
  | .sequence => "sequence"
  | .map => "map"

/-- The known names of an enumeration in the words of a message. -/
def describeKnown : List String → String
  | [] => "there are no variants"
  | [a] => "expected `" ++ a ++ "`"
  | [a, b] => "expected `" ++ a ++ "` or `" ++ b ++ "`"
  | names => "expected one of " ++ ", ".intercalate (names.map fun n => "`" ++ n ++ "`")

/-- The message about a value of another shape. -/
def Mismatch.message : Mismatch → String
  | .invalidType found expected => "invalid type: " ++ found.describe ++ ", expected " ++ expected
  | .invalidValue found expected => "invalid value: " ++ found.describe ++ ", expected " ++ expected
  | .invalidLength n expected => "invalid length " ++ toString n ++ ", expected " ++ expected
  | .missingField name => "missing field `" ++ name ++ "`"
  | .duplicateField name => "duplicate field `" ++ name ++ "`"
  | .unknownVariant name known => "unknown variant `" ++ name ++ "`, " ++ describeKnown known
  | .noVariant type => "data did not match any variant of untagged enum " ++ type
  | .rejected message => message

/-- The message about a fault, without its place. -/
def Fault.message : Fault → String
  | .ended within => within.message
  | .malformed cause => cause.message
  | .mismatch cause => cause.message

end GraphIngest.Json
