import GraphIngest.CommandLine.Models

/-!
# Arguments of the command line

Options come before the name of a command or behind it, according to what they are about. An option
is a long word such as `--model` or a letter such as `-m`; its value follows as the next word or is
attached, with or without an equals sign. A word that looks like an option is never taken for a
value, but a single dash is one, and so is a negative number where numbers are asked for.
-/

namespace GraphIngest.CommandLine

/-- What an option takes. -/
inductive OptionKind where
  /-- No value. -/
  | flag
  /-- A text. -/
  | text
  /-- A path, which is not empty. -/
  | path
  /-- An integer of 64 bits. -/
  | integer
  /-- A natural number of 64 bits. -/
  | size
  deriving DecidableEq, Repr

/-- An option: its long name, its letter, and what it takes. -/
structure OptionSpec where
  name : String
  letter? : Option Char
  kind : OptionKind
  repeatable : Bool
  required : Bool
  deriving DecidableEq, Repr

namespace OptionSpec

/-- An option that may be given once. -/
def once (name : String) (letter? : Option Char) (kind : OptionKind) : OptionSpec :=
  ⟨name, letter?, kind, false, false⟩

/-- An option that has to be given once. -/
def needed (name : String) (letter? : Option Char) (kind : OptionKind) : OptionSpec :=
  ⟨name, letter?, kind, false, true⟩

/-- An option that may be given any number of times. -/
def many (name : String) (letter? : Option Char) (kind : OptionKind) : OptionSpec :=
  ⟨name, letter?, kind, true, false⟩

/-- The characters look like a number without a sign: digits, a point behind the first of them, and
an exponent mark that is not at the end. -/
def looksNumeric (cs : List Char) : Bool :=
  let body := cs.takeWhile (· ≠ 'e')
  let exponent := cs.drop body.length
  let whole := body.takeWhile Char.isDigit
  let part := body.drop whole.length
  let partFits := match part with
    | [] => true
    | '.' :: ds => !whole.isEmpty && ds.all Char.isDigit
    | _ => false
  let exponentFits := match exponent with
    | [] => true
    | _ :: ds => !body.isEmpty && !ds.isEmpty && ds.all Char.isDigit
  partFits && exponentFits

/-- A word behind an option can be its value. -/
def takesWord (o : OptionSpec) (word : String) : Bool :=
  match word.toList with
  | ['-'] => true
  | '-' :: '-' :: _ => false
  | '-' :: cs => o.kind == .integer && looksNumeric cs
  | _ => true

/-- A value fits an option. -/
def fits (o : OptionSpec) (value : String) : Bool :=
  match o.kind with
  | .flag => value.isEmpty
  | .text => true
  | .path => !value.isEmpty
  | .integer => (int64? value.toList).isSome
  | .size => (nat64? value.toList).isSome

end OptionSpec

/-- What a word is. -/
inductive Word where
  /-- A long option and perhaps a value attached to it. -/
  | long (name : String) (value? : Option String)
  /-- An option by its letter and perhaps a value attached to it. -/
  | short (letter : Char) (value? : Option String)
  /-- The end of all options. -/
  | separator
  | plain (value : String)
  deriving DecidableEq, Repr

/-- What a word is. -/
def Word.ofString (s : String) : Word :=
  match s.toList with
  | ['-', '-'] => separator
  | '-' :: '-' :: cs =>
    let name := String.ofList (cs.takeWhile (· ≠ '='))
    match cs.dropWhile (· ≠ '=') with
    | _ :: value => long name (some (String.ofList value))
    | [] => long name none
  | ['-', letter] => short letter none
  | '-' :: letter :: '=' :: value => short letter (some (String.ofList value))
  | '-' :: letter :: value => short letter (some (String.ofList value))
  | _ => plain s

/-- The options that were given, with their values. -/
abbrev Given := List (String × String)

/-- The option that a word names, with the value attached to it; nothing for any other word. -/
def Word.option? (options : List OptionSpec) : Word → Option (Option OptionSpec × Option String)
  | long name value? => some (options.find? (·.name == name), value?)
  | short letter value? => some (options.find? (·.letter? == some letter), value?)
  | separator | plain _ => none

/-- Puts an option in front of the ones that were read. -/
def addGiven (name value : String) (read : Given × List String) : Given × List String :=
  ((name, value) :: read.1, read.2)

/-- Reads options up to the first word that is none; returns that word and what is behind it. -/
def readOptions (options : List OptionSpec) : List String → Option (Given × List String)
  | [] => some ([], [])
  | word :: words =>
    match (Word.ofString word).option? options with
    | none => some ([], word :: words)
    | some (none, _) => none
    | some (some o, some value) =>
      if o.kind == .flag then none
      else (readOptions options words).map (addGiven o.name value)
    | some (some o, none) =>
      if o.kind == .flag then (readOptions options words).map (addGiven o.name "")
      else match words with
        | [] => none
        | value :: words =>
          if o.takesWord value then (readOptions options words).map (addGiven o.name value)
          else none

/-- The values of an option. -/
def Given.values (given : Given) (name : String) : List String :=
  (given.filter (·.1 == name)).map (·.2)

/-- The value of an option that may be given once. -/
def Given.value? (given : Given) (name : String) : Option String := (given.values name).head?

/-- Every option is given as often as it may, with values that fit. -/
def Given.complies (given : Given) (options : List OptionSpec) : Bool :=
  options.all fun o =>
    let values := given.values o.name
    (o.repeatable || values.length ≤ 1) && (!o.required || !values.isEmpty) && values.all o.fits

/-- Reads options that nothing follows. -/
def readAllOptions (options : List OptionSpec) (words : List String) : Option Given := do
  let (given, rest) ← readOptions options words
  if (rest = [] || rest = ["--"]) && given.complies options then some given else none

/-- What a command is asked to render. -/
structure RenderArguments where
  models : List String
  columns? : Option String
  version : Int
  strategy? : Option String
  history? : Option String
  deriving DecidableEq, Repr

/-- What a refinement is asked for. -/
structure RefineArguments where
  drafts : List String
  columns : String
  maxRetries? : Option Nat
  history? : Option String
  deriving DecidableEq, Repr

/-- A command with its arguments. -/
inductive Command where
  | validate (model columns : String)
  | render (rendition : Rendition) (arguments : RenderArguments)
  | refine (arguments : RefineArguments)
  deriving DecidableEq, Repr

/-- A command line: the name of the settings file, and the command. -/
structure Invocation where
  settingsName : String
  command : Command
  deriving DecidableEq, Repr

namespace Invocation

/-- The options before the name of a command. -/
def options : List OptionSpec := [.once "config" (some 'c') .text, .once "json" none .flag]

/-- The name of the settings file unless another one is given. -/
def defaultSettingsName : String := "runway"

end Invocation

namespace Command

/-- The options of a validation. -/
def validateOptions : List OptionSpec :=
  [.needed "model" (some 'm') .path, .needed "columns" none .path]

/-- The options of what renders a version. -/
def renderOptions : List OptionSpec :=
  [.many "model" (some 'm') .path, .once "columns" none .path, .once "version" (some 'v') .integer,
   .once "strategy" (some 's') .text, .once "history" none .path]

/-- The options of a refinement. -/
def refineOptions : List OptionSpec :=
  [⟨"draft", some 'd', .path, true, true⟩, .needed "columns" none .path,
   .once "max-retries" none .size, .once "history" none .path]

/-- The names of the commands that render a version. -/
def renditions : List (String × Rendition) :=
  [("constraints", .constraints), ("script", .script), ("loader-config", .loaderConfig),
   ("document", .document), ("diagram", .diagram)]

/-- The version that is rendered unless another one is given: the latest. -/
def defaultVersion : Int := -1

/-- A validation with its arguments. -/
def validate? (words : List String) : Option Command := do
  let given ← readAllOptions validateOptions words
  return .validate (← given.value? "model") (← given.value? "columns")

/-- A command that renders a version, with its arguments. -/
def render? (rendition : Rendition) (words : List String) : Option Command := do
  let given ← readAllOptions renderOptions words
  let version := (given.value? "version").bind fun s => int64? s.toList
  return .render rendition
    { models := given.values "model"
      columns? := given.value? "columns"
      version := version.getD defaultVersion
      strategy? := given.value? "strategy"
      history? := given.value? "history" }

/-- A refinement with its arguments. -/
def refine? (words : List String) : Option Command := do
  let given ← readAllOptions refineOptions words
  return .refine
    { drafts := given.values "draft"
      columns := ← given.value? "columns"
      maxRetries? := (given.value? "max-retries").bind fun s => nat64? s.toList
      history? := given.value? "history" }

/-- The command of a name, with its arguments. -/
def ofWords? (name : String) (words : List String) : Option Command :=
  if name = "validate" then validate? words
  else if name = "refine" then refine? words
  else match renditions.find? (·.1 == name) with
    | some (_, rendition) => render? rendition words
    | none => none

end Command

/-- The command line that a list of words is, unless it is misused. -/
def Invocation.ofWords? (words : List String) : Option Invocation := do
  let (given, rest) ← readOptions options words
  if !given.complies options then none
  match rest with
  | [] => none
  | name :: words =>
    let command ← Command.ofWords? name words
    return ⟨(given.value? "config").getD defaultSettingsName, command⟩

end GraphIngest.CommandLine
