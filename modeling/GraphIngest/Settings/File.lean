import GraphIngest.FileName
import GraphIngest.Files.Access
import GraphIngest.Json.Decoder
import GraphIngest.Settings.Ini
import GraphIngest.Settings.Json5
import GraphIngest.Settings.Path
import GraphIngest.Settings.Ron
import GraphIngest.Settings.YamlText
import GraphIngest.Toml.Reader

/-!
# Settings in files

The extension of a file tells its format. A name without a file stands for the file that has the
name with an extension behind it. There need not be any file.
-/

namespace GraphIngest

/-- The formats of settings files. -/
inductive SettingsFormat where
  | toml
  | json
  | yaml
  | ini
  | ron
  | json5
  deriving DecidableEq, Repr

namespace Setting

mutual

/-- The setting that a JSON value is; of a repeated key the last value counts. -/
def ofJson : Json → Setting
  | .null => absent
  | .bool b => bool b
  | .number (.integer i) =>
    if -2 ^ 63 ≤ i && i < 2 ^ 63 then integer i else float (.ofInt i)
  | .number (.float x) => float x
  | .string s => text s
  | .array items => list (ofJsonItems items)
  | .object ms => ofMembers (ofJsonMembers ms)

/-- The settings that the items of a JSON array are. -/
def ofJsonItems : List Json → List Setting
  | [] => []
  | j :: js => ofJson j :: ofJsonItems js

/-- The settings that the members of a JSON object are. -/
def ofJsonMembers : List (String × Json) → List (String × Setting)
  | [] => []
  | (key, j) :: ms => (key, ofJson j) :: ofJsonMembers ms

end

/-- The members of a value that is a table. -/
def rootMembers? : Setting → Option (List (String × Setting))
  | table ms => some ms
  | _ => none

end Setting

namespace SettingsFormat

/-- The extensions of settings files with their formats. -/
def extensions : List (String × SettingsFormat) :=
  [("toml", toml), ("json", json), ("yaml", yaml), ("yml", yaml), ("ini", ini), ("ron", ron),
   ("json5", json5)]

/-- The format of the file that a path names. -/
def ofPath? (path : String) : Option SettingsFormat := do
  let extension ← FileName.extension? path.toList
  (extensions.find? (·.1.toList == extension)).map (·.2)

/-- The settings that a text of a format holds. -/
def members? (format : SettingsFormat) (s : String) : Option (List (String × Setting)) :=
  match format with
  | toml => Toml.membersOfText? s
  | json => do
    let j ← (Json.decodeText Json.Decoder.any s).toOption
    (Setting.ofJson j).rootMembers?
  | yaml => do (← Setting.ofYamlText? s).rootMembers?
  | ini => Setting.Ini.membersOfText? s
  | ron => do (← Setting.Ron.ofText? s).rootMembers?
  | json5 => do (← Setting.Json5.ofText? s).rootMembers?

end SettingsFormat

/-- A file of settings that was found. -/
structure SettingsFile where
  path : String
  format : SettingsFormat
  text : String

namespace SettingsFile

variable {m : Type → Type} [Monad m] [FileAccess m]

/-- The settings of a file. -/
def members? (f : SettingsFile) : Option (List (String × Setting)) := f.format.members? f.text

/-- What a look for a file finds. -/
inductive Look where
  | missing
  /-- A file that is no text. -/
  | binary
  | found (text : String)
  deriving DecidableEq, Repr

/-- The text that was found. -/
def Look.text? : Look → Option String
  | found s => some s
  | missing | binary => none

/-- Looks for a file. -/
def lookAt (path : String) : m Look := do
  match ← FileAccess.readText path with
  | .ok s => return .found s
  | .error .notText => return .binary
  | .error _ => return .missing

/-- A path without the slashes and points at its end that do not count. -/
def barePath (path : String) : String :=
  let names := (Text.segments '/' path.toList).reverse.dropWhile fun s => s.isEmpty || s == ['.']
  String.ofList (['/'].intercalate names.reverse)

/-- The first file among a name with extensions behind it. -/
def findAmong (name : String) : List (String × SettingsFormat) → m (Option SettingsFile)
  | [] => return none
  | (extension, format) :: more => do
    let path := barePath name ++ "." ++ extension
    match ← lookAt path with
    | .missing => findAmong name more
    | look => return look.text?.map fun text => ⟨path, format, text⟩

/-- The settings file that a name stands for: the file of that name if its extension is known, or
else the name with an extension. A file of that very name and no known extension is passed over, and
nothing else is looked for then; a file that is no text is passed over likewise. -/
def find (name : String) : m (Option SettingsFile) := do
  match ← lookAt name with
  | .missing =>
    if (FileName.base? name.toList).isNone then return none
    else findAmong name SettingsFormat.extensions
  | look => return do return ⟨name, ← SettingsFormat.ofPath? name, ← look.text?⟩

end SettingsFile

end GraphIngest
