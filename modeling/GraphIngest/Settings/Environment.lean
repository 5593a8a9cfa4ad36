import GraphIngest.Settings.Path

/-!
# Settings in the environment

A name such as `RUNWAY__LOADER__USER` stands for the key `loader.user`, in any letter case. Its
value is a truth value, a number or a text, whichever fits first.
-/

namespace GraphIngest.Setting

/-- What the names of settings begin with. -/
def environmentMark : String := "runway__"

/-- The value that a text of the environment stands for. -/
def ofEnvironmentText (s : String) : Setting :=
  let word := Text.lowercase s
  if word = "true" then bool true
  else if word = "false" then bool false
  else match ofIntegerText? s.toList, ofNumberText? s.toList with
    | some v, _ => v
    | none, some v => v
    | none, none => text s

/-- Replaces every pair of underscores with a point. -/
def pointed : List Char → List Char
  | '_' :: '_' :: cs => '.' :: pointed cs
  | c :: cs => c :: pointed cs
  | [] => []

/-- The key that a name of the environment stands for. -/
def environmentKey? (name : String) : Option String :=
  let key := Text.lowercase name
  let mark := environmentMark.toList
  if mark.isPrefixOf key.toList then
    some (String.ofList (pointed (key.toList.drop mark.length)))
  else none

/-- The settings of an environment. -/
def ofEnvironment (environment : List (String × String)) : List (String × Setting) :=
  environment.filterMap fun (name, s) =>
    (environmentKey? name).map fun key => (key, ofEnvironmentText s)

end GraphIngest.Setting
