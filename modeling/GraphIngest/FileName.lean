import GraphIngest.Text.Lines

/-!
# File names

What a path says about the file it names: the last component, its stem and its extension. A slash at
the end and the component `.` do not count, so `a/b.csv`, `a/b.csv/` and `a/b.csv/.` name the same
file. The dot that splits a component is its last one, unless that is its first character.
-/

namespace GraphIngest.FileName

open GraphIngest.Text

/-- The components of a path that are more than an empty string or a single dot. -/
def components (path : List Char) : List (List Char) :=
  (segments '/' path).filter fun s => !(s.isEmpty || s == ['.'])

/-- The name of the file: the last component, unless that is `..` or there is none. -/
def base? (path : List Char) : Option (List Char) :=
  (components path).getLast?.filter fun s => s != ['.', '.']

/-- Cuts a component at its last dot, where it has one after its first character. -/
def splitAtDot (component : List Char) : List Char × Option (List Char) :=
  let after := (component.reverse.takeWhile (· != '.')).reverse
  let front := component.take (component.length - after.length - 1)
  if after.length = component.length || front.isEmpty then (component, none)
  else (front, some after)

/-- The stem of a path: its file name up to the last dot. -/
def stem? (path : List Char) : Option (List Char) := (base? path).map fun b => (splitAtDot b).1

/-- The extension of a path: what follows the last dot of its file name. -/
def extension? (path : List Char) : Option (List Char) :=
  (base? path).bind fun b => (splitAtDot b).2

/-- The stem of a source name; a name that is no file name stands for itself. -/
def stem (name : String) : String := String.ofList ((stem? name.toList).getD name.toList)

/-- The path has an extension, an empty one included. -/
def hasExtension (name : String) : Bool := (extension? name.toList).isSome

end GraphIngest.FileName
