import GraphIngest.FileName

/-!
# Source files

The rows of an entity come from a source file, which is named with or without its extension: two
names with one stem mean the same file. A file is staged under its name, with `.csv` behind a name
without an extension.
-/

namespace GraphIngest.SourceFile

/-- The source of an entity that does not name one. -/
def defaultName : String := "file"

/-- Two names of one source file. -/
def same (a b : String) : Bool := a == b || FileName.stem a == FileName.stem b

/-- The file name that a source is staged under. -/
def csvName (source : String) : String :=
  if FileName.hasExtension source then source else source ++ ".csv"

theorem same_refl (a : String) : same a a = true := by simp [same]

theorem same_comm (a b : String) : same a b = same b a := by
  simp only [same, Bool.beq_comm]

end GraphIngest.SourceFile
