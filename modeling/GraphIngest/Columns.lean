import GraphIngest.SourceFile
import GraphIngest.Json.Decoder

/-!
# Allowed columns

The columns that properties may be mapped onto: one list for every source, or a list for each of
several files. A source name finds its file by its exact name, or else by its stem; of several files
with that stem the first in the order of names is taken.

Files are kept sorted by name, each name once, so two sets of files with the same lists are equal.
-/

namespace GraphIngest

/-- A list of columns for each of several files, sorted by file name. -/
structure FileColumns where
  entries : List (String × List String)
  sorted : entries.Pairwise fun a b => a.1 < b.1
  deriving DecidableEq, Repr

namespace FileColumns

/-- Puts an entry in its place; an entry with the same name is replaced. -/
def insertEntry (file : String) (columns : List String) :
    List (String × List String) → List (String × List String)
  | [] => [(file, columns)]
  | e :: es =>
    if file < e.1 then (file, columns) :: e :: es
    else if file = e.1 then (file, columns) :: es
    else e :: insertEntry file columns es

theorem mem_insertEntry {file : String} {columns : List String} {x : String × List String}
    {es : List (String × List String)} (h : x ∈ insertEntry file columns es) :
    x = (file, columns) ∨ x ∈ es := by
  induction es with
  | nil => simpa [insertEntry] using h
  | cons e es ih =>
    rw [insertEntry] at h
    split at h
    · simpa using h
    · split at h
      · rcases List.mem_cons.1 h with h | h
        · exact .inl h
        · exact .inr (List.mem_cons_of_mem _ h)
      · rcases List.mem_cons.1 h with h | h
        · exact .inr (h ▸ List.mem_cons_self)
        · exact (ih h).imp id (List.mem_cons_of_mem _)

theorem pairwise_insertEntry {file : String} {columns : List String}
    {es : List (String × List String)} (h : es.Pairwise fun a b => a.1 < b.1) :
    (insertEntry file columns es).Pairwise fun a b => a.1 < b.1 := by
  induction es with
  | nil => simp [insertEntry]
  | cons e es ih =>
    rw [List.pairwise_cons] at h
    rw [insertEntry]
    split
    · next hlt =>
      refine List.pairwise_cons.2 ⟨?_, List.pairwise_cons.2 h⟩
      intro x hx
      rcases List.mem_cons.1 hx with rfl | hx
      · exact hlt
      · exact String.lt_trans hlt (h.1 x hx)
    · next hnlt =>
      split
      · next heq =>
        exact List.pairwise_cons.2 ⟨fun x hx => by simpa [heq] using h.1 x hx, h.2⟩
      · next hne =>
        refine List.pairwise_cons.2 ⟨?_, ih h.2⟩
        intro x hx
        rcases mem_insertEntry hx with rfl | hx
        · rcases Decidable.em (e.1 < file) with hlt | hge
          · exact hlt
          · exact absurd (String.le_antisymm (String.not_lt.1 hge) (String.not_lt.1 hnlt)) hne
        · exact h.1 x hx

/-- Puts a file with its columns in its place; a file with the same name is replaced. -/
def insert (f : FileColumns) (file : String) (columns : List String) : FileColumns :=
  ⟨insertEntry file columns f.entries, pairwise_insertEntry f.sorted⟩

/-- No file. -/
def empty : FileColumns := ⟨[], .nil⟩

/-- The files of a list; of two entries with one name the later one counts. -/
def ofList (files : List (String × List String)) : FileColumns :=
  files.foldl (fun f e => f.insert e.1 e.2) empty

/-- The columns of the file that a source name means. -/
def find? (f : FileColumns) (source : String) : Option (List String) :=
  match f.entries.find? (·.1 == source) with
  | some e => some e.2
  | none => (f.entries.find? fun e => FileName.stem e.1 == FileName.stem source).map (·.2)

end FileColumns

/-- The columns that properties may be mapped onto. -/
inductive AllowedColumns where
  | flat (columns : List String)
  | perFile (files : FileColumns)
  deriving DecidableEq, Repr

namespace AllowedColumns

instance : Inhabited AllowedColumns := ⟨.flat []⟩

/-- The columns are listed file by file. -/
def isMultiFile : AllowedColumns → Bool
  | flat _ => false
  | perFile _ => true

/-- The columns visible from a source, unless the source is unknown. -/
def scope : AllowedColumns → String → Option (List String)
  | flat columns, _ => some columns
  | perFile files, source => files.find? source

/-- A column is visible from a source. -/
def contains (a : AllowedColumns) (source column : String) : Bool :=
  match a.scope source with
  | some columns => columns.contains column
  | none => false

/-- A list of columns, or an object with a list for each file. -/
def toJson : AllowedColumns → Json
  | flat columns => .strings columns
  | perFile files => .object (files.entries.map fun e => (e.1, .strings e.2))

/-- Decodes a list of columns or an object with a list for each file. -/
def decoder : Json.Decoder AllowedColumns :=
  let columns := Json.Decoder.list Json.Decoder.string
  Json.Decoder.untagged "AllowedColumns"
    [fun o t => (columns o t).map .flat,
     fun o t => (Json.Decoder.map "a map" columns o t).map fun files => .perFile (.ofList files)]

/-- The columns that a text lists. -/
def ofText (s : String) : Except Json.Fault AllowedColumns := Json.decodeText decoder s

end AllowedColumns

end GraphIngest
