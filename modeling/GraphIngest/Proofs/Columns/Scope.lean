import GraphIngest.Columns
import GraphIngest.Proofs.Basic

/-!
# What a source name resolves to

* `AllowedColumns.contains_iff` — a column is visible when it is in the list that is found;
* `AllowedColumns.scope_eq_of_same` — where no two files share a stem, two names of one source file
  are resolved to one list.

Without that condition the names may differ: an exact name is preferred to a stem.
-/

namespace GraphIngest

theorem SourceFile.same_iff {s t : String} :
    same s t = true ↔ FileName.stem s = FileName.stem t := by
  unfold same
  rw [Bool.or_eq_true, beq_iff_eq, beq_iff_eq]
  exact ⟨fun h => h.elim (fun heq => by rw [heq]) id, .inr⟩

/-- Files with distinct stems. -/
def FileColumns.StemsDistinct (f : FileColumns) : Prop :=
  f.entries.Pairwise fun e e' => FileName.stem e.1 ≠ FileName.stem e'.1

/-- Among files with distinct stems, an exact name finds what its stem finds. -/
theorem FileColumns.find?_eq_of_stems {f : FileColumns} (h : f.StemsDistinct) (source : String) :
    f.find? source =
      (f.entries.find? fun e => FileName.stem e.1 == FileName.stem source).map (·.2) := by
  unfold find?
  split
  · rename_i e he
    have hsource : e.1 = source := by simpa using List.find?_some he
    rw [← hsource, Keyed.find?_of_mem h (List.mem_of_find?_eq_some he)]
    rfl
  · rfl

namespace AllowedColumns

variable {a : AllowedColumns}

theorem contains_iff {source column : String} :
    a.contains source column = true ↔
      ∃ columns, a.scope source = some columns ∧ column ∈ columns := by
  unfold contains
  split
  · rename_i columns h
    simp [h]
  · rename_i h
    simp [h]

theorem contains_of_scope_eq {s t : String} (h : a.scope s = a.scope t) (column : String) :
    a.contains s column = a.contains t column := by
  unfold contains
  rw [h]

/-- No two files share a stem. -/
def StemsDistinct : AllowedColumns → Prop
  | flat _ => True
  | perFile files => files.StemsDistinct

/-- **Two names of one source file are resolved alike**, where no two files share a stem. -/
theorem scope_eq_of_same (h : a.StemsDistinct) {s t : String} (hst : SourceFile.same s t = true) :
    a.scope s = a.scope t := by
  cases a with
  | flat columns => rfl
  | perFile files =>
    have hstem := SourceFile.same_iff.1 hst
    simp only [scope, FileColumns.find?_eq_of_stems h, hstem]

end AllowedColumns

end GraphIngest
