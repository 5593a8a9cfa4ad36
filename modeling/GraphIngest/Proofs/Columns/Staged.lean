import GraphIngest.Proofs.Columns.Scope
import GraphIngest.Proofs.FileName

/-!
# What a staged file resolves to

The columns of a source are looked up by its name, and its rows are read from the file it is staged
under. The two names may find different entries: where a stem belongs to several files an exact name
is preferred to the first of them, and a name that does not end in a file name gets another stem.

* `file?_eq_iff`, `find?_eq_iff` — when two names find the same entry, and when the same columns;
* `agree_csvName` — a source and its staged file do where the name has an extension, or where no two
  files share a stem and the name ends in a file name.
-/

namespace GraphIngest.FileColumns

open FileName (stem)
open SourceFile (csvName)

variable {f : FileColumns} {s t : String} {x y : String × List String}

/-- The first entry with the stem of a source. -/
def byStem? (f : FileColumns) (source : String) : Option (String × List String) :=
  f.entries.find? fun e => stem e.1 == stem source

/-- The entry that a source name means. -/
def file? (f : FileColumns) (source : String) : Option (String × List String) :=
  (f.entries.find? fun e => e.1 == source).or (f.byStem? source)

/-- An entry with just this name, if there is one, is the first with its stem. -/
def FirstOfStem (f : FileColumns) (name : String) : Prop :=
  ∀ x ∈ f.entries, x.1 = name → f.byStem? name = some x

/-- The names are one, or they have one stem and neither is an entry behind another of that stem. -/
def Agree (f : FileColumns) (s t : String) : Prop :=
  s = t ∨ stem s = stem t ∧ f.FirstOfStem s ∧ f.FirstOfStem t

/-- The names find two files that have the same columns. -/
def SameColumns (f : FileColumns) (s t : String) : Prop :=
  ∃ x y, f.file? s = some x ∧ f.file? t = some y ∧ x ≠ y ∧ x.2 = y.2

/-! ## Entries -/

theorem find?_eq_file? (f : FileColumns) (source : String) :
    f.find? source = (f.file? source).map (·.2) := by
  unfold find? file? byStem?
  split
  · rename_i e he
    rw [he]
    rfl
  · rename_i hnone
    rw [hnone]
    rfl

theorem file?_ne_none (h : f.find? s ≠ none) : f.file? s ≠ none := by
  intro hnone
  rw [find?_eq_file?, hnone] at h
  exact h rfl

theorem names_distinct (f : FileColumns) : f.entries.Pairwise fun e e' => e.1 ≠ e'.1 :=
  f.sorted.imp String.ne_of_lt

/-- An exact name finds its entry. -/
theorem file?_of_mem (h : x ∈ f.entries) : f.file? x.1 = some x := by
  unfold file?
  rw [Keyed.find?_of_mem f.names_distinct h]
  rfl

theorem file?_of_not_mem (h : ∀ x ∈ f.entries, x.1 ≠ s) : f.file? s = f.byStem? s := by
  have hnone : f.entries.find? (fun e => e.1 == s) = none :=
    List.find?_eq_none.2 fun x hx => by simpa using h x hx
  unfold file?
  rw [hnone]
  rfl

theorem byStem?_eq_of_stem (h : stem s = stem t) : f.byStem? s = f.byStem? t := by
  unfold byStem?
  rw [h]

/-- The entry that is found has the stem of the name. -/
theorem stem_of_file? (h : f.file? s = some x) : x ∈ f.entries ∧ stem x.1 = stem s := by
  rcases Option.or_eq_some_iff.1 h with h | ⟨-, h⟩
  · have hname : x.1 = s := by simpa using List.find?_some h
    exact ⟨List.mem_of_find?_eq_some h, congrArg stem hname⟩
  · exact ⟨List.mem_of_find?_eq_some h, by simpa using List.find?_some h⟩

theorem file?_eq_byStem?_iff : f.file? s = f.byStem? s ↔ f.FirstOfStem s := by
  constructor
  · rintro h x hx rfl
    rw [← h, file?_of_mem hx]
  · intro h
    by_cases hname : ∃ x ∈ f.entries, x.1 = s
    · obtain ⟨x, hx, rfl⟩ := hname
      rw [file?_of_mem hx, h x hx rfl]
    · exact file?_of_not_mem fun x hx heq => hname ⟨x, hx, heq⟩

/-- A name that finds what another name finds is preferred to no other file of its stem. -/
theorem firstOfStem_of_file?_eq (hne : s ≠ t) (hstem : stem s = stem t)
    (h : f.file? s = f.file? t) : f.FirstOfStem s := by
  rintro x hx rfl
  have ht : f.file? t = some x := by rw [← h, file?_of_mem hx]
  have hnot : ∀ y ∈ f.entries, y.1 ≠ t := by
    rintro y hy rfl
    rw [file?_of_mem hy, Option.some_inj] at ht
    exact hne (congrArg Prod.fst ht).symm
  rw [byStem?_eq_of_stem hstem, ← file?_of_not_mem hnot, ht]

theorem Agree.file?_eq (h : f.Agree s t) : f.file? s = f.file? t := by
  rcases h with rfl | ⟨hstem, hs, ht⟩
  · rfl
  · rw [file?_eq_byStem?_iff.2 hs, file?_eq_byStem?_iff.2 ht, byStem?_eq_of_stem hstem]

/-- **Two names find one entry** exactly when they agree, where the second finds any. -/
theorem file?_eq_iff (hknown : f.file? t ≠ none) : f.file? s = f.file? t ↔ f.Agree s t := by
  constructor
  · intro h
    by_cases hne : s = t
    · exact .inl hne
    · obtain ⟨x, hx⟩ := Option.ne_none_iff_exists'.1 hknown
      have hstem : stem s = stem t := by
        rw [← (stem_of_file? hx).2, ← (stem_of_file? (h.trans hx)).2]
      exact .inr ⟨hstem, firstOfStem_of_file?_eq hne hstem h,
        firstOfStem_of_file?_eq (Ne.symm hne) hstem.symm h.symm⟩
  · exact Agree.file?_eq

/-- **Two names find one list of columns** exactly when they agree or find two files that have the
same columns, where the second finds any. -/
theorem find?_eq_iff (hknown : f.find? t ≠ none) :
    f.find? s = f.find? t ↔ f.Agree s t ∨ f.SameColumns s t := by
  have hentry := file?_ne_none hknown
  rw [← file?_eq_iff hentry, find?_eq_file?, find?_eq_file?]
  constructor
  · intro h
    obtain ⟨y, hy⟩ := Option.ne_none_iff_exists'.1 hentry
    rw [hy, Option.map_some] at h
    obtain ⟨x, hx, hcolumns⟩ := Option.map_eq_some_iff.1 h
    by_cases hne : x = y
    · exact .inl (by rw [hx, hy, hne])
    · exact .inr ⟨x, y, hx, hy, hne, hcolumns⟩
  · rintro (h | ⟨x, y, hx, hy, -, hcolumns⟩)
    · rw [h]
    · rw [hx, hy, Option.map_some, Option.map_some, hcolumns]

/-! ## Staged files -/

/-- **A source agrees with the file it is staged under** when its name has an extension, and also
when no two files share a stem and the name ends in a file name. -/
theorem agree_csvName
    (h : FileName.hasExtension s = true ∨ f.StemsDistinct ∧ FileName.EndsInFile s) :
    f.Agree (csvName s) s := by
  rcases h with hextension | ⟨hstems, hfile⟩
  · exact .inl (if_pos hextension)
  · have hfirst : ∀ name, f.FirstOfStem name := by
      rintro - x hx rfl
      exact Keyed.find?_of_mem hstems hx
    exact .inr ⟨FileName.stem_csvName hfile, hfirst _, hfirst _⟩

end GraphIngest.FileColumns
