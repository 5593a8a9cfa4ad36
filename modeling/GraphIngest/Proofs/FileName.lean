import GraphIngest.Proofs.Basic
import GraphIngest.Proofs.Text.Segments
import GraphIngest.SourceFile

/-!
# Stems of staged files

A source without an extension is staged under its name with `.csv` behind it. What that does to the
stem depends on what stands behind the last slash: a file name is kept, while behind a slash at the
end, or behind `.` or `..`, the stem becomes another one.

* `splitAtDot_append` — a component is cut at its last dot;
* `stem_append_csv` — with `.csv` behind it a name has as its stem what stands behind its last
  slash;
* `stem_csvName` — a name that ends in a file name is staged under its own stem.
-/

namespace GraphIngest.FileName

open GraphIngest.Text

/-- What stands behind the last slash of a path. -/
def lastSegment (path : List Char) : List Char := (segments '/' path).getLastD []

/-- A component that can be the name of a file. -/
def IsFile (component : List Char) : Prop :=
  component ≠ [] ∧ component ≠ ['.'] ∧ component ≠ ['.', '.']

instance (component : List Char) : Decidable (IsFile component) :=
  inferInstanceAs (Decidable (_ ∧ _))

/-- The name ends in the name of a file, so not in a slash, in `.` or in `..`. -/
def EndsInFile (name : String) : Prop := IsFile (lastSegment name.toList)

instance (name : String) : Decidable (EndsInFile name) := inferInstanceAs (Decidable (IsFile _))

/-- What is put behind the name of a staged file. -/
def csvSuffix : List Char := ".csv".toList

/-! ## Components -/

/-- A component is cut at its last dot. -/
theorem splitAtDot_append {front after : List Char} (hfront : front ≠ []) (hafter : '.' ∉ after) :
    splitAtDot (front ++ '.' :: after) = (front, some after) := by
  have htail : (front ++ '.' :: after).reverse.takeWhile (· != '.') = after.reverse := by
    rw [List.reverse_append, List.reverse_cons, List.append_assoc]
    refine takeWhile_append_of_stops (fun c hc => ?_) (stops_cons.2 (by decide))
    exact bne_iff_ne.2 fun hdot => hafter (hdot ▸ List.mem_reverse.1 hc)
  have hlength : (front ++ '.' :: after).length - after.length - 1 = front.length := by
    rw [List.length_append, List.length_cons]
    omega
  have hcut : ¬ (decide (after.length = (front ++ '.' :: after).length) || front.isEmpty) := by
    have hlong : after.length ≠ front.length + (after.length + 1) := by omega
    simp [hfront, hlong]
  simp only [splitAtDot, htail, List.reverse_reverse, hlength, List.take_left, if_neg hcut]

/-- A component without an extension is its own stem. -/
theorem splitAtDot_fst_of_none {component : List Char} (h : (splitAtDot component).2 = none) :
    (splitAtDot component).1 = component := by
  simp only [splitAtDot] at h ⊢
  split at h
  · rename_i hwhole
    rw [if_pos hwhole]
  · cases h

/-! ## Paths -/

/-- The file that a path names stands behind its last slash, where there is one. -/
theorem base?_of_segments {path last : List Char} {front : List (List Char)}
    (h : segments '/' path = front ++ [last]) (hlast : IsFile last) : base? path = some last := by
  obtain ⟨hempty, hdot, hdots⟩ := hlast
  have hkept : components path =
      (front.filter fun s => !(s.isEmpty || s == ['.'])) ++ [last] := by
    unfold components
    rw [h, List.filter_append]
    simp [hempty, hdot]
  unfold base?
  rw [hkept, List.getLast?_concat]
  simp [hdots]

/-- A text without a slash behind a path goes on with its last segment. -/
theorem exists_lastSegment (path : List Char) :
    ∃ front, segments '/' path = front ++ [lastSegment path] ∧
      ∀ ds, '/' ∉ ds → segments '/' (path ++ ds) = front ++ [lastSegment path ++ ds] := by
  obtain ⟨front, last, hpath, happend⟩ := exists_segments_append '/' path
  have hlast : lastSegment path = last := by
    unfold lastSegment
    rw [hpath, List.getLastD_concat]
  rw [hlast]
  exact ⟨front, hpath, happend⟩

theorem base?_of_endsInFile {name : String} (h : EndsInFile name) :
    base? name.toList = some (lastSegment name.toList) := by
  obtain ⟨front, hpath, -⟩ := exists_lastSegment name.toList
  exact base?_of_segments hpath h

theorem base?_append_csv (path : List Char) :
    base? (path ++ csvSuffix) = some (lastSegment path ++ csvSuffix) := by
  obtain ⟨front, -, happend⟩ := exists_lastSegment path
  -- The last component is too long to be empty or made of one or two dots.
  have hlong : ∀ short : List Char, short.length < 3 → lastSegment path ++ csvSuffix ≠ short := by
    rintro short hshort rfl
    rw [List.length_append] at hshort
    exact absurd hshort (Nat.not_lt.2 (Nat.le_add_left_of_le (by decide)))
  exact base?_of_segments (happend _ (by decide))
    ⟨hlong _ (by decide), hlong _ (by decide), hlong _ (by decide)⟩

/-- **The stem of a name with `.csv` behind it** is what stands behind its last slash; where nothing
does, the suffix is the whole name of the file. -/
theorem stem_append_csv (name : String) :
    stem (name ++ ".csv") = String.ofList
      (if lastSegment name.toList = [] then csvSuffix else lastSegment name.toList) := by
  unfold stem stem?
  rw [String.toList_append, show ".csv".toList = csvSuffix from rfl, base?_append_csv]
  split
  · rename_i hempty
    rw [hempty]
    rfl
  · rename_i hsegment
    have hcut : splitAtDot (lastSegment name.toList ++ csvSuffix) =
        (lastSegment name.toList, some "csv".toList) := splitAtDot_append hsegment (by decide)
    rw [Option.map_some, Option.getD_some, hcut]

/-- **A source is staged under its own stem**, where its name ends in a file name. -/
theorem stem_csvName {name : String} (h : EndsInFile name) :
    stem (SourceFile.csvName name) = stem name := by
  unfold SourceFile.csvName
  split
  · rfl
  · rename_i hextension
    have hbase := base?_of_endsInFile h
    have hnone : (splitAtDot (lastSegment name.toList)).2 = none := by
      unfold hasExtension extension? at hextension
      rw [hbase] at hextension
      exact Option.not_isSome_iff_eq_none.1 hextension
    have hstem : stem name = String.ofList (lastSegment name.toList) := by
      unfold stem stem?
      rw [hbase]
      exact congrArg String.ofList (splitAtDot_fst_of_none hnone)
    rw [stem_append_csv, if_neg h.1, hstem]

end GraphIngest.FileName
