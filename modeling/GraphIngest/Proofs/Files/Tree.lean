import GraphIngest.Files.Tree
import GraphIngest.Proofs.Basic
import GraphIngest.Proofs.Text.Bytes

/-!
# Writing to a file tree

A path that can be walked leads to the place that its names spell, so what a write does is told by
places. Directories that are made for a file leave every file as it was, whether they all can be
made or not, and a write leaves the file of its own place whole, cut, or as it was.

* `resolve_eq_ok` — a path that can be walked leads to the place of its names;
* `makeParents_addsDirectories` — making directories changes no file;
* `writeBytes_written` — what a write does to the file of its place;
* `Written.fileAt?_of_ne` — a write changes no other file.
-/

namespace GraphIngest

namespace FileTree

/-! ## Texts as bytes -/

theorem encodeText_empty : encodeText "" = [] := Text.toList_eq _

theorem decodeText_encodeText (s : String) : decodeText (encodeText s) = .ok s := by
  have hbytes : (encodeText s).toArray = s.toByteArray.data := by
    unfold encodeText
    rw [Text.toList_eq]
    rfl
  have hvalid : String.fromUTF8? s.toByteArray = some s := dif_pos s.isValidUTF8
  unfold decodeText
  rw [hbytes, hvalid]

/-! ## What stands at a place -/

variable {t t' : FileTree} {place other : List String} {content : FileContent}
  {bytes : List UInt8} {path : String}

/-- The bytes of the file at a place, if there is one. -/
def fileAt? (t : FileTree) (place : List String) : Option (List UInt8) :=
  match t.content? place with
  | some (.file bytes) => some bytes
  | some .directory | none => none

theorem fileAt?_eq_some_iff :
    t.fileAt? place = some bytes ↔ t.content? place = some (.file bytes) := by
  unfold fileAt?
  split
  · rename_i found hplace
    rw [hplace]
    simp
  · rename_i hplace
    simp [hplace]
  · rename_i hplace
    simp [hplace]

theorem fileAt?_of_content?_eq (h : t'.content? place = t.content? place) :
    t'.fileAt? place = t.fileAt? place := by
  unfold fileAt?
  rw [h]

/-- What was put is there, unless the working directory stands in the place. -/
theorem content?_put (h : t.content? place ≠ some .directory) :
    (t.put place content).content? place = some content := by
  have hprefix : ¬ place <+: t.workingDirectory := fun hprefix => h (if_pos hprefix)
  simp [content?, put, hprefix]

theorem content?_put_of_ne (h : other ≠ place) :
    (t.put place content).content? other = t.content? other := by
  unfold content? put
  dsimp only
  split
  · rfl
  · rw [List.find?_cons_of_neg (by simpa using h.symm), List.find?_filter]
    congr 2
    funext entry
    by_cases hentry : entry.1 = other <;> simp [hentry, h]

theorem fileAt?_put_file (h : t.content? place ≠ some .directory) :
    (t.put place (.file bytes)).fileAt? place = some bytes :=
  fileAt?_eq_some_iff.2 (content?_put h)

theorem fileAt?_put_of_ne (h : other ≠ place) :
    (t.put place content).fileAt? other = t.fileAt? other :=
  fileAt?_of_content?_eq (content?_put_of_ne h)

/-! ## Paths -/

/-- The place that the names of a path spell. -/
def placeOf (t : FileTree) (path : String) : List String :=
  (pathNames path).foldl stepFrom (t.origin path)

theorem walk_eq_ok {names : List String} {target : List String}
    (h : t.walk place names = .ok target) : target = names.foldl stepFrom place := by
  induction names generalizing place with
  | nil =>
    cases h
    rfl
  | cons name names ih =>
    rw [walk] at h
    split at h
    · exact ih h
    · cases h
    · cases h

/-- **A path that can be walked leads to the place that its names spell.** -/
theorem resolve_eq_ok (h : t.resolve path = .ok place) : place = t.placeOf path := by
  unfold resolve at h
  split at h
  · cases h
  · exact walk_eq_ok h

theorem target_eq_ok (h : t.target path = .ok place) : place = t.placeOf path := by
  unfold target at h
  split at h
  · obtain ⟨-, -, h⟩ := bind_eq_ok.1 h
    cases h
  · exact resolve_eq_ok h

theorem placeOf_eq (h : t'.workingDirectory = t.workingDirectory) :
    t'.placeOf path = t.placeOf path := by
  unfold placeOf origin
  rw [h]

/-- Every directory on the way of a path is there. -/
def Reaches (t : FileTree) (path : String) : Prop := t.resolve path = .ok (t.placeOf path)

theorem reaches_of_resolve (h : t.resolve path = .ok place) : t.Reaches path := by
  cases resolve_eq_ok h
  exact h

theorem readBytes_eq_ok_iff :
    t.readBytes path = .ok bytes ↔ t.Reaches path ∧ t.fileAt? (t.placeOf path) = some bytes := by
  unfold readBytes
  rw [bind_eq_ok]
  constructor
  · rintro ⟨place, hplace, h⟩
    refine ⟨reaches_of_resolve hplace, ?_⟩
    cases resolve_eq_ok hplace
    split at h
    · rename_i found hcontent
      cases h
      exact fileAt?_eq_some_iff.2 hcontent
    · cases h
    · cases h
  · rintro ⟨hreaches, hfile⟩
    refine ⟨_, hreaches, ?_⟩
    rw [fileAt?_eq_some_iff.1 hfile]
    rfl

theorem readText_eq_ok_iff {s : String} :
    t.readText path = .ok s ↔ t.Reaches path ∧
      ∃ bytes, t.fileAt? (t.placeOf path) = some bytes ∧ decodeText bytes = .ok s := by
  simp only [readText, bind_eq_ok, readBytes_eq_ok_iff, and_assoc, exists_and_left]

theorem pathExists_iff :
    t.pathExists path = true ↔ t.Reaches path ∧ (t.content? (t.placeOf path)).isSome = true := by
  unfold pathExists
  cases hresolve : t.resolve path with
  | error e =>
    refine iff_of_false nofun ?_
    rintro ⟨hreaches, -⟩
    exact nomatch hresolve.symm.trans hreaches
  | ok place =>
    have hreaches := reaches_of_resolve hresolve
    cases resolve_eq_ok hresolve
    exact (and_iff_right hreaches).symm

/-! ## Making directories -/

/-- The second tree has more directories at the most. -/
structure AddsDirectories (t t' : FileTree) : Prop where
  workingDirectory : t'.workingDirectory = t.workingDirectory
  faults : t'.faults = t.faults
  files : ∀ place, t'.fileAt? place = t.fileAt? place

namespace AddsDirectories

theorem refl (t : FileTree) : t.AddsDirectories t := ⟨rfl, rfl, fun _ => rfl⟩

theorem trans {t'' : FileTree} (h : t.AddsDirectories t') (h' : t'.AddsDirectories t'') :
    t.AddsDirectories t'' :=
  ⟨h'.workingDirectory.trans h.workingDirectory, h'.faults.trans h.faults,
    fun place => (h'.files place).trans (h.files place)⟩

theorem placeOf (h : t.AddsDirectories t') : t'.placeOf path = t.placeOf path :=
  placeOf_eq h.workingDirectory

theorem fault? (h : t.AddsDirectories t') : t'.fault? place = t.fault? place := by
  unfold FileTree.fault?
  rw [h.faults]

end AddsDirectories

theorem addsDirectories_put (h : t.content? place = none) :
    t.AddsDirectories (t.put place .directory) := by
  refine ⟨rfl, rfl, fun other => ?_⟩
  by_cases hother : other = place
  · subst hother
    have hput : (t.put other .directory).content? other = some .directory :=
      content?_put (h ▸ nofun : t.content? other ≠ _)
    unfold fileAt?
    rw [hput, h]
  · exact fileAt?_put_of_ne hother

/-- Directories that can be made are added, also when the ones behind them cannot be made. -/
theorem makeDirectories_addsDirectories {names : List String} :
    t.AddsDirectories (t.makeDirectories place names).2 := by
  induction names generalizing t place with
  | nil => exact .refl t
  | cons name names ih =>
    rw [makeDirectories]
    split
    · exact ih
    · exact .refl t
    · rename_i hnext
      split
      · exact .refl t
      · exact (addsDirectories_put hnext).trans ih

theorem makeParents_addsDirectories : t.AddsDirectories (t.makeParents path).2 :=
  makeDirectories_addsDirectories

/-! ## Writing -/

/-- What a write can do: the file of the place is written as a whole or cut, or nothing happens. -/
inductive Written (t : FileTree) (place : List String) (bytes : List UInt8) :
    Except FileError Unit × FileTree → Prop where
  | whole (hplace : t.content? place ≠ some .directory) :
      Written t place bytes (.ok (), t.put place (.file bytes))
  | cut {room : Nat} {cause : FileError} (hplace : t.content? place ≠ some .directory)
      (hfault : t.fault? place = some (.full room cause)) (hroom : room < bytes.length) :
      Written t place bytes (.error cause, t.put place (.file (bytes.take room)))
  | untouched {cause : FileError} : Written t place bytes (.error cause, t)

theorem store_written (h : t.content? place ≠ some .directory) :
    t.Written place bytes (t.store place bytes) := by
  unfold store
  split
  · exact .whole h
  · exact .untouched
  · rename_i room cause hfault
    split
    · exact .whole h
    · rename_i hroom
      exact .cut h hfault (Nat.lt_of_not_le hroom)

/-- **A write leaves the file of its place whole, cut, or as it was.** -/
theorem writeBytes_written : t.Written (t.placeOf path) bytes (t.writeBytes path bytes) := by
  unfold writeBytes
  split
  · exact .untouched
  · rename_i place hplace
    cases target_eq_ok hplace
    split
    · exact .untouched
    · rename_i hcontent
      exact store_written (by simp [hcontent])
    · rename_i hcontent _
      exact store_written (by simp [hcontent])
    · exact .untouched
    · exact .untouched

/-- A file is cut if there is not enough room for what is written to it. -/
theorem writeBytes_of_full {room : Nat} {cause : FileError} (htarget : t.target path = .ok place)
    (hfile : t.fileAt? place ≠ none) (hfault : t.fault? place = some (.full room cause))
    (hroom : room < bytes.length) :
    t.writeBytes path bytes = (.error cause, t.put place (.file (bytes.take room))) := by
  obtain ⟨before, hbefore⟩ := Option.ne_none_iff_exists'.1 hfile
  have hcontent := fileAt?_eq_some_iff.1 hbefore
  have hlong : ¬ bytes.length ≤ room := Nat.not_le.2 hroom
  simp only [writeBytes, htarget, hcontent, store, hfault, if_neg hlong]

/-- A write changes no other file. -/
theorem Written.fileAt?_of_ne {result : Except FileError Unit × FileTree}
    (h : t.Written place bytes result) (hother : other ≠ place) :
    result.2.fileAt? other = t.fileAt? other := by
  cases h with
  | whole => exact fileAt?_put_of_ne hother
  | cut => exact fileAt?_put_of_ne hother
  | untouched => rfl

end FileTree

end GraphIngest
