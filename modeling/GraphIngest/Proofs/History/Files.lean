import GraphIngest.History.Storage
import GraphIngest.Proofs.Files.Reading
import GraphIngest.Proofs.Files.Tree
import GraphIngest.Proofs.History.Saved

/-!
# Histories in files

A place keeps the history that its file is read as, and the empty one as long as there is no file. A
run opens the history of a path, which is the kept one unless a directory on the way of the path is
missing. Saving is not one step, so a save that fails leaves the file as it was, or cut.

* `extend` — the history with several models as its next versions;
* `KeptAt`, `OpensAt` — the history that a place keeps, and the one that a run begins with;
* `run_save_cases`, `save_saved` — what a save does, and what that is for the file of its place;
* `fileAt?_save_of_ne` — a save changes no other file.
-/

namespace GraphIngest

namespace History

variable {h h' : History} {now : Timestamp} {v : AcceptedModel} {vs : List AcceptedModel}
  {readings : Readings}

/-! ## Several models at once -/

/-- The history with accepted models as its next versions, in their order and each at its time. -/
def extend (h : History) (readings : Readings) (vs : List AcceptedModel) : History :=
  ⟨h.snapshots ++ vs.mapIdx fun i v =>
    ⟨h.length + i + 1, readings i, v.model.fingerprint, v.columns, v.model⟩⟩

theorem extend_nil (h : History) (readings : Readings) : h.extend readings [] = h := by
  simp [extend]

theorem length_append (h : History) (now : Timestamp) (v : AcceptedModel) :
    (h.append now v).length = h.length + 1 := by
  simp [append, length]

/-- The version that was appended last is the latest one. -/
theorem get_append_latest (h : History) (now : Timestamp) (v : AcceptedModel) :
    (h.append now v).get (-1) = .ok (h.nextSnapshot now v) := by
  have hposition : (h.append now v).position? (-1) = some h.snapshots.length := by
    simp [position?, append, length]
  unfold get
  rw [hposition, Option.bind_some]
  simp [append]

theorem extend_cons (h : History) (readings : Readings) (v : AcceptedModel)
    (vs : List AcceptedModel) :
    h.extend readings (v :: vs) = (h.append (readings 0) v).extend (readings.later 1) vs := by
  have hnumber : ∀ i, (h.append (readings 0) v).length + i + 1 = h.length + (i + 1) + 1 := by
    intro i
    rw [length_append]
    omega
  have hreading : ∀ i, readings.later 1 i = readings (i + 1) := by
    intro i
    rw [Readings.later, Nat.add_comm]
  unfold extend
  simp only [hnumber, hreading, List.mapIdx_cons]
  simp [append, nextSnapshot]

theorem extend_singleton (h : History) (readings : Readings) (v : AcceptedModel) :
    h.extend readings [v] = h.append (readings 0) v := by
  rw [extend_cons, extend_nil]

theorem length_extend (h : History) (readings : Readings) (vs : List AcceptedModel) :
    (h.extend readings vs).length = h.length + vs.length := by
  simp [extend, length]

theorem prefix_extend (h : History) (readings : Readings) (vs : List AcceptedModel) :
    h.snapshots <+: (h.extend readings vs).snapshots :=
  List.prefix_append _ _

theorem Sound.extend (hs : h.Sound) (hnow : ∀ i, (readings i).Exists) (vs : List AcceptedModel) :
    (h.extend readings vs).Sound := by
  induction vs generalizing h readings with
  | nil =>
    rw [extend_nil]
    exact hs
  | cons v vs ih =>
    rw [extend_cons]
    exact ih (hs.append (hnow 0) v) fun i => hnow (1 + i)

/-! ## Kept histories -/

section

variable {t t' : FileTree} {path : String} {place : List String}

/-- The history that a place keeps: the one of its file, or the empty one without a file. -/
inductive KeptAt (t : FileTree) (place : List String) : History → Prop where
  | none (hfile : t.fileAt? place = .none) : KeptAt t place .empty
  | file {h : History} (hfile : t.ReadsAt place ofText h) : KeptAt t place h

/-- The history that a run begins with: nothing is found at the path, or a file that is read. -/
inductive OpensAt (t : FileTree) (path : String) : History → Prop where
  | none (hpath : t.pathExists path = false) : OpensAt t path .empty
  | file {h : History} (hfile : t.Reads path ofText h) : OpensAt t path h

/-- There is a file at the place of a path, but a directory on the way of the path is missing. -/
def Hidden (t : FileTree) (path : String) : Prop :=
  t.pathExists path = false ∧ t.fileAt? (t.placeOf path) ≠ .none

/-- A run begins with the history that is kept, unless the path hides its file. -/
theorem OpensAt.keptAt (ho : OpensAt t path h) (hfound : ¬ Hidden t path) :
    KeptAt t (t.placeOf path) h := by
  cases ho with
  | none hpath => exact .none (not_not.1 fun hfile => hfound ⟨hpath, hfile⟩)
  | file hfile => exact .file (FileTree.reads_iff.1 hfile).2

/-- What a place keeps depends on its file alone. -/
theorem KeptAt.of_fileAt?_eq (hk : KeptAt t place h) (hfile : t'.fileAt? place = t.fileAt? place) :
    KeptAt t' place h := by
  cases hk with
  | none hnone => exact .none (hfile.trans hnone)
  | file hread => exact .file (hread.of_fileAt?_eq hfile)

theorem KeptAt.unique (hk : KeptAt t place h) (hk' : KeptAt t place h') : h = h' := by
  cases hk with
  | none hnone =>
    cases hk' with
    | none _ => rfl
    | file hread' => exact absurd hnone hread'.fileAt?_ne_none
  | file hread =>
    cases hk' with
    | none hnone => exact absurd hnone hread.fileAt?_ne_none
    | file hread' => exact hread.unique hread'

theorem KeptAt.sound (hk : KeptAt t place h) : h.Sound := by
  cases hk with
  | none _ => exact sound_empty
  | file hread =>
    obtain ⟨bytes, s, -, -, hs⟩ := hread
    exact sound_of_ofText hs

theorem OpensAt.sound (ho : OpensAt t path h) : h.Sound := by
  cases ho with
  | none _ => exact sound_empty
  | file hread =>
    obtain ⟨s, -, hs⟩ := hread
    exact sound_of_ofText hs

theorem not_reads_of_not_pathExists (hpath : t.pathExists path = false) :
    ¬ t.Reads path ofText h := by
  intro hread
  obtain ⟨hreaches, bytes, s, hfile, -⟩ := FileTree.reads_iff.1 hread
  have hexists := FileTree.pathExists_iff.2
    ⟨hreaches, by rw [FileTree.fileAt?_eq_some_iff.1 hfile]; rfl⟩
  exact nomatch hpath.symm.trans hexists

/-- Where nothing is found, a run begins with the empty history. -/
theorem OpensAt.eq_empty (ho : OpensAt t path h) (hhidden : Hidden t path) : h = empty := by
  cases ho with
  | none _ => rfl
  | file hread => exact absurd hread (not_reads_of_not_pathExists hhidden.1)

theorem OpensAt.unique (ho : OpensAt t path h) (ho' : OpensAt t path h') : h = h' := by
  cases ho with
  | none hpath =>
    cases ho' with
    | none _ => rfl
    | file hread' => exact absurd hread' (not_reads_of_not_pathExists hpath)
  | file hread =>
    cases ho' with
    | none hpath => exact absurd hread (not_reads_of_not_pathExists hpath)
    | file hread' => exact hread.unique hread'

/-! ## Opening -/

variable {w : World}

theorem parses_load (path : String) : Parses (load path) path ofText := by
  refine (onlyReads_readText path).parses (fun _ _ => Iff.rfl) (fun e => ⟨_, rfl⟩) fun s =>
    ⟨fun fault => fault.casesOn .json .corrupt, ?_⟩
  dsimp only
  cases ofText s with
  | ok h => rfl
  | error fault => cases fault <;> rfl

theorem onlyReads_openAt (path? : Option String) : OnlyReads (openAt path?) := by
  cases path? with
  | none => exact onlyReads_pure _
  | some path =>
    refine (onlyReads_pathExists path).bind fun found => ?_
    cases found with
    | false => exact onlyReads_pure _
    | true => exact (parses_load path).onlyReads

theorem answerOn_openAt_eq_ok_iff :
    answerOn w (openAt (some path)) = .ok h ↔ OpensAt w.files path h := by
  have hopen : answerOn w (openAt (some path)) =
      if w.files.pathExists path then answerOn w (load path) else .ok empty := by
    refine ((onlyReads_pathExists path).answer_bind _).trans ?_
    show answerOn w (if w.files.pathExists path = true then load path else pure (.ok empty)) = _
    split <;> rfl
  rw [hopen]
  cases hpath : w.files.pathExists path with
  | false =>
    constructor
    · intro hanswer
      cases hanswer
      exact .none hpath
    · intro ho
      cases ho with
      | none _ => rfl
      | file hread => exact absurd hread (not_reads_of_not_pathExists hpath)
  | true =>
    rw [if_pos rfl, (parses_load path).answer_iff]
    constructor
    · exact .file
    · intro ho
      cases ho with
      | none hnone => exact nomatch hpath.symm.trans hnone
      | file hread => exact hread

/-! ## Saving -/

/-- What a save does to the file of its place, with its answer. -/
inductive Saved (h : History) (t : FileTree) (place : List String) :
    Except StorageError Unit → FileTree → Prop where
  | whole {left : FileTree} (hfile : left.fileAt? place = some (FileTree.encodeText h.text)) :
      Saved h t place (.ok ()) left
  | cut {left : FileTree} {room : Nat} {cause : FileError}
      (hfault : t.fault? place = some (.full room cause))
      (hroom : room < (FileTree.encodeText h.text).length)
      (hfile : left.fileAt? place = some ((FileTree.encodeText h.text).take room)) :
      Saved h t place (.error (.file cause)) left
  | untouched {left : FileTree} {cause : FileError} (hfile : left.fileAt? place = t.fileAt? place) :
      Saved h t place (.error (.file cause)) left

/-- A save makes directories and then writes the text of the history. -/
theorem run_save (h : History) (path : String) (w : World) :
    (h.save path : StateM World _).run w =
      match w.files.makeParents path with
      | (.error e, made) => (.error (.file e), { w with files := made })
      | (.ok (), made) => match made.writeText path h.text with
        | (.error e, written) => (.error (.file e), { w with files := written })
        | (.ok (), written) => (.ok (), { w with files := written }) := by
  have hmake : (FileAccess.makeParents path : StateM World _).run w =
      ((w.files.makeParents path).1, { w with files := (w.files.makeParents path).2 }) := rfl
  unfold save
  rw [run_bind_of_run hmake]
  cases w.files.makeParents path with
  | mk answer made =>
    cases answer with
    | error e => rfl
    | ok _ =>
      have hwrite : (FileAccess.writeText path h.text : StateM World _).run
          { w with files := made } = ((made.writeText path h.text).1,
            { w with files := (made.writeText path h.text).2 }) := rfl
      dsimp only
      rw [run_bind_of_run hwrite]
      cases made.writeText path h.text with
      | mk answer written => cases answer <;> rfl

/-- The clock is not read. -/
theorem run_save_later (h : History) (path : String) (w : World) (n : Nat) :
    (h.save path : StateM World _).run (w.later n) =
      (((h.save path : StateM World _).run w).1,
        ((h.save path : StateM World _).run w).2.later n) := by
  have hfiles : (w.later n).files = w.files := rfl
  rw [run_save, run_save, hfiles]
  cases w.files.makeParents path with
  | mk answer made =>
    cases answer with
    | error e => rfl
    | ok _ =>
      dsimp only
      cases made.writeText path h.text with
      | mk answer written => cases answer <;> rfl

/-- A save adds directories, and fails there or goes on to the write. -/
theorem run_save_cases (h : History) (path : String) (w : World) :
    ∃ made, w.files.AddsDirectories made ∧
      ((∃ cause, (h.save path : StateM World _).run w =
          (.error (.file cause), { w with files := made })) ∨
        ∃ result, made.Written (w.files.placeOf path) (FileTree.encodeText h.text) result ∧
          (h.save path : StateM World _).run w =
            (result.1.mapError .file, { w with files := result.2 })) := by
  have hmade : w.files.AddsDirectories (w.files.makeParents path).2 :=
    FileTree.makeParents_addsDirectories
  rw [run_save]
  cases hmake : w.files.makeParents path with
  | mk done made =>
    rw [hmake] at hmade
    refine ⟨made, hmade, ?_⟩
    cases done with
    | error e => exact .inl ⟨e, rfl⟩
    | ok _ =>
      have hwritten : made.Written (made.placeOf path) (FileTree.encodeText h.text)
        (made.writeText path h.text) := FileTree.writeBytes_written
      rw [hmade.placeOf] at hwritten
      refine .inr ⟨_, hwritten, ?_⟩
      dsimp only
      cases made.writeText path h.text with
      | mk answer written => cases answer <;> rfl

/-- **A save leaves the file of its place whole, cut, or as it was**, and fails unless it is
whole. -/
theorem save_saved {answer : Except StorageError Unit} {w' : World}
    (hsave : (h.save path : StateM World _).run w = (answer, w')) :
    h.Saved w.files (w.files.placeOf path) answer w'.files := by
  obtain ⟨made, hmade, ⟨cause, hrun⟩ | ⟨result, hwritten, hrun⟩⟩ := run_save_cases h path w
  · cases hrun.symm.trans hsave
    exact .untouched (hmade.files _)
  · cases hwritten with
    | whole hplace =>
      cases hrun.symm.trans hsave
      exact .whole (FileTree.fileAt?_put_file hplace)
    | cut hplace hfault hroom =>
      cases hrun.symm.trans hsave
      rw [hmade.fault?] at hfault
      exact .cut hfault hroom (FileTree.fileAt?_put_file hplace)
    | untouched =>
      cases hrun.symm.trans hsave
      exact .untouched (hmade.files _)

/-- **A save changes no other file.** -/
theorem fileAt?_save_of_ne (h : History) (hplace : place ≠ w.files.placeOf path) :
    ((h.save path : StateM World _).run w).2.files.fileAt? place = w.files.fileAt? place := by
  obtain ⟨made, hmade, ⟨cause, hrun⟩ | ⟨result, hwritten, hrun⟩⟩ := run_save_cases h path w
  · rw [hrun]
    exact hmade.files place
  · rw [hrun]
    exact (hwritten.fileAt?_of_ne hplace).trans (hmade.files place)

/-- A save cuts the file of its place if there is not enough room for the text. -/
theorem fileAt?_save_of_full {room : Nat} {cause : FileError}
    (hmake : w.files.makeParents path = (.ok (), w.files))
    (htarget : w.files.target path = .ok place) (hfile : w.files.fileAt? place ≠ .none)
    (hfault : w.files.fault? place = some (.full room cause))
    (hroom : room < (FileTree.encodeText h.text).length) :
    ((h.save path : StateM World _).run w).2.files.fileAt? place =
      some ((FileTree.encodeText h.text).take room) := by
  have hwrite : w.files.writeText path h.text = _ :=
    FileTree.writeBytes_of_full htarget hfile hfault hroom
  have hplace : w.files.content? place ≠ some .directory := fun hplace =>
    hfile (by rw [FileTree.fileAt?, hplace])
  rw [run_save, hmake]
  dsimp only
  rw [hwrite]
  exact FileTree.fileAt?_put_file hplace

/-- **A saved history is read.** -/
theorem readsAt_of_encodeText_text (hs : h.Sound) (hlength : h.length < 2 ^ 64)
    (hfile : t.fileAt? place = some (FileTree.encodeText h.text)) : t.ReadsAt place ofText h :=
  FileTree.readsAt_of_encodeText hfile (hs.ofText_text hlength)

/-- A file without bytes is no history. -/
theorem not_readsAt_of_empty (hfile : t.fileAt? place = some []) : ¬ t.ReadsAt place ofText h := by
  rintro ⟨bytes, s, hbytes, htext, hs⟩
  cases hfile.symm.trans hbytes
  have hdecode := FileTree.decodeText_encodeText ""
  rw [FileTree.encodeText_empty] at hdecode
  cases hdecode.symm.trans htext
  cases hs

theorem length_encodeText_pos (hs : h.Sound) (hlength : h.length < 2 ^ 64) :
    0 < (FileTree.encodeText h.text).length := by
  refine Nat.pos_of_ne_zero fun hzero => ?_
  have hempty : FileTree.encodeText h.text = FileTree.encodeText "" :=
    (List.length_eq_zero_iff.1 hzero).trans FileTree.encodeText_empty.symm
  have hread := hs.ofText_text hlength
  rw [Text.toUTF8_toList_inj.1 hempty] at hread
  cases hread

end

end History

end GraphIngest
