import GraphIngest.Proofs.Files.Tree
import GraphIngest.World

/-!
# Computations that only read

Most of what is done with files leaves them alone. Such a computation is its answer on the files,
and what comes behind it runs in the same world.

* `OnlyReads.run_bind` — what comes behind a computation that only reads runs in the same world;
* `OnlyReads.answer_bind_eq_ok_iff` — a computation that gives up where its first step fails
  succeeds exactly when that step and the others do;
* `OnlyReads.parses` — what is read and then parsed answers what the text of the file is parsed as.
-/

namespace GraphIngest

variable {ε ε' ι α β : Type} {x : StateM World α} {w : World}

/-- The computation reads files, and leaves the world as it is. -/
def OnlyReads (x : StateM World α) : Prop :=
  ∃ f : FileTree → α, ∀ w : World, x.run w = (f w.files, w)

/-- What a computation answers in a world. -/
def answerOn (w : World) (x : StateM World α) : α := (x.run w).1

theorem OnlyReads.run_eq (hx : OnlyReads x) (w : World) : x.run w = (answerOn w x, w) := by
  obtain ⟨f, hf⟩ := hx
  rw [answerOn, hf]

/-- The clock has nothing to do with the answer. -/
theorem OnlyReads.answerOn_eq (hx : OnlyReads x) {w' : World} (h : w'.files = w.files) :
    answerOn w' x = answerOn w x := by
  obtain ⟨f, hf⟩ := hx
  rw [answerOn, answerOn, hf, hf, h]

theorem OnlyReads.run_bind (hx : OnlyReads x) (k : α → StateM World β) (w : World) :
    (x >>= k).run w = (k (answerOn w x)).run w :=
  run_bind_of_run (hx.run_eq w) k

theorem onlyReads_pure (a : α) : OnlyReads (pure a) := ⟨fun _ => a, fun _ => rfl⟩

theorem OnlyReads.bind (hx : OnlyReads x) {k : α → StateM World β}
    (hk : ∀ a, OnlyReads (k a)) : OnlyReads (x >>= k) := by
  obtain ⟨f, hf⟩ := hx
  choose g hg using hk
  exact ⟨fun t => g (f t) t, fun w => (run_bind_of_run (hf w) k).trans (hg _ w)⟩

theorem onlyReads_readText (path : String) :
    OnlyReads (FileAccess.readText path : StateM World _) := ⟨(·.readText path), fun _ => rfl⟩

theorem onlyReads_pathExists (path : String) :
    OnlyReads (FileAccess.pathExists path : StateM World _) := ⟨(·.pathExists path), fun _ => rfl⟩

theorem OnlyReads.answer_bind (hx : OnlyReads x) (k : α → StateM World β) :
    answerOn w (x >>= k) = answerOn w (k (answerOn w x)) :=
  congrArg Prod.fst (hx.run_bind k w)

/-- A computation that gives up where its first step fails succeeds exactly when that step and the
others do. -/
theorem OnlyReads.answer_bind_eq_ok_iff {x : StateM World (Except ε α)} (hx : OnlyReads x)
    {k : Except ε α → StateM World (Except ε' β)}
    (hk : ∀ e, ∃ e', answerOn w (k (.error e)) = .error e') {b : β} :
    answerOn w (x >>= k) = .ok b ↔
      ∃ a, answerOn w x = .ok a ∧ answerOn w (k (.ok a)) = .ok b := by
  rw [hx.answer_bind]
  constructor
  · intro h
    cases hanswer : answerOn w x with
    | error e =>
      obtain ⟨e', he'⟩ := hk e
      rw [hanswer, he'] at h
      cases h
    | ok a =>
      rw [hanswer] at h
      exact ⟨a, rfl, h⟩
  · rintro ⟨a, ha, hb⟩
    rw [ha]
    exact hb

namespace FileTree

variable {t t' : FileTree} {path : String} {place : List String} {parse : String → Except ε α}
  {a b : α}

/-- The text of a file is read as a value. -/
def Reads (t : FileTree) (path : String) (parse : String → Except ε α) (a : α) : Prop :=
  ∃ s, t.readText path = .ok s ∧ parse s = .ok a

/-- The text of the file at a place is read as a value. -/
def ReadsAt (t : FileTree) (place : List String) (parse : String → Except ε α) (a : α) : Prop :=
  ∃ bytes s, t.fileAt? place = some bytes ∧ decodeText bytes = .ok s ∧ parse s = .ok a

/-- A file is read where a path leads to. -/
theorem reads_iff :
    t.Reads path parse a ↔ t.Reaches path ∧ t.ReadsAt (t.placeOf path) parse a := by
  unfold Reads ReadsAt
  simp only [readText_eq_ok_iff]
  constructor
  · rintro ⟨s, ⟨hreaches, bytes, hfile, htext⟩, ha⟩
    exact ⟨hreaches, bytes, s, hfile, htext, ha⟩
  · rintro ⟨hreaches, bytes, s, hfile, htext, ha⟩
    exact ⟨s, ⟨hreaches, bytes, hfile, htext⟩, ha⟩

theorem ReadsAt.unique (ha : t.ReadsAt place parse a) (hb : t.ReadsAt place parse b) : a = b := by
  obtain ⟨bytes, s, hfile, htext, ha⟩ := ha
  obtain ⟨bytes', s', hfile', htext', hb⟩ := hb
  cases hfile.symm.trans hfile'
  cases htext.symm.trans htext'
  exact Except.ok.inj (ha.symm.trans hb)

theorem Reads.unique (ha : t.Reads path parse a) (hb : t.Reads path parse b) : a = b :=
  (reads_iff.1 ha).2.unique (reads_iff.1 hb).2

/-- The encoding of a text is read as what the text is parsed as. -/
theorem readsAt_of_encodeText {s : String} (hfile : t.fileAt? place = some (encodeText s))
    (ha : parse s = .ok a) : t.ReadsAt place parse a :=
  ⟨_, s, hfile, decodeText_encodeText s, ha⟩

theorem reads_of_encodeText {s : String} (hreaches : t.Reaches path)
    (hfile : t.fileAt? (t.placeOf path) = some (encodeText s)) (ha : parse s = .ok a) :
    t.Reads path parse a :=
  reads_iff.2 ⟨hreaches, readsAt_of_encodeText hfile ha⟩

theorem ReadsAt.of_fileAt?_eq (ha : t.ReadsAt place parse a)
    (hfile : t'.fileAt? place = t.fileAt? place) : t'.ReadsAt place parse a := by
  unfold ReadsAt
  rwa [hfile]

theorem ReadsAt.fileAt?_ne_none (ha : t.ReadsAt place parse a) : t.fileAt? place ≠ none := by
  obtain ⟨bytes, s, hfile, -⟩ := ha
  rw [hfile]
  exact nofun

end FileTree

/-! ## Reading and parsing -/

/-- A computation that only reads, and answers what the text of a file is parsed as. -/
structure Parses (x : StateM World (Except ε α)) (path : String)
    (parse : String → Except ι α) : Prop where
  onlyReads : OnlyReads x
  answer_iff {w : World} {a : α} : answerOn w x = .ok a ↔ w.files.Reads path parse a

theorem mapError_eq_ok_iff {x : Except ι α} {f : ι → ε} {a : α} :
    x.mapError f = .ok a ↔ x = .ok a := by
  cases x with
  | error e => exact ⟨nofun, nofun⟩
  | ok b =>
    show (Except.ok b : Except ε α) = .ok a ↔ _
    rw [Except.ok.injEq, Except.ok.injEq]

theorem mapError_eq_error_iff {x : Except ι α} {f : ι → ε} {e : ε} :
    x.mapError f = .error e ↔ ∃ i, x = .error i ∧ f i = e := by
  cases x with
  | error i =>
    constructor
    · intro h
      exact ⟨i, rfl, Except.error.inj h⟩
    · rintro ⟨i', hi, rfl⟩
      cases hi
      rfl
  | ok a =>
    constructor
    · intro h
      cases h
    · rintro ⟨i, hi, -⟩
      cases hi

/-- What is read and then parsed, with the errors of both in another form. -/
theorem OnlyReads.parses {x : StateM World (Except ε String)} (hx : OnlyReads x) {path : String}
    (htext : ∀ w s, answerOn w x = .ok s ↔ w.files.readText path = .ok s)
    {k : Except ε String → StateM World (Except ε' α)} {parse : String → Except ι α}
    (herror : ∀ e, ∃ e', k (.error e) = pure (.error e'))
    (hok : ∀ s, ∃ f, k (.ok s) = pure ((parse s).mapError f)) : Parses (x >>= k) path parse where
  onlyReads := by
    refine hx.bind fun r => ?_
    cases r with
    | error e =>
      obtain ⟨e', he'⟩ := herror e
      rw [he']
      exact onlyReads_pure _
    | ok s =>
      obtain ⟨f, hf⟩ := hok s
      rw [hf]
      exact onlyReads_pure _
  answer_iff := by
    intro w a
    have hgive (e : ε) : ∃ e', answerOn w (k (.error e)) = .error e' := by
      obtain ⟨e', he'⟩ := herror e
      exact ⟨e', by rw [he']; rfl⟩
    refine (hx.answer_bind_eq_ok_iff hgive).trans (exists_congr fun s => ?_)
    obtain ⟨f, hf⟩ := hok s
    rw [htext, hf]
    exact and_congr_right fun _ => mapError_eq_ok_iff

end GraphIngest
