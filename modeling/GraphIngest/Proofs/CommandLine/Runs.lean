import GraphIngest.Proofs.CommandLine.Effects
import Mathlib.Data.List.Chain

/-!
# Runs that share a history

Runs of the command line follow one another. Each keeps its history at the same place, and between
them everything but the file of that place may change. No run adds a version that it did not accept.
No version is lost either, unless a run appends models in one of two situations: a directory on the
way of its path is missing, so that it does not find the file, makes the directory and writes over
the file; or there is not enough room for the text that it saves, so that the file is cut.

* `Run.Appends` — a run appends models: it starts, its history opens, and its command accepts them;
* `Run.Endangers` — the two situations;
* `Run.after_cases`, `Run.outcome` — what one run does to the file of the history;
* `runs_keep_history` — what a sequence of runs does;
* `runs_lose_history` — both situations arise, and lose versions.
-/

namespace GraphIngest.CommandLine

open History (KeptAt OpensAt Hidden)

/-- A run of the command line: the session it would refine in, its environment, its words, and the
world that it finds. -/
structure Run where
  session : SessionId
  environment : List (String × String)
  words : List String
  before : World

namespace Run

/-- The files that a run leaves behind. -/
def after (r : Run) : FileTree :=
  ((run r.session r.environment r.words : StateM World RunReport).run r.before).2.files

/-- The words of a run are a command line whose settings load. -/
structure Starts (r : Run) (i : Invocation) (s : Settings) : Prop where
  words : Invocation.ofWords? r.words = some i
  settings : answerOn r.before (Settings.load i.settingsName r.environment) = .ok s

/-- A run keeps its history at a place, if it keeps one. -/
def Shares (r : Run) (place : List String) : Prop :=
  ∀ i s, r.Starts i s → ∀ path, i.command.historyPath? s = some path →
    r.before.files.placeOf path = place

/-- A run appends accepted models, in this order and at these times, to the history that it opens at
a path. -/
def Appends (r : Run) (path : String) (opened : History) (times : Readings)
    (vs : List AcceptedModel) : Prop :=
  ∃ i s, r.Starts i s ∧ i.command.historyPath? s = some path ∧
    OpensAt r.before.files path opened ∧ i.command.Accepts s r.before times vs

/-- Saving a history on the files of a run does not fail. -/
def Saves (r : Run) (path : String) (h : History) : Prop := answerOn r.before (h.save path) = .ok ()

/-- The text of a history that a run saves is longer than the room at a place. -/
def LacksRoom (r : Run) (place : List String) (h : History) (room : Nat) : Prop :=
  room < (FileTree.encodeText h.text).length ∧
    ∃ cause, r.before.files.fault? place = some (.full room cause)

/-- The versions of a place are not safe from a run that appends models. -/
inductive Endangers (r : Run) (place : List String) : Prop where
  /-- A directory on the way of its path is missing, although there is a file at the place. -/
  | hidden {path : String} {opened : History} {times : Readings} {vs : List AcceptedModel}
      (happends : r.Appends path opened times vs) (hhidden : Hidden r.before.files path)
  /-- There is not enough room for the text that it saves. -/
  | cut {path : String} {opened : History} {times : Readings} {vs : List AcceptedModel} {room : Nat}
      (happends : r.Appends path opened times vs)
      (hroom : r.LacksRoom place (opened.extend times vs) room)

variable {r : Run} {path path' : String} {place : List String} {i i' : Invocation}
  {s s' : Settings} {h opened opened' : History} {times times' : Readings}
  {vs vs' : List AcceptedModel}

theorem Starts.unique (hs : r.Starts i s) (hs' : r.Starts i' s') : i = i' ∧ s = s' := by
  cases hs.words.symm.trans hs'.words
  cases hs.settings.symm.trans hs'.settings
  exact ⟨rfl, rfl⟩

namespace Appends

theorem unique (happends : r.Appends path opened times vs)
    (happends' : r.Appends path' opened' times' vs') :
    path = path' ∧ opened = opened' ∧ times = times' ∧ vs = vs' := by
  obtain ⟨i, s, hstarts, hpath, hopens, haccepts⟩ := happends
  obtain ⟨i', s', hstarts', hpath', hopens', haccepts'⟩ := happends'
  obtain ⟨rfl, rfl⟩ := hstarts.unique hstarts'
  cases hpath.symm.trans hpath'
  obtain ⟨rfl, rfl⟩ := haccepts.unique haccepts'
  exact ⟨rfl, hopens.unique hopens', rfl, rfl⟩

theorem opensAt (happends : r.Appends path opened times vs) :
    OpensAt r.before.files path opened := by
  obtain ⟨i, s, -, -, hopens, -⟩ := happends
  exact hopens

theorem placeOf_eq (happends : r.Appends path opened times vs) (hshares : r.Shares place) :
    r.before.files.placeOf path = place := by
  obtain ⟨i, s, hstarts, hpath, -, -⟩ := happends
  exact hshares i s hstarts path hpath

theorem ne_nil (happends : r.Appends path opened times vs) : vs ≠ [] := by
  obtain ⟨i, s, -, -, -, haccepts⟩ := happends
  exact haccepts.ne_nil

/-- A run appends no more models than it has words. -/
theorem length_le (happends : r.Appends path opened times vs) : vs.length ≤ r.words.length := by
  obtain ⟨i, s, hstarts, -, -, haccepts⟩ := happends
  exact Nat.le_trans haccepts.length_le (length_sources_le hstarts.words)

/-- The history that a run saves can be read back. -/
theorem sound_extend (happends : r.Appends path opened times vs)
    (hnow : ∀ n, (r.before.readings n).Exists) : (opened.extend times vs).Sound := by
  have hopened : opened.Sound := happends.opensAt.sound
  obtain ⟨i, s, -, -, -, haccepts⟩ := happends
  exact hopened.extend (haccepts.exists_of_readings hnow) vs

/-- A run opens the history that its place keeps, or the empty one where the file is hidden. -/
theorem opened_eq (happends : r.Appends path opened times vs) (hshares : r.Shares place)
    (hkept : KeptAt r.before.files place h) :
    (¬ Hidden r.before.files path → opened = h) ∧
      (Hidden r.before.files path → opened = .empty) := by
  refine ⟨fun hfound => ?_, fun hhidden => happends.opensAt.eq_empty hhidden⟩
  have hopened := happends.opensAt.keptAt hfound
  rw [happends.placeOf_eq hshares] at hopened
  exact hopened.unique hkept

end Appends

/-! ## One run -/

theorem after_eq (hwords : Invocation.ofWords? r.words = some i) :
    r.after = leaves r.before (i.run r.session r.environment) := by
  unfold after run
  rw [hwords]
  rfl

/-- A run that does not start changes nothing. -/
theorem after_of_not_starts (hr : ∀ i s, ¬ r.Starts i s) : r.after = r.before.files := by
  cases hwords : Invocation.ofWords? r.words with
  | none =>
    unfold after run
    rw [hwords]
    rfl
  | some i =>
    rw [after_eq hwords]
    unfold Invocation.run
    cases hsettings : answerOn r.before (Settings.load i.settingsName r.environment) with
    | error e => exact leaves_step_of_error (onlyReads_settings _ _) hsettings
    | ok s => exact absurd ⟨hwords, hsettings⟩ (hr i s)

theorem after_of_starts (hs : r.Starts i s) :
    r.after = leaves r.before (runCommand r.session s i.command) := by
  rw [after_eq hs.words]
  exact leaves_step_of_ok (onlyReads_settings _ _) hs.settings

/-- A run saves the history that it opens with the models that it appends, or changes nothing. -/
theorem after_cases (r : Run) :
    (∃ path opened times vs, r.Appends path opened times vs ∧
      r.after = (((opened.extend times vs).save path : StateM World _).run r.before).2.files) ∨
    ((∀ path opened times vs, ¬ r.Appends path opened times vs) ∧ r.after = r.before.files) := by
  by_cases hstarts : ∃ i s, r.Starts i s
  · obtain ⟨i, s, hstarts⟩ := hstarts
    have heffect := effect_runCommand r.session s r.before i.command
    rw [← after_of_starts hstarts] at heffect
    generalize r.after = left at heffect
    cases heffect with
    | saves hopen haccepts =>
      cases hpath : i.command.historyPath? s with
      | none =>
        refine .inr ⟨?_, rfl⟩
        rintro path opened times vs ⟨i', s', hstarts', hpath', -, -⟩
        obtain ⟨rfl, rfl⟩ := hstarts.unique hstarts'
        exact nomatch hpath.symm.trans hpath'
      | some path =>
        rw [hpath] at hopen
        have hopens := History.answerOn_openAt_eq_ok_iff.1 hopen
        exact .inl ⟨path, _, _, _, ⟨i, s, hstarts, hpath, hopens, haccepts⟩, rfl⟩
    | nothing hnone =>
      refine .inr ⟨?_, rfl⟩
      rintro path opened times vs ⟨i', s', hstarts', hpath, hopens, haccepts⟩
      obtain ⟨rfl, rfl⟩ := hstarts.unique hstarts'
      refine hnone opened times vs ?_ haccepts
      rw [hpath]
      exact History.answerOn_openAt_eq_ok_iff.2 hopens
  · have hnone : ∀ i s, ¬ r.Starts i s := fun i s hs => hstarts ⟨i, s, hs⟩
    refine .inr ⟨?_, after_of_not_starts hnone⟩
    rintro path opened times vs ⟨i, s, hs, -⟩
    exact hnone i s hs

/-- A run that appends models saves the history that it opened with them. -/
theorem Appends.after_eq (happends : r.Appends path opened times vs) :
    r.after = (((opened.extend times vs).save path : StateM World _).run r.before).2.files := by
  rcases r.after_cases with ⟨path', opened', times', vs', happends', hafter⟩ | ⟨hnone, -⟩
  · obtain ⟨rfl, rfl, rfl, rfl⟩ := happends.unique happends'
    exact hafter
  · exact absurd happends (hnone _ _ _ _)

/-- The file of a history behind a run that appends models: the whole text, or a cut one, or what it
was before. -/
theorem Appends.saved (happends : r.Appends path opened times vs) (hshares : r.Shares place) :
    (opened.extend times vs).Saved r.before.files place
      (answerOn r.before ((opened.extend times vs).save path)) r.after := by
  rw [happends.after_eq, ← happends.placeOf_eq hshares]
  exact History.save_saved rfl

/-- What a run does to the files, and so to the history that a place keeps. -/
structure Outcome (r : Run) (place : List String) (h : History) : Prop where
  /-- Unless models are appended, no file changes. -/
  idle : (∀ path opened times vs, ¬ r.Appends path opened times vs) → r.after = r.before.files
  /-- No file of another place changes. -/
  others : ∀ other ≠ place, r.after.fileAt? other = r.before.files.fileAt? other
  /-- Models are appended to the history that is kept, or to the empty one where its file is
  hidden. -/
  opened : ∀ path opened times vs, r.Appends path opened times vs →
    (¬ Hidden r.before.files path → opened = h) ∧ (Hidden r.before.files path → opened = .empty)
  /-- If the save does not fail, the file is read as this history with the models behind it. -/
  saved : ∀ path opened times vs, r.Appends path opened times vs →
    r.Saves path (opened.extend times vs) →
      r.after.ReadsAt place History.ofText (opened.extend times vs)
  /-- If it fails, the file is what it was, or as much of the text as there is room for. -/
  unsaved : ∀ path opened times vs, r.Appends path opened times vs →
    ¬ r.Saves path (opened.extend times vs) →
      r.after.fileAt? place = r.before.files.fileAt? place ∨
      ∃ room, r.LacksRoom place (opened.extend times vs) room ∧ r.after.fileAt? place =
        some ((FileTree.encodeText (opened.extend times vs).text).take room)

theorem fileAt?_after_of_ne {other : List String} (hshares : r.Shares place)
    (hother : other ≠ place) : r.after.fileAt? other = r.before.files.fileAt? other := by
  rcases r.after_cases with ⟨path, opened, times, vs, happends, hafter⟩ | ⟨-, hafter⟩
  · rw [← happends.placeOf_eq hshares] at hother
    rw [hafter]
    exact History.fileAt?_save_of_ne _ hother
  · rw [hafter]

/-- A history that a run saves is short enough to be read back. -/
theorem Appends.length_extend_lt (happends : r.Appends path opened times vs)
    (hshares : r.Shares place) (hkept : KeptAt r.before.files place h)
    (hlength : h.length + r.words.length < 2 ^ 64) :
    (opened.extend times vs).length < 2 ^ 64 := by
  have hle := happends.length_le
  obtain ⟨hfound, hhidden⟩ := happends.opened_eq hshares hkept
  rw [History.length_extend]
  by_cases h : Hidden r.before.files path
  · have hempty : opened.length = 0 := congrArg History.length (hhidden h)
    omega
  · have hsame := congrArg History.length (hfound h)
    omega

theorem outcome (hshares : r.Shares place) (hkept : KeptAt r.before.files place h)
    (hnow : ∀ n, (r.before.readings n).Exists) (hlength : h.length + r.words.length < 2 ^ 64) :
    r.Outcome place h where
  idle hnone := by
    rcases r.after_cases with ⟨path, opened, times, vs, happends, -⟩ | ⟨-, hafter⟩
    · exact absurd happends (hnone _ _ _ _)
    · exact hafter
  others _ hother := fileAt?_after_of_ne hshares hother
  opened _ _ _ _ happends := happends.opened_eq hshares hkept
  saved path opened times vs happends hsaves := by
    have hsaved := happends.saved hshares
    rw [hsaves] at hsaved
    cases hsaved with
    | whole hfile =>
      exact History.readsAt_of_encodeText_text (happends.sound_extend hnow)
        (happends.length_extend_lt hshares hkept hlength) hfile
  unsaved path opened times vs happends hfails := by
    have hsaved := happends.saved hshares
    generalize hanswer : answerOn r.before ((opened.extend times vs).save path) = answer at hsaved
    cases hsaved with
    | whole _ => exact absurd hanswer hfails
    | cut hfault hroom hfile => exact .inr ⟨_, ⟨hroom, _, hfault⟩, hfile⟩
    | untouched hfile => exact .inl hfile

namespace Outcome

variable (ho : r.Outcome place h)
include ho

/-- A run that does not endanger the versions changes nothing, or appends models to the history that
is kept and saves it, or leaves its file as it was. -/
theorem safe_cases (hsafe : ¬ r.Endangers place) :
    ((∀ path opened times vs, ¬ r.Appends path opened times vs) ∧ r.after = r.before.files) ∨
    ∃ path times vs, r.Appends path h times vs ∧
      (r.Saves path (h.extend times vs) ∧
          r.after.ReadsAt place History.ofText (h.extend times vs) ∨
        ¬ r.Saves path (h.extend times vs) ∧
          r.after.fileAt? place = r.before.files.fileAt? place) := by
  rcases r.after_cases with ⟨path, opened, times, vs, happends, -⟩ | hidle
  · have hfound : ¬ Hidden r.before.files path := fun h => hsafe (.hidden happends h)
    obtain rfl := (ho.opened _ _ _ _ happends).1 hfound
    refine .inr ⟨path, times, vs, happends, ?_⟩
    by_cases hsaves : r.Saves path (opened.extend times vs)
    · exact .inl ⟨hsaves, ho.saved _ _ _ _ happends hsaves⟩
    · rcases ho.unsaved _ _ _ _ happends hsaves with hfile | ⟨room, hroom, -⟩
      · exact .inr ⟨hsaves, hfile⟩
      · exact absurd (.cut happends hroom) hsafe
  · exact .inl hidle

theorem kept_or_extended (hsafe : ¬ r.Endangers place) :
    r.after.fileAt? place = r.before.files.fileAt? place ∨
    ∃ path times vs, r.Appends path h times vs ∧
      r.after.ReadsAt place History.ofText (h.extend times vs) := by
  rcases ho.safe_cases hsafe with
    ⟨-, hafter⟩ | ⟨path, times, vs, happends, ⟨-, hread⟩ | ⟨-, hfile⟩⟩
  · exact .inl (by rw [hafter])
  · exact .inr ⟨path, times, vs, happends, hread⟩
  · exact .inl hfile

theorem changed_iff (hsafe : ¬ r.Endangers place) (hkept : KeptAt r.before.files place h) :
    r.after.fileAt? place ≠ r.before.files.fileAt? place ↔
      ∃ path times vs, r.Appends path h times vs ∧ r.Saves path (h.extend times vs) := by
  rcases ho.safe_cases hsafe with
    ⟨hnone, hafter⟩ | ⟨path, times, vs, happends, ⟨hsaves, hread⟩ | ⟨hfails, hfile⟩⟩
  · constructor
    · intro hchanged
      exact absurd (by rw [hafter]) hchanged
    · rintro ⟨path, times, vs, happends, -⟩
      exact absurd happends (hnone _ _ _ _)
  · refine ⟨fun _ => ⟨path, times, vs, happends, hsaves⟩, fun _ hfile => ?_⟩
    -- The same file would be read as two histories of different lengths.
    have hsame := (KeptAt.file (hread.of_fileAt?_eq hfile.symm)).unique hkept
    have hlength := congrArg History.length hsame
    rw [History.length_extend] at hlength
    exact happends.ne_nil (List.length_eq_zero_iff.1 (by omega))
  · constructor
    · intro hchanged
      exact absurd hfile hchanged
    · rintro ⟨path', times', vs', happends', hsaves⟩
      obtain ⟨rfl, -, rfl, rfl⟩ := happends.unique happends'
      exact absurd hsaves hfails

/-- Behind such a run the place keeps a history with the versions from before at its front. -/
theorem exists_keptAt (hsafe : ¬ r.Endangers place) (hkept : KeptAt r.before.files place h) :
    ∃ h', KeptAt r.after place h' ∧ h.snapshots <+: h'.snapshots ∧
      h'.length ≤ h.length + r.words.length := by
  rcases ho.kept_or_extended hsafe with hfile | ⟨path, times, vs, happends, hread⟩
  · exact ⟨h, hkept.of_fileAt?_eq hfile, List.prefix_rfl, Nat.le_add_right _ _⟩
  · refine ⟨_, .file hread, History.prefix_extend h times vs, ?_⟩
    rw [History.length_extend]
    exact Nat.add_le_add_left happends.length_le _

end Outcome

end Run

/-! ## Many runs -/

/-- **No run invents a version, and none loses one unless it endangers them.** Let runs follow one
another, keep their histories at the same place, and leave its file alone in between, whatever else
changes; none but the last endangers the versions. Then before each run the place keeps a history
that begins with what it kept at first, and the run does what `Run.Outcome` says. If it does not
endanger the versions, the file is what it was before the run, or it is read as the versions from
before with the appended models behind them, in their order; it changes exactly when models are
appended and the save does not fail; and behind the run the place keeps a history that begins with
that from before. -/
theorem runs_keep_history {place : List String} {runs : List Run} {first : History}
    (hfirst : ∀ r ∈ runs.head?, KeptAt r.before.files place first)
    (hnext : runs.IsChain fun r next => ¬ r.Endangers place ∧
      next.before.files.fileAt? place = r.after.fileAt? place)
    (hshares : ∀ r ∈ runs, r.Shares place)
    (hnow : ∀ r ∈ runs, ∀ n, (r.before.readings n).Exists)
    (hlength : first.length + (runs.flatMap (·.words)).length < 2 ^ 64) :
    ∀ r ∈ runs, ∃ h, first.snapshots <+: h.snapshots ∧ KeptAt r.before.files place h ∧
      r.Outcome place h ∧
      (¬ r.Endangers place →
        (r.after.fileAt? place = r.before.files.fileAt? place ∨
          ∃ path times vs, r.Appends path h times vs ∧
            r.after.ReadsAt place History.ofText (h.extend times vs)) ∧
        (r.after.fileAt? place ≠ r.before.files.fileAt? place ↔
          ∃ path times vs, r.Appends path h times vs ∧ r.Saves path (h.extend times vs)) ∧
        ∃ h', KeptAt r.after place h' ∧ h.snapshots <+: h'.snapshots) := by
  induction runs generalizing first with
  | nil => exact nofun
  | cons r runs ih =>
    have hkept : KeptAt r.before.files place first := hfirst r rfl
    rw [List.flatMap_cons, List.length_append] at hlength
    have ho : r.Outcome place first := Run.outcome (hshares r List.mem_cons_self) hkept
      (hnow r List.mem_cons_self) (by omega)
    intro r' hr'
    rcases List.mem_cons.1 hr' with rfl | hr'
    · refine ⟨first, List.prefix_rfl, hkept, ho, fun hsafe => ?_⟩
      obtain ⟨h', hkept', hprefix, -⟩ := ho.exists_keptAt hsafe hkept
      exact ⟨ho.kept_or_extended hsafe, ho.changed_iff hsafe hkept, h', hkept', hprefix⟩
    · -- There is a next run, so this one does not endanger the versions.
      obtain ⟨next, rest, rfl⟩ := List.exists_cons_of_ne_nil (List.ne_nil_of_mem hr')
      obtain ⟨⟨hsafe, hfile⟩, htail⟩ := List.isChain_cons_cons.1 hnext
      obtain ⟨h', hkept', hprefix, hle⟩ := ho.exists_keptAt hsafe hkept
      have hhead : ∀ r ∈ (next :: rest).head?, KeptAt r.before.files place h' := by
        rintro r ⟨⟩
        exact hkept'.of_fileAt?_eq hfile
      obtain ⟨h, hprefix', hrest⟩ := ih hhead htail
        (fun r hr => hshares r (List.mem_cons_of_mem _ hr))
        (fun r hr => hnow r (List.mem_cons_of_mem _ hr)) (by omega) r' hr'
      exact ⟨h, hprefix.trans hprefix', hrest⟩

section

open History (personAccepted)

/-- A clock that shows a leap second. -/
def personReadings : Readings := fun i => ⟨2024, 2, 29, 23, 59, 60, i % 1000⟩

theorem personReadings_exists (n : Nat) : (personReadings n).Exists := by
  have hfirst : (personReadings 0).Exists :=
    ⟨⟨by decide, by decide, by decide, by decide, by decide, by decide⟩, by decide⟩
  have hnano : n % 1000 < 10 ^ 9 := Nat.lt_trans (Nat.mod_lt n (by decide)) (by decide)
  exact ⟨⟨hfirst.month, hfirst.day, hfirst.hour, hfirst.minute, hfirst.second, hnano⟩, hfirst.year⟩

/-- A model and its columns in files of the working directory, besides others. -/
def personWorld (others : List (List String × FileContent))
    (faults : List (List String × WriteFault)) : World where
  files :=
    { entries :=
        (["data", "person.json"],
          .file (FileTree.encodeText personAccepted.model.document.prettyText)) ::
        (["data", "columns.json"],
          .file (FileTree.encodeText personAccepted.columns.toJson.pretty)) :: others
      workingDirectory := ["data"]
      faults }
  readings := personReadings

/-- An export that appends the model and asks for a version that is not there. -/
def personExport (path : String) (before : World) : Run where
  session := ⟨0⟩
  environment := []
  words := ["script", "--model", "person.json", "--columns", "columns.json", "--version", "7",
    "--history", path]
  before := before

/-- The place of its history. -/
def personPlace : List String := ["data", "history.json"]

/-- What its words are read as. -/
def personInvocation (path : String) : Invocation :=
  ⟨"runway", .render .script ⟨["person.json"], some "columns.json", 7, none, some path⟩⟩

variable {others : List (List String × FileContent)} {faults : List (List String × WriteFault)}
  {path : String} {opened : History}

theorem personExport_appends
    (hstarts : (personExport path (personWorld others faults)).Starts (personInvocation path)
      .default)
    (hopens : OpensAt (personWorld others faults).files path opened) :
    (personExport path (personWorld others faults)).Appends path opened personReadings
      [personAccepted] := by
  have hmodel : (personWorld others faults).files.Reads "person.json" Model.ofText
      personAccepted.model := FileTree.reads_of_encodeText rfl rfl (modelOfText_prettyText _)
  have hcolumns : (personWorld others faults).files.Reads "columns.json" AllowedColumns.ofText
      personAccepted.columns :=
    FileTree.reads_of_encodeText rfl rfl (AllowedColumns.ofText_pretty _)
  exact ⟨_, _, hstarts, rfl, hopens,
    .render (List.cons_ne_nil _ _) rfl rfl hcolumns (.cons ⟨hmodel, rfl⟩ .nil)⟩

theorem personExport_shares {before : World}
    (hstarts : (personExport path before).Starts (personInvocation path) .default)
    (hplace : before.files.placeOf path = personPlace) :
    (personExport path before).Shares personPlace := by
  intro i s hs p hp
  obtain ⟨rfl, rfl⟩ := hs.unique hstarts
  cases hp
  exact hplace

/-- An export where no history is kept yet. -/
def firstExport : Run := personExport "history.json" (personWorld [] [])

theorem firstExport_starts : firstExport.Starts (personInvocation "history.json") .default :=
  ⟨rfl, rfl⟩

/-- Words behind it that are no command line. -/
def misusedRun : Run := ⟨⟨0⟩, [], ["export"], ⟨firstExport.after, personReadings⟩⟩

theorem misusedRun_not_starts (i : Invocation) (s : Settings) : ¬ misusedRun.Starts i s :=
  fun h => nomatch h.words

/-- The model of the export is version one of the history, although version 7 cannot be rendered,
and the misuse behind it changes nothing. -/
theorem runs_keep_history_person :
    ∃ h, h.length = 1 ∧ KeptAt misusedRun.after personPlace h := by
  have happends : firstExport.Appends "history.json" .empty personReadings [personAccepted] :=
    personExport_appends firstExport_starts (.none rfl)
  have hempty : KeptAt firstExport.before.files personPlace .empty := .none rfl
  have hsafe : ¬ firstExport.Endangers personPlace := by
    rintro (⟨happends', -, hfile⟩ | ⟨-, -, cause, hfault⟩)
    · obtain ⟨rfl, -⟩ := happends'.unique happends
      exact hfile rfl
    · cases hfault
  have hfirst : ∀ r ∈ [firstExport, misusedRun].head?,
      KeptAt r.before.files personPlace .empty := by
    rintro r ⟨⟩
    exact hempty
  have hshares : ∀ r ∈ [firstExport, misusedRun], r.Shares personPlace :=
    List.forall_mem_cons.2 ⟨personExport_shares firstExport_starts rfl,
      List.forall_mem_singleton.2 fun i s hs => absurd hs (misusedRun_not_starts i s)⟩
  have hnow : ∀ r ∈ [firstExport, misusedRun], ∀ n, (r.before.readings n).Exists :=
    List.forall_mem_cons.2 ⟨personReadings_exists,
      List.forall_mem_singleton.2 personReadings_exists⟩
  have hruns := runs_keep_history hfirst (.cons_cons ⟨hsafe, rfl⟩ (.singleton _)) hshares hnow
    (by decide)
  obtain ⟨first, -, hkept, -, hkeeps⟩ := hruns firstExport List.mem_cons_self
  obtain ⟨h, -, -, houtcome, -⟩ := hruns misusedRun (by simp)
  have hafter : misusedRun.after = firstExport.after := by
    refine houtcome.idle ?_
    rintro path opened times vs ⟨i, s, hs, -⟩
    exact misusedRun_not_starts i s hs
  cases hkept.unique hempty
  obtain ⟨hextended, hchanged, -⟩ := hkeeps hsafe
  have hfile := hchanged.2 ⟨_, _, _, happends, rfl⟩
  rcases hextended with hsame | ⟨path, times, vs, happends', hread⟩
  · exact absurd hsame hfile
  · obtain ⟨-, -, rfl, rfl⟩ := happends'.unique happends
    rw [hafter]
    exact ⟨_, rfl, .file hread⟩

/-- A history of an earlier run. -/
def earlierHistory : History := History.empty.append ⟨2023, 12, 31, 0, 0, 0, 0⟩ personAccepted

/-- Its file. -/
def earlierFile : List String × FileContent :=
  (personPlace, .file (FileTree.encodeText earlierHistory.text))

/-- An export whose path leads through a directory that is missing. -/
def hiddenExport : Run := personExport "missing/../history.json" (personWorld [earlierFile] [])

/-- An export on a full disk. -/
def cutExport : Run := personExport "history.json"
  (personWorld [earlierFile] [(personPlace, .full 0 (.other "No space left on device"))])

theorem hiddenExport_starts :
    hiddenExport.Starts (personInvocation "missing/../history.json") .default :=
  ⟨rfl, rfl⟩

theorem cutExport_starts : cutExport.Starts (personInvocation "history.json") .default :=
  ⟨rfl, rfl⟩

theorem earlierHistory_sound : earlierHistory.Sound :=
  History.sound_empty.append
    ⟨⟨by decide, by decide, by decide, by decide, by decide, by decide⟩, by decide⟩ personAccepted

theorem earlierHistory_readsAt {faults : List (List String × WriteFault)} :
    (personWorld [earlierFile] faults).files.ReadsAt personPlace History.ofText earlierHistory :=
  History.readsAt_of_encodeText_text earlierHistory_sound (by decide) rfl

/-- The export with the missing directory appends to a history without versions, and saves it in
place of the earlier one. -/
theorem hiddenExport_readsAt : hiddenExport.after.ReadsAt personPlace History.ofText
    (History.empty.extend personReadings [personAccepted]) := by
  have happends : hiddenExport.Appends "missing/../history.json" .empty personReadings
      [personAccepted] := personExport_appends hiddenExport_starts (.none rfl)
  have ho : hiddenExport.Outcome personPlace earlierHistory :=
    Run.outcome (personExport_shares hiddenExport_starts rfl) (.file earlierHistory_readsAt)
      personReadings_exists (by decide)
  exact ho.saved _ _ _ _ happends rfl

/-- The export on a full disk leaves a file without bytes. -/
theorem cutExport_fileAt : cutExport.after.fileAt? personPlace = some [] := by
  have happends : cutExport.Appends "history.json" earlierHistory personReadings
      [personAccepted] :=
    personExport_appends cutExport_starts
      (.file (FileTree.reads_iff.2 ⟨rfl, earlierHistory_readsAt⟩))
  have hroom : 0 < (FileTree.encodeText
      (earlierHistory.extend personReadings [personAccepted]).text).length :=
    History.length_encodeText_pos (happends.sound_extend personReadings_exists) (by decide)
  rw [happends.after_eq]
  exact History.fileAt?_save_of_full rfl rfl earlierHistory_readsAt.fileAt?_ne_none rfl hroom

/-- A file that loses versions is not what it was. -/
theorem fileAt?_ne_of_lost {r : Run} {place : List String} {h : History}
    (hread : r.before.files.ReadsAt place History.ofText h)
    (hlost : ∀ h', r.after.ReadsAt place History.ofText h' → ¬ h.snapshots <+: h'.snapshots) :
    r.after.fileAt? place ≠ r.before.files.fileAt? place :=
  fun hfile => hlost _ (hread.of_fileAt?_eq hfile) List.prefix_rfl

/-- **Versions are lost** behind a directory that is missing, and on a full disk: the file of the
history is not what it was, and it is not read as a history that begins with the versions from
before. -/
theorem runs_lose_history :
    [hiddenExport, cutExport].Forall fun r => r.Shares personPlace ∧
      r.before.files.ReadsAt personPlace History.ofText earlierHistory ∧
      r.after.fileAt? personPlace ≠ r.before.files.fileAt? personPlace ∧
      ∀ h, r.after.ReadsAt personPlace History.ofText h →
        ¬ earlierHistory.snapshots <+: h.snapshots := by
  have hhidden : ∀ h, hiddenExport.after.ReadsAt personPlace History.ofText h →
      ¬ earlierHistory.snapshots <+: h.snapshots := by
    intro h hread hprefix
    rw [hread.unique hiddenExport_readsAt] at hprefix
    have hsame := congrArg Snapshot.acceptedAt (List.cons_prefix_cons.1 hprefix).1
    exact absurd hsame (by decide)
  have hcut : ∀ h, cutExport.after.ReadsAt personPlace History.ofText h →
      ¬ earlierHistory.snapshots <+: h.snapshots := fun h hread =>
    absurd hread (History.not_readsAt_of_empty cutExport_fileAt)
  refine ⟨?hidden, ?cut⟩
  case hidden =>
    exact ⟨personExport_shares hiddenExport_starts rfl, earlierHistory_readsAt,
      fileAt?_ne_of_lost earlierHistory_readsAt hhidden, hhidden⟩
  case cut =>
    exact ⟨personExport_shares cutExport_starts rfl, earlierHistory_readsAt,
      fileAt?_ne_of_lost earlierHistory_readsAt hcut, hcut⟩

end

end GraphIngest.CommandLine
