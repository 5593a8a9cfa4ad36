import GraphIngest.CommandLine.Models
import GraphIngest.History.Versions
import GraphIngest.Proofs.History.Files

/-!
# Versions address a history

A version is a position from one of the two ends of a history. From the front it names the same
snapshot for ever; from the back it moves by one with every model that is appended. Whatever is made
of a version is made of the snapshot that it names.

* `wordPosition?_eq` — positions in machine words, from the least to the greatest version;
* `get_numbered`, `get_mirrored`, `get_eq_error` — what a version names, from both ends and outside;
* `madeOf_get` — what is made of a version comes from its snapshot or fails as the look-up does;
* `prefix_appendEach` — a run of appends leaves what was there in front;
* `versions_address_history` — all of it for any run of appends to a reachable history.
-/

namespace GraphIngest.History

variable {h : History} {now : Timestamp} {v : AcceptedModel}

/-! ## Positions in machine words -/

/-- The position of a version in machine words, whose subtraction wraps around. `limit` is the
greatest number of snapshots that can be counted. -/
def wordPosition? (limit length : UInt64) (version : Int64) : Option UInt64 :=
  let magnitude := version.abs.toUInt64
  if limit < magnitude then none
  else if version = 0 ∨ length < magnitude then none
  else if 0 < version then some (magnitude - 1)
  else some (length - magnitude)

/-- The magnitude of every version is a word. That of the least one is too, although its negation is
no version. -/
theorem toNat_magnitude (version : Int64) :
    version.abs.toUInt64.toNat = version.toInt.natAbs := by
  have hnat : version.abs.toUInt64.toNat = version.toBitVec.abs.toNat := rfl
  have hint : version.toInt = version.toBitVec.toInt := rfl
  rw [hnat, hint, BitVec.toNat_abs, BitVec.toInt_eq_msb_cond]
  have hlt := version.toBitVec.isLt
  split <;> omega

/-- **Machine words are wide enough**: positions are in their range and no subtraction wraps. -/
theorem wordPosition?_eq {limit length : UInt64} (hlength : length.toNat = h.length)
    (hlimit : length ≤ limit) (version : Int64) :
    (wordPosition? limit length version).map (·.toNat) = h.position? version.toInt := by
  have hzero : version = 0 ↔ version.toInt = 0 := Int64.toInt_inj.symm
  have hpos : 0 < version ↔ 0 < version.toInt := Int64.lt_iff_toInt_lt
  have hlong : length < version.abs.toUInt64 ↔ h.length < version.toInt.natAbs := by
    rw [UInt64.lt_iff_toNat_lt, hlength, toNat_magnitude]
  unfold wordPosition? position?
  simp only [hzero, hpos, hlong]
  by_cases hover : limit < version.abs.toUInt64
  · -- What is over the limit is over the length too.
    have hout : h.length < version.toInt.natAbs := hlong.1 (UInt64.lt_of_le_of_lt hlimit hover)
    rw [if_pos hover, if_pos (.inr hout)]
    rfl
  · rw [if_neg hover]
    by_cases hout : version.toInt = 0 ∨ h.length < version.toInt.natAbs
    · rw [if_pos hout, if_pos hout]
      rfl
    · obtain ⟨hne, hle⟩ := not_or.1 hout
      rw [if_neg hout, if_neg hout]
      by_cases hfront : 0 < version.toInt
      · have hone : 1 ≤ version.abs.toUInt64 := by
          rw [UInt64.le_iff_toNat_le, toNat_magnitude]
          exact Nat.succ_le_of_lt (Int.natAbs_pos.2 hne)
        rw [if_pos hfront, if_pos hfront, Option.map_some, UInt64.toNat_sub_of_le _ _ hone,
          toNat_magnitude]
        rfl
      · have hmagnitude : version.abs.toUInt64 ≤ length := by
          rw [UInt64.le_iff_toNat_le, toNat_magnitude, hlength]
          exact Nat.not_lt.1 hle
        rw [if_neg hfront, if_neg hfront, Option.map_some, UInt64.toNat_sub_of_le _ _ hmagnitude,
          toNat_magnitude, hlength]

/-! ## What a version names -/

/-- A version that names no snapshot is reported with the length of the history. -/
theorem get_eq_error {version : Int} (hn : ¬ (1 ≤ version.natAbs ∧ version.natAbs ≤ h.length)) :
    h.get version = .error ⟨version, h.length⟩ := by
  have hout : version = 0 ∨ h.length < version.natAbs := by
    omega
  unfold get position?
  rw [if_pos hout]
  rfl

/-- Counted from the front, a version names the snapshot at its place. -/
theorem get_numbered {k : Nat} {s : Snapshot} (hk : 1 ≤ k) (hs : h.snapshots[k - 1]? = some s) :
    h.get k = .ok s := by
  obtain ⟨hlt, -⟩ := List.getElem?_eq_some_iff.1 hs
  have hin : ¬ ((k : Int) = 0 ∨ h.length < (k : Int).natAbs) := by
    unfold length
    omega
  have hpos : (0 : Int) < k := by omega
  unfold get position?
  rw [if_neg hin, if_pos hpos, Int.natAbs_natCast, Option.bind_some, hs]

/-- Counted from the front, every number up to the length names a snapshot. -/
theorem exists_numbered {k : Nat} (hk : 1 ≤ k) (hle : k ≤ h.length) :
    ∃ s, h.snapshots[k - 1]? = some s ∧ h.get k = .ok s := by
  have hlt : k - 1 < h.snapshots.length := by
    unfold length at hle
    omega
  have hs : h.snapshots[k - 1]? = some h.snapshots[k - 1] := List.getElem?_eq_getElem hlt
  exact ⟨_, hs, get_numbered hk hs⟩

/-- Counted from the back, a version names what its mirror image names from the front. -/
theorem get_mirrored {k : Nat} (hk : 1 ≤ k) (hle : k ≤ h.length) :
    h.get (-k) = h.get (h.length + 1 - k : Nat) := by
  have hmirror : 1 ≤ h.length + 1 - k := by omega
  have hplace : h.length + 1 - k - 1 = h.length - k := by omega
  have hin : ¬ ((-(k : Int)) = 0 ∨ h.length < (-(k : Int)).natAbs) := by omega
  have hneg : ¬ (0 : Int) < -k := by omega
  obtain ⟨s, hs, hget⟩ := exists_numbered (h := h) hmirror (by omega)
  rw [hplace] at hs
  rw [hget]
  unfold get position?
  rw [if_neg hin, if_neg hneg, Int.natAbs_neg, Int.natAbs_natCast, Option.bind_some, hs]

/-- A version that counts to a snapshot gives one, from either end. -/
theorem exists_get {version : Int} (hone : 1 ≤ version.natAbs) (hle : version.natAbs ≤ h.length) :
    ∃ s, h.get version = .ok s := by
  rcases Int.natAbs_eq version with hv | hv
  · obtain ⟨s, -, hs⟩ := exists_numbered hone hle
    rw [hv]
    exact ⟨s, hs⟩
  · obtain ⟨s, -, hs⟩ := exists_numbered (h := h) (k := h.length + 1 - version.natAbs)
      (by omega) (by omega)
    rw [hv, get_mirrored hone hle]
    exact ⟨s, hs⟩

theorem exists_get_iff {version : Int} :
    (∃ s, h.get version = .ok s) ↔ 1 ≤ version.natAbs ∧ version.natAbs ≤ h.length := by
  constructor
  · rintro ⟨s, hs⟩
    refine Classical.byContradiction fun hn => ?_
    exact nomatch hs.symm.trans (get_eq_error hn)
  · rintro ⟨hone, hle⟩
    exact exists_get hone hle

/-! ## What is made of a version -/

/-- Whatever is made of a version is made of the snapshot that was found, or fails with the error of
the look-up. -/
structure MadeOf (h : History) (version : Int) (found : Except VersionOutOfRange Snapshot) :
    Prop where
  document : h.document version = found.map (·.model.document)
  constraints :
    h.constraints version = (found.mapError .version).map fun s => Cypher.constraints s.model
  script : ∀ strategy sizes, h.script version strategy sizes =
    (found.mapError .version).bind fun s => (s.model.script strategy sizes).mapError .model
  loaderConfig : ∀ (m : Type → Type) [Monad m] [FileAccess m] (strategy : Strategy)
    (options : LoaderOptions), h.loaderConfig (m := m) version strategy options =
      match found with
      | .ok s => do return (← s.model.loaderConfig strategy options).mapError .model
      | .error e => return .error (.version e)
  rendition : ∀ (m : Type → Type) [Monad m] [FileAccess m] (rendition : CommandLine.Rendition)
    (strategy : Strategy) (options : LoaderOptions),
    CommandLine.render (m := m) rendition h version strategy options =
      match found with
      | .ok s => do
        return (← CommandLine.renderModel rendition s.model strategy options).mapError .unexportable
      | .error e => return .error (.version e)

theorem madeOf_get (h : History) (version : Int) : h.MadeOf version (h.get version) := by
  cases hget : h.get version with
  | error e =>
    have hmodel : h.exportedModel version = .error (.version e) := by
      rw [exportedModel, hget]
    constructor
    · rw [document, hget]
      rfl
    · rw [constraints, hmodel]
      rfl
    · intro strategy sizes
      rw [script, hmodel]
      rfl
    · intro m _ _ strategy options
      rw [loaderConfig, hmodel]
    · intro m _ _ rendition strategy options
      rw [CommandLine.render, hget]
  | ok s =>
    have hmodel : h.exportedModel version = .ok s.model := by
      rw [exportedModel, hget]
    constructor
    · rw [document, hget]
      rfl
    · rw [constraints, hmodel]
      rfl
    · intro strategy sizes
      rw [script, hmodel]
      rfl
    · intro m _ _ strategy options
      rw [loaderConfig, hmodel]
    · intro m _ _ rendition strategy options
      rw [CommandLine.render, hget]
      refine congrArg (CommandLine.renderModel rendition s.model strategy options >>= ·) ?_
      funext made
      cases made <;> rfl

/-! ## Runs of appends -/

/-- Appends accepted models one after the other; the numbers of their versions come first. -/
def appendEach (h : History) : List (Timestamp × AcceptedModel) → List Nat × History
  | [] => ([], h)
  | (now, v) :: entries =>
    let (number, next) := h.appendNumbered now v
    let (numbers, last) := next.appendEach entries
    (number :: numbers, last)

theorem appendEach_cons (h : History) (now : Timestamp) (v : AcceptedModel)
    (entries : List (Timestamp × AcceptedModel)) :
    h.appendEach ((now, v) :: entries) =
      ((h.length + 1) :: ((h.append now v).appendEach entries).1,
        ((h.append now v).appendEach entries).2) := rfl

variable {entries : List (Timestamp × AcceptedModel)}

theorem length_appendEach (h : History) (entries : List (Timestamp × AcceptedModel)) :
    (h.appendEach entries).2.length = h.length + entries.length := by
  induction entries generalizing h with
  | nil => rfl
  | cons entry entries ih =>
    rw [appendEach_cons, ih, length_append, List.length_cons]
    omega

/-- Every append gives the number that follows the last one. -/
theorem numbers_appendEach (h : History) (entries : List (Timestamp × AcceptedModel)) :
    (h.appendEach entries).1 = List.range' (h.length + 1) entries.length := by
  induction entries generalizing h with
  | nil => rfl
  | cons entry entries ih =>
    rw [appendEach_cons, ih, length_append, List.length_cons, List.range'_succ]

/-- What was there stays in front. -/
theorem prefix_appendEach (h : History) (entries : List (Timestamp × AcceptedModel)) :
    h.snapshots <+: (h.appendEach entries).2.snapshots := by
  induction entries generalizing h with
  | nil => exact List.prefix_refl _
  | cons entry entries ih => exact (List.prefix_append _ _).trans (ih (h.append entry.1 entry.2))

/-- A snapshot stays at its place. -/
theorem getElem?_appendEach_left {i : Nat} {s : Snapshot} (hs : h.snapshots[i]? = some s)
    (entries : List (Timestamp × AcceptedModel)) :
    (h.appendEach entries).2.snapshots[i]? = some s := by
  obtain ⟨hlt, -⟩ := List.getElem?_eq_some_iff.1 hs
  obtain ⟨rest, hrest⟩ := prefix_appendEach h entries
  rw [← hrest, List.getElem?_append_left hlt, hs]

/-- Every model that is appended is at its place in the end. -/
theorem getElem?_appendEach {i : Nat} (hi : entries[i]? = some (now, v)) :
    (h.appendEach entries).2.snapshots[h.length + i]? =
      some ⟨h.length + i + 1, now, v.model.fingerprint, v.columns, v.model⟩ := by
  induction entries generalizing h i with
  | nil => cases hi
  | cons entry entries ih =>
    cases i with
    | zero =>
      cases hi
      -- The snapshot is the last one when it is appended, and the rest is put behind it.
      have hlast : (h.append now v).snapshots[h.length]? = some (h.nextSnapshot now v) :=
        List.getElem?_concat_length
      exact getElem?_appendEach_left hlast entries
    | succ i =>
      have hnext := ih (h := h.append entry.1 entry.2) hi
      rw [length_append, Nat.add_assoc, Nat.add_comm 1 i] at hnext
      exact hnext

/-- Snapshots hold together at their places whatever is appended. -/
theorem soundAt_appendEach
    (hs : ∀ (i : Nat) (s : Snapshot), h.snapshots[i]? = some s → s.SoundAt (i + 1))
    (entries : List (Timestamp × AcceptedModel)) :
    ∀ (i : Nat) (s : Snapshot), (h.appendEach entries).2.snapshots[i]? = some s →
      s.SoundAt (i + 1) := by
  induction entries generalizing h with
  | nil => exact hs
  | cons entry entries ih => exact ih (soundAt_append hs entry.1 entry.2)

/-- From the front, a version names the same snapshot whatever is appended. -/
theorem get_appendEach_numbered {k : Nat} (hk : 1 ≤ k) (hle : k ≤ h.length)
    (entries : List (Timestamp × AcceptedModel)) :
    (h.appendEach entries).2.get k = h.get k := by
  obtain ⟨s, hs, hget⟩ := exists_numbered hk hle
  have hstays := getElem?_appendEach_left hs entries
  rw [hget, get_numbered hk hstays]

/-- From the back, a snapshot is found as many versions further as models were appended. -/
theorem get_appendEach_mirrored {k : Nat} (hk : 1 ≤ k) (hle : k ≤ h.length)
    (entries : List (Timestamp × AcceptedModel)) :
    (h.appendEach entries).2.get (-(k + entries.length : Nat)) = h.get (-k) := by
  have hlength := length_appendEach h entries
  have hplace : (h.appendEach entries).2.length + 1 - (k + entries.length) = h.length + 1 - k := by
    omega
  rw [get_mirrored (by omega) (by omega), hplace, get_mirrored hk hle]
  exact get_appendEach_numbered (by omega) (by omega) entries

/-! ## All versions of a history -/

/-- The versions of a history are the positions of its snapshots from both ends, and whatever is
asked of a version is asked of one snapshot. -/
structure Addressed (h : History) : Prop where
  /-- A version is there when it counts to a snapshot, zero never. -/
  named : ∀ version, (∃ s, h.get version = .ok s) ↔ 1 ≤ version.natAbs ∧ version.natAbs ≤ h.length
  unnamed : ∀ version, ¬ (1 ≤ version.natAbs ∧ version.natAbs ≤ h.length) →
    h.get version = .error ⟨version, h.length⟩
  numbered : ∀ k : Nat, 1 ≤ k → k ≤ h.length →
    ∃ s, h.snapshots[k - 1]? = some s ∧ h.get k = .ok s ∧ s.version = k
  mirrored : ∀ k : Nat, 1 ≤ k → k ≤ h.length → h.get (-k) = h.get (h.length + 1 - k : Nat)
  latest : h.current = h.get (-1)
  /-- Machine words find the position of every version. -/
  words : ∀ (limit length : UInt64) (version : Int64), length.toNat = h.length → length ≤ limit →
    (wordPosition? limit length version).map (·.toNat) = h.position? version.toInt
  made : ∀ version, h.MadeOf version (h.get version)

theorem addressed_of_soundAt
    (hs : ∀ (i : Nat) (s : Snapshot), h.snapshots[i]? = some s → s.SoundAt (i + 1)) :
    h.Addressed where
  named := fun _ => exists_get_iff
  unnamed := fun _ => get_eq_error
  numbered := by
    intro k hk hle
    obtain ⟨s, hat, hget⟩ := exists_numbered hk hle
    have hnumber : s.version = k - 1 + 1 := (hs (k - 1) s hat).numbered
    exact ⟨s, hat, hget, hnumber.trans (Nat.sub_add_cancel hk)⟩
  mirrored := fun _ hk hle => get_mirrored hk hle
  latest := rfl
  words := fun _ _ version hlength hlimit => wordPosition?_eq hlength hlimit version
  made := h.madeOf_get

/-- **Versions address a history for ever.** Whatever models are appended to a reachable history,
they get the numbers that follow its last one, and each is found under its number as it was
appended. A snapshot that was there before is found under the same version from the front, and from
the back under the version that is further by as many as were appended. In the history that comes of
it, versions are the positions from both ends, all others are errors that say so, and what is made
of a version is made of the snapshot that it names. -/
theorem versions_address_history (hr : Reachable h) (entries : List (Timestamp × AcceptedModel)) :
    (h.appendEach entries).1 = List.range' (h.length + 1) entries.length ∧
    (h.appendEach entries).2.length = h.length + entries.length ∧
    (∀ (i : Nat) (now : Timestamp) (v : AcceptedModel), entries[i]? = some (now, v) →
      (h.appendEach entries).2.get (h.length + i + 1 : Nat) =
        .ok ⟨h.length + i + 1, now, v.model.fingerprint, v.columns, v.model⟩) ∧
    (∀ k : Nat, 1 ≤ k → k ≤ h.length →
      (h.appendEach entries).2.get k = h.get k ∧
      (h.appendEach entries).2.get (-(k + entries.length : Nat)) = h.get (-k)) ∧
    (h.appendEach entries).2.Addressed := by
  refine ⟨numbers_appendEach h entries, length_appendEach h entries, ?_, ?_, ?_⟩
  · intro i now v hi
    exact get_numbered (Nat.succ_pos _) (getElem?_appendEach hi)
  · intro k hk hle
    exact ⟨get_appendEach_numbered hk hle entries, get_appendEach_mirrored hk hle entries⟩
  · exact addressed_of_soundAt (soundAt_appendEach hr.sound.snapshots entries)

/-- The first version of three is the third from the back, and the least version is none. -/
theorem versions_address_history_three :
    ∃ (h : History) (now : Timestamp), Reachable h ∧ h.length = 1 ∧
      (h.appendEach [(now, personAccepted), (now, personAccepted)]).1 = [2, 3] ∧
      (h.appendEach [(now, personAccepted), (now, personAccepted)]).2.get 1 = h.get 1 ∧
      (h.appendEach [(now, personAccepted), (now, personAccepted)]).2.get (-3) = h.get (-1) ∧
      (h.appendEach [(now, personAccepted), (now, personAccepted)]).2.get Int64.minValue.toInt =
        .error ⟨-9223372036854775808, 3⟩ := by
  have hnow : (⟨2024, 2, 29, 23, 59, 60, 5⟩ : Timestamp).Exists :=
    ⟨⟨by decide, by decide, by decide, by decide, by decide, by decide⟩, by decide⟩
  have hr := Reachable.empty.append hnow personAccepted
  obtain ⟨hnumbers, hlength, -, hkept, haddressed⟩ := versions_address_history hr
    [(⟨2024, 2, 29, 23, 59, 60, 5⟩, personAccepted), (⟨2024, 2, 29, 23, 59, 60, 5⟩, personAccepted)]
  have hfirst := hkept 1 (Nat.le_refl 1) (Nat.le_refl 1)
  refine ⟨_, _, hr, rfl, hnumbers, hfirst.1, hfirst.2, ?_⟩
  have hleast := haddressed.unnamed Int64.minValue.toInt
  rw [hlength] at hleast
  exact hleast (by decide)

end GraphIngest.History
