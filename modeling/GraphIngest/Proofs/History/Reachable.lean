import GraphIngest.History
import GraphIngest.Proofs.Json.Yields
import GraphIngest.Proofs.Timestamp.Text

/-!
# Histories that a program comes to

A program begins with the empty history or with one that it reads from a text, and appends accepted
models. In every history that it comes to, each snapshot is sound for its position.

* `corruptionFrom?_eq_none_iff` — the re-checks find nothing exactly in sound snapshots;
* `ofText_eq_ok_iff` — a text is read exactly when it decodes to sound snapshots;
* `Reachable.sound` — every snapshot of a reachable history is sound.
-/

namespace GraphIngest

/-! ## Sound snapshots -/

/-- A snapshot holds together at a position, counted from one. -/
structure Snapshot.SoundAt (position : Nat) (s : Snapshot) : Prop where
  numbered : s.version = position
  fingerprinted : s.model.fingerprint = s.fingerprint
  valid : validate s.model s.columns = []

theorem Snapshot.corruption?_eq_none_iff {position : Nat} {s : Snapshot} :
    s.corruption? position = none ↔ s.SoundAt position := by
  unfold corruption?
  constructor
  · intro h
    split at h
    · cases h
    · rename_i hnumber
      split at h
      · cases h
      · rename_i hfingerprint
        split at h
        · rename_i hvalid
          exact ⟨Decidable.not_not.1 hnumber, Decidable.not_not.1 hfingerprint, hvalid⟩
        · cases h
  · rintro ⟨hnumber, hfingerprint, hvalid⟩
    rw [if_neg (not_not_intro hnumber), if_neg (not_not_intro hfingerprint), hvalid]

namespace History

theorem corruptionFrom?_eq_none_iff {position : Nat} {ss : List Snapshot} :
    corruptionFrom? position ss = none ↔
      ∀ (i : Nat) (s : Snapshot), ss[i]? = some s → s.SoundAt (position + i) := by
  induction ss generalizing position with
  | nil => simp [corruptionFrom?]
  | cons s ss ih =>
    unfold corruptionFrom?
    constructor
    · intro h i s' hs'
      split at h
      · cases h
      · rename_i hs
        cases i with
        | zero =>
          cases hs'
          exact Snapshot.corruption?_eq_none_iff.1 hs
        | succ i =>
          have hsound := ih.1 h i s' hs'
          rwa [Nat.add_assoc, Nat.add_comm 1 i] at hsound
    · intro h
      have hs : s.SoundAt position := h 0 s rfl
      rw [Snapshot.corruption?_eq_none_iff.2 hs]
      refine ih.2 fun i s' hs' => ?_
      have hsound := h (i + 1) s' hs'
      rwa [Nat.add_comm i 1, ← Nat.add_assoc] at hsound

/-- Every snapshot holds together at its place and was accepted at a time that exists. -/
structure Sound (h : History) : Prop where
  snapshots : ∀ (i : Nat) (s : Snapshot), h.snapshots[i]? = some s → s.SoundAt (i + 1)
  times : ∀ s ∈ h.snapshots, s.acceptedAt.Exists

/-- A text is read as the history that it decodes to, if that holds together. -/
theorem ofText_eq_ok_iff {text : String} {h : History} :
    ofText text = .ok h ↔ Json.decodeText decoder text = .ok h ∧
      ∀ (i : Nat) (s : Snapshot), h.snapshots[i]? = some s → s.SoundAt (i + 1) := by
  have hsound : corruptionFrom? 1 h.snapshots = none ↔
      ∀ (i : Nat) (s : Snapshot), h.snapshots[i]? = some s → s.SoundAt (i + 1) := by
    simp only [corruptionFrom?_eq_none_iff, Nat.add_comm]
  rw [← hsound]
  unfold ofText
  constructor
  · intro hread
    split at hread
    · cases hread
    · rename_i hdecode
      split at hread
      · cases hread
      · rename_i hnone
        cases hread
        exact ⟨hdecode, hnone⟩
  · rintro ⟨hdecode, hnone⟩
    simp only [hdecode, hnone]

/-! ## Reaching a history -/

/-- The histories that a program comes to: it creates one or reads one from a text, and appends
models at times that exist. -/
inductive Reachable : History → Prop where
  | empty : Reachable .empty
  | append {h : History} (hr : Reachable h) {now : Timestamp} (hnow : now.Exists)
      (v : AcceptedModel) : Reachable (h.append now v)
  | ofText {h : History} {s : String} (hs : History.ofText s = .ok h) : Reachable h

theorem sound_empty : empty.Sound := by
  constructor
  · intro i s h
    cases h
  · intro s h
    cases h

/-- Snapshots still hold together when a model is appended. -/
theorem soundAt_append {h : History}
    (hs : ∀ (i : Nat) (s : Snapshot), h.snapshots[i]? = some s → s.SoundAt (i + 1))
    (now : Timestamp) (v : AcceptedModel) :
    ∀ (i : Nat) (s : Snapshot), (h.append now v).snapshots[i]? = some s → s.SoundAt (i + 1) := by
  intro i s hi
  unfold History.append at hi
  by_cases hlt : i < h.snapshots.length
  · rw [List.getElem?_append_left hlt] at hi
    exact hs i s hi
  · rw [List.getElem?_append_right (Nat.not_lt.1 hlt), List.getElem?_singleton] at hi
    split at hi
    · rename_i hzero
      cases hi
      have hposition : h.length = i := by
        unfold length
        omega
      exact ⟨congrArg (· + 1) hposition, rfl, v.valid⟩
    · cases hi

theorem Sound.append {h : History} (hs : h.Sound) {now : Timestamp} (hnow : now.Exists)
    (v : AcceptedModel) : (h.append now v).Sound := by
  refine ⟨soundAt_append hs.snapshots now v, fun s hmem => ?_⟩
  rcases List.mem_append.1 hmem with hmem | hmem
  · exact hs.times s hmem
  · rw [List.mem_singleton.1 hmem]
    exact hnow

/-- Decoded snapshots were accepted at times that exist. -/
theorem yields_times : Json.Yields decoder fun h => ∀ s ∈ h.snapshots, s.acceptedAt.Exists := by
  have htime : Json.Yields Timestamp.decoder Timestamp.Exists := by
    refine Json.Yields.stringWith fun s t ht => ?_
    split at ht
    · rename_i t' ht'
      cases ht
      exact Timestamp.exists_of_ofText ht'
    · cases ht
  have hblank : Snapshot.blank.acceptedAt.Exists :=
    ⟨⟨by decide, by decide, by decide, by decide, by decide, by decide⟩, by decide⟩
  have hsnapshot : Json.Yields Snapshot.decoder fun s => s.acceptedAt.Exists := by
    refine Json.Yields.record hblank fun f hf => ?_
    simp only [List.mem_cons, List.not_mem_nil, or_false] at hf
    rcases hf with rfl | rfl | rfl | rfl | rfl
    · refine Json.keeps_of_put ?_
      exact fun _ _ h => h
    · refine htime.keeps ?_
      exact fun _ _ h _ => h
    · refine Json.keeps_of_put ?_
      exact fun _ _ h => h
    · refine Json.keeps_of_put ?_
      exact fun _ _ h => h
    · refine Json.keeps_of_put ?_
      exact fun _ _ h => h
  refine Json.Yields.record (fun _ h => nomatch h) fun f hf => ?_
  rw [List.mem_singleton.1 hf]
  refine hsnapshot.list.keeps ?_
  exact fun _ _ h _ => h

theorem sound_of_ofText {s : String} {h : History} (hs : ofText s = .ok h) : h.Sound := by
  obtain ⟨hdecode, hsound⟩ := ofText_eq_ok_iff.1 hs
  refine ⟨hsound, fun s hmem => ?_⟩
  unfold Json.decodeText at hdecode
  obtain ⟨h', hh', hdecode⟩ := bind_eq_ok.1 hdecode
  obtain ⟨-, -, hdecode⟩ := bind_eq_ok.1 hdecode
  cases hdecode
  exact yields_times _ _ _ hh' s hmem

/-- **Every snapshot of a reachable history is sound.** -/
theorem Reachable.sound {h : History} (hr : Reachable h) : h.Sound := by
  induction hr with
  | empty => exact sound_empty
  | append hr hnow v ih => exact ih.append hnow v
  | ofText hs => exact sound_of_ofText hs

end History

end GraphIngest
