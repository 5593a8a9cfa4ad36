import GraphIngest.Proofs.Columns.Codec
import GraphIngest.Proofs.History.Reachable
import GraphIngest.Proofs.Model.Codec

/-!
# Saved histories

The text that a history is saved as is read as that history: each record is decoded field by field
from what was written for it, and the re-checks find nothing in sound snapshots.

* `Snapshot.decodes`, `History.decodes` — what is written is decoded to what it was written for;
* `History.ofText_text` — a reachable history is read back from its text.
-/

namespace GraphIngest

open Json (Decodes Decoder)

theorem Timestamp.decodes {t : Timestamp} (h : t.Exists) {depth : Nat} :
    Decodes decoder depth t.toJson t := by
  refine Decodes.stringWith ?_
  rw [Timestamp.ofText_text h]

theorem Snapshot.decodes {s : Snapshot} (h : s.acceptedAt.Exists) :
    Decodes decoder 6 s.toJson s := by
  refine Decodes.record ?_ (by simp) (by simp [Decoder.Field.of])
  exact .cons rfl (Decodes.size s.version).stored <| .cons rfl (Timestamp.decodes h).stored <|
    .cons rfl (Decodes.string s.fingerprint).stored <|
    .cons rfl (s.columns.decodes.mono (by decide)).stored <|
    .cons rfl s.model.decodes.stored <| .nil _

/-- The number of a version is kept exactly within 64 bits. -/
theorem Snapshot.exact_toJson {s : Snapshot} (h : s.version < 2 ^ 64) : s.toJson.Exact := by
  have hversion : Json.IsWord s.version := by
    unfold Json.IsWord
    omega
  exact ⟨hversion, trivial, trivial, s.columns.exact_toJson, s.model.exact_toJson, trivial⟩

namespace History

theorem decodes {h : History} (ht : ∀ s ∈ h.snapshots, s.acceptedAt.Exists) :
    Decodes decoder 8 h.toJson h := by
  refine Decodes.record ?_ (by simp) (by simp [Decoder.Field.of])
  exact .cons rfl (Decodes.list fun s hs => Snapshot.decodes (ht s hs)).stored <| .nil _

theorem exact_toJson {h : History} (hv : ∀ s ∈ h.snapshots, s.version < 2 ^ 64) :
    h.toJson.Exact := by
  refine ⟨Json.exactItems_iff.2 fun j hj => ?_, trivial⟩
  obtain ⟨s, hs, rfl⟩ := List.mem_map.1 hj
  exact Snapshot.exact_toJson (hv s hs)

/-- The versions of sound snapshots count up to the length. -/
theorem Sound.version_le {h : History} (hs : h.Sound) {s : Snapshot} (hmem : s ∈ h.snapshots) :
    s.version ≤ h.length := by
  obtain ⟨i, hi, rfl⟩ := List.mem_iff_getElem.1 hmem
  have hsound := hs.snapshots i _ (List.getElem?_eq_getElem hi)
  rw [hsound.numbered]
  exact hi

/-- Versions are kept exactly by the text, and nothing that is re-checked after reading fails. -/
theorem Sound.ofText_text {h : History} (hs : h.Sound) (hlength : h.length < 2 ^ 64) :
    ofText h.text = .ok h := by
  have hversion : ∀ s ∈ h.snapshots, s.version < 2 ^ 64 := fun s hmem =>
    Nat.lt_of_le_of_lt (hs.version_le hmem) hlength
  have hdecode : Json.decodeText decoder h.text = .ok h :=
    Json.decodeText_pretty (decodes hs.times) (by decide) (exact_toJson hversion)
  exact ofText_eq_ok_iff.2 ⟨hdecode, hs.snapshots⟩

/-- **A saved history is read back.** Whatever a program appended to it or read it from, the text of
a history is read as that history. A version is a 64-bit number, so no history gets longer than
they reach. -/
theorem reload {h : History} (hr : Reachable h) (hlength : h.length < 2 ^ 64) :
    ofText h.text = .ok h :=
  hr.sound.ofText_text hlength

/-- A model of one node, accepted with a file of its own and one without columns. -/
def personAccepted : AcceptedModel where
  model := ⟨⟨[⟨"Person", [⟨"name", "full \"name\"", none, "str", true⟩], "people"⟩], []⟩, by decide⟩
  columns := .perFile (.ofList [("empty.csv", []), ("people.csv", ["full \"name\""])])
  valid := by decide

/-- A history of one version is read back. -/
theorem reload_person :
    ∃ h, Reachable h ∧ h.length = 1 ∧ h.length < 2 ^ 64 ∧ ofText h.text = .ok h :=
  have hnow : (⟨2024, 2, 29, 23, 59, 60, 5⟩ : Timestamp).Exists :=
    ⟨⟨by decide, by decide, by decide, by decide, by decide, by decide⟩, by decide⟩
  have hr := Reachable.empty.append hnow personAccepted
  ⟨_, hr, rfl, by decide, reload hr (by decide)⟩

end History

end GraphIngest
