import GraphIngest.Diagram
import GraphIngest.Proofs.Exporter
import GraphIngest.Proofs.History.WellFormed
import GraphIngest.Proofs.Model.Texts
import GraphIngest.Proofs.Text.Bytes

/-!
# What a fingerprint says

The fingerprint of a model is the hash of its canonical text, which holds the model. So models with
one fingerprint are the same, or their texts are a collision of the hash. Nothing is assumed about
the hash: where a statement needs that two texts do not collide, it says which ones.

* `Digest.hexHash_eq_iff` — texts with one hash are the same or collide;
* `Model.fingerprint_eq_iff` — so are models with one fingerprint, up to their canonical texts;
* `History.exists_corruption` — a text with a snapshot of another fingerprint is not read;
* `fingerprint_identifies` — what follows for models, for saved histories and for exports.
-/

namespace GraphIngest

/-! ## Hashes as texts -/

namespace Digest

/-- Two lists of bytes that differ and have one hash. -/
def Collide (xs ys : List UInt8) : Prop := xs ≠ ys ∧ hash xs = hash ys

theorem digitChar_inj {i j : Nat} (hi : i < 16) (hj : j < 16)
    (h : Nat.digitChar i = Nat.digitChar j) : i = j := by
  have hdigits : ∀ i < 16, ∀ j < 16, Nat.digitChar i = Nat.digitChar j → i = j := by decide
  exact hdigits i hi j hj h

theorem hexByte_inj {b c : UInt8} (h : hexByte b = hexByte c) : b = c := by
  obtain ⟨hhigh, hlow⟩ := List.cons.inj h
  have hb : b.toNat < 256 := b.toNat_lt
  have hc : c.toNat < 256 := c.toNat_lt
  have hdiv : b.toNat / 16 = c.toNat / 16 := digitChar_inj (by omega) (by omega) hhigh
  have hmod : b.toNat % 16 = c.toNat % 16 :=
    digitChar_inj (by omega) (by omega) (List.cons.inj hlow).1
  refine UInt8.toNat_inj.1 ?_
  omega

/-- The digits of bytes can be taken apart again, two for each byte. -/
theorem flatMap_hexByte_inj {xs ys : List UInt8} (h : xs.flatMap hexByte = ys.flatMap hexByte) :
    xs = ys := by
  induction xs generalizing ys with
  | nil =>
    cases ys with
    | nil => rfl
    | cons y ys => cases h
  | cons x xs ih =>
    cases ys with
    | nil => cases h
    | cons y ys =>
      rw [List.flatMap_cons, List.flatMap_cons] at h
      obtain ⟨hbyte, hrest⟩ := List.append_inj h rfl
      rw [hexByte_inj hbyte, ih hrest]

/-- **Texts with one hash are the same, or their bytes collide.** -/
theorem hexHash_eq_iff {s t : String} :
    hexHash s = hexHash t ↔ s = t ∨ Collide s.toUTF8.toList t.toUTF8.toList := by
  constructor
  · intro h
    by_cases hbytes : s.toUTF8.toList = t.toUTF8.toList
    · exact .inl (Text.toUTF8_toList_inj.1 hbytes)
    · exact .inr ⟨hbytes, flatMap_hexByte_inj (String.ofList_inj.1 h)⟩
  · rintro (rfl | ⟨-, hhash⟩)
    · rfl
    · unfold hexHash
      rw [hhash]

end Digest

/-! ## Models -/

namespace Model

/-- The canonical texts of two models collide. -/
def Collide (m m' : Model) : Prop :=
  Digest.Collide m.canonicalText.toUTF8.toList m'.canonicalText.toUTF8.toList

/-- The canonical text holds the whole model, since the model is decoded from it. -/
theorem canonicalText_inj {m m' : Model} : m.canonicalText = m'.canonicalText ↔ m = m' := by
  constructor
  · intro h
    have hm : Json.decodeText decoder m.canonicalText = .ok m := m.decodeText_compact
    have hm' : Json.decodeText decoder m'.canonicalText = .ok m' := m'.decodeText_compact
    rw [h] at hm
    exact Except.ok.inj (hm.symm.trans hm')
  · rintro rfl
    rfl

/-- **Models with one fingerprint are the same, or their canonical texts collide.** -/
theorem fingerprint_eq_iff {m m' : Model} :
    m.fingerprint = m'.fingerprint ↔ m = m' ∨ m.Collide m' := by
  rw [← canonicalText_inj]
  exact Digest.hexHash_eq_iff

theorem fingerprint_inj {m m' : Model} (h : ¬ m.Collide m') :
    m.fingerprint = m'.fingerprint ↔ m = m' :=
  fingerprint_eq_iff.trans (or_iff_left h)

/-- Two models have the same exports, and no export of either fails. -/
structure SameExports (m m' : Model) : Prop where
  constraints : Cypher.constraints m = Cypher.constraints m'
  script : ∀ strategy sizes, ∃ s, m.script strategy sizes = .ok s ∧ m'.script strategy sizes = .ok s
  document : m.document.prettyText = m'.document.prettyText
  diagram : (Diagram.ofModel m).toJson.pretty = (Diagram.ofModel m').toJson.pretty

end Model

theorem Exported.sameExports {m : Model} (h : Exported m) : m.SameExports m := by
  obtain ⟨a, hfits⟩ := h.fits
  refine ⟨rfl, fun strategy sizes => ?_, rfl, rfl⟩
  obtain ⟨statements, hscript, -⟩ := hfits.exists_script strategy sizes
  exact ⟨_, hscript, hscript⟩

/-! ## Histories -/

/-- A text passes off another model as the one of a snapshot: among the snapshots that it decodes
to, one has the number and the fingerprint of the snapshot, but the other model. -/
structure Snapshot.ForgedIn (s : Snapshot) (text : String) (m : Model) : Prop where
  differs : m ≠ s.model
  held : ∃ h, Json.decodeText History.decoder text = .ok h ∧ ∃ s' ∈ h.snapshots,
    s'.version = s.version ∧ s'.fingerprint = s.fingerprint ∧ s'.model = m

namespace History

variable {h : History} {s : Snapshot} {text : String}

/-- **A text is not read when a fingerprint is not the one of its model.** The fingerprint is
computed again from the model that the text decodes to. -/
theorem exists_corruption (hdecode : Json.decodeText decoder text = .ok h) (hs : s ∈ h.snapshots)
    (hfingerprint : s.model.fingerprint ≠ s.fingerprint) :
    ∃ cause, ofText text = .error (.corrupt cause) := by
  have hunsound : corruptionFrom? 1 h.snapshots ≠ none := by
    intro hnone
    obtain ⟨i, hi⟩ := List.mem_iff_getElem?.1 hs
    exact hfingerprint (corruptionFrom?_eq_none_iff.1 hnone i s hi).fingerprinted
  obtain ⟨cause, hcause⟩ := Option.ne_none_iff_exists'.1 hunsound
  refine ⟨cause, ?_⟩
  unfold ofText
  rw [hdecode]
  dsimp only
  rw [hcause]

theorem Reachable.fingerprint_eq (hr : h.Reachable) (hs : s ∈ h.snapshots) :
    s.fingerprint = s.model.fingerprint :=
  (wellFormed_iff.2 hr.sound.snapshots).fingerprinted s hs

/-- Snapshots with one fingerprint have one model, unless the canonical texts collide. -/
theorem Reachable.model_eq {h' : History} {s' : Snapshot} (hr : h.Reachable) (hr' : h'.Reachable)
    (hs : s ∈ h.snapshots) (hs' : s' ∈ h'.snapshots) (hfingerprint : s.fingerprint = s'.fingerprint)
    (hcollide : ¬ s.model.Collide s'.model) : s.model = s'.model := by
  rw [hr.fingerprint_eq hs, hr'.fingerprint_eq hs'] at hfingerprint
  exact (Model.fingerprint_inj hcollide).1 hfingerprint

/-- **A forged text is not read**, unless the canonical texts of the two models collide. -/
theorem Reachable.exists_corruption_of_forgedIn {m : Model} (hr : h.Reachable)
    (hs : s ∈ h.snapshots) (hforged : s.ForgedIn text m) (hcollide : ¬ s.model.Collide m) :
    ∃ cause, History.ofText text = .error (.corrupt cause) := by
  obtain ⟨hdiffers, h', hdecode, s', hs', -, hfingerprint, rfl⟩ := hforged
  refine exists_corruption hdecode hs' fun hmatches => hdiffers ?_
  rw [hfingerprint, hr.fingerprint_eq hs] at hmatches
  exact ((Model.fingerprint_inj hcollide).1 hmatches.symm).symm

end History

/-- **The fingerprint identifies the model**, as long as the hash does not collide on the canonical
texts of the two models in question. Two models have one fingerprint exactly when they are the same.
So no text is read that keeps the number and the fingerprint of a version of a saved history but
holds another model; and two versions with one fingerprint, of whatever histories a program comes
to, have the same constraints, scripts, document and diagram. -/
theorem fingerprint_identifies :
    (∀ m m' : Model, ¬ m.Collide m' → (m.fingerprint = m'.fingerprint ↔ m = m')) ∧
    (∀ (text forged : String) (h : History) (s : Snapshot) (m : Model),
      History.ofText text = .ok h → s ∈ h.snapshots → s.ForgedIn forged m →
      ¬ s.model.Collide m → ∃ cause, History.ofText forged = .error (.corrupt cause)) ∧
    ∀ (h h' : History) (s s' : Snapshot), h.Reachable → h'.Reachable →
      s ∈ h.snapshots → s' ∈ h'.snapshots → s.fingerprint = s'.fingerprint →
      ¬ s.model.Collide s'.model → s.model.SameExports s'.model := by
  refine ⟨fun m m' => Model.fingerprint_inj, ?_, ?_⟩
  · intro text forged h s m htext hs hforged hcollide
    exact (History.Reachable.ofText htext).exists_corruption_of_forgedIn hs hforged hcollide
  · intro h h' s s' hr hr' hs hs' hfingerprint hcollide
    rw [← hr.model_eq hr' hs hs' hfingerprint hcollide]
    exact (Exported.version hr hs).sameExports

/-! A history of one version, and a text that has its key read from another column. -/

section

open History (personAccepted)

/-- The model of `personAccepted`, except for the column that its key is read from. -/
def renamedModel : Model :=
  ⟨⟨[⟨"Person", [⟨"name", "first \"name\"", none, "str", true⟩], "people"⟩], []⟩, by decide⟩

/-- A leap second of a leap day. -/
def leapSecond : Timestamp := ⟨2024, 2, 29, 23, 59, 60, 5⟩

/-- A history of one version. -/
def personHistory : History := History.empty.append leapSecond personAccepted

/-- The saved form of that history with another model in it. -/
def forgedHistory : History :=
  ⟨[{ History.empty.nextSnapshot leapSecond personAccepted with model := renamedModel }]⟩

theorem leapSecond_exists : leapSecond.Exists :=
  ⟨⟨by decide, by decide, by decide, by decide, by decide, by decide⟩, by decide⟩

theorem forgedIn_forgedHistory :
    (History.empty.nextSnapshot leapSecond personAccepted).ForgedIn forgedHistory.text
      renamedModel where
  differs := by decide
  held := by
    have htimes : ∀ s ∈ forgedHistory.snapshots, s.acceptedAt.Exists :=
      List.forall_mem_singleton.2 leapSecond_exists
    have hversions : ∀ s ∈ forgedHistory.snapshots, s.version < 2 ^ 64 :=
      List.forall_mem_singleton.2 (by decide)
    have hdecode : Json.decodeText History.decoder forgedHistory.text = .ok forgedHistory :=
      Json.decodeText_pretty (History.decodes htimes) (by decide) (History.exact_toJson hversions)
    exact ⟨forgedHistory, hdecode, _, List.mem_singleton_self _, rfl, rfl, rfl⟩

/-- The first bytes of the hashes differ already. -/
theorem not_collide_renamedModel : ¬ personAccepted.model.Collide renamedModel := by
  rintro ⟨-, hhash⟩
  have hfirst : (Digest.hash personAccepted.model.canonicalText.toUTF8.toList).head? ≠
      (Digest.hash renamedModel.canonicalText.toUTF8.toList).head? := by decide +kernel
  exact hfirst (congrArg List.head? hhash)

/-- The conditions of `fingerprint_identifies` are met by a forged text of a history, and by
versions of two histories that have one model. -/
theorem fingerprint_identifies_person :
    personAccepted.model.fingerprint ≠ renamedModel.fingerprint ∧
    History.ofText personHistory.text = .ok personHistory ∧
    (∃ cause, History.ofText forgedHistory.text = .error (.corrupt cause)) ∧
    ∃ s ∈ personHistory.snapshots, s.model.nodes.length = 1 ∧
      ∃ h : History, h.Reachable ∧ ∃ s' ∈ h.snapshots,
        s.version ≠ s'.version ∧ s.model.SameExports s'.model := by
  obtain ⟨hmodels, hforged, hexports⟩ := fingerprint_identifies
  have hr : personHistory.Reachable := .append .empty leapSecond_exists personAccepted
  have hread : History.ofText personHistory.text = .ok personHistory :=
    History.reload hr (by decide)
  have hmem : History.empty.nextSnapshot leapSecond personAccepted ∈ personHistory.snapshots :=
    List.mem_singleton_self _
  have hr' : (personHistory.append leapSecond personAccepted).Reachable :=
    hr.append leapSecond_exists personAccepted
  have hmem' : personHistory.nextSnapshot leapSecond personAccepted ∈
      (personHistory.append leapSecond personAccepted).snapshots :=
    List.mem_append_right _ (List.mem_singleton_self _)
  refine ⟨fun h => ?_, hread, ?_, _, hmem, rfl, _, hr', _, hmem', by decide, ?_⟩
  · exact forgedIn_forgedHistory.differs ((hmodels _ _ not_collide_renamedModel).1 h).symm
  · exact hforged _ _ _ _ _ hread hmem forgedIn_forgedHistory not_collide_renamedModel
  · exact hexports _ _ _ _ hr hr' hmem hmem' rfl fun h => h.1 rfl

end

end GraphIngest
