import GraphIngest.Proofs.History.Saved
import GraphIngest.Proofs.Model.Construction

/-!
# Histories in order

Whatever is appended to a history and whatever text it is read from, its versions count from one,
its fingerprints are those of its models, and its models are complete and valid. Appending leaves
the earlier versions alone.

* `ofText_eq_ok_iff_wellFormed` — of the histories that texts decode to, those in order are read;
* `reachable_wellFormed` — every reachable history is in order, before and after each step.
-/

namespace GraphIngest.History

/-- The versions count from one, and every version holds a complete model that is valid for its
columns, under the fingerprint of that model. -/
structure WellFormed (h : History) : Prop where
  numbered : ∀ (i : Nat) (s : Snapshot), h.snapshots[i]? = some s → s.version = i + 1
  fingerprinted : ∀ s ∈ h.snapshots, s.fingerprint = s.model.fingerprint
  valid : ∀ s ∈ h.snapshots, validate s.model s.columns = []
  complete : ∀ s ∈ h.snapshots, s.model.document.Complete

variable {h : History}

/-- A history is in order exactly when its snapshots hold together at their places: models are
complete by the way they are built. -/
theorem wellFormed_iff :
    h.WellFormed ↔
      ∀ (i : Nat) (s : Snapshot), h.snapshots[i]? = some s → s.SoundAt (i + 1) := by
  constructor
  · intro hw i s hi
    have hmem : s ∈ h.snapshots := List.mem_of_getElem? hi
    exact ⟨hw.numbered i s hi, (hw.fingerprinted s hmem).symm, hw.valid s hmem⟩
  · intro hs
    have hmem : ∀ s ∈ h.snapshots, ∃ i, s.SoundAt (i + 1) := by
      intro s hmem
      obtain ⟨i, hi⟩ := List.mem_iff_getElem?.1 hmem
      exact ⟨i, hs i s hi⟩
    refine ⟨fun i s hi => (hs i s hi).numbered, fun s hs => ?_, fun s hs => ?_,
      fun s _ => s.model.document_complete⟩
    · obtain ⟨i, hsound⟩ := hmem s hs
      exact hsound.fingerprinted.symm
    · obtain ⟨i, hsound⟩ := hmem s hs
      exact hsound.valid

/-- **Of the histories that texts decode to, those in order are read.** -/
theorem ofText_eq_ok_iff_wellFormed {text : String} :
    ofText text = .ok h ↔ Json.decodeText decoder text = .ok h ∧ h.WellFormed := by
  rw [ofText_eq_ok_iff, wellFormed_iff]

theorem WellFormed.append (hw : h.WellFormed) (now : Timestamp) (v : AcceptedModel) :
    (h.append now v).WellFormed :=
  wellFormed_iff.2 (soundAt_append (wellFormed_iff.1 hw) now v)

/-- Earlier versions stay where they are. -/
theorem getElem?_append {i : Nat} {s : Snapshot} (hi : h.snapshots[i]? = some s) (now : Timestamp)
    (v : AcceptedModel) : (h.append now v).snapshots[i]? = some s := by
  obtain ⟨hlt, -⟩ := List.getElem?_eq_some_iff.1 hi
  unfold append
  rwa [List.getElem?_append_left hlt]

/-- **Every reachable history is in order.** Appending an accepted model leaves the versions before
it in their places and puts one behind them, with the model and its columns. No text is read as a
history that is not in order, and every history in order that a text decodes to is read. -/
theorem reachable_wellFormed :
    (∀ h : History, Reachable h → h.WellFormed) ∧
    (∀ (h : History) (now : Timestamp) (v : AcceptedModel),
      (h.WellFormed → (h.append now v).WellFormed) ∧
      (∀ (i : Nat) (s : Snapshot), h.snapshots[i]? = some s →
        (h.append now v).snapshots[i]? = some s) ∧
      (h.append now v).length = h.length + 1 ∧
      ∃ s, (h.append now v).snapshots[h.length]? = some s ∧ s.model = v.model ∧
        s.columns = v.columns) ∧
    ∀ (text : String) (h : History),
      ofText text = .ok h ↔ Json.decodeText decoder text = .ok h ∧ h.WellFormed := by
  refine ⟨fun h hr => wellFormed_iff.2 hr.sound.snapshots,
    fun h now v => ⟨fun hw => hw.append now v, ?_, ?_, ?_⟩,
    fun text h => ofText_eq_ok_iff_wellFormed⟩
  · exact fun i s hi => getElem?_append hi now v
  · unfold length append
    exact List.length_append
  · exact ⟨h.nextSnapshot now v, List.getElem?_concat_length, rfl, rfl⟩

/-- A history that is read from a text, with another version behind what was read, is in order. -/
theorem reachable_wellFormed_person :
    ∃ h, Reachable h ∧ h.length = 2 ∧ h.WellFormed := by
  have hnow : (⟨2024, 2, 29, 23, 59, 60, 5⟩ : Timestamp).Exists :=
    ⟨⟨by decide, by decide, by decide, by decide, by decide, by decide⟩, by decide⟩
  have hread := (Reachable.empty.append hnow personAccepted).sound.ofText_text (by decide)
  have hr := (Reachable.ofText hread).append hnow personAccepted
  exact ⟨_, hr, rfl, reachable_wellFormed.1 _ hr⟩

end GraphIngest.History
