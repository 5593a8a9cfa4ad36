import GraphIngest.Model.Codec
import GraphIngest.Proofs.Json.Decoding
import GraphIngest.Proofs.Model.Document

/-!
# Documents and models read back

What is written for a record, a document or a model is decoded to it, and holds no number.

* `Document.decodes`, `Model.decodes` — decoding gives back what was written;
* `Document.exact_toJson`, `Model.exact_toJson` — nothing is lost in the text.
-/

namespace GraphIngest

open Json (Decodes Decoder Fills)

namespace PropertyRecord

theorem decodes (r : PropertyRecord) : Decodes decoder 1 r.toJson r := by
  obtain ⟨name, column, otherColumn, type, isUnique⟩ := r
  cases otherColumn with
  | none =>
    refine Decodes.record ?_ (by simp) (by simp [Decoder.Field.of])
    exact .cons rfl (Decodes.string name).stored <| .cons rfl (Decodes.string column).stored <|
      .cons rfl (Decodes.string type).stored <| .cons rfl (Decodes.bool isUnique).stored <| .nil _
  | some other =>
    refine Decodes.record ?_ (by simp) (by simp [Decoder.Field.of])
    exact .cons rfl (Decodes.string name).stored <| .cons rfl (Decodes.string column).stored <|
      .cons rfl (Decodes.option_string other).stored <|
      .cons rfl (Decodes.string type).stored <| .cons rfl (Decodes.bool isUnique).stored <| .nil _

theorem exact_toJson (r : PropertyRecord) : r.toJson.Exact := by
  obtain ⟨name, column, otherColumn, type, isUnique⟩ := r
  cases otherColumn <;> simp [toJson, Json.Exact, Json.ExactMembers]

end PropertyRecord

/-- The properties in a record. -/
theorem PropertyRecord.decodes_list (rs : List PropertyRecord) :
    Decodes (Decoder.list PropertyRecord.decoder) 2 (.array (rs.map (·.toJson))) rs :=
  Decodes.list fun r _ => r.decodes

theorem PropertyRecord.exact_list (rs : List PropertyRecord) :
    (Json.array (rs.map (·.toJson))).Exact := by
  simp only [Json.Exact, Json.exactItems_iff, List.mem_map]
  rintro _ ⟨r, -, rfl⟩
  exact r.exact_toJson

namespace NodeRecord

theorem decodes (r : NodeRecord) : Decodes decoder 3 r.toJson r := by
  refine Decodes.record ?_ (by simp) (by simp [Decoder.Field.of])
  exact .cons rfl (Decodes.string r.label).stored <|
    .cons rfl (PropertyRecord.decodes_list r.properties).stored <|
    .cons rfl (Decodes.string r.sourceName).stored <| .nil _

theorem exact_toJson (r : NodeRecord) : r.toJson.Exact := by
  simpa [toJson, Json.Exact, Json.ExactMembers] using PropertyRecord.exact_list r.properties

end NodeRecord

namespace RelationshipRecord

theorem decodes (r : RelationshipRecord) : Decodes decoder 3 r.toJson r := by
  refine Decodes.record ?_ (by simp) (by simp [Decoder.Field.of])
  exact .cons rfl (Decodes.string r.type).stored <|
    .cons rfl (PropertyRecord.decodes_list r.properties).stored <|
    .cons rfl (Decodes.string r.source).stored <| .cons rfl (Decodes.string r.target).stored <|
    .cons rfl (Decodes.string r.sourceName).stored <| .nil _

theorem exact_toJson (r : RelationshipRecord) : r.toJson.Exact := by
  simpa [toJson, Json.Exact, Json.ExactMembers] using PropertyRecord.exact_list r.properties

end RelationshipRecord

namespace Document

/-- **A document is decoded from what is written for it.** -/
theorem decodes (d : Document) : Decodes decoder 5 d.toJson d := by
  refine Decodes.record ?_ (by simp) (by simp [Decoder.Field.of])
  exact .cons rfl (Decodes.list fun n _ => NodeRecord.decodes n).stored <|
    .cons rfl (Decodes.list fun r _ => RelationshipRecord.decodes r).stored <| .nil _

theorem exact_toJson (d : Document) : d.toJson.Exact := by
  simp only [toJson, Json.Exact, Json.ExactMembers, Json.exactItems_iff, List.mem_map]
  refine ⟨?_, ?_, trivial⟩
  · rintro _ ⟨n, -, rfl⟩
    exact n.exact_toJson
  · rintro _ ⟨r, -, rfl⟩
    exact r.exact_toJson

end Document

namespace Model

/-- **A model is decoded from what is written for it.** -/
theorem decodes (m : Model) : Decodes decoder 5 m.toJson m := by
  intro o ho
  have hbuild : m.document.build = .ok m := Document.build_eq_ok_iff.2 rfl
  have hdocument := m.document.decodes o ho
  simp [decoder, toJson, hdocument, hbuild, bind, Except.bind, pure, Except.pure]

theorem exact_toJson (m : Model) : m.toJson.Exact := m.document.exact_toJson

end Model

end GraphIngest
