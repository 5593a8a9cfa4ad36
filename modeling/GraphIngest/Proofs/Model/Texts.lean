import GraphIngest.Proofs.Basic
import GraphIngest.Proofs.Model.Codec

/-!
# Texts of documents and models

The text of a document holds all of it, in either layout, whatever its own texts are made of. A text
is a model exactly when it is a document that can be built, so the text of a model holds the model.

* `Document.ofText_prettyText`, `Document.ofText_compactText` — a document is read back;
* `Model.decodeText_eq_ok_iff` — a text is decoded as a model when its document is built to it;
* `faithful_texts` — documents and models with their texts.
-/

namespace GraphIngest

namespace Document

/-- **A document is read back** from its text with a line for every member and item. -/
theorem ofText_prettyText (d : Document) : ofText d.prettyText = .ok d :=
  Json.decodeText_pretty d.decodes (by decide) d.exact_toJson

/-- **A document is read back** from its text without spaces. -/
theorem ofText_compactText (d : Document) : ofText d.compactText = .ok d :=
  Json.decodeText_compact d.decodes (by decide) d.exact_toJson

end Document

namespace Model

theorem decoder_eq_ok_iff {o : Json.Origin} {t : Json.Tree} {m : Model} :
    decoder o t = .ok m ↔ ∃ d, Document.decoder o t = .ok d ∧ d.build = .ok m := by
  unfold decoder
  refine bind_eq_ok.trans (exists_congr fun d => and_congr_right fun _ => ?_)
  -- Both sides have errors of their own, so only the results can be compared.
  cases d.build with
  | ok m' =>
    constructor
    · intro h
      cases h
      rfl
    · intro h
      cases h
      rfl
  | error issues =>
    constructor
    · intro h
      cases h
    · intro h
      cases h

/-- **A text is decoded as a model** exactly when it is a document that is built to the model. -/
theorem decodeText_eq_ok_iff {s : String} {m : Model} :
    Json.decodeText decoder s = .ok m ↔ ∃ d, Document.ofText s = .ok d ∧ d.build = .ok m := by
  unfold Document.ofText Json.decodeText
  constructor
  · intro h
    obtain ⟨m', hm, h⟩ := bind_eq_ok.1 h
    obtain ⟨u, hend, h⟩ := bind_eq_ok.1 h
    cases h
    obtain ⟨d, hd, hbuild⟩ := decoder_eq_ok_iff.1 hm
    exact ⟨d, bind_eq_ok.2 ⟨d, hd, bind_eq_ok.2 ⟨u, hend, rfl⟩⟩, hbuild⟩
  · rintro ⟨d, h, hbuild⟩
    obtain ⟨d', hd, h⟩ := bind_eq_ok.1 h
    obtain ⟨u, hend, h⟩ := bind_eq_ok.1 h
    cases h
    exact bind_eq_ok.2 ⟨m, decoder_eq_ok_iff.2 ⟨d, hd, hbuild⟩, bind_eq_ok.2 ⟨u, hend, rfl⟩⟩

theorem build_document (m : Model) : m.document.build = .ok m := Document.build_eq_ok_iff.2 rfl

/-- **A model is decoded from its text** with a line for every member and item. -/
theorem decodeText_pretty (m : Model) : Json.decodeText decoder m.toJson.pretty = .ok m :=
  decodeText_eq_ok_iff.2 ⟨m.document, m.document.ofText_prettyText, m.build_document⟩

/-- **A model is decoded from its text** without spaces. -/
theorem decodeText_compact (m : Model) : Json.decodeText decoder m.toJson.compact = .ok m :=
  decodeText_eq_ok_iff.2 ⟨m.document, m.document.ofText_compactText, m.build_document⟩

end Model

/-- **Documents and models are faithful to their texts.** Every document is read back from both of
its texts, and every model is decoded from both of its own. A model is built again from its
document, which is the only document that it is built from: the one that describes it, field by
field. A text that was written elsewhere is decoded as a model exactly when it is read as a document
that is built to the model. -/
theorem faithful_texts :
    (∀ d : Document, Document.ofText d.prettyText = .ok d ∧
      Document.ofText d.compactText = .ok d) ∧
    (∀ m : Model, m.document.build = .ok m ∧
      Json.decodeText Model.decoder m.toJson.pretty = .ok m ∧
      Json.decodeText Model.decoder m.toJson.compact = .ok m) ∧
    (∀ (d : Document) (m : Model), (d.build = .ok m ↔ m.document = d) ∧
      (m.document = d ↔ d.Describes m)) ∧
    ∀ (s : String) (m : Model), Json.decodeText Model.decoder s = .ok m ↔
      ∃ d, Document.ofText s = .ok d ∧ d.build = .ok m :=
  ⟨fun d => ⟨d.ofText_prettyText, d.ofText_compactText⟩,
    fun m => ⟨m.build_document, m.decodeText_pretty, m.decodeText_compact⟩,
    fun _ _ => ⟨Document.build_eq_ok_iff, Document.describes_iff.symm⟩,
    fun _ _ => Model.decodeText_eq_ok_iff⟩

end GraphIngest
