import GraphIngest.Proofs.History.Saved
import GraphIngest.Proofs.Loader.Config

/-!
# Exports of valid models

The generator does not validate, so it can fail at an end that no node declares. Models that are
exported have been validated, either as a version of a history or as a candidate, and validation
reports just these ends.

* `Exported.fits` — every model that is exported keeps the rules;
* `validator_and_generator_agree` — the generator fails exactly at the first end that is reported,
  and so never for a model that is exported.
-/

namespace GraphIngest

open Cypher

/-- The models that are exported: those of the versions of a history that a program comes to, and
candidates that are accepted. -/
inductive Exported : Model → Prop where
  | version {h : History} (hr : h.Reachable) {s : Snapshot} (hs : s ∈ h.snapshots) :
    Exported s.model
  | candidate {m : Model} {a : AllowedColumns} {v : AcceptedModel} (hv : m.candidate a = .ok v) :
    Exported v.model

variable {m : Model}

/-- **Every model that is exported keeps the rules** with respect to some columns. -/
theorem Exported.fits (h : Exported m) : ∃ a, m.Fits a := by
  cases h with
  | version hr hs =>
    obtain ⟨i, hi⟩ := List.mem_iff_getElem?.1 hs
    exact ⟨_, validate_eq_nil_iff.1 (hr.sound.snapshots i _ hi).valid⟩
  | @candidate _ _ v hv => exact ⟨_, validate_eq_nil_iff.1 v.valid⟩

/-- The script of a valid model has a statement for each entity, in order. Each of them ends with a
semicolon and a line break, and an empty line stands between two. -/
theorem Model.Fits.exists_script {a : AllowedColumns} (h : m.Fits a) (strategy : Strategy)
    (sizes : BatchSizes) :
    ∃ statements,
      m.script strategy sizes = .ok ("\n".intercalate (statements.map (· ++ ";\n"))) ∧
      List.Forall₂ (LoadsByKeys m strategy sizes) m.entities statements := by
  obtain ⟨statements, hstatements, hloads⟩ := exists_mapM_eq_ok
    (R := LoadsByKeys m strategy sizes) fun e he => h.exists_statement strategy sizes he
  refine ⟨statements, ?_, hloads⟩
  unfold Model.script
  rw [ingestionScript_eq_ok (mapM_eq_ok_iff.1 hstatements), joinStatements]

/-- **Validation and the generator agree on the ends of relationships**, for every model and all
columns: the statements of the relationships fail exactly when the report has an unknown end, and
the first failure is about the first such end. So every model that is exported has a script, whose
text is one statement for each node and then each relationship, each ended by a semicolon and with
keys that are not empty, and there is a loader configuration unless a file of the user's statements
cannot be read. -/
theorem validator_and_generator_agree :
    (∀ (m : Model) (a : AllowedColumns) (rs : List Relationship) (sizes : BatchSizes)
        (strategy : Strategy),
      let statements :=
        m.relationships.mapM (Generator.relationshipStatement ⟨m.nodes, rs, sizes⟩ strategy)
      ((∃ e, statements = .error e) ↔
        ∃ type role label, .unknownEndpoint type role label ∈ validate m a) ∧
      ∀ e, statements = .error e ↔ (validate m a).findSome? Violation.undeclared? = some e) ∧
    ∀ m : Model, Exported m → ∀ (strategy : Strategy) (sizes : BatchSizes),
      (∃ statements,
        m.script strategy sizes = .ok ("\n".intercalate (statements.map (· ++ ";\n"))) ∧
        List.Forall₂ (LoadsByKeys m strategy sizes) m.entities statements) ∧
      ∀ (σ : Type) [FileAccess (StateM σ)] (options : LoaderOptions) (s s' : σ) (e : ExportError),
        (m.loaderConfig strategy options : StateM σ _).run s = (.error e, s') ↔
          ∃ cause, e = .ingestCode cause ∧ Unreadable options s s' cause := by
  refine ⟨fun m a rs sizes strategy => ⟨?_, fun e => ?_⟩, fun m hm strategy sizes => ⟨?_, ?_⟩⟩
  · rw [← exists_undeclared?_iff]
    exact exists_congr fun e => mapM_relationshipStatement_eq_error_iff a
  · exact mapM_relationshipStatement_eq_error_iff a
  · obtain ⟨a, hfits⟩ := hm.fits
    exact hfits.exists_script strategy sizes
  · intro σ _ options s s' e
    obtain ⟨a, hfits⟩ := hm.fits
    exact hfits.readConfig_eq_error_iff

/-- The condition of `validator_and_generator_agree` is met by the version of a history. Its script
is one statement, which merges a node on its name. -/
theorem validator_and_generator_agree_person :
    Exported History.personAccepted.model ∧
    History.personAccepted.model.script .standard .default =
      .ok ("WITH $rows AS rows\nUNWIND rows AS row\n" ++
        "MERGE (n:Person \x7bname: row.\x60full \"name\"\x60\x7d)" ++ ";\n") := by
  have hnow : (⟨2024, 2, 29, 23, 59, 60, 5⟩ : Timestamp).Exists :=
    ⟨⟨by decide, by decide, by decide, by decide, by decide, by decide⟩, by decide⟩
  have hexported : Exported History.personAccepted.model :=
    .version (History.Reachable.empty.append hnow History.personAccepted)
      (List.mem_singleton_self _)
  obtain ⟨statements, hscript, hloads⟩ :=
    (validator_and_generator_agree.2 _ hexported .standard .default).1
  obtain ⟨statement, rest, hstatement, hrest, rfl⟩ := List.forall₂_cons_left_iff.1 hloads
  cases hrest
  cases hstatement with
  | node _ hruns =>
    cases hruns
    exact ⟨hexported, hscript⟩

end GraphIngest
