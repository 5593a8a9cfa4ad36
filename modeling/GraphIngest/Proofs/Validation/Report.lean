import GraphIngest.Proofs.Validation.Collisions

/-!
# The report of validation

`validate` reports the violation of every place of a model, place by place:

* `mappingViolations_eq`, `endpointViolations_eq` — the parts of the report, over the places of an
  entity and of an end of a relationship;
* `validate_exact` — the whole report is that of the places; it lists exactly the violations that
  are true, and it is empty, with the model accepted, exactly for a model that keeps the rules.
-/

namespace GraphIngest

variable {m : Model} {a : AllowedColumns}

theorem columnViolations_eq (e : Entity) (p : Property) :
    columnViolations a e p =
      [Place.column e p, .uniqueColumn e p].filterMap (Place.violation? m a) := by
  unfold columnViolations
  cases hc : a.contains e.sourceName p.column with
  | true => simp [Place.violation?, hc]
  | false => cases hu : p.isUnique <;> simp [Place.violation?, hc, hu]

theorem mappingViolations_eq (e : Entity) :
    mappingViolations a e = (mappingPlaces e).filterMap (Place.violation? m a) := by
  have hcolumns : e.properties.flatMap (columnViolations a e) =
      (e.properties.flatMap fun p => [.column e p, .uniqueColumn e p]).filterMap
        (Place.violation? m a) := by
    rw [List.filterMap_flatMap]
    exact congrArg e.properties.flatMap (funext (columnViolations_eq e))
  unfold mappingViolations mappingPlaces
  rw [hcolumns, List.filterMap_cons]
  cases hs : a.scope e.sourceName <;> simp [Place.violation?, hs]

theorem nodeViolations_eq (n : Node) :
    nodeViolations a n =
      (mappingPlaces (.node n) ++ [Place.nodeKey n]).filterMap (Place.violation? m a) := by
  unfold nodeViolations
  rw [mappingViolations_eq (m := m), List.filterMap_append]
  congr 1
  by_cases hkey : ∀ p ∈ n.properties, p.isUnique = false
  · rw [if_pos ((Entity.node n).keyNames_isEmpty.2 hkey)]
    simp [Place.violation?, if_pos hkey]
  · rw [if_neg fun h => hkey ((Entity.node n).keyNames_isEmpty.1 h)]
    simp [Place.violation?, if_neg hkey]

/-- The keys of an end are looked at unless it is in the relationship's file or that is unknown. -/
theorem endpointKeyViolations_eq (r : Relationship) (role : EndpointRole) (n : Node) :
    (if SourceFile.same n.sourceName r.sourceName || (a.scope r.sourceName).isNone then []
      else endpointKeyViolations a r (r.endLabel role) n) =
    (n.properties.map (.endpointKey r role n)).filterMap (Place.violation? m a) := by
  rw [List.filterMap_map]
  split
  · rename_i hskip
    refine (List.filterMap_eq_nil_iff.2 fun p _ => if_neg ?_).symm
    rintro ⟨-, hsame, hscope, -⟩
    simp [hsame, hscope] at hskip
  · rename_i hskip
    have hsame : SourceFile.same n.sourceName r.sourceName = false := by simp_all
    have hscope : a.scope r.sourceName ≠ none := by simp_all
    unfold endpointKeyViolations Entity.uniqueProperties
    rw [List.filterMap_filter]
    refine congrArg (List.filterMap · n.properties) (funext fun p => ?_)
    cases hu : p.isUnique <;>
      cases hc : a.contains r.sourceName (p.columnFor n.sourceName r.sourceName) <;>
        simp [Place.violation?, hu, hsame, hscope, hc]

theorem endpointViolations_eq (r : Relationship) (role : EndpointRole) :
    endpointViolations m a r role (r.endLabel role) =
      (endPlaces m r role).filterMap (Place.violation? m a) := by
  unfold endpointViolations endPlaces
  rw [Model.filter_label]
  cases hn : m.node? (r.endLabel role) with
  | none =>
    have hno := Model.node?_eq_none_iff.1 hn
    simp [Place.violation?, if_pos hno]
  | some n =>
    obtain ⟨hmem, hlabel⟩ := Model.node?_eq_some_iff.1 hn
    have hend : (Place.endpoint r role).violation? m a = none :=
      if_neg fun hno => hno n hmem hlabel
    rw [List.filterMap_cons_none hend]
    simpa using endpointKeyViolations_eq r role n

theorem relationshipViolations_eq (r : Relationship) :
    relationshipViolations m a r =
      (mappingPlaces (.relationship r) ++ endPlaces m r .source ++
        endPlaces m r .target).filterMap (Place.violation? m a) := by
  unfold relationshipViolations
  rw [List.filterMap_append, List.filterMap_append, ← mappingViolations_eq,
    ← endpointViolations_eq, ← endpointViolations_eq]
  rfl

/-- The report lists the violation of each place, in the order of the places. -/
theorem validate_eq_places : validate m a = m.places.filterMap (Place.violation? m a) := by
  unfold validate Model.places
  rw [List.filterMap_append, List.filterMap_append, List.filterMap_flatMap,
    List.filterMap_flatMap, collisions_eq m a m.entities Taken.start,
    funext (nodeViolations_eq (m := m)), funext relationshipViolations_eq]

theorem mem_validate {v : Violation} : v ∈ validate m a ↔ v.Holds m a := by
  rw [validate_eq_places, List.mem_filterMap, ← exists_violation?_iff]
  simp only [mem_places]

theorem validate_eq_nil_iff : validate m a = [] ↔ m.Fits a := by
  rw [Model.fits_iff, List.eq_nil_iff_forall_not_mem]
  simp only [mem_validate]

/-- **Validation is sound, complete and exact.** It reports nothing, and accepts the model with the
columns, exactly when the model keeps the rules; it refuses every other model with the report, which
lists the violations that are true, the one of each place once and in the order of the places. -/
theorem validate_exact (m : Model) (a : AllowedColumns) :
    (validate m a = [] ↔ m.Fits a) ∧
    (∀ v, accept m a = .ok v ↔ m.Fits a ∧ v.model = m ∧ v.columns = a) ∧
    ((∃ v, accept m a = .ok v) ↔ m.Fits a) ∧
    (accept m a = .error (validate m a) ↔ ¬ m.Fits a) ∧
    (∀ v, v ∈ validate m a ↔ v.Holds m a) ∧
    validate m a = m.places.filterMap (Place.violation? m a) := by
  refine ⟨validate_eq_nil_iff, fun v => ?_, ⟨?_, fun h => ?_⟩, ?_, fun v => mem_validate,
    validate_eq_places⟩
  · rw [accept_eq_ok_iff]
    refine ⟨fun ⟨hm, ha⟩ => ⟨?_, hm, ha⟩, fun h => h.2⟩
    subst hm ha
    exact validate_eq_nil_iff.1 v.valid
  · rintro ⟨v, hv⟩
    obtain ⟨rfl, rfl⟩ := accept_eq_ok_iff.1 hv
    exact validate_eq_nil_iff.1 v.valid
  · exact ⟨⟨m, a, validate_eq_nil_iff.2 h⟩, accept_eq_ok_iff.2 ⟨rfl, rfl⟩⟩
  · rw [accept_eq_error_iff, ← validate_eq_nil_iff]
    exact and_iff_left rfl

end GraphIngest
