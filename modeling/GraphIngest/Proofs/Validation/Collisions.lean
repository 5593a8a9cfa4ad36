import GraphIngest.Proofs.Validation.Places

/-!
# The pass over constraint names

`collisions` walks over the entities and keeps the names taken so far, each with the position that
took it. `Taken` is its invariant: the names of the entities before a position belong to their first
owner, and those of the first keys of the entity at the position belong to that entity itself.

* `keyCollisions_spec` — one entity: every key whose name belongs to an earlier entity is reported
  against the first such entity, and the invariant moves on by the keys of the entity;
* `collisions_eq` — the whole pass: it reports exactly these keys, in order.
-/

namespace GraphIngest

/-- The names taken by the entities before a position and by `own`, names of the entity at it. -/
structure Taken (position : Nat) (before : List Entity) (e : Entity) (own : List String)
    (taken : List TakenName) : Prop where
  earlier : ∀ name o, firstOwner? before name = some o →
    ∃ t, taken.find? (·.name == name) = some t ∧ t.owner < position ∧ t.entity = o.ref
  mine : ∀ name ∈ own, firstOwner? before name = none →
    ∃ t, taken.find? (·.name == name) = some t ∧ t.owner = position ∧ t.entity = e.ref
  free : ∀ name, name ∉ own → firstOwner? before name = none →
    taken.find? (·.name == name) = none

section

variable {position : Nat} {before : List Entity} {e : Entity} {own : List String}
  {taken : List TakenName}

/-- A name that was taken before changes nothing. -/
theorem Taken.repeated (h : Taken position before e own taken) {name : String} {t : TakenName}
    (ht : taken.find? (·.name == name) = some t) :
    Taken position before e (own ++ [name]) taken := by
  refine ⟨h.earlier, fun x hx hnone => ?_, fun x hx hnone => h.free x (by simp_all) hnone⟩
  by_cases hown : x ∈ own
  · exact h.mine x hown hnone
  · have hx : x = name := by simpa [hown] using hx
    rw [hx] at hown hnone
    exact nomatch ht.symm.trans (h.free name hown hnone)

/-- A free name is taken by the entity at the position. -/
theorem Taken.push (h : Taken position before e own taken) {name : String}
    (hfree : taken.find? (·.name == name) = none) :
    Taken position before e (own ++ [name]) (⟨name, position, e.ref⟩ :: taken) := by
  have hother : ∀ x, x ≠ name →
      (⟨name, position, e.ref⟩ :: taken).find? (·.name == x) = taken.find? (·.name == x) :=
    fun x hx => List.find?_cons_of_neg (by simpa using fun heq : name = x => hx heq.symm)
  refine ⟨fun x o ho => ?_, fun x hx hnone => ?_, fun x hx hnone => ?_⟩
  · obtain ⟨t, ht, hlt, href⟩ := h.earlier x o ho
    rw [hother x (fun heq => by rw [heq, hfree] at ht; cases ht)]
    exact ⟨t, ht, hlt, href⟩
  · by_cases heq : x = name
    · exact ⟨⟨name, position, e.ref⟩, by simp [heq], rfl, rfl⟩
    · rw [hother x heq]
      exact h.mine x (by simpa [heq] using hx) hnone
  · simp only [List.mem_append, List.mem_singleton, not_or] at hx
    rw [hother x hx.2]
    exact h.free x hx.1 hnone

/-- After all its keys, the entity counts among the ones before. -/
theorem Taken.next (h : Taken position before e e.constraintNames taken) (f : Entity) :
    Taken (position + 1) (before ++ [e]) f [] taken := by
  refine ⟨fun name o ho => ?_, by simp, fun name _ hnone => ?_⟩
  · rw [firstOwner?_append, firstOwner?_singleton, Option.or_eq_some_iff] at ho
    rcases ho with ho | ⟨hnone, ho⟩
    · obtain ⟨t, ht, hlt, href⟩ := h.earlier name o ho
      exact ⟨t, ht, by omega, href⟩
    · split at ho
      · rename_i hmem
        cases ho
        obtain ⟨t, ht, heq, href⟩ := h.mine name hmem hnone
        exact ⟨t, ht, by omega, href⟩
      · cases ho
  · rw [firstOwner?_append, firstOwner?_singleton, Option.or_eq_none_iff] at hnone
    obtain ⟨hnone, hown⟩ := hnone
    exact h.free name (by simpa using hown) hnone

theorem Taken.start (e : Entity) : Taken 0 [] e [] [] :=
  ⟨by simp [firstOwner?], by simp, by simp⟩

/-- **One entity**: the reported keys are those whose names earlier entities own. -/
theorem keyCollisions_spec (m : Model) (a : AllowedColumns) (keys : List String)
    (h : Taken position before e own taken) :
    (keyCollisions position e taken keys).1 =
        (keys.map (.constraint before e)).filterMap (Place.violation? m a) ∧
      Taken position before e (own ++ keys.map (constraintName e.name))
        (keyCollisions position e taken keys).2 := by
  induction keys generalizing own taken with
  | nil => exact ⟨rfl, by simpa [keyCollisions] using h⟩
  | cons key keys ih =>
    unfold keyCollisions
    simp only [List.map_cons, List.filterMap_cons, Place.violation?]
    split
    -- The name is taken, by an earlier entity or by an earlier key of this one.
    · rename_i t ht
      obtain ⟨hvs, htaken⟩ := ih (h.repeated ht)
      refine ⟨?_, by simpa using htaken⟩
      cases ho : firstOwner? before (constraintName e.name key) with
      | some o =>
        obtain ⟨t', ht', hlt, href⟩ := h.earlier _ o ho
        cases ht.symm.trans ht'
        simp [hvs, Nat.ne_of_lt hlt, href]
      | none =>
        have hown : constraintName e.name key ∈ own :=
          Classical.byContradiction fun hown => nomatch ht.symm.trans (h.free _ hown ho)
        obtain ⟨t', ht', heq, -⟩ := h.mine _ hown ho
        cases ht.symm.trans ht'
        simp [hvs, heq]
    · rename_i hfree
      obtain ⟨hvs, htaken⟩ := ih (h.push hfree)
      refine ⟨?_, by simpa using htaken⟩
      have ho : firstOwner? before (constraintName e.name key) = none := by
        refine Option.eq_none_iff_forall_ne_some.2 fun o ho => ?_
        obtain ⟨t, ht, -⟩ := h.earlier _ o ho
        exact nomatch hfree.symm.trans ht
      simp [hvs, ho]

end

/-- **The whole pass** reports every key whose name an earlier entity owns, and nothing else. -/
theorem collisions_eq (m : Model) (a : AllowedColumns) {position : Nat} {before : List Entity}
    {taken : List TakenName} (es : List Entity)
    (h : ∀ e, Taken position before e [] taken) :
    collisions position taken es =
      (constraintPlaces before es).filterMap (Place.violation? m a) := by
  induction es generalizing position before taken with
  | nil => rfl
  | cons e es ih =>
    obtain ⟨hvs, htaken⟩ := keyCollisions_spec m a e.keyNames (h e)
    rw [List.nil_append] at htaken
    simp only [collisions, constraintPlaces, List.filterMap_append, hvs]
    rw [ih htaken.next]

end GraphIngest
