import GraphIngest.Proofs.Columns.Staged
import GraphIngest.Proofs.Validation.Report

/-!
# Validation against more columns

Allowed columns may grow: a list gets more columns, a file gets more columns, or there are more
files. As long as no new file has the stem of a source of the model, every source means the same
file as before, and nothing that was right becomes wrong.

* `Widened.scope` — every source finds nothing in both, or a list and one with at least its columns;
* `Widened.violation?` — a place that is wrong for more columns is wrong in the same way for fewer;
* `validate_widened` — the report against more columns is the one against fewer, less what is gone.
-/

namespace GraphIngest

open FileName (stem)

/-- The second columns have at least those of the first, list by list, and no file of theirs that is
new has the stem of a source of the model. -/
inductive AllowedColumns.Widened (m : Model) : AllowedColumns → AllowedColumns → Prop where
  | flat {columns wider : List String} (kept : ∀ c ∈ columns, c ∈ wider) :
    Widened m (.flat columns) (.flat wider)
  | perFile {f g : FileColumns}
    (kept : ∀ x ∈ f.entries, ∃ y ∈ g.entries, y.1 = x.1 ∧ ∀ c ∈ x.2, c ∈ y.2)
    (apart : ∀ y ∈ g.entries, (∀ x ∈ f.entries, x.1 ≠ y.1) →
      ∀ e ∈ m.entities, stem y.1 ≠ stem e.sourceName) :
    Widened m (.perFile f) (.perFile g)

/-! ## The file of a source -/

namespace FileColumns

variable {f g : FileColumns} {s : String} {x y : String × List String}

/-- The entry that is found by a stem has the first name of that stem. -/
theorem not_lt_of_byStem? (hx : f.byStem? s = some x) (hy : y ∈ f.entries)
    (hstem : stem y.1 = stem s) : ¬ y.1 < x.1 := by
  obtain ⟨-, before, after, hentries, hbefore⟩ := List.find?_eq_some_iff_append.1 hx
  have hsorted := f.sorted
  rw [hentries] at hsorted hy
  rcases List.mem_append.1 hy with hy | hy
  · have hne := hbefore y hy
    simp [hstem] at hne
  · rcases List.mem_cons.1 hy with rfl | hy
    · exact String.lt_irrefl _
    · exact String.lt_asymm ((List.pairwise_cons.1 (List.pairwise_append.1 hsorted).2.1).1 y hy)

theorem exists_byStem? (hx : x ∈ f.entries) (hstem : stem x.1 = stem s) :
    ∃ y, f.byStem? s = some y := by
  have hsome : (f.byStem? s).isSome := List.find?_isSome.2 ⟨x, hx, by simpa using hstem⟩
  exact Option.isSome_iff_exists.1 hsome

theorem mem_of_byStem? (hx : f.byStem? s = some x) : x ∈ f.entries ∧ stem x.1 = stem s :=
  ⟨List.mem_of_find?_eq_some hx, by simpa using List.find?_some hx⟩

section

variable (kept : ∀ x ∈ f.entries, ∃ y ∈ g.entries, y.1 = x.1 ∧ ∀ c ∈ x.2, c ∈ y.2)
  (apart : ∀ y ∈ g.entries, (∀ x ∈ f.entries, x.1 ≠ y.1) → stem y.1 ≠ stem s)

include apart in
/-- A file with the stem of the source was there before. -/
theorem exists_name_eq (hy : y ∈ g.entries) (hstem : stem y.1 = stem s) :
    ∃ x ∈ f.entries, x.1 = y.1 := by
  refine Classical.byContradiction fun hnew => apart y hy (fun x hx heq => hnew ⟨x, hx, heq⟩) hstem

include kept apart

/-- Entries found by one stem have one name: each is the first of its stem in both. -/
theorem byStem?_rel :
    Option.Rel (fun x y => x.1 = y.1) (f.byStem? s) (g.byStem? s) := by
  cases hx : f.byStem? s with
  | none =>
    cases hy : g.byStem? s with
    | none => exact .none
    | some y =>
      obtain ⟨hmem, hstem⟩ := mem_of_byStem? hy
      obtain ⟨x, hxmem, hname⟩ := exists_name_eq apart hmem hstem
      obtain ⟨x', hx'⟩ := exists_byStem? hxmem (hname ▸ hstem)
      exact nomatch hx.symm.trans hx'
  | some x =>
    obtain ⟨hmem, hstem⟩ := mem_of_byStem? hx
    obtain ⟨z, hz, hname, -⟩ := kept x hmem
    obtain ⟨y, hy⟩ := exists_byStem? hz (hname ▸ hstem)
    obtain ⟨hymem, hystem⟩ := mem_of_byStem? hy
    obtain ⟨w, hw, hwname⟩ := exists_name_eq apart hymem hystem
    have hxy : ¬ x.1 < y.1 := hname ▸ not_lt_of_byStem? hy hz (hname ▸ hstem)
    have hyx : ¬ y.1 < x.1 := hwname ▸ not_lt_of_byStem? hx hw (hwname ▸ hystem)
    rw [hy]
    exact .some (String.le_antisymm (String.not_lt.1 hyx) (String.not_lt.1 hxy))

/-- **A source means files of one name**, also where it is found by its exact name. -/
theorem file?_rel : Option.Rel (fun x y => x.1 = y.1) (f.file? s) (g.file? s) := by
  by_cases hexact : ∃ x ∈ f.entries, x.1 = s
  · obtain ⟨x, hx, rfl⟩ := hexact
    obtain ⟨y, hy, hname, -⟩ := kept x hx
    rw [file?_of_mem hx, ← hname, file?_of_mem hy]
    exact .some hname.symm
  · have hf : ∀ x ∈ f.entries, x.1 ≠ s := fun x hx heq => hexact ⟨x, hx, heq⟩
    have hg : ∀ y ∈ g.entries, y.1 ≠ s := by
      rintro y hy rfl
      exact apart y hy hf rfl
    rw [file?_of_not_mem hf, file?_of_not_mem hg]
    exact byStem?_rel kept apart

theorem find?_rel : Option.Rel (fun columns wider => ∀ c ∈ columns, c ∈ wider)
    (f.find? s) (g.find? s) := by
  rw [find?_eq_file?, find?_eq_file?]
  have hfile := file?_rel kept apart
  cases hx : f.file? s with
  | none =>
    cases hy : g.file? s with
    | none => exact .none
    | some y => rw [hx, hy] at hfile; cases hfile
  | some x =>
    cases hy : g.file? s with
    | none => rw [hx, hy] at hfile; cases hfile
    | some y =>
      rw [hx, hy] at hfile
      obtain ⟨hname⟩ := hfile
      obtain ⟨z, hz, hzname, hcolumns⟩ := kept x (stem_of_file? hx).1
      -- Names are distinct, so the file that keeps the columns is the one that is found.
      have hzy : z = y := by
        have hz' := file?_of_mem hz
        rw [hzname, hname, file?_of_mem (stem_of_file? hy).1] at hz'
        exact (Option.some.inj hz').symm
      exact .some (hzy ▸ hcolumns)

end

end FileColumns

/-! ## The violations that remain -/

namespace AllowedColumns.Widened

variable {m : Model} {a b : AllowedColumns}

/-- **A source finds at least its columns**, or it is unknown in both. -/
theorem scope (h : Widened m a b) {e : Entity} (he : e ∈ m.entities) :
    Option.Rel (fun columns wider => ∀ c ∈ columns, c ∈ wider)
      (a.scope e.sourceName) (b.scope e.sourceName) := by
  cases h with
  | flat kept => exact .some kept
  | perFile kept apart =>
    exact FileColumns.find?_rel kept fun y hy hnew => apart y hy hnew e he

theorem scope_eq_none_iff (h : Widened m a b) {e : Entity} (he : e ∈ m.entities) :
    b.scope e.sourceName = none ↔ a.scope e.sourceName = none := by
  have hscope := h.scope he
  cases ha : a.scope e.sourceName <;> cases hb : b.scope e.sourceName <;>
    rw [ha, hb] at hscope <;> simp <;> cases hscope

theorem contains_eq_false (h : Widened m a b) {e : Entity} (he : e ∈ m.entities) {column : String}
    (hb : b.contains e.sourceName column = false) : a.contains e.sourceName column = false := by
  refine eq_false_of_ne_true fun ha => ?_
  obtain ⟨columns, hcolumns, hmem⟩ := contains_iff.1 ha
  have hscope := h.scope he
  rw [hcolumns] at hscope
  cases hwider : b.scope e.sourceName with
  | none => rw [hwider] at hscope; cases hscope
  | some wider =>
    rw [hwider] at hscope
    obtain ⟨hkept⟩ := hscope
    have htrue := contains_iff.2 ⟨wider, hwider, hkept column hmem⟩
    exact nomatch hb.symm.trans htrue

/-- **A place that is wrong for more columns is wrong in the same way for fewer.** -/
theorem violation? (h : Widened m a b) {place : Place} (hof : place.Of m) {v : Violation}
    (hv : place.violation? m b = some v) : place.violation? m a = some v := by
  cases place with
  | source e =>
    obtain ⟨hnone, ⟨⟩⟩ := Option.ite_none_right_eq_some.1 hv
    exact if_pos ((h.scope_eq_none_iff hof).1 hnone)
  | column e p =>
    obtain ⟨hc, ⟨⟩⟩ := Option.ite_none_right_eq_some.1 hv
    exact if_pos (h.contains_eq_false hof.1 hc)
  | uniqueColumn e p =>
    obtain ⟨⟨hu, hc⟩, ⟨⟩⟩ := Option.ite_none_right_eq_some.1 hv
    exact if_pos ⟨hu, h.contains_eq_false hof.1 hc⟩
  | nodeKey n => exact hv
  | endpoint r role => exact hv
  | endpointKey r role n p =>
    have he : Entity.relationship r ∈ m.entities := Model.mem_entities.2 (.inr ⟨r, hof.1, rfl⟩)
    obtain ⟨⟨hu, hsame, hs, hc⟩, ⟨⟩⟩ := Option.ite_none_right_eq_some.1 hv
    exact if_pos ⟨hu, hsame, mt (h.scope_eq_none_iff he).2 hs, h.contains_eq_false he hc⟩
  | constraint before e property => exact hv

end AllowedColumns.Widened

/-- Results that are also those of another function are among its results, in their order. -/
theorem filterMap_sublist {α β : Type} {f g : α → Option β} {l : List α}
    (h : ∀ x ∈ l, ∀ y, f x = some y → g x = some y) : (l.filterMap f).Sublist (l.filterMap g) := by
  induction l with
  | nil => exact .slnil
  | cons x l ih =>
    have hl := ih fun z hz => h z (List.mem_cons_of_mem _ hz)
    cases hf : f x with
    | some y =>
      rw [List.filterMap_cons_some hf, List.filterMap_cons_some (h x List.mem_cons_self y hf)]
      exact hl.cons_cons y
    | none =>
      rw [List.filterMap_cons_none hf]
      cases hg : g x with
      | none => rwa [List.filterMap_cons_none hg]
      | some y =>
        rw [List.filterMap_cons_some hg]
        exact hl.cons y

/-- **More columns never make a model worse.** The report against more columns lists violations of
the report against fewer, in their order, and a model that is accepted with fewer columns is
accepted with more. -/
theorem validate_widened {m : Model} {a b : AllowedColumns} (h : a.Widened m b) :
    (validate m b).Sublist (validate m a) ∧
    ((∃ v, accept m a = .ok v) → ∃ v, accept m b = .ok v ∧ v.model = m ∧ v.columns = b) := by
  have hsublist : (validate m b).Sublist (validate m a) := by
    rw [validate_eq_places, validate_eq_places]
    exact filterMap_sublist fun place hplace v hv => h.violation? (mem_places.1 hplace) hv
  refine ⟨hsublist, ?_⟩
  rintro ⟨v, hv⟩
  obtain ⟨rfl, rfl⟩ := accept_eq_ok_iff.1 hv
  rw [v.valid] at hsublist
  exact ⟨⟨v.model, b, List.sublist_nil.1 hsublist⟩, accept_eq_ok_iff.2 ⟨rfl, rfl⟩, rfl, rfl⟩

/-! ## More files -/

/-- A node from a file that is named by its stem, and a relationship from a file that is missing. -/
def growingModel : Model :=
  ⟨⟨[⟨"Order", [⟨"id", "id", none, "str", true⟩, ⟨"day", "day", none, "str", false⟩], "orders"⟩],
    [⟨"NEXT", [⟨"since", "since", none, "str", false⟩], "Order", "Order", "next.csv"⟩]⟩, by decide⟩

/-- A file gets a column, and another file comes in front of it: the node loses a violation, and the
relationship keeps its own. -/
theorem validate_widened_growing :
    ∃ a b, a.Widened growingModel b ∧ (validate growingModel b).Sublist (validate growingModel a) ∧
      (validate growingModel a).length = 3 ∧ (validate growingModel b).length = 2 := by
  have h : AllowedColumns.Widened growingModel (.perFile (.ofList [("orders.csv", ["id"])]))
      (.perFile (.ofList [("a.csv", ["since"]), ("orders.csv", ["id", "day"])])) := by
    refine .perFile ?_ ?_ <;> decide
  exact ⟨_, _, h, (validate_widened h).1, by decide, by decide⟩

end GraphIngest
