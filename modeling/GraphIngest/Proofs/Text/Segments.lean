import GraphIngest.Text.Lines

/-!
# Segments of texts that are put together

Where a text is put together from parts without the separator, its segments are these parts.

* `segments_append` — a part in front of a separator is the first segment;
* `exists_segments_append` — a text without the separator goes on with the last segment;
* `not_mem_of_mem_segments` — no segment has the separator in it;
* `flatten_segments` — all that the segments leave out are the separators.
-/

namespace GraphIngest.Text

variable {sep : Char} {cs ds : List Char}

theorem segments_cons_of_ne {c : Char} (hc : c ≠ sep) {s : List Char} {ss : List (List Char)}
    (h : segments sep cs = s :: ss) : segments sep (c :: cs) = (c :: s) :: ss := by
  rw [segments, if_neg hc, h]

theorem segments_of_not_mem (h : sep ∉ cs) : segments sep cs = [cs] := by
  induction cs with
  | nil => rfl
  | cons c cs ih =>
    obtain ⟨hc, hcs⟩ := not_or.1 (mt List.mem_cons.2 h)
    exact segments_cons_of_ne (Ne.symm hc) (ih hcs)

theorem segments_append (h : sep ∉ cs) (ds : List Char) :
    segments sep (cs ++ sep :: ds) = cs :: segments sep ds := by
  induction cs with
  | nil => rw [List.nil_append, segments, if_pos rfl]
  | cons c cs ih =>
    obtain ⟨hc, hcs⟩ := not_or.1 (mt List.mem_cons.2 h)
    exact segments_cons_of_ne (Ne.symm hc) (ih hcs)

/-- A text without the separator goes on with the last segment and leaves the others. -/
theorem exists_segments_append (sep : Char) (cs : List Char) :
    ∃ front last, segments sep cs = front ++ [last] ∧
      ∀ ds, sep ∉ ds → segments sep (cs ++ ds) = front ++ [last ++ ds] := by
  induction cs with
  | nil => exact ⟨[], [], rfl, fun ds hds => segments_of_not_mem hds⟩
  | cons c cs ih =>
    obtain ⟨front, last, hcs, happend⟩ := ih
    by_cases hc : c = sep
    · subst hc
      refine ⟨[] :: front, last, ?_, fun ds hds => ?_⟩
      · rw [segments, if_pos rfl, hcs, List.cons_append]
      · rw [List.cons_append, segments, if_pos rfl, happend ds hds, List.cons_append]
    · cases front with
      | nil =>
        refine ⟨[], c :: last, segments_cons_of_ne hc hcs, fun ds hds => ?_⟩
        exact segments_cons_of_ne hc (happend ds hds)
      | cons s front =>
        refine ⟨(c :: s) :: front, last, segments_cons_of_ne hc hcs, fun ds hds => ?_⟩
        exact segments_cons_of_ne hc (happend ds hds)

theorem not_mem_of_mem_segments {s : List Char} (h : s ∈ segments sep cs) : sep ∉ s := by
  induction cs generalizing s with
  | nil =>
    rw [List.mem_singleton.1 h]
    exact List.not_mem_nil
  | cons c cs ih =>
    rw [segments] at h
    split at h
    · rcases List.mem_cons.1 h with rfl | h
      · exact List.not_mem_nil
      · exact ih h
    · rename_i hc
      cases hcs : segments sep cs with
      | nil => exact absurd hcs (segments_ne_nil _ _)
      | cons t ts =>
        rw [hcs] at h ih
        rcases List.mem_cons.1 h with rfl | h
        · intro hmem
          rcases List.mem_cons.1 hmem with heq | hmem
          · exact hc heq.symm
          · exact ih List.mem_cons_self hmem
        · exact ih (List.mem_cons_of_mem _ h)

/-- The segments of a text are the text without separators. -/
theorem flatten_segments (sep : Char) (cs : List Char) :
    (segments sep cs).flatten = cs.filter (· != sep) := by
  induction cs with
  | nil => rfl
  | cons c cs ih =>
    by_cases hc : c = sep
    · subst hc
      rw [segments, if_pos rfl, List.flatten_cons, ih, List.filter_cons_of_neg (by simp)]
      rfl
    · cases hs : segments sep cs with
      | nil => exact absurd hs (segments_ne_nil _ _)
      | cons s ss =>
        rw [hs] at ih
        rw [segments_cons_of_ne hc hs, List.filter_cons_of_pos (by simpa using hc), ← ih]
        rfl

theorem mem_of_mem_segments {c : Char} {s : List Char} (hs : s ∈ segments sep cs) (hc : c ∈ s) :
    c ∈ cs := by
  have hflat : c ∈ (segments sep cs).flatten := List.mem_flatten.2 ⟨s, hs, hc⟩
  rw [flatten_segments] at hflat
  exact (List.mem_filter.1 hflat).1

end GraphIngest.Text
