import GraphIngest.Loader.IngestCode
import GraphIngest.Proofs.Text.Visible

/-!
# Statements of the user, split

A text is cut at semicolons into parts, and a part into lines, which are trimmed and put together
again. All that is lost are semicolons and blanks, and what comes out is split into itself.

* `statementLines_eq` — a part has the lines between its line feeds, whatever ends them;
* `segments_joined`, `statement?_joined` — lines that were put together are found again;
* `splitStatements_clean` — what the statements of a text look like, what they keep of it, and that
  they are split from the script that they make.
-/

namespace GraphIngest

namespace Text

/-! ## Lines -/

theorem trimChars_dropCarriageReturn (cs : List Char) :
    trimChars (dropCarriageReturn cs) = trimChars cs := by
  unfold dropCarriageReturn
  split
  · rename_i hlast
    have hend : cs.dropLast ++ ['\r'] = cs := List.dropLast_append_getLast? _ hlast
    conv_rhs => rw [← hend, trimChars_append_blank _ (List.forall_mem_singleton.2 (by decide))]
  · rfl

/-- Lines that end in neither way are left alone. -/
theorem closeLines_eq_self {ls : List (List Char)}
    (h : ∀ l ∈ ls, l ≠ [] ∧ l.getLast? ≠ some '\r') : closeLines ls = ls := by
  induction ls with
  | nil => rfl
  | cons l ls ih =>
    obtain ⟨⟨hne, hlast⟩, hrest⟩ := List.forall_mem_cons.1 h
    cases ls with
    | nil => simp [closeLines, hne]
    | cons next ls =>
      have hline : dropCarriageReturn l = l := if_neg hlast
      rw [closeLines, hline, ih hrest]
      exact nofun

end Text

open Text Cypher

namespace IngestCode

variable {part line : List Char} {ls : List (List Char)}

/-! ## The lines of a statement -/

/-- **The lines of a part are those between its line feeds**: trimming takes the carriage returns,
and an empty line at the end is dropped like any other. -/
theorem statementLines_eq (part : List Char) :
    statementLines part = ((segments '\n' part).map trimChars).filter (!·.isEmpty) := by
  have hclose : ∀ ss : List (List Char), ((closeLines ss).map trimChars).filter (!·.isEmpty) =
      (ss.map trimChars).filter (!·.isEmpty) := by
    intro ss
    fun_induction closeLines ss with
    | case1 => rfl
    | case2 last hempty =>
      rw [List.isEmpty_iff.1 hempty]
      rfl
    | case3 => rfl
    | case4 line rest _ ih =>
      rw [List.map_cons, List.map_cons, List.filter_cons, List.filter_cons, ih,
        trimChars_dropCarriageReturn]
  exact hclose _

/-- A line of a statement: trimmed, not empty, and one line of one statement. -/
structure IsLine (line : List Char) : Prop where
  ne_nil : line ≠ []
  trimmed : trimChars line = line
  feed : '\n' ∉ line
  semicolon : ';' ∉ line

theorem isLine_of_mem (hpart : ';' ∉ part) (h : line ∈ statementLines part) : IsLine line := by
  rw [statementLines_eq] at h
  obtain ⟨hmem, hne⟩ := List.mem_filter.1 h
  obtain ⟨s, hs, rfl⟩ := List.mem_map.1 hmem
  refine ⟨by simpa using hne, trimChars_trimChars s, fun hfeed => ?_, fun hsemicolon => ?_⟩
  · exact not_mem_of_mem_segments hs (mem_of_mem_trimChars hfeed)
  · exact hpart (mem_of_mem_segments hs (mem_of_mem_trimChars hsemicolon))

/-- A line begins with a character that is not blank. -/
theorem IsLine.exists_head (h : IsLine line) : ∃ c rest, line = c :: rest ∧ isBlank c = false := by
  have hstart : line.dropWhile isBlank = line := (trimChars_eq_self_iff.1 h.trimmed).1
  cases line with
  | nil => exact absurd rfl h.ne_nil
  | cons c rest =>
    have hc : ¬ isBlank c = true := List.dropWhile_eq_self_iff.1 hstart (Nat.succ_pos _)
    exact ⟨c, rest, rfl, Bool.eq_false_iff.2 hc⟩

/-- A line ends with a character that is not blank. -/
theorem IsLine.exists_last (h : IsLine line) :
    ∃ front c, line = front ++ [c] ∧ isBlank c = false := by
  have hend := trimEnd_eq_self_iff.1 (trimChars_eq_self_iff.1 h.trimmed).2 h.ne_nil
  exact ⟨line.dropLast, _, (List.dropLast_concat_getLast h.ne_nil).symm, hend⟩

theorem blank_indentation : ∀ c ∈ indentation.toList, isBlank c = true :=
  List.all_eq_true.1 (by decide)

/-- Lines as one statement: those after the first are indented. -/
def joined (ls : List (List Char)) : List Char := ('\n' :: indentation.toList).intercalate ls

theorem joined_cons (line : List Char) (ls : List (List Char)) :
    joined (line :: ls) = line ++ ls.flatMap fun l => '\n' :: (indentation.toList ++ l) := by
  unfold joined
  induction ls generalizing line with
  | nil => simp
  | cons next ls ih =>
    rw [List.intercalate_cons_cons, ih, List.flatMap_cons]
    simp

theorem joined_cons_cons (line next : List Char) (ls : List (List Char)) :
    joined (line :: next :: ls) = line ++ '\n' :: (indentation.toList ++ joined (next :: ls)) := by
  simp [joined_cons]

theorem statement?_eq_some_iff {s : List Char} :
    statement? part = some s ↔ statementLines part ≠ [] ∧ joined (statementLines part) = s := by
  unfold statement? joined
  cases statementLines part with
  | nil => simp
  | cons line ls => simp

/-- Lines that were put together are found between the line feeds. -/
theorem segments_joined (hline : '\n' ∉ line) (hls : ∀ l ∈ ls, '\n' ∉ l) :
    segments '\n' (joined (line :: ls)) = line :: ls.map (indentation.toList ++ ·) := by
  rw [joined_cons]
  induction ls generalizing line with
  | nil => simpa using segments_of_not_mem hline
  | cons next ls ih =>
    obtain ⟨hnext, hls⟩ := List.forall_mem_cons.1 hls
    have hindented : '\n' ∉ indentation.toList ++ next :=
      mt List.mem_append.1 (not_or_intro (by decide) hnext)
    rw [List.flatMap_cons, List.cons_append, segments_append hline, ih hindented hls, List.map_cons]

/-- **A statement has the lines that it was put together from.** -/
theorem statementLines_joined (h : ∀ l ∈ ls, IsLine l) : statementLines (joined ls) = ls := by
  cases ls with
  | nil => rfl
  | cons line ls =>
    obtain ⟨hline, hls⟩ := List.forall_mem_cons.1 h
    have htrim : ls.map (trimChars ∘ (indentation.toList ++ ·)) = ls := by
      refine (List.map_congr_left fun l hl => ?_).trans (List.map_id ls)
      exact (trimChars_blank_append blank_indentation l).trans (hls l hl).trimmed
    rw [statementLines_eq, segments_joined hline.feed fun l hl => (hls l hl).feed, List.map_cons,
      List.map_map, htrim, hline.trimmed]
    exact List.filter_eq_self.2 fun l hl => by simpa using (h l hl).ne_nil

theorem statement?_joined (hne : ls ≠ []) (h : ∀ l ∈ ls, IsLine l) :
    statement? (joined ls) = some (joined ls) := by
  rw [statement?_eq_some_iff, statementLines_joined h]
  exact ⟨hne, rfl⟩

/-! ## Statements -/

/-- A clean statement: it begins and ends with characters that are not blank, has no semicolon, and
its lines after the first begin with one step of indentation and a character that is not blank. -/
structure IsStatement (s : List Char) : Prop where
  ne_nil : s ≠ []
  semicolon : ';' ∉ s
  head : ∃ c rest, s = c :: rest ∧ isBlank c = false
  last : ∃ front c, s = front ++ [c] ∧ isBlank c = false
  continued : ∀ line ∈ (lines s).tail,
    ∃ c rest, line = indentation.toList ++ c :: rest ∧ isBlank c = false

theorem lines_joined (hline : IsLine line) (hls : ∀ l ∈ ls, IsLine l) :
    lines (joined (line :: ls)) = line :: ls.map (indentation.toList ++ ·) := by
  have hends (front l : List Char) (hl : IsLine l) :
      front ++ l ≠ [] ∧ (front ++ l).getLast? ≠ some '\r' := by
    obtain ⟨most, c, rfl, hc⟩ := hl.exists_last
    refine ⟨by simp, ?_⟩
    rw [← List.append_assoc, List.getLast?_concat]
    rintro ⟨⟩
    cases hc
  unfold lines
  rw [segments_joined hline.feed fun l hl => (hls l hl).feed]
  refine closeLines_eq_self (List.forall_mem_cons.2 ⟨hends [] line hline, fun l hl => ?_⟩)
  obtain ⟨inner, hinner, rfl⟩ := List.mem_map.1 hl
  exact hends _ inner (hls inner hinner)

theorem semicolon_not_mem_joined (h : ∀ l ∈ ls, IsLine l) : ';' ∉ joined ls := by
  cases ls with
  | nil => exact List.not_mem_nil
  | cons line ls =>
    obtain ⟨hline, hls⟩ := List.forall_mem_cons.1 h
    rw [joined_cons]
    intro hmem
    rcases List.mem_append.1 hmem with hmem | hmem
    · exact hline.semicolon hmem
    · obtain ⟨l, hl, hmem⟩ := List.mem_flatMap.1 hmem
      have hindented := List.mem_append.1 ((List.mem_cons.1 hmem).resolve_left (by decide))
      exact (hls l hl).semicolon (hindented.resolve_left (by decide))

theorem exists_last_joined (hne : ls ≠ []) (h : ∀ l ∈ ls, IsLine l) :
    ∃ front c, joined ls = front ++ [c] ∧ isBlank c = false := by
  induction ls with
  | nil => exact absurd rfl hne
  | cons line ls ih =>
    obtain ⟨hline, hls⟩ := List.forall_mem_cons.1 h
    cases ls with
    | nil => simpa [joined_cons] using hline.exists_last
    | cons next ls =>
      obtain ⟨front, c, hlast, hc⟩ := ih nofun hls
      refine ⟨line ++ '\n' :: (indentation.toList ++ front), c, ?_, hc⟩
      rw [joined_cons_cons, hlast]
      simp

/-- Lines that are put together make a clean statement. -/
theorem isStatement_joined (hne : ls ≠ []) (h : ∀ l ∈ ls, IsLine l) : IsStatement (joined ls) := by
  cases ls with
  | nil => exact absurd rfl hne
  | cons line ls =>
    obtain ⟨hline, hls⟩ := List.forall_mem_cons.1 h
    obtain ⟨c, rest, hhead, hc⟩ := hline.exists_head
    have hbegin : joined (line :: ls) =
        c :: (rest ++ ls.flatMap fun l => '\n' :: (indentation.toList ++ l)) := by
      rw [joined_cons, hhead, List.cons_append]
    refine ⟨by rw [hbegin]; exact nofun, semicolon_not_mem_joined h, ⟨c, _, hbegin, hc⟩,
      exists_last_joined hne h, ?_⟩
    rw [lines_joined hline hls, List.tail_cons]
    intro l hl
    obtain ⟨inner, hinner, rfl⟩ := List.mem_map.1 hl
    obtain ⟨d, more, rfl, hd⟩ := (hls inner hinner).exists_head
    exact ⟨d, more, rfl, hd⟩

/-- The statement of a part is put together from lines. -/
theorem exists_joined {s : List Char} (hpart : ';' ∉ part) (h : statement? part = some s) :
    ∃ ls, ls ≠ [] ∧ (∀ l ∈ ls, IsLine l) ∧ joined ls = s := by
  obtain ⟨hne, hs⟩ := statement?_eq_some_iff.1 h
  exact ⟨_, hne, fun l hl => isLine_of_mem hpart hl, hs⟩

/-! ## What is kept -/

theorem visible_joined (ls : List (List Char)) : visible (joined ls) = ls.flatMap visible := by
  have hgap : visible ('\n' :: indentation.toList) = [] :=
    visible_of_blank (List.forall_mem_cons.2 ⟨by decide, blank_indentation⟩)
  induction ls with
  | nil => rfl
  | cons line ls ih =>
    cases ls with
    | nil => simp [joined_cons]
    | cons next ls =>
      rw [joined_cons_cons, visible_append, ← List.cons_append, visible_append, hgap, ih,
        List.nil_append]
      exact (List.flatMap_cons ..).symm

theorem flatMap_visible_statementLines (part : List Char) :
    (statementLines part).flatMap visible = visible part := by
  have hempty : ∀ ls : List (List Char), (ls.filter (!·.isEmpty)).flatMap visible =
      ls.flatMap visible := by
    intro ls
    induction ls with
    | nil => rfl
    | cons l ls ih =>
      cases l with
      | nil => exact ih
      | cons c l => rw [List.filter_cons_of_pos rfl, List.flatMap_cons, List.flatMap_cons, ih]
  rw [statementLines_eq, hempty, List.flatMap_map]
  simp only [visible_trimChars]
  exact flatMap_visible_segments (by decide) part

/-- **A statement keeps what is not blank of its part**, and nothing is there to be kept of a part
without one. -/
theorem visible_statement? (part : List Char) :
    (statement? part).toList.flatMap visible = visible part := by
  rw [← flatMap_visible_statementLines part]
  cases hs : statement? part with
  | none =>
    have hnil : statementLines part = [] := by
      by_contra hne
      exact nomatch hs.symm.trans (statement?_eq_some_iff.2 ⟨hne, rfl⟩)
    rw [hnil]
    rfl
  | some s =>
    rw [← visible_joined (statementLines part), (statement?_eq_some_iff.1 hs).2]
    exact List.flatMap_singleton ..

/-- What is not blank of a text, without semicolons, is kept. -/
theorem flatMap_visible_splitChars (cs : List Char) :
    (splitChars cs).flatMap visible = visible (cs.filter (· != ';')) := by
  unfold splitChars
  rw [List.filterMap_eq_flatMap_toList, List.flatMap_assoc]
  simp only [visible_statement?]
  rw [← flatten_segments]
  exact (List.filter_flatten ..).symm

/-! ## Statements of a script -/

theorem splitChars_append {s : List Char} (hs : ';' ∉ s) (rest : List Char) :
    splitChars (s ++ ';' :: rest) = (statement? s).toList ++ splitChars rest := by
  unfold splitChars
  rw [segments_append hs, List.filterMap_cons]
  cases statement? s <;> rfl

/-- A line feed in front of a text is no part of a statement. -/
theorem splitChars_feed (cs : List Char) : splitChars ('\n' :: cs) = splitChars cs := by
  unfold splitChars
  cases hs : segments ';' cs with
  | nil => exact absurd hs (segments_ne_nil _ _)
  | cons part parts =>
    have hpart : statement? ('\n' :: part) = statement? part := by
      have hlines : statementLines ('\n' :: part) = statementLines part := by
        rw [statementLines_eq, statementLines_eq, segments, if_pos rfl]
        rfl
      unfold statement?
      rw [hlines]
    rw [segments_cons_of_ne (by decide) hs, List.filterMap_cons, List.filterMap_cons, hpart]

theorem toList_joinStatements_cons (s : String) (ss : List String) :
    (joinStatements (s :: ss)).toList = s.toList ++ ';' :: '\n' ::
      if ss.isEmpty then [] else '\n' :: (joinStatements ss).toList := by
  unfold joinStatements
  cases ss with
  | nil => simp
  | cons next ss =>
    rw [List.map_cons, List.map_cons, String.intercalate_cons_cons]
    simp

/-- **A script is split into its statements**, where each of them is split into itself. -/
theorem splitStatements_joinStatements {ss : List String}
    (h : ∀ s ∈ ss, ';' ∉ s.toList ∧ statement? s.toList = some s.toList) :
    splitStatements (joinStatements ss) = ss := by
  have hchars : splitChars (joinStatements ss).toList = ss.map String.toList := by
    induction ss with
    | nil => rfl
    | cons s ss ih =>
      obtain ⟨⟨hsemicolon, hs⟩, hss⟩ := List.forall_mem_cons.1 h
      rw [toList_joinStatements_cons, splitChars_append hsemicolon, hs, splitChars_feed]
      cases ss with
      | nil => rfl
      | cons next ss =>
        rw [if_neg (by simp), splitChars_feed, ih hss]
        rfl
  unfold splitStatements
  rw [hchars, List.map_map]
  refine (List.map_congr_left fun s _ => ?_).trans (List.map_id ss)
  exact String.ofList_toList

/-- The statements of a text are put together from lines. -/
theorem exists_joined_of_mem {t s : String} (h : s ∈ splitStatements t) :
    ∃ ls, ls ≠ [] ∧ (∀ l ∈ ls, IsLine l) ∧ s.toList = joined ls := by
  obtain ⟨cs, hcs, rfl⟩ := List.mem_map.1 h
  obtain ⟨part, hpart, hs⟩ := List.mem_filterMap.1 hcs
  obtain ⟨ls, hne, hlines, rfl⟩ := exists_joined (not_mem_of_mem_segments hpart) hs
  exact ⟨ls, hne, hlines, String.toList_ofList⟩

theorem toList_join (ss : List String) : (String.join ss).toList = ss.flatMap String.toList := by
  induction ss with
  | nil => rfl
  | cons s ss ih => rw [String.join_cons, String.toList_append, ih, List.flatMap_cons]

/-- **Splitting a text gives clean statements, loses nothing and is stable.** Every statement is
clean; what is not blank of them is what is not blank of the text without its semicolons, in the
same order; and the script that they make is split into the same statements. -/
theorem splitStatements_clean (t : String) :
    (∀ s ∈ splitStatements t, IsStatement s.toList) ∧
    visible (String.join (splitStatements t)).toList = visible (t.toList.filter (· != ';')) ∧
    splitStatements (joinStatements (splitStatements t)) = splitStatements t := by
  refine ⟨fun s hs => ?_, ?_, splitStatements_joinStatements fun s hs => ?_⟩
  · obtain ⟨ls, hne, hlines, hs⟩ := exists_joined_of_mem hs
    rw [hs]
    exact isStatement_joined hne hlines
  · have hflat : (splitStatements t).flatMap String.toList = (splitChars t.toList).flatten := by
      unfold splitStatements
      rw [List.flatMap_map]
      simp only [String.toList_ofList]
      exact List.flatMap_id'
    rw [toList_join, hflat, ← flatMap_visible_splitChars]
    exact List.filter_flatten ..
  · obtain ⟨ls, hne, hlines, hs⟩ := exists_joined_of_mem hs
    rw [hs]
    exact ⟨semicolon_not_mem_joined hlines, statement?_joined hne hlines⟩

end IngestCode

end GraphIngest
