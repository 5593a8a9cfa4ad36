import GraphIngest.Proofs.Cypher.Token
import GraphIngest.Proofs.Text.Segments

/-!
# Indented texts

Indenting the lines of a text puts a step of indentation behind every line end, and writes every
line end as one line feed. That changes no token but quoted names, which it changes exactly when
they have a line feed.

* `toList_indent` — what indenting does to the characters of a text;
* `tokens_reindent` — what it does to its tokens;
* `reindent_eq_self_iff` — a name is left alone exactly when it has no line feed.
-/

namespace GraphIngest

/-! ## Lines -/

namespace Text

variable {c : Char} {cs : List Char}

theorem lines_newline (cs : List Char) : lines ('\n' :: cs) = [] :: lines cs := by
  unfold lines
  rw [segments, if_pos rfl]
  cases hs : segments '\n' cs with
  | nil => exact absurd hs (segments_ne_nil _ _)
  | cons s ss => rfl

/-- A carriage return in front of a line feed belongs to the line end. -/
theorem lines_return (cs : List Char) : lines ('\r' :: '\n' :: cs) = lines ('\n' :: cs) := by
  unfold lines
  have hnewline : segments '\n' ('\n' :: cs) = [] :: segments '\n' cs := by
    rw [segments, if_pos rfl]
  rw [segments_cons_of_ne (by decide) hnewline, hnewline]
  cases hs : segments '\n' cs with
  | nil => exact absurd hs (segments_ne_nil _ _)
  | cons s ss => rfl

theorem dropCarriageReturn_cons {s : List Char} (h : c = '\r' → s ≠ []) :
    dropCarriageReturn (c :: s) = c :: dropCarriageReturn s := by
  unfold dropCarriageReturn
  cases s with
  | nil =>
    have hc : c ≠ '\r' := fun hc => h hc rfl
    simp [hc]
  | cons d s =>
    rw [List.getLast?_cons_cons]
    split
    · rfl
    · rfl

/-- A text whose first segment is empty begins with the separator. -/
theorem head?_of_segments {t : List Char} {ts : List (List Char)}
    (h : segments '\n' cs = [] :: t :: ts) : cs.head? = some '\n' := by
  cases cs with
  | nil => cases h
  | cons c cs =>
    rw [segments] at h
    split at h
    · rename_i hc
      rw [hc, List.head?_cons]
    · split at h <;> cases h

/-- A line begins with any other character in front of it. -/
theorem lines_cons (hc : c ≠ '\n') (hreturn : ¬ (c = '\r' ∧ cs.head? = some '\n'))
    {line : List Char} {rest : List (List Char)} (h : lines cs = line :: rest) :
    lines (c :: cs) = (c :: line) :: rest := by
  unfold lines at h ⊢
  match hs : segments '\n' cs with
  | [] => exact absurd hs (segments_ne_nil _ _)
  | [s] =>
    rw [segments_cons_of_ne hc hs]
    rw [hs] at h
    unfold closeLines at h ⊢
    split at h
    · cases h
    · cases h
      rfl
  | s :: t :: ss =>
    have hdrop : dropCarriageReturn (c :: s) = c :: dropCarriageReturn s := by
      refine dropCarriageReturn_cons fun hc hnil => hreturn ⟨hc, ?_⟩
      rw [hnil] at hs
      exact head?_of_segments hs
    rw [segments_cons_of_ne hc hs, closeLines, hdrop]
    · rw [hs, closeLines] at h
      · cases h
        rfl
      · exact nofun
    · exact nofun

end Text

namespace Cypher

/-- The text with a step of indentation behind every line end, which becomes one line feed. -/
def reindent : List Char → List Char
  | [] => []
  | c :: cs =>
    if c = '\n' then c :: indentation.toList ++ reindent cs
    else if c = '\r' ∧ cs.head? = some '\n' then reindent cs
    else c :: reindent cs

variable {c : Char} {cs name : List Char}

theorem reindent_newline (cs : List Char) :
    reindent ('\n' :: cs) = '\n' :: indentation.toList ++ reindent cs := by
  rw [reindent, if_pos rfl]

theorem reindent_return (cs : List Char) :
    reindent ('\r' :: '\n' :: cs) = reindent ('\n' :: cs) := by
  rw [reindent, if_neg (by decide), if_pos ⟨rfl, rfl⟩]

theorem reindent_cons (hc : c ≠ '\n') (hreturn : ¬ (c = '\r' ∧ cs.head? = some '\n')) :
    reindent (c :: cs) = c :: reindent cs := by
  rw [reindent, if_neg hc, if_neg hreturn]

/-- The lines of a text that does not end in a line feed, put together again. -/
theorem lines_reindent (hne : cs ≠ []) (hlast : cs.getLast? ≠ some '\n') :
    ∃ line rest, Text.lines cs = line :: rest ∧
      line ++ rest.flatMap (fun l => '\n' :: indentation.toList ++ l) = reindent cs := by
  induction cs with
  | nil => exact absurd rfl hne
  | cons c cs ih =>
    cases cs with
    | nil =>
      have hc : c ≠ '\n' := by
        rintro rfl
        exact hlast rfl
      refine ⟨[c], [], ?_, ?_⟩
      · simp [Text.lines, Text.segments, Text.closeLines, hc]
      · rw [reindent_cons hc (by simp)]
        rfl
    | cons d ds =>
      rw [List.getLast?_cons_cons] at hlast
      obtain ⟨line, rest, hlines, hjoined⟩ := ih (by simp) hlast
      by_cases hc : c = '\n'
      · subst hc
        refine ⟨[], line :: rest, by rw [Text.lines_newline, hlines], ?_⟩
        rw [reindent_newline, ← hjoined, List.flatMap_cons]
        simp only [List.nil_append, List.cons_append, List.append_assoc]
      · by_cases hreturn : c = '\r' ∧ (d :: ds).head? = some '\n'
        · obtain ⟨rfl, hd⟩ := hreturn
          cases hd
          exact ⟨line, rest, by rw [Text.lines_return, hlines], by rw [reindent_return, hjoined]⟩
        · refine ⟨c :: line, rest, Text.lines_cons hc hreturn hlines, ?_⟩
          rw [reindent_cons hc hreturn, ← hjoined, List.cons_append]

theorem toList_intercalate_cons (line : List Char) (rest : List (List Char)) :
    ("\n".intercalate ((line :: rest).map fun l => indentation ++ String.ofList l)).toList =
      indentation.toList ++ (line ++ rest.flatMap fun l => '\n' :: indentation.toList ++ l) := by
  induction rest generalizing line with
  | nil => simp
  | cons next rest ih =>
    have hnext := ih next
    rw [List.map_cons] at hnext
    rw [List.map_cons, List.map_cons, String.intercalate_cons_cons, String.toList_append, hnext]
    simp

/-- **Indenting a text** that does not end in a line feed. -/
theorem toList_indent {block : String} (hne : block.toList ≠ [])
    (hlast : block.toList.getLast? ≠ some '\n') :
    (indent block).toList = indentation.toList ++ reindent block.toList := by
  obtain ⟨line, rest, hlines, hjoined⟩ := lines_reindent hne hlast
  unfold indent
  rw [hlines, toList_intercalate_cons, hjoined]

/-! ## Tokens -/

/-- What indenting makes of a token. -/
def Token.reindented : Token → Token
  | .quoted name => .quoted (reindent name)
  | .unclosed rest => .unclosed (reindent rest)
  | .word chars => .word chars
  | .mark c => .mark c

theorem takeWhile_reindent (cs : List Char) :
    (reindent cs).takeWhile isNamePart = cs.takeWhile isNamePart := by
  have hnewline : isNamePart '\n' = false := by decide
  have hcarriage : isNamePart '\r' = false := by decide
  induction cs with
  | nil => rfl
  | cons c cs ih =>
    rw [reindent]
    split
    · rename_i hc
      simp [hc, hnewline]
    · split
      · rename_i hreturn
        obtain ⟨rfl, hhead⟩ := hreturn
        obtain ⟨ds, rfl⟩ := List.head?_eq_some_iff.1 hhead
        rw [ih]
        simp [hnewline, hcarriage]
      · rw [List.takeWhile_cons, List.takeWhile_cons, ih]

theorem dropWhile_reindent (cs : List Char) :
    (reindent cs).dropWhile isNamePart = reindent (cs.dropWhile isNamePart) := by
  have hnewline : isNamePart '\n' = false := by decide
  have hcarriage : isNamePart '\r' = false := by decide
  induction cs with
  | nil => rfl
  | cons c cs ih =>
    rw [reindent]
    split
    · rename_i hc
      simp [hc, hnewline, reindent]
    · split
      · rename_i hreturn
        obtain ⟨rfl, hhead⟩ := hreturn
        obtain ⟨ds, rfl⟩ := List.head?_eq_some_iff.1 hhead
        rw [ih]
        simp [hnewline, hcarriage, reindent]
      · rename_i hc hreturn
        rw [List.dropWhile_cons, List.dropWhile_cons]
        split
        · exact ih
        · rw [reindent_cons hc hreturn]

/-- A backtick closes a name just as before. -/
theorem readQuoted_backtick_reindent {d : Char} (hd : d ≠ backtick) (ds : List Char) :
    readQuoted (backtick :: reindent (d :: ds)) = some ([], reindent (d :: ds)) := by
  have hclose : ∀ (c : Char) (cs : List Char), c ≠ backtick →
      readQuoted (backtick :: c :: cs) = some ([], c :: cs) := by
    intro c cs hc
    rw [readQuoted, if_pos rfl, if_neg hc]
  by_cases hnewline : d = '\n'
  · subst hnewline
    rw [reindent_newline]
    exact hclose _ _ hd
  · by_cases hreturn : d = '\r' ∧ ds.head? = some '\n'
    · obtain ⟨rfl, hhead⟩ := hreturn
      obtain ⟨es, rfl⟩ := List.head?_eq_some_iff.1 hhead
      rw [reindent_return, reindent_newline]
      exact hclose _ _ (by decide)
    · rw [reindent_cons hnewline hreturn]
      exact hclose _ _ hd

/-- A name begins with a line feed only where the text does. -/
theorem head?_of_readQuoted {r : List Char × List Char} (h : readQuoted cs = some r)
    (hr : r.1.head? = some '\n') : cs.head? = some '\n' := by
  fun_induction readQuoted cs with
  | case1 => cases h
  | case2 =>
    cases h
    cases hr
  | case3 => cases h
  | case4 rest ih =>
    obtain ⟨r', -, rfl⟩ := Option.map_eq_some_iff.1 h
    cases hr
  | case5 =>
    cases h
    cases hr
  | case6 c d rest hc ih =>
    obtain ⟨r', -, rfl⟩ := Option.map_eq_some_iff.1 h
    exact hr

theorem readQuoted_indentation (cs : List Char) :
    readQuoted ('\n' :: indentation.toList ++ cs) =
      (readQuoted cs).map fun r => ('\n' :: indentation.toList ++ r.1, r.2) := by
  have hspace : ' ' ≠ backtick := by decide
  have hindentation : indentation.toList = [' ', ' ', ' ', ' '] := rfl
  simp only [hindentation, List.cons_append, List.nil_append,
    readQuoted_cons (show '\n' ≠ backtick by decide), readQuoted_cons hspace, Option.map_map]
  rfl

/-- **A quoted name is read from an indented text** as the indented name, and the rest is what was
indented of the rest. -/
theorem readQuoted_reindent (cs : List Char) :
    readQuoted (reindent cs) = (readQuoted cs).map fun r => (reindent r.1, reindent r.2) := by
  have hbacktick : backtick ≠ '\n' ∧ backtick ≠ '\r' := by decide
  fun_induction readQuoted cs with
  | case1 => rfl
  | case2 => rfl
  | case3 c hc =>
    by_cases hnewline : c = '\n'
    · subst hnewline
      rfl
    · rw [reindent_cons hnewline (by simp)]
      simp [reindent, readQuoted, hc]
  | case4 rest ih =>
    rw [reindent_cons hbacktick.1 fun h => hbacktick.2 h.1,
      reindent_cons hbacktick.1 fun h => hbacktick.2 h.1, readQuoted_backtick, ih]
    cases readQuoted rest with
    | none => rfl
    | some r => simp [reindent_cons hbacktick.1 fun h => hbacktick.2 h.1]
  | case5 d rest hd =>
    rw [reindent_cons hbacktick.1 fun h => hbacktick.2 h.1, readQuoted_backtick_reindent hd]
    rfl
  | case6 c d rest hc ih =>
    by_cases hnewline : c = '\n'
    · subst hnewline
      rw [reindent_newline, readQuoted_indentation, ih]
      cases readQuoted (d :: rest) with
      | none => rfl
      | some r => simp [reindent_newline]
    · by_cases hreturn : c = '\r' ∧ (d :: rest).head? = some '\n'
      · obtain ⟨rfl, hd⟩ := hreturn
        cases hd
        rw [reindent_return, ih, readQuoted_cons (by decide)]
        cases readQuoted rest with
        | none => rfl
        | some r => simp [reindent_return]
      · rw [reindent_cons hnewline hreturn, readQuoted_cons hc, ih]
        cases hread : readQuoted (d :: rest) with
        | none => rfl
        | some r =>
          -- The name does not begin with a line feed where the text does not.
          have hname : ¬ (c = '\r' ∧ r.1.head? = some '\n') := fun h =>
            hreturn ⟨h.1, head?_of_readQuoted hread h.2⟩
          simp [reindent_cons hnewline hname]

/-- A step of indentation has no tokens. -/
theorem tokens_indentation (cs : List Char) : tokens (indentation.toList ++ cs) = tokens cs := by
  have hindentation : indentation.toList = [' ', ' ', ' ', ' '] := rfl
  have hspace := tokens_blank (show isNamePart ' ' = false by decide)
    (show ' ' ≠ backtick by decide) (show Text.isBlank ' ' = true by decide)
  simp only [hindentation, List.cons_append, List.nil_append, hspace]

/-- **Indenting changes no token but names**, and those character by character. -/
theorem tokens_reindent (cs : List Char) :
    tokens (reindent cs) = (tokens cs).map Token.reindented := by
  fun_induction tokens cs with
  | case1 => rw [reindent, tokens_nil, List.map_nil]
  | case2 c cs hc ih =>
    have hnewline : c ≠ '\n' := by
      rintro rfl
      exact absurd hc (by decide)
    have hcarriage : c ≠ '\r' := by
      rintro rfl
      exact absurd hc (by decide)
    rw [reindent_cons hnewline fun h => hcarriage h.1, tokens_word hc, takeWhile_reindent,
      dropWhile_reindent, ih, List.map_cons]
    rfl
  | case3 cs r hread hpart ih =>
    have hindented := readQuoted_reindent cs
    rw [hread, Option.map_some] at hindented
    rw [reindent_cons (by decide) (by simp [backtick]), tokens_quoted hindented, ih, List.map_cons]
    rfl
  | case4 cs hread hpart =>
    have hindented := readQuoted_reindent cs
    rw [hread, Option.map_none] at hindented
    rw [reindent_cons (by decide) (by simp [backtick]), tokens_unclosed hindented]
    rfl
  | case5 c cs hpart hquote hblank ih =>
    have hskip := tokens_blank (by simpa using hpart) hquote hblank
    by_cases hnewline : c = '\n'
    · subst hnewline
      rw [reindent_newline, List.cons_append, hskip, tokens_indentation, ih]
    · by_cases hreturn : c = '\r' ∧ cs.head? = some '\n'
      · rw [reindent, if_neg hnewline, if_pos hreturn, ih]
      · rw [reindent_cons hnewline hreturn, hskip, ih]
  | case6 c cs hpart hquote hblank ih =>
    have hnewline : c ≠ '\n' := by
      rintro rfl
      exact hblank (by decide)
    have hcarriage : c ≠ '\r' := by
      rintro rfl
      exact hblank (by decide)
    rw [reindent_cons hnewline fun h => hcarriage h.1,
      tokens_mark (by simpa using hpart) hquote (by simpa using hblank), ih, List.map_cons]
    rfl

/-! ## Names that are left alone -/

/-- Every line feed makes a text longer, also where a carriage return in front of it is lost. -/
theorem length_reindent (cs : List Char) :
    cs.length + cs.count '\n' + (if cs.head? = some '\n' then 1 else 0) ≤
      (reindent cs).length := by
  have hindentation : indentation.toList.length = 4 := rfl
  induction cs with
  | nil => exact Nat.le_refl 0
  | cons c cs ih =>
    by_cases hnewline : c = '\n'
    · subst hnewline
      rw [reindent_newline]
      simp only [List.length_cons, List.count_cons_self, List.head?_cons, if_true,
        List.length_append, hindentation]
      omega
    · have hcount : (c :: cs).count '\n' = cs.count '\n' := List.count_cons_of_ne hnewline
      have hhead : (c :: cs).head? ≠ some '\n' := by simpa using hnewline
      rw [hcount, if_neg hhead, List.length_cons]
      by_cases hreturn : c = '\r' ∧ cs.head? = some '\n'
      · rw [if_pos hreturn.2] at ih
        rw [reindent, if_neg hnewline, if_pos hreturn]
        omega
      · rw [reindent_cons hnewline hreturn, List.length_cons]
        split at ih <;> omega

/-- **A name is left alone exactly when it has no line feed.** -/
theorem reindent_eq_self_iff : reindent name = name ↔ '\n' ∉ name := by
  constructor
  · intro h hmem
    have hlength := length_reindent name
    have hcount : 0 < name.count '\n' := List.count_pos_iff.2 hmem
    rw [h] at hlength
    omega
  · intro h
    induction name with
    | nil => rfl
    | cons c cs ih =>
      obtain ⟨hc, hcs⟩ := not_or.1 (mt List.mem_cons.2 h)
      have hhead : cs.head? ≠ some '\n' := fun hhead => hcs (List.mem_of_head? hhead)
      rw [reindent_cons (Ne.symm hc) fun hreturn => hhead hreturn.2, ih hcs]

/-- A written name is left alone exactly when it has no line feed; plain names have none. -/
theorem reindented_nameToken_iff :
    (nameToken name).reindented = nameToken name ↔ '\n' ∉ name := by
  unfold nameToken
  split
  · rename_i hplain
    refine ⟨fun _ hmem => ?_, fun _ => rfl⟩
    exact absurd (isNamePart_of_isPlainName hplain _ hmem) (by decide)
  · rw [← reindent_eq_self_iff]
    simp [Token.reindented]

end Cypher

end GraphIngest
