import GraphIngest.Proofs.Cypher.Reader
import GraphIngest.Text.Blank

/-!
# Tokens of statements

A statement is a sequence of tokens: a quoted name is one token whatever stands in it, a word is a
longest run of letters, digits and underscores, and any other character that is not blank is a mark.
Blanks between tokens do not count.

* `tokens_append` — a fixed text that ends a token has its own tokens, whatever follows;
* `tokens_identifier` — a written name is one token in front of a text that does not go on with it.
-/

namespace GraphIngest.Cypher

/-- A token of a statement. -/
inductive Token where
  /-- The name between two backticks; two of them within it are one. -/
  | quoted (name : List Char)
  /-- All that follows a backtick that is not closed. -/
  | unclosed (rest : List Char)
  | word (chars : List Char)
  | mark (c : Char)
  deriving DecidableEq, Repr

variable {c : Char} {cs rest name : List Char}

theorem length_readQuoted_le {r : List Char × List Char} (h : readQuoted cs = some r) :
    r.2.length ≤ cs.length := by
  fun_induction readQuoted cs generalizing r with
  | case1 => cases h
  | case2 =>
    cases h
    exact Nat.zero_le _
  | case3 => cases h
  | case4 rest ih =>
    obtain ⟨r', hr', rfl⟩ := Option.map_eq_some_iff.1 h
    have hle := ih hr'
    exact Nat.le_succ_of_le (Nat.le_succ_of_le hle)
  | case5 =>
    cases h
    exact Nat.le_succ _
  | case6 c d rest hc ih =>
    obtain ⟨r', hr', rfl⟩ := Option.map_eq_some_iff.1 h
    have hle := ih hr'
    exact Nat.le_succ_of_le hle

/-- The tokens of a text from left to right. -/
def tokens : List Char → List Token
  | [] => []
  | c :: cs =>
    if isNamePart c then
      .word (c :: cs.takeWhile isNamePart) :: tokens (cs.dropWhile isNamePart)
    else if c = backtick then
      match _h : readQuoted cs with
      | some r => .quoted r.1 :: tokens r.2
      | none => [.unclosed cs]
    else if Text.isBlank c then tokens cs
    else .mark c :: tokens cs
termination_by cs => cs.length
decreasing_by
  · exact Nat.lt_succ_of_le (List.dropWhile_suffix isNamePart).length_le
  · exact Nat.lt_succ_of_le (length_readQuoted_le _h)
  · exact Nat.lt_succ_self _
  · exact Nat.lt_succ_self _

theorem tokens_nil : tokens [] = [] := by
  rw [tokens]

theorem tokens_word (hc : isNamePart c = true) (cs : List Char) :
    tokens (c :: cs) =
      .word (c :: cs.takeWhile isNamePart) :: tokens (cs.dropWhile isNamePart) := by
  rw [tokens, if_pos hc]

theorem isNamePart_backtick : isNamePart backtick = false := by decide

theorem tokens_quoted {r : List Char × List Char} (h : readQuoted cs = some r) :
    tokens (backtick :: cs) = .quoted r.1 :: tokens r.2 := by
  rw [tokens, if_neg (by simp [isNamePart_backtick]), if_pos rfl]
  split
  · rename_i r' hr'
    cases hr'.symm.trans h
    rfl
  · rename_i hnone
    cases hnone.symm.trans h

theorem tokens_unclosed (h : readQuoted cs = none) : tokens (backtick :: cs) = [.unclosed cs] := by
  rw [tokens, if_neg (by simp [isNamePart_backtick]), if_pos rfl]
  split
  · rename_i r' hr'
    cases hr'.symm.trans h
  · rfl

theorem tokens_blank (hpart : isNamePart c = false) (hquote : c ≠ backtick)
    (hblank : Text.isBlank c = true) (cs : List Char) : tokens (c :: cs) = tokens cs := by
  rw [tokens, if_neg (by simp [hpart]), if_neg hquote, if_pos hblank]

theorem tokens_mark (hpart : isNamePart c = false) (hquote : c ≠ backtick)
    (hblank : Text.isBlank c = false) (cs : List Char) :
    tokens (c :: cs) = .mark c :: tokens cs := by
  rw [tokens, if_neg (by simp [hpart]), if_neg hquote, if_neg (by simp [hblank])]

/-! ## Fixed texts -/

/-- No quoted name begins in the text, and no word goes on behind it. -/
def closes : List Char → Bool
  | [] => true
  | c :: cs => c != backtick && (cs != [] || !isNamePart c) && closes cs

theorem closes_dropWhile {p : Char → Bool} (h : closes cs = true) :
    closes (cs.dropWhile p) = true := by
  induction cs with
  | nil => rfl
  | cons c cs ih =>
    rw [List.dropWhile_cons]
    split
    · exact ih (Bool.and_eq_true_iff.1 h).2
    · exact h

/-- A word ends within a text that closes. -/
theorem split_word_append (hc : isNamePart c = true) (h : closes (c :: cs) = true)
    (rest : List Char) :
    (cs ++ rest).takeWhile isNamePart = cs.takeWhile isNamePart ∧
      (cs ++ rest).dropWhile isNamePart = cs.dropWhile isNamePart ++ rest := by
  induction cs generalizing c with
  | nil => simp [closes, hc] at h
  | cons d ds ih =>
    cases hd : isNamePart d with
    | true =>
      obtain ⟨htake, hdrop⟩ := ih hd (Bool.and_eq_true_iff.1 h).2
      simp [hd, htake, hdrop]
    | false => simp [hd]

/-- **A text that closes has its own tokens**, whatever follows it. -/
theorem tokens_append {text : List Char} (h : closes text = true) (rest : List Char) :
    tokens (text ++ rest) = tokens text ++ tokens rest := by
  fun_induction tokens text with
  | case1 => rfl
  | case2 c cs hc ih =>
    obtain ⟨htake, hdrop⟩ := split_word_append hc h rest
    have hrest := ih (closes_dropWhile (Bool.and_eq_true_iff.1 h).2)
    rw [List.cons_append, tokens_word hc, htake, hdrop, hrest, List.cons_append]
  | case3 => simp [closes] at h
  | case4 => simp [closes] at h
  | case5 c cs hpart hquote hblank ih =>
    rw [List.cons_append, tokens_blank (by simpa using hpart) hquote hblank,
      ih (Bool.and_eq_true_iff.1 h).2]
  | case6 c cs hpart hquote hblank ih =>
    rw [List.cons_append, tokens_mark (by simpa using hpart) hquote (by simpa using hblank),
      ih (Bool.and_eq_true_iff.1 h).2, List.cons_append]

/-! ## Names -/

/-- The token of a written name. -/
def nameToken (name : List Char) : Token := if isPlainName name then .word name else .quoted name

theorem isNamePart_of_isNameStart (h : isNameStart c = true) : isNamePart c = true := by
  unfold isNameStart at h
  unfold isNamePart Char.isAlphanum
  rcases Bool.or_eq_true_iff.1 h with h | h <;> simp [h]

theorem isNamePart_of_isPlainName (h : isPlainName name = true) :
    ∀ c ∈ name, isNamePart c = true := by
  obtain ⟨c, cs, rfl, hstart, hcs⟩ := exists_cons_of_isPlainName h
  exact List.forall_mem_cons.2 ⟨isNamePart_of_isNameStart hstart, hcs⟩

/-- **A written name is one token**, whatever its characters are. -/
theorem tokens_identifier (name : String) (h : Stops extendsName rest) :
    tokens ((identifier name).toList ++ rest) = nameToken name.toList :: tokens rest := by
  rw [toList_identifier]
  unfold identifierChars nameToken
  split
  · rename_i hplain
    obtain ⟨c, cs, hname, hstart, hcs⟩ := exists_cons_of_isPlainName hplain
    have hrest : Stops isNamePart rest := stops_isNamePart h
    rw [hname, List.cons_append, tokens_word (isNamePart_of_isNameStart hstart),
      takeWhile_append_of_stops hcs hrest, dropWhile_append_of_stops hcs hrest]
  · have hquoted := readQuoted_doubleBackticks name.toList h
    rw [List.append_assoc, List.cons_append, List.singleton_append, tokens_quoted hquoted]

end GraphIngest.Cypher
