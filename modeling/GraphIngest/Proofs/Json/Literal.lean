import GraphIngest.Json.Reader
import GraphIngest.Json.Printer

/-!
# String literals read back

A string is written with its escapes as a literal; each character becomes one unit of the literal,
and joining the units gives the characters back, whatever they are.

* `readUnits_escapeChar` — one escaped character is one unit;
* `joinUnits_writtenUnits` — units of written characters are joined to these characters;
* `readString_literal` — a literal is read as its string, and the text behind it is left.
-/

namespace GraphIngest.Json

/-- The unit that an escaped character is read as. -/
def writtenUnit (c : Char) : StringUnit :=
  if c.toNat < 0x20 ∧ c ∉ ['\x08', '\x0c', '\n', '\r', '\t'] then .code c.toNat else .char c

theorem hexValue?_hexDigit : ∀ n < 16, hexValue? (hexDigit n) = some n := by decide

theorem hexCode?_control {n : Nat} (hn : n < 0x20) :
    hexCode? '0' '0' (hexDigit (n / 16)) (hexDigit (n % 16)) = some n := by
  have hzero : hexValue? '0' = some 0 := by decide
  have hhigh := hexValue?_hexDigit (n / 16) (by omega)
  have hlow := hexValue?_hexDigit (n % 16) (by omega)
  unfold hexCode?
  simp only [hzero, hhigh, hlow, bind, Option.bind, pure]
  congr 1
  omega

section

variable (rest : List Char)

theorem readUnits_quote : readUnits ('"' :: rest) = ([], none, some rest) := by
  rw [readUnits.eq_def]
  rfl

theorem readUnits_short {e v : Char} (he : e ≠ 'u') (hv : shortEscape? e = some v) :
    readUnits ('\\' :: e :: rest) = (.char v :: (readUnits rest).1, (readUnits rest).2) := by
  rw [readUnits.eq_def]
  simp [he, hv]

theorem readUnits_code {a b c d : Char} {n : Nat} (hn : hexCode? a b c d = some n) :
    readUnits ('\\' :: 'u' :: a :: b :: c :: d :: rest) =
      (.code n :: (readUnits rest).1, (readUnits rest).2) := by
  rw [readUnits.eq_def]
  simp [hn]

theorem readUnits_plain {c : Char} (hquote : c ≠ '"') (hback : c ≠ '\\')
    (hc : ¬ c.toNat < 0x20) :
    readUnits (c :: rest) = (.char c :: (readUnits rest).1, (readUnits rest).2) := by
  rw [readUnits.eq_def]
  simp only [hquote, hback, hc, if_false]

/-- One escaped character is one unit. -/
theorem readUnits_escapeChar (c : Char) :
    readUnits (escapeChar c ++ rest) =
      (writtenUnit c :: (readUnits rest).1, (readUnits rest).2) := by
  unfold escapeChar
  split
  · subst_vars; exact readUnits_short rest (by decide) (by decide)
  split
  · subst_vars; exact readUnits_short rest (by decide) (by decide)
  split
  · subst_vars; exact readUnits_short rest (by decide) (by decide)
  split
  · subst_vars; exact readUnits_short rest (by decide) (by decide)
  split
  · subst_vars; exact readUnits_short rest (by decide) (by decide)
  split
  · subst_vars; exact readUnits_short rest (by decide) (by decide)
  split
  · subst_vars; exact readUnits_short rest (by decide) (by decide)
  rename_i hquote hback hb hf hn hr ht
  split
  · rename_i hcontrol
    have hunit : writtenUnit c = .code c.toNat := by
      simp [writtenUnit, hcontrol, hb, hf, hn, hr, ht]
    rw [hunit]
    exact readUnits_code rest (hexCode?_control hcontrol)
  · rename_i hplain
    have hunit : writtenUnit c = .char c := if_neg fun h => hplain h.1
    rw [hunit]
    exact readUnits_plain rest hquote hback hplain

end

theorem readUnits_escaped (cs rest : List Char) :
    readUnits (cs.flatMap escapeChar ++ '"' :: rest) =
      (cs.map writtenUnit, none, some rest) := by
  induction cs with
  | nil => exact readUnits_quote rest
  | cons c cs ih =>
    rw [List.flatMap_cons, List.append_assoc, readUnits_escapeChar, ih, List.map_cons]

theorem joinUnits_writtenUnit (c : Char) (us : List StringUnit) :
    joinUnits none (writtenUnit c :: us) = (joinUnits none us).map (c :: ·) := by
  unfold writtenUnit
  split
  · rename_i h
    have hlow : ¬ (0xDC00 ≤ c.toNat) := by omega
    have hhigh : ¬ (0xD800 ≤ c.toNat) := by omega
    rw [joinUnits.eq_def]
    simp [hlow, hhigh, Char.ofNat_toNat]
  · rw [joinUnits]

/-- Units of written characters are joined to these characters. -/
theorem joinUnits_writtenUnits (cs : List Char) :
    joinUnits none (cs.map writtenUnit) = .ok cs := by
  induction cs with
  | nil => rfl
  | cons c cs ih => rw [List.map_cons, joinUnits_writtenUnit, ih]; rfl

/-- **A literal is read as its string**, behind its opening quote. -/
theorem readString_literal (s : String) (rest : List Char) :
    readString (s.toList.flatMap escapeChar ++ '"' :: rest) = (⟨.ok s, none⟩, some rest) := by
  unfold readString
  simp only [readUnits_escaped, joinUnits_writtenUnits, Except.map, String.ofList_toList]

end GraphIngest.Json
