import GraphIngest.Json.Reader
import GraphIngest.Proofs.Basic

/-!
# Integers read back

The digits of a natural number are read as that number, and an integer of 64 bits that is written in
a JSON text is read as itself.

* `takeSignificand_eq` — the digits of a number within 64 bits are all taken;
* `readNumber_integerText` — an integer in front of a text that does not go on with a number.
-/

namespace GraphIngest

/-! ## Digits -/

theorem isDigit_of_mem_toDigits {n : Nat} {c : Char} (h : c ∈ Nat.toDigits 10 n) :
    c.isDigit = true :=
  Nat.isDigit_of_mem_toDigits (by decide) (by decide) h

/-- Only zero is written with a zero in front. -/
theorem toDigits_head (n : Nat) : ∃ c cs, Nat.toDigits 10 n = c :: cs ∧ (c = '0' → n = 0) := by
  induction n using Nat.strongRecOn with
  | ind n ih =>
    by_cases hn : n < 10
    · refine ⟨n.digitChar, [], Nat.toDigits_of_lt_base hn, ?_⟩
      have hzero : ∀ d < 10, Nat.digitChar d = '0' → d = 0 := by decide
      exact hzero n hn
    · obtain ⟨c, cs, hcs, hc⟩ := ih (n / 10) (by omega)
      refine ⟨c, cs ++ [(n % 10).digitChar], ?_, fun heq => ?_⟩
      · rw [Nat.toDigits_of_base_le (by decide) (by omega), hcs, List.cons_append]
      · have := hc heq
        omega

namespace Json

theorem digitsValue_eq (ds : List Char) : digitsValue ds = Nat.ofDigitChars 10 ds 0 := by
  rw [Nat.ofDigitChars_eq_foldl]
  unfold digitsValue
  congr 1
  funext n d
  rw [Nat.mul_comm]
  rfl

theorem le_ofDigitChars (ds : List Char) (n : Nat) : n ≤ Nat.ofDigitChars 10 ds n := by
  rw [Nat.ofDigitChars_eq_ofDigitChars_zero]
  have hpow : 1 ≤ 10 ^ ds.length := Nat.one_le_pow _ _ (by decide)
  have := Nat.mul_le_mul_right n hpow
  omega

/-- Digits of a number within 64 bits are all taken. -/
theorem takeSignificand_eq {ds : List Char} {s : Nat}
    (h : Nat.ofDigitChars 10 ds s ≤ greatestInteger) :
    takeSignificand s ds = (Nat.ofDigitChars 10 ds s, []) := by
  induction ds generalizing s with
  | nil => rfl
  | cons d ds ih =>
    have hnext : s * 10 + (d.toNat - 48) = 10 * s + (d.toNat - '0'.toNat) := by
      rw [Nat.mul_comm]
      rfl
    rw [Nat.ofDigitChars_cons] at h ⊢
    unfold takeSignificand
    rw [hnext, if_pos (Nat.le_trans (le_ofDigitChars ds _) h)]
    exact ih h

/-! ## Whole numbers in a text -/

/-- A character that a number may go on with. -/
def continuesNumber (c : Char) : Bool := c.isDigit || c = '.' || c = 'e' || c = 'E'

variable {rest : List Char}

theorem stops_isDigit (h : Stops continuesNumber rest) : Stops Char.isDigit rest := by
  intro c cs hcs
  have hc := h c cs hcs
  simp only [continuesNumber, Bool.or_eq_false_iff] at hc
  exact hc.1.1.1

theorem readWhole_toDigits (n : Nat) (h : Stops continuesNumber rest) :
    readWhole (Nat.toDigits 10 n ++ rest) = .ok (Nat.toDigits 10 n, rest) := by
  have hdigits : ∀ c ∈ Nat.toDigits 10 n, c.isDigit = true := fun _ => isDigit_of_mem_toDigits
  have htake := takeWhile_append_of_stops hdigits (stops_isDigit h)
  have hdrop := dropWhile_append_of_stops hdigits (stops_isDigit h)
  obtain ⟨c, cs, hcs, hc⟩ := toDigits_head n
  unfold readWhole
  simp only [htake, hdrop]
  split
  · rename_i hnil
    rw [hcs] at hnil
    cases hnil
  · rename_i d ds hzero
    rw [hcs] at hzero
    cases hzero
    rw [hc rfl] at hcs
    cases hcs
  · rfl

theorem readPart_of_stops (h : Stops continuesNumber rest) : readPart rest = .ok ([], rest) := by
  unfold readPart
  split
  · have := stops_cons.1 h
    cases this
  · rfl

theorem readExponent_of_stops (h : Stops continuesNumber rest) :
    readExponent rest = .ok (none, rest) := by
  unfold readExponent
  split
  · rename_i c cs
    have hc := stops_cons.1 h
    simp [continuesNumber] at hc
    simp [hc]
  · rfl

/-- The value of a whole number within 64 bits. -/
theorem value_toDigits (negative : Bool) {n : Nat} (hn : n ≤ greatestInteger)
    (hneg : negative = true → 0 < n ∧ n ≤ 2 ^ 63) :
    NumberLiteral.value ⟨negative, Nat.toDigits 10 n, [], none⟩ =
      .ok (.integer (if negative then -(n : Int) else n)) := by
  unfold NumberLiteral.value
  rw [takeSignificand_eq (by rwa [Nat.ofDigitChars_ten_toDigits])]
  rw [Nat.ofDigitChars_ten_toDigits]
  refine (if_pos rfl).trans ?_
  cases negative with
  | false => exact if_pos rfl
  | true =>
    obtain ⟨hpos, hle⟩ := hneg rfl
    have hrange : (decide (0 < n) && decide (n ≤ 2 ^ 63)) = true := by
      rw [decide_eq_true hpos, decide_eq_true hle]
      rfl
    exact (if_neg Bool.false_ne_true).trans (if_pos hrange)

/-- An integer of 64 bits, signed or unsigned. -/
def IsWord (i : Int) : Prop := -(2 ^ 63) ≤ i ∧ i < 2 ^ 64

/-- **An integer is read back**, in front of a text that does not go on with a number. -/
theorem readNumber_integerText {i : Int} (hi : IsWord i) (h : Stops continuesNumber rest) :
    readNumber (JsonNumber.integerText i ++ rest) = (.number (.ok (.integer i)), some rest) := by
  obtain ⟨hlow, hhigh⟩ := hi
  unfold JsonNumber.integerText readNumber
  by_cases hneg : i < 0
  · have hvalue := value_toDigits true (n := i.natAbs)
      (by unfold greatestInteger; omega) (by omega)
    have habs : -(i.natAbs : Int) = i := by omega
    rw [if_pos hneg]
    simp only [List.cons_append, readWhole_toDigits _ h, readPart_of_stops h,
      readExponent_of_stops h, bind, Except.bind, pure, Except.pure, hvalue, if_true, habs]
  · have hvalue := value_toDigits false (n := i.natAbs)
      (by unfold greatestInteger; omega) (by simp)
    have habs : (i.natAbs : Int) = i := by omega
    rw [if_neg hneg]
    split
    rename_i negative body hbody
    split at hbody
    · rename_i r hminus
      obtain ⟨c, cs, hcs, -⟩ := toDigits_head i.natAbs
      have hc : c.isDigit = true := isDigit_of_mem_toDigits (n := i.natAbs) (by simp [hcs])
      rw [hcs] at hminus
      cases hminus
      cases hc
    · cases hbody
      simp only [readWhole_toDigits _ h, readPart_of_stops h, readExponent_of_stops h, bind,
        Except.bind, pure, Except.pure, hvalue, Bool.false_eq_true, if_false, habs]

end Json

end GraphIngest
