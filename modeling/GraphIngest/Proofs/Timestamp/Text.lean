import GraphIngest.Proofs.Json.Integer
import GraphIngest.Proofs.Timestamp.Calendar

/-!
# Points in time read back

The printed form of a point in time that exists is read as that point in time, and what is read from
any text is a point in time that exists.

* `readField_padded`, `readYear_yearText`, `readFraction_fractionText` — the parts of the form;
* `ofText_text` — the whole form;
* `exists_of_ofText` — the other direction.
-/

namespace GraphIngest.Timestamp

/-! ## Digits -/

theorem isBlank_of_isDigit {c : Char} (h : c.isDigit = true) : Text.isBlank c = false := by
  have hc : 48 ≤ c.toNat ∧ c.toNat ≤ 57 := Char.isDigit_iff_toNat.1 h
  refine Bool.eq_false_iff.2 fun hblank => ?_
  obtain ⟨r, hr, hlow, hhigh⟩ := Text.inRanges_iff.1 hblank
  simp only [Text.blankRanges, List.mem_cons, List.not_mem_nil, or_false] at hr
  rcases hr with rfl | rfl | rfl | rfl | rfl | rfl | rfl | rfl | rfl | rfl <;>
    simp at hlow hhigh <;> omega

theorem trimStart_cons {c : Char} (hc : Text.isBlank c = false) (cs : List Char) :
    Text.trimStart (c :: cs) = c :: cs :=
  (stops_cons.2 hc).dropWhile

/-- Digits at the front, as many as are asked for or in front of something else. -/
theorem readNumber_digits {width : Nat} {ds rest : List Char}
    (hds : ∀ c ∈ ds, c.isDigit = true) (hne : ds ≠ []) (hwidth : ds.length ≤ width)
    (hstop : ds.length = width ∨ Stops Char.isDigit rest) (hvalue : Json.digitsValue ds < 2 ^ 63) :
    readNumber width (ds ++ rest) = .ok (Json.digitsValue ds, rest) := by
  have htake : ((ds ++ rest).take width).takeWhile Char.isDigit = ds := by
    rw [List.take_append, List.take_of_length_le hwidth]
    refine takeWhile_append_of_stops hds ?_
    rcases hstop with hlength | hrest
    · rw [hlength, Nat.sub_self]
      exact stops_nil _
    · exact hrest.take _
  unfold readNumber
  simp only [htake, hvalue, if_true]
  cases ds with
  | nil => exact absurd rfl hne
  | cons d ds => simp

theorem isDigit_of_mem_padded {width n : Nat} {c : Char} (h : c ∈ padded width n) :
    c.isDigit = true := by
  rcases List.mem_append.1 h with h | h
  · rw [List.eq_of_mem_replicate h]
    rfl
  · exact isDigit_of_mem_toDigits h

theorem padded_ne_nil (width n : Nat) : padded width n ≠ [] :=
  fun h => Nat.toDigits_ne_nil (List.append_eq_nil_iff.1 h).2

theorem length_padded {width n : Nat} (hwidth : 0 < width) (hn : n < 10 ^ width) :
    (padded width n).length = width := by
  have := (Nat.length_toDigits_le_iff (by decide) hwidth).2 hn
  simp [padded]
  omega

theorem digitsValue_padded (width n : Nat) : Json.digitsValue (padded width n) = n := by
  rw [Json.digitsValue_eq]
  unfold padded
  rw [Nat.ofDigitChars_append, Nat.ofDigitChars_replicate_zero, Nat.mul_zero,
    Nat.ofDigitChars_ten_toDigits]

/-- Padded digits begin with a digit. -/
theorem exists_padded_eq_cons (width n : Nat) :
    ∃ d ds, padded width n = d :: ds ∧ d.isDigit = true := by
  cases hp : padded width n with
  | nil => exact absurd hp (padded_ne_nil width n)
  | cons d ds =>
    have hmem : d ∈ padded width n := hp ▸ List.mem_cons_self
    exact ⟨d, ds, rfl, isDigit_of_mem_padded hmem⟩

theorem trimStart_padded (width n : Nat) (rest : List Char) :
    Text.trimStart (padded width n ++ rest) = padded width n ++ rest := by
  obtain ⟨d, ds, hp, hd⟩ := exists_padded_eq_cons width n
  rw [hp]
  exact trimStart_cons (isBlank_of_isDigit hd) _

/-! ## The parts of the form -/

variable {rest : List Char}

theorem readField_padded {low high n : Nat} (hlow : low ≤ n) (hhigh : n ≤ high) (hn : n < 100) :
    readField low high (padded 2 n ++ rest) = .ok (n, rest) := by
  have hlength := length_padded (by decide : 0 < 2) hn
  have hread : readNumber 2 (padded 2 n ++ rest) = .ok (n, rest) := by
    rw [readNumber_digits (fun _ => isDigit_of_mem_padded) (padded_ne_nil 2 n) (by omega)
      (.inl hlength) (by rw [digitsValue_padded]; omega), digitsValue_padded]
  unfold readField
  rw [trimStart_padded, hread]
  simp [bind, Except.bind, pure, Except.pure, hlow, hhigh]

theorem readMark_cons {mark : Char} (h : Text.isBlank mark = false) :
    readMark mark (mark :: rest) = .ok rest := by
  unfold readMark
  rw [trimStart_cons h]
  simp

theorem padded_append_ne {width n : Nat} {c : Char} (hc : c.isDigit = false) (cs : List Char) :
    padded width n ++ rest ≠ c :: cs := by
  intro h
  obtain ⟨d, ds, hp, hd⟩ := exists_padded_eq_cons width n
  rw [hp] at h
  cases h
  exact nomatch hc.symm.trans hd

/-- A year behind its sign. -/
theorem readNumber_year (rest : List Char) {n : Nat} (hn : n < 2 ^ 63) :
    readNumber (padded 4 n ++ '-' :: rest).length (padded 4 n ++ '-' :: rest) =
      .ok (n, '-' :: rest) := by
  rw [readNumber_digits (fun _ => isDigit_of_mem_padded) (padded_ne_nil 4 n) (by simp)
    (.inr (stops_cons.2 (by decide))) (by rwa [digitsValue_padded]), digitsValue_padded]

theorem readYear_yearText {y : Int} (hy : yearInRange y = true) :
    readYear (yearText y ++ '-' :: rest) = .ok (y, '-' :: rest) := by
  have hrange : -262143 ≤ y ∧ y ≤ 262142 := by simpa [yearInRange] using hy
  unfold readYear yearText
  by_cases hplain : 0 ≤ y ∧ y ≤ 9999
  · have hlength := length_padded (by decide : 0 < 4) (n := y.toNat) (by omega)
    have hread : readNumber 4 (padded 4 y.toNat ++ '-' :: rest) = .ok (y.toNat, '-' :: rest) := by
      rw [readNumber_digits (fun _ => isDigit_of_mem_padded) (padded_ne_nil 4 _) (by omega)
        (.inl hlength) (by rw [digitsValue_padded]; omega), digitsValue_padded]
    have hy : (y.toNat : Int) = y := by omega
    rw [if_pos hplain, trimStart_padded]
    split
    · rename_i h
      exact absurd h (padded_append_ne (by decide) _)
    · rename_i h
      exact absurd h (padded_append_ne (by decide) _)
    · simp [hread, hy, bind, Except.bind, pure, Except.pure]
      omega
  · rw [if_neg hplain]
    by_cases hneg : y < 0
    · have hy : -(y.natAbs : Int) = y := by omega
      rw [if_pos hneg, List.cons_append, trimStart_cons (by decide)]
      simp only [readNumber_year rest (n := y.natAbs) (by omega), bind, Except.bind, pure,
        Except.pure, hy]
      simp
      omega
    · have hy : (y.natAbs : Int) = y := by omega
      rw [if_neg hneg, List.cons_append, trimStart_cons (by decide)]
      simp only [readNumber_year rest (n := y.natAbs) (by omega), bind, Except.bind, pure,
        Except.pure, hy]
      simp
      omega

/-- A fraction of so many digits. -/
theorem readFraction_padded {width n : Nat} (hwidth : 0 < width) (hwidth' : width ≤ 9)
    (hn : n < 10 ^ width) :
    readFraction ('.' :: (padded width n ++ 'Z' :: rest)) =
      .ok (n * 10 ^ (9 - width), 'Z' :: rest) := by
  have hlength := length_padded hwidth hn
  have hpow : 10 ^ width ≤ 10 ^ 9 := Nat.pow_le_pow_right (by decide) hwidth'
  have hread : readNumber 9 (padded width n ++ 'Z' :: rest) = .ok (n, 'Z' :: rest) := by
    rw [readNumber_digits (fun _ => isDigit_of_mem_padded) (padded_ne_nil width n) (by omega)
      (.inr (stops_cons.2 (by decide))) (by rw [digitsValue_padded]; omega), digitsValue_padded]
  have hdrop : ('Z' :: rest).dropWhile Char.isDigit = 'Z' :: rest :=
    (stops_cons.2 (by decide)).dropWhile
  simp [readFraction, hread, hdrop, hlength, bind, Except.bind, pure, Except.pure]

theorem readFraction_fractionText {n : Nat} (hn : n < 10 ^ 9) :
    readFraction (fractionText n ++ 'Z' :: rest) = .ok (n, 'Z' :: rest) := by
  unfold fractionText
  by_cases hzero : n = 0
  · rw [if_pos hzero, hzero]
    rfl
  rw [if_neg hzero]
  by_cases hmillis : n % 1000000 = 0
  · have hvalue : n / 1000000 * 10 ^ (9 - 3) = n := by omega
    rw [if_pos hmillis, List.cons_append,
      readFraction_padded (by decide) (by decide) (by omega), hvalue]
  rw [if_neg hmillis]
  by_cases hmicros : n % 1000 = 0
  · have hvalue : n / 1000 * 10 ^ (9 - 6) = n := by omega
    rw [if_pos hmicros, List.cons_append,
      readFraction_padded (by decide) (by decide) (by omega), hvalue]
  · rw [if_neg hmicros, List.cons_append, readFraction_padded (by decide) (by decide) hn]
    simp

/-! ## The whole form -/

/-- **The printed form of a point in time that exists** is read as that point in time. -/
theorem ofText_text {t : Timestamp} (h : Exists t) : ofText t.text = .ok t := by
  have hdays := daysInMonth_bounds t.year t.month
  obtain ⟨hcalendar, hyear⟩ := h
  have huniversal : toUniversal ⟨t.year, t.month, t.day, t.hour, t.minute, t.second,
      t.nanosecond⟩ 0 = t := hcalendar.toUniversal_zero
  obtain ⟨hmonth, hday, hhour, hminute, hsecond, hnano⟩ := hcalendar
  have hday' : t.day ≤ 31 := by omega
  have hseparator : ∀ cs, readSeparator ('T' :: cs) = .ok cs := fun _ => rfl
  have hoffset : readOffset (Text.trimStart ['Z']) = .ok (0, []) := rfl
  have hend : Text.trimStart [] = [] := rfl
  unfold ofText ofChars text
  simp only [String.toList_ofList, List.append_assoc, List.cons_append, readYear_yearText hyear,
    readMark_cons (by decide : Text.isBlank '-' = false),
    readMark_cons (by decide : Text.isBlank ':' = false),
    readField_padded hmonth.1 hmonth.2 (by omega), readField_padded hday.1 hday' (by omega),
    readField_padded (Nat.zero_le _) hhour (by omega),
    readField_padded (Nat.zero_le _) hminute (by omega),
    readField_padded (Nat.zero_le _) hsecond (by omega), hseparator,
    readFraction_fractionText hnano, hoffset, hend, huniversal, hyear, bind, Except.bind]
  simp [Nat.not_lt.2 hday.2]
  rfl

/-! ## What is read exists -/

theorem digitsValue_lt {ds : List Char} (h : ∀ c ∈ ds, c.isDigit = true) :
    Json.digitsValue ds < 10 ^ ds.length := by
  rw [Json.digitsValue_eq]
  induction ds with
  | nil => decide
  | cons c ds ih =>
    have hc : c.toNat ≤ 57 := (Char.isDigit_iff_toNat.1 (h c List.mem_cons_self)).2
    have hds := ih fun d hd => h d (List.mem_cons_of_mem c hd)
    have hzero : '0'.toNat = 48 := rfl
    rw [Nat.ofDigitChars_cons, Nat.ofDigitChars_eq_ofDigitChars_zero, List.length_cons,
      Nat.pow_succ]
    have hmul : 10 ^ ds.length * (10 * 0 + (c.toNat - '0'.toNat)) ≤ 10 ^ ds.length * 9 :=
      Nat.mul_le_mul_left _ (by omega)
    omega

theorem readNumber_eq_ok {width n : Nat} {cs after : List Char}
    (h : readNumber width cs = .ok (n, after)) :
    ∃ ds : List Char, (∀ c ∈ ds, c.isDigit = true) ∧ ds.length ≤ width ∧ ds.length ≤ cs.length ∧
      n = Json.digitsValue ds ∧ after = cs.drop ds.length := by
  have hdigits : ∀ c ∈ (cs.take width).takeWhile Char.isDigit, c.isDigit = true :=
    List.all_eq_true.1 List.all_takeWhile
  have hlength := (List.takeWhile_sublist Char.isDigit (l := cs.take width)).length_le
  rw [List.length_take] at hlength
  unfold readNumber at h
  simp only at h
  split at h
  · cases h
  · cases h
  · split at h
    · cases h
      exact ⟨_, hdigits, by omega, by omega, rfl, rfl⟩
    · cases h

theorem readField_eq_ok {low high n : Nat} {cs rest : List Char}
    (h : readField low high cs = .ok (n, rest)) : low ≤ n ∧ n ≤ high := by
  unfold readField at h
  obtain ⟨⟨n', rest'⟩, -, h⟩ := bind_eq_ok.1 h
  simp only at h
  split at h
  · rename_i hbounds
    cases h
    simpa using hbounds
  · cases h

theorem readFraction_eq_ok {n : Nat} {cs rest : List Char}
    (h : readFraction cs = .ok (n, rest)) : n < 10 ^ 9 := by
  unfold readFraction at h
  split at h
  · obtain ⟨⟨k, after⟩, hread, h⟩ := bind_eq_ok.1 h
    obtain ⟨ds, hds, hwidth, hlength, rfl, rfl⟩ := readNumber_eq_ok hread
    cases h
    rename_i rest'
    have hused : rest'.length - (rest'.drop ds.length).length = ds.length := by
      rw [List.length_drop]
      omega
    calc Json.digitsValue ds * 10 ^ (9 - (rest'.length - (rest'.drop ds.length).length))
        = Json.digitsValue ds * 10 ^ (9 - ds.length) := by rw [hused]
      _ < 10 ^ ds.length * 10 ^ (9 - ds.length) :=
        Nat.mul_lt_mul_of_pos_right (digitsValue_lt hds) (Nat.pow_pos (by decide))
      _ = 10 ^ 9 := by rw [← Nat.pow_add, Nat.add_sub_cancel' hwidth]
  · cases h
    decide

/-- **What is read exists.** -/
theorem exists_of_ofText {s : String} {t : Timestamp} (h : ofText s = .ok t) : Exists t := by
  unfold ofText ofChars at h
  obtain ⟨⟨year, _⟩, -, h⟩ := bind_eq_ok.1 h
  obtain ⟨_, -, h⟩ := bind_eq_ok.1 h
  obtain ⟨⟨month, _⟩, hmonth, h⟩ := bind_eq_ok.1 h
  obtain ⟨_, -, h⟩ := bind_eq_ok.1 h
  obtain ⟨⟨day, _⟩, hday, h⟩ := bind_eq_ok.1 h
  obtain ⟨_, -, h⟩ := bind_eq_ok.1 h
  obtain ⟨⟨hour, _⟩, hhour, h⟩ := bind_eq_ok.1 h
  obtain ⟨_, -, h⟩ := bind_eq_ok.1 h
  obtain ⟨⟨minute, _⟩, hminute, h⟩ := bind_eq_ok.1 h
  obtain ⟨_, -, h⟩ := bind_eq_ok.1 h
  obtain ⟨⟨second, _⟩, hsecond, h⟩ := bind_eq_ok.1 h
  obtain ⟨⟨nanosecond, _⟩, hnano, h⟩ := bind_eq_ok.1 h
  obtain ⟨⟨offset, _⟩, -, h⟩ := bind_eq_ok.1 h
  obtain ⟨-, h⟩ := guard_eq_ok.1 h
  obtain ⟨hdate, h⟩ := guard_eq_ok.1 h
  obtain ⟨hoffset, h⟩ := guard_eq_ok.1 h
  obtain ⟨hyear, h⟩ := guard_eq_ok.1 h
  cases h
  have hcalendar : InCalendar ⟨year, month, day, hour, minute, second, nanosecond⟩ := by
    refine ⟨readField_eq_ok hmonth, ⟨(readField_eq_ok hday).1, ?_⟩, (readField_eq_ok hhour).2,
      (readField_eq_ok hminute).2, (readField_eq_ok hsecond).2, readFraction_eq_ok hnano⟩
    simp at hdate
    exact hdate.2
  exact ⟨hcalendar.toUniversal (by omega), by simpa using hyear⟩

end GraphIngest.Timestamp
