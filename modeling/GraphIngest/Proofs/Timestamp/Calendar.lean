import GraphIngest.Timestamp
import GraphIngest.Proofs.Basic

/-!
# Points in time that exist

A point in time exists when its fields are in the calendar and its year is one that a date may have.
Stepping over the end of a day, a month or a year stays in the calendar, so an offset from universal
time is taken away without leaving it.

* `InCalendar.nextDay`, `InCalendar.previousDay` — a step by a day;
* `InCalendar.toUniversal` — a step by an offset of less than a day.
-/

namespace GraphIngest.Timestamp

/-- The month, the day and the time of day exist in a year. -/
structure InCalendar (t : Timestamp) : Prop where
  month : 1 ≤ t.month ∧ t.month ≤ 12
  day : 1 ≤ t.day ∧ t.day ≤ daysInMonth t.year t.month
  hour : t.hour ≤ 23
  minute : t.minute ≤ 59
  second : t.second ≤ 60
  nanosecond : t.nanosecond < 10 ^ 9

/-- The point in time exists, in a year that a date may have. -/
structure Exists (t : Timestamp) : Prop extends InCalendar t where
  year : yearInRange t.year = true

theorem daysInMonth_bounds (y : Int) (m : Nat) : 28 ≤ daysInMonth y m ∧ daysInMonth y m ≤ 31 := by
  unfold daysInMonth
  split
  · split <;> omega
  · split <;> omega

variable {t : Timestamp}

theorem InCalendar.nextDay (h : InCalendar t) : InCalendar t.nextDay := by
  obtain ⟨hmonth, hday, hhour, hminute, hsecond, hnano⟩ := h
  unfold Timestamp.nextDay
  split
  · exact ⟨hmonth, by simp; omega, hhour, hminute, hsecond, hnano⟩
  · split
    · have hdays := daysInMonth_bounds t.year (t.month + 1)
      exact ⟨by simp; omega, by simp; omega, hhour, hminute, hsecond, hnano⟩
    · have hdays := daysInMonth_bounds (t.year + 1) 1
      exact ⟨by simp, by simp; omega, hhour, hminute, hsecond, hnano⟩

theorem InCalendar.previousDay (h : InCalendar t) : InCalendar t.previousDay := by
  obtain ⟨hmonth, hday, hhour, hminute, hsecond, hnano⟩ := h
  unfold Timestamp.previousDay
  split
  · exact ⟨hmonth, by simp; omega, hhour, hminute, hsecond, hnano⟩
  · split
    · have hdays := daysInMonth_bounds t.year (t.month - 1)
      exact ⟨by simp; omega, by simp; omega, hhour, hminute, hsecond, hnano⟩
    · exact ⟨by simp, by simp [daysInMonth], hhour, hminute, hsecond, hnano⟩

/-- The same day at a number of minutes after midnight. -/
theorem InCalendar.atMinute (h : InCalendar t) {m : Int} (hm : 0 ≤ m ∧ m < 1440) :
    InCalendar { t with hour := m.toNat / 60, minute := m.toNat % 60 } :=
  ⟨h.month, h.day, by simp; omega, by simp; omega, h.second, h.nanosecond⟩

/-- **An offset of less than a day** is taken away within the calendar. -/
theorem InCalendar.toUniversal (h : InCalendar t) {offset : Int} (ho : offset.natAbs < 1440) :
    InCalendar (t.toUniversal offset) := by
  have hhour := h.hour
  have hminute := h.minute
  unfold Timestamp.toUniversal
  simp only
  split
  · exact h.previousDay.atMinute (by omega)
  · split
    · exact h.nextDay.atMinute (by omega)
    · exact h.atMinute (by omega)

/-- Universal time has no offset. -/
theorem InCalendar.toUniversal_zero (h : InCalendar t) : t.toUniversal 0 = t := by
  have hhour := h.hour
  have hminute := h.minute
  unfold Timestamp.toUniversal
  simp only
  rw [if_neg (by omega), if_neg (by omega)]
  obtain ⟨year, month, day, hour, minute, second, nanosecond⟩ := t
  simp only at hhour hminute ⊢
  congr <;> omega

end GraphIngest.Timestamp
