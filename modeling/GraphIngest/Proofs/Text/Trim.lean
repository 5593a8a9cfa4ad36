import GraphIngest.Text.Blank
import Mathlib.Data.List.DropRight

/-!
# Trimmed texts

* `trimChars_eq_self_iff` — trimming leaves a text alone when each end does;
* `trimChars_trimChars` — a trimmed text is trimmed;
* `trimChars_blank_append`, `trimChars_append_blank` — blank characters at the ends do not count.
-/

namespace GraphIngest.Text

variable {cs ds : List Char}

theorem trimEnd_eq_rdropWhile (cs : List Char) : trimEnd cs = cs.rdropWhile isBlank := rfl

/-- The end of a text is trimmed when its last character is not blank. -/
theorem trimEnd_eq_self_iff :
    trimEnd cs = cs ↔ ∀ h : cs ≠ [], isBlank (cs.getLast h) = false := by
  simp only [trimEnd_eq_rdropWhile, List.rdropWhile_eq_self_iff, Bool.not_eq_true]

theorem trimStart_append (h : ∀ c ∈ cs, isBlank c = true) (ds : List Char) :
    trimStart (cs ++ ds) = trimStart ds :=
  List.dropWhile_append_of_pos h

theorem trimEnd_append (ds : List Char) (h : ∀ c ∈ cs, isBlank c = true) :
    trimEnd (ds ++ cs) = trimEnd ds := by
  have hrev : ∀ c ∈ cs.reverse, isBlank c = true := fun c hc => h c (List.mem_reverse.1 hc)
  unfold trimEnd
  rw [List.reverse_append, List.dropWhile_append_of_pos hrev]

/-- Behind a character that is not blank, trimming the end does not reach the start. -/
theorem trimStart_trimEnd_trimStart (cs : List Char) :
    trimStart (trimEnd (trimStart cs)) = trimEnd (trimStart cs) := by
  have hidem : trimStart (trimStart cs) = trimStart cs := List.dropWhile_idempotent _ _
  obtain ⟨tail, htail⟩ : trimEnd (trimStart cs) <+: trimStart cs := List.rdropWhile_prefix _ _
  generalize trimEnd (trimStart cs) = ds at htail
  cases ds with
  | nil => rfl
  | cons d ds =>
    rw [← htail] at hidem
    have hd : ¬ isBlank d = true := List.dropWhile_eq_self_iff.1 hidem (Nat.succ_pos _)
    exact List.dropWhile_cons_of_neg hd

theorem trimChars_trimChars (cs : List Char) : trimChars (trimChars cs) = trimChars cs := by
  unfold trimChars
  rw [trimStart_trimEnd_trimStart]
  exact List.rdropWhile_idempotent _ _

/-- Trimming leaves a text alone when it does so at each end. -/
theorem trimChars_eq_self_iff : trimChars cs = cs ↔ trimStart cs = cs ∧ trimEnd cs = cs := by
  constructor
  · intro h
    have hstart : trimStart cs = cs := by
      rw [← h]
      exact trimStart_trimEnd_trimStart cs
    refine ⟨hstart, ?_⟩
    unfold trimChars at h
    rw [hstart] at h
    exact h
  · rintro ⟨hstart, hend⟩
    unfold trimChars
    rw [hstart, hend]

/-- Blank characters around a text are trimmed. -/
theorem trimChars_blank_append (hcs : ∀ c ∈ cs, isBlank c = true) (ds : List Char) :
    trimChars (cs ++ ds) = trimChars ds := by
  unfold trimChars
  rw [trimStart_append hcs]

theorem trimChars_append_blank (ds : List Char) (hcs : ∀ c ∈ cs, isBlank c = true) :
    trimChars (ds ++ cs) = trimChars ds := by
  unfold trimChars
  by_cases hds : ∀ c ∈ ds, isBlank c = true
  · rw [trimStart_append hds]
    have hnil : ∀ {xs : List Char}, (∀ c ∈ xs, isBlank c = true) → trimStart xs = [] :=
      fun h => List.dropWhile_eq_nil_iff.2 h
    rw [hnil hcs, hnil hds]
  · have hne : ds.dropWhile isBlank ≠ [] := fun h => hds (List.dropWhile_eq_nil_iff.1 h)
    have hdrop : trimStart (ds ++ cs) = trimStart ds ++ cs := by
      unfold trimStart
      rw [List.dropWhile_append, if_neg (by simpa using hne)]
    rw [hdrop, trimEnd_append _ hcs]

theorem mem_of_mem_trimChars {c : Char} (h : c ∈ trimChars cs) : c ∈ cs := by
  have hend : trimChars cs <+: trimStart cs := List.rdropWhile_prefix _ _
  have hstart : trimStart cs <:+ cs := List.dropWhile_suffix _
  exact hstart.subset (hend.subset h)

end GraphIngest.Text
