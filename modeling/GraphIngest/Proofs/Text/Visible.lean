import GraphIngest.Proofs.Text.Segments
import GraphIngest.Proofs.Text.Trim

/-!
# What is not blank of a text

* `visible_trimChars` — trimming keeps what is not blank;
* `flatMap_visible_segments` — so does cutting a text at blanks.
-/

namespace GraphIngest.Text

variable {cs : List Char} {sep : Char}

/-- The characters of a text that are not blank. -/
def visible (cs : List Char) : List Char := cs.filter (!isBlank ·)

theorem visible_append (cs ds : List Char) : visible (cs ++ ds) = visible cs ++ visible ds :=
  List.filter_append ..

theorem visible_of_blank (h : ∀ c ∈ cs, isBlank c = true) : visible cs = [] := by
  refine List.filter_eq_nil_iff.2 fun c hc => ?_
  simp [h c hc]

theorem visible_trimStart (cs : List Char) : visible (trimStart cs) = visible cs := by
  have hfront : ∀ c ∈ cs.takeWhile isBlank, isBlank c = true :=
    fun c hc => List.mem_takeWhile_imp hc
  conv_rhs => rw [← List.takeWhile_append_dropWhile (p := isBlank) (l := cs), visible_append,
    visible_of_blank hfront, List.nil_append]
  rfl

theorem visible_trimEnd (cs : List Char) : visible (trimEnd cs) = visible cs := by
  have hreverse := congrArg List.reverse (visible_trimStart cs.reverse)
  unfold visible at hreverse ⊢
  rw [← List.filter_reverse, ← List.filter_reverse, List.reverse_reverse] at hreverse
  exact hreverse

/-- Trimming keeps what is not blank. -/
theorem visible_trimChars (cs : List Char) : visible (trimChars cs) = visible cs :=
  (visible_trimEnd _).trans (visible_trimStart cs)

/-- Segments between blanks keep what is not blank. -/
theorem flatMap_visible_segments (h : isBlank sep = true) (cs : List Char) :
    (segments sep cs).flatMap visible = visible cs := by
  have hflat : (segments sep cs).flatMap visible = visible (segments sep cs).flatten :=
    (List.filter_flatten ..).symm
  rw [hflat, flatten_segments]
  unfold visible
  rw [List.filter_filter]
  refine List.filter_congr fun c _ => ?_
  by_cases hc : c = sep
  · subst hc
    simp [h]
  · simp [hc]

end GraphIngest.Text
