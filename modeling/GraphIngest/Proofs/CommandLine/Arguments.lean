import GraphIngest.CommandLine.Arguments

/-!
# How much a command line can name

Every option takes at least one word, so a command names no more files than its line has words.

* `length_readOptions` — options and the words behind them are no more than the words;
* `length_sources_le` — so are the models or drafts of a command.
-/

namespace GraphIngest.CommandLine

variable {options : List OptionSpec} {words : List String}

/-- The files whose models a command may append. -/
def Command.sources : Command → List String
  | .validate _ _ => []
  | .render _ r => r.models
  | .refine r => r.drafts

theorem length_map_addGiven {name value : String} {found : Option (Given × List String)} {n : Nat}
    {read : Given × List String}
    (hfound : ∀ {read : Given × List String}, found = some read →
      read.1.length + read.2.length ≤ n)
    (h : found.map (addGiven name value) = some read) :
    read.1.length + read.2.length ≤ n + 1 := by
  obtain ⟨before, hbefore, rfl⟩ := Option.map_eq_some_iff.1 h
  have hlength := hfound hbefore
  simp only [addGiven, List.length_cons]
  omega

/-- Options and the words behind them are no more than the words. -/
theorem length_readOptions {read : Given × List String}
    (h : readOptions options words = some read) : read.1.length + read.2.length ≤ words.length := by
  fun_induction readOptions options words generalizing read with
  | case1 => cases h; simp
  | case2 => cases h; simp
  | case3 => cases h
  | case4 => cases h
  | case5 word words o value _ _ ih => exact length_map_addGiven ih h
  | case6 word words o _ _ ih => exact length_map_addGiven ih h
  | case7 => cases h
  | case8 word o _ _ value words _ ih =>
    have hlength := length_map_addGiven ih h
    simp only [List.length_cons]
    omega
  | case9 => cases h

theorem length_readAllOptions {given : Given} (h : readAllOptions options words = some given) :
    given.length ≤ words.length := by
  unfold readAllOptions at h
  obtain ⟨⟨found, rest⟩, hread, h⟩ := Option.bind_eq_some_iff.1 h
  have hlength := length_readOptions hread
  dsimp only at h hlength
  split at h
  · cases h
    omega
  · cases h

theorem length_values_le (given : Given) (name : String) :
    (given.values name).length ≤ given.length := by
  unfold Given.values
  rw [List.length_map]
  exact List.length_filter_le _ _

theorem length_sources_ofWords? {name : String} {c : Command}
    (h : Command.ofWords? name words = some c) : c.sources.length ≤ words.length := by
  unfold Command.ofWords? at h
  split at h
  · obtain ⟨given, -, h⟩ := Option.bind_eq_some_iff.1 h
    obtain ⟨model, -, h⟩ := Option.bind_eq_some_iff.1 h
    obtain ⟨columns, -, h⟩ := Option.bind_eq_some_iff.1 h
    cases h
    exact Nat.zero_le _
  · split at h
    · obtain ⟨given, hgiven, h⟩ := Option.bind_eq_some_iff.1 h
      obtain ⟨columns, -, h⟩ := Option.bind_eq_some_iff.1 h
      cases h
      exact Nat.le_trans (length_values_le given _) (length_readAllOptions hgiven)
    · split at h
      · obtain ⟨given, hgiven, h⟩ := Option.bind_eq_some_iff.1 h
        cases h
        exact Nat.le_trans (length_values_le given _) (length_readAllOptions hgiven)
      · cases h

/-- **A command names no more files than its line has words.** -/
theorem length_sources_le {i : Invocation} (h : Invocation.ofWords? words = some i) :
    i.command.sources.length ≤ words.length := by
  unfold Invocation.ofWords? at h
  obtain ⟨⟨given, rest⟩, hread, h⟩ := Option.bind_eq_some_iff.1 h
  have hlength := length_readOptions hread
  dsimp only at h hlength
  split at h
  · cases h
  · split at h
    · cases h
    · obtain ⟨c, hc, h⟩ := Option.bind_eq_some_iff.1 h
      cases h
      have hcommand := length_sources_ofWords? hc
      show c.sources.length ≤ words.length
      simp only [List.length_cons] at hlength
      omega

end GraphIngest.CommandLine
