import GraphIngest.Columns
import GraphIngest.Proofs.Json.Decoding

/-!
# Allowed columns read back

A list of columns is written as an array and the files as an object, so that the shape tells them
apart when they are read, empty ones included. Files stand in the order of their names, so putting
them in one by one gives the same files.

* `FileColumns.ofList_entries` — the entries of files make these files;
* `AllowedColumns.decodes` — allowed columns are decoded from what is written for them.
-/

namespace GraphIngest

open Json (Decodes Decoder)

namespace FileColumns

theorem insertEntry_of_lt {file : String} {columns : List String}
    {es : List (String × List String)} (h : ∀ e ∈ es, e.1 < file) :
    insertEntry file columns es = es ++ [(file, columns)] := by
  induction es with
  | nil => rfl
  | cons e es ih =>
    have he : e.1 < file := h e List.mem_cons_self
    have hne : file ≠ e.1 := fun heq => String.lt_irrefl _ (heq ▸ he)
    rw [insertEntry, if_neg (String.lt_asymm he), if_neg hne, ih fun e' he' => h e' (by simp [he'])]
    rfl

theorem entries_foldl_insert (es : List (String × List String)) (f : FileColumns)
    (h : (f.entries ++ es).Pairwise fun a b => a.1 < b.1) :
    (es.foldl (fun f e => f.insert e.1 e.2) f).entries = f.entries ++ es := by
  induction es generalizing f with
  | nil => simp
  | cons e es ih =>
    have hinsert : (f.insert e.1 e.2).entries = f.entries ++ [e] :=
      insertEntry_of_lt fun e' he' => (List.pairwise_append.1 h).2.2 e' he' e List.mem_cons_self
    rw [List.foldl_cons, ih, hinsert]
    · simp
    · rw [hinsert]
      simpa using h

theorem eq_of_entries {f g : FileColumns} (h : f.entries = g.entries) : f = g := by
  cases f
  cases g
  cases h
  rfl

/-- **The entries of files make these files.** -/
theorem ofList_entries (f : FileColumns) : ofList f.entries = f :=
  eq_of_entries (entries_foldl_insert f.entries empty f.sorted)

end FileColumns

/-! ## Columns -/

theorem Json.depthItems_strings (ss : List String) : depthItems (ss.map .string) = 0 := by
  induction ss with
  | nil => rfl
  | cons s ss ih => simp [depthItems, depth, ih]

theorem Json.depth_strings (ss : List String) : (Json.strings ss).depth = 1 := by
  simp [strings, depth, depthItems_strings]

theorem Json.depthMembers_strings (es : List (String × List String)) :
    depthMembers (es.map fun e => (e.1, .strings e.2)) ≤ 1 := by
  induction es with
  | nil => exact Nat.zero_le 1
  | cons e es ih => simp [depthMembers, depth_strings, ih]

theorem Json.exact_strings (ss : List String) : (Json.strings ss).Exact := by
  simp only [Json.strings, Exact, exactItems_iff, List.mem_map]
  rintro _ ⟨s, -, rfl⟩
  trivial

namespace AllowedColumns

theorem decodes_strings (depth : Nat) (columns : List String) :
    Decodes (Decoder.list Decoder.string) (depth + 1) (.strings columns) columns :=
  Decodes.list fun c _ => Decodes.string c

theorem depth_toJson (a : AllowedColumns) : a.toJson.depth ≤ 2 := by
  cases a with
  | flat columns => simp [toJson, Json.depth_strings]
  | perFile files => exact Nat.succ_le_succ (Json.depthMembers_strings files.entries)

/-- **Allowed columns are decoded from what is written for them.** -/
theorem decodes (a : AllowedColumns) : Decodes decoder 2 a.toJson a := by
  refine Decodes.mono (Decodes.untagged ?_) a.depth_toJson
  cases a with
  | flat columns =>
    have hcolumns := decodes_strings 0 columns .buffered trivial
    simp [toJson, hcolumns, Except.map, Except.toOption]
  -- An object is not a list, also an empty one, so the second shape is reached.
  | perFile files =>
    obtain ⟨f, hlist⟩ : ∃ f, Decoder.list Decoder.string .buffered
        (Json.toTree (perFile files).toJson) = .error f := ⟨_, rfl⟩
    have hmap : Decodes (Decoder.map "a map" (Decoder.list Decoder.string)) 2
        (perFile files).toJson files.entries :=
      Decodes.map fun e _ => decodes_strings 0 e.2
    have hfiles := hmap .buffered trivial
    simp [List.findSome?, hlist, hfiles, Except.map, Except.toOption, FileColumns.ofList_entries]

theorem exact_toJson (a : AllowedColumns) : a.toJson.Exact := by
  cases a with
  | flat columns => exact Json.exact_strings columns
  | perFile files =>
    simp only [toJson, Json.Exact, Json.exactMembers_iff, List.mem_map]
    rintro _ ⟨e, -, rfl⟩
    exact Json.exact_strings e.2

theorem ofText_pretty (a : AllowedColumns) : ofText a.toJson.pretty = .ok a :=
  Json.decodeText_pretty a.decodes (by decide) a.exact_toJson

end AllowedColumns

end GraphIngest
