import GraphIngest.Diagram
import GraphIngest.Proofs.Text.Segments
import GraphIngest.Proofs.Text.Trim

/-!
# The texts of properties

A property is written into a diagram as one text: parts with a bar between them, which are trimmed
when they are read. Nothing is escaped, so the form keeps the properties whose parts have no bar and
no blanks around them, and a diagram holds no others.

* `valueParts_joined` — the parts of a text that was put together from parts;
* `decodeProperty_encodeProperty` — a legible property is read back as it is;
* `legible_decodeProperty` — every property that is read from a text is legible;
* `decodeProperty_encodeProperty_iff` — so exactly the legible ones are read back.
-/

namespace GraphIngest

/-- A part of the text of a property: it has no bar and no blanks around it. -/
def IsPart (s : String) : Prop := '|' ∉ s.toList ∧ Text.trim s = s

/-- A property whose text can be taken apart again. The column for other sources stands behind its
mark, so blanks in front of it count. -/
structure Property.Legible (p : Property) : Prop where
  column : IsPart p.column
  type : IsPart p.type
  typed : p.type ≠ ""
  other : ∀ o, p.otherColumn = some o → '|' ∉ o.toList ∧ Text.trimEnd o.toList = o.toList

namespace Diagram

/-! ## Putting together and taking apart -/

/-- The parts behind the column and the type. -/
def flagTexts (p : Property) : List String :=
  (if p.isUnique then ["unique"] else []) ++
    match p.otherColumn with
    | some other => ["other=" ++ other]
    | none => []

/-- The parts of a text with a bar between blanks in front of each of them. -/
def barred (parts : List String) : List Char := parts.flatMap fun s => " | ".toList ++ s.toList

theorem barred_nil : barred [] = [] := rfl

theorem barred_append (parts more : List String) :
    barred (parts ++ more) = barred parts ++ barred more :=
  List.flatMap_append

theorem barred_singleton (part : String) : barred [part] = " | ".toList ++ part.toList :=
  List.append_nil _

/-- The text of a property is its column with the other parts behind it. -/
theorem toList_encodeProperty (p : Property) :
    (encodeProperty p).2.toList = p.column.toList ++ barred (p.type :: flagTexts p) := by
  have hunique : (if p.isUnique then " | unique" else "").toList =
      barred (if p.isUnique then ["unique"] else []) := by
    split
    · decide
    · rfl
  have hmark : " | other=".toList = " | ".toList ++ "other=".toList := by decide
  have hparts : barred (p.type :: flagTexts p) = barred ([p.type] ++ flagTexts p) := rfl
  rw [hparts, barred_append, barred_singleton]
  unfold encodeProperty flagTexts
  rw [barred_append, ← hunique]
  cases p.otherColumn with
  | none => simp only [String.toList_append, List.append_assoc, String.toList_empty, barred_nil]
  | some other =>
    simp only [String.toList_append, List.append_assoc, barred_singleton, hmark]

theorem isBlank_space : ∀ c ∈ [' '], Text.isBlank c = true := by
  intro c hc
  rw [List.mem_singleton.1 hc]
  decide

/-- The segments of a text that was put together are its parts, up to blanks. -/
theorem segments_barred {s : String} (parts : List String) (hs : '|' ∉ s.toList)
    (hparts : ∀ t ∈ parts, '|' ∉ t.toList) (lead : List Char) (hbar : '|' ∉ lead)
    (hblank : ∀ c ∈ lead, Text.isBlank c = true) :
    (Text.segments '|' (lead ++ (s.toList ++ barred parts))).map Text.trimChars =
      (s :: parts).map fun t => Text.trimChars t.toList := by
  induction parts generalizing s lead with
  | nil =>
    have hwhole : '|' ∉ lead ++ s.toList := by
      rw [List.mem_append]
      exact not_or.2 ⟨hbar, hs⟩
    unfold barred
    rw [List.flatMap_nil, List.append_nil, Text.segments_of_not_mem hwhole, List.map_singleton,
      Text.trimChars_blank_append hblank, List.map_singleton]
  | cons t parts ih =>
    have htext : lead ++ (s.toList ++ barred (t :: parts)) =
        (lead ++ s.toList ++ [' ']) ++ '|' :: ([' '] ++ (t.toList ++ barred parts)) := by
      unfold barred
      rw [List.flatMap_cons]
      simp only [List.append_assoc]
      rfl
    have hfirst : '|' ∉ lead ++ s.toList ++ [' '] := by
      rw [List.mem_append, List.mem_append]
      exact not_or.2 ⟨not_or.2 ⟨hbar, hs⟩, by decide⟩
    have htail := ih (hparts t List.mem_cons_self)
      (fun u hu => hparts u (List.mem_cons_of_mem _ hu)) [' '] (by decide) isBlank_space
    rw [htext, Text.segments_append hfirst, List.map_cons, htail,
      Text.trimChars_append_blank _ isBlank_space, Text.trimChars_blank_append hblank]
    rfl

/-- **A text that was put together from parts has these parts**, trimmed. -/
theorem valueParts_joined {value s : String} {parts : List String}
    (hvalue : value.toList = s.toList ++ barred parts) (hs : '|' ∉ s.toList)
    (hparts : ∀ t ∈ parts, '|' ∉ t.toList) :
    valueParts value = (s :: parts).map Text.trim := by
  have hsegments := segments_barred parts hs hparts [] List.not_mem_nil (by simp)
  rw [List.nil_append, ← hvalue] at hsegments
  have hmap := congrArg (List.map String.ofList) hsegments
  rw [List.map_map, List.map_map] at hmap
  exact hmap

/-! ## Flags -/

theorem toList_other (o : String) : ("other=" ++ o).toList = otherMark ++ o.toList :=
  String.toList_append

theorem otherColumn?_other (o : String) : otherColumn? ("other=" ++ o) = some o := by
  unfold otherColumn?
  have hprefix : otherMark.isPrefixOf (otherMark ++ o.toList) = true :=
    List.isPrefixOf_iff_prefix.2 (List.prefix_append _ _)
  rw [toList_other, if_pos hprefix, List.drop_left, String.ofList_toList]

theorem applyFlag_unique (p : Property) : applyFlag p "unique" = { p with isUnique := true } :=
  if_pos rfl

theorem applyFlag_other (p : Property) (o : String) :
    applyFlag p ("other=" ++ o) = { p with otherColumn := some o } := by
  have hne : "other=" ++ o ≠ "unique" := by
    intro h
    have hlist := congrArg String.toList h
    rw [toList_other] at hlist
    cases hlist
  unfold applyFlag
  rw [if_neg hne, otherColumn?_other]

/-- Behind the mark, only the end of a column is trimmed. -/
theorem trim_other {o : String} (h : Text.trimEnd o.toList = o.toList) :
    Text.trim ("other=" ++ o) = "other=" ++ o := by
  have hstart : Text.trimStart (otherMark ++ o.toList) = otherMark ++ o.toList :=
    List.dropWhile_cons_of_neg (by decide)
  have hend : Text.trimEnd (otherMark ++ o.toList) = otherMark ++ o.toList := by
    rw [Text.trimEnd_eq_self_iff] at h ⊢
    intro hne
    by_cases ho : o.toList = []
    · have hmark : ∀ h : otherMark ≠ [], Text.isBlank (otherMark.getLast h) = false := by decide
      simp only [ho, List.append_nil]
      exact hmark _
    · rw [List.getLast_append_of_ne_nil hne ho]
      exact h ho
  unfold Text.trim
  rw [toList_other, Text.trimChars_eq_self_iff.2 ⟨hstart, hend⟩, ← toList_other,
    String.ofList_toList]

/-- What the mark of a column says is trimmed at its end. -/
theorem trimEnd_of_otherColumn? {flag o : String} (hflag : IsPart flag)
    (h : otherColumn? flag = some o) :
    '|' ∉ o.toList ∧ Text.trimEnd o.toList = o.toList := by
  unfold otherColumn? at h
  split at h
  · rename_i hprefix
    obtain ⟨tail, htail⟩ := List.isPrefixOf_iff_prefix.1 hprefix
    have ho : o.toList = tail := by
      rw [← Option.some.inj h, String.toList_ofList, ← htail, List.drop_left]
    have htrim : Text.trimChars flag.toList = flag.toList := by
      have := congrArg String.toList hflag.2
      rwa [Text.trim, String.toList_ofList] at this
    have hend := (Text.trimChars_eq_self_iff.1 htrim).2
    have hbar := hflag.1
    rw [← htail] at hend hbar
    rw [ho]
    refine ⟨fun hmem => hbar (List.mem_append_right _ hmem), ?_⟩
    rw [Text.trimEnd_eq_self_iff] at hend ⊢
    intro hne
    have hlast := hend (List.append_ne_nil_of_right_ne_nil _ hne)
    rwa [List.getLast_append_of_ne_nil _ hne] at hlast
  · cases h

/-! ## Reading back -/

/-- The flags of a legible property are parts of a text. -/
theorem isPart_flagTexts {p : Property} (h : p.Legible) : ∀ t ∈ flagTexts p, IsPart t := by
  intro t ht
  rcases List.mem_append.1 ht with ht | ht
  · split at ht
    · rw [List.mem_singleton.1 ht]
      exact ⟨by decide, by decide⟩
    · cases ht
  · split at ht
    · rename_i o ho
      obtain ⟨hbar, hend⟩ := h.other o ho
      rw [List.mem_singleton.1 ht]
      refine ⟨?_, trim_other hend⟩
      rw [toList_other, List.mem_append]
      exact not_or.2 ⟨by decide, hbar⟩
    · cases ht

theorem valueParts_encodeProperty {p : Property} (h : p.Legible) :
    valueParts (encodeProperty p).2 = p.column :: p.type :: flagTexts p := by
  have hflags := isPart_flagTexts h
  have hbars : ∀ t ∈ p.type :: flagTexts p, '|' ∉ t.toList := by
    intro t ht
    rcases List.mem_cons.1 ht with rfl | ht
    · exact h.type.1
    · exact (hflags t ht).1
  have htrim : (flagTexts p).map Text.trim = flagTexts p := by
    refine (List.map_congr_left fun t ht => (hflags t ht).2).trans ?_
    exact List.map_id _
  rw [valueParts_joined (toList_encodeProperty p) h.column.1 hbars, List.map_cons, List.map_cons,
    h.column.2, h.type.2, htrim]

/-- **A legible property is read back as it is.** -/
theorem decodeProperty_encodeProperty {p : Property} (h : p.Legible) :
    decodeProperty p.name (encodeProperty p).2 = p := by
  unfold decodeProperty
  rw [valueParts_encodeProperty h]
  simp only [if_neg h.typed]
  unfold flagTexts
  obtain ⟨name, column, other, type, isUnique⟩ := p
  cases isUnique <;> cases other <;>
    simp only [if_true, Bool.false_eq_true, if_false, List.nil_append, List.cons_append,
      List.foldl_cons, List.foldl_nil, applyFlag_unique, applyFlag_other]

/-! ## What is read -/

theorem isPart_empty : IsPart "" := ⟨List.not_mem_nil, rfl⟩

theorem isPart_defaultPropertyType : IsPart defaultPropertyType := ⟨by decide, by decide⟩

/-- The parts of any text are parts. -/
theorem isPart_of_mem_valueParts {value s : String} (h : s ∈ valueParts value) : IsPart s := by
  obtain ⟨cs, hcs, rfl⟩ := List.mem_map.1 h
  constructor
  · rw [String.toList_ofList]
    exact fun hmem => Text.not_mem_of_mem_segments hcs (Text.mem_of_mem_trimChars hmem)
  · unfold Text.trim
    rw [String.toList_ofList, Text.trimChars_trimChars]

/-- One flag keeps a property legible. -/
theorem legible_applyFlag {p : Property} (h : p.Legible) {flag : String} (hflag : IsPart flag) :
    (applyFlag p flag).Legible := by
  unfold applyFlag
  split
  · exact ⟨h.column, h.type, h.typed, h.other⟩
  · split
    · rename_i o ho
      refine ⟨h.column, h.type, h.typed, fun o' ho' => ?_⟩
      cases ho'
      exact trimEnd_of_otherColumn? hflag ho
    · exact h

theorem legible_foldl_applyFlag {p : Property} (h : p.Legible) {flags : List String}
    (hflags : ∀ t ∈ flags, IsPart t) : (flags.foldl applyFlag p).Legible := by
  induction flags generalizing p with
  | nil => exact h
  | cons flag flags ih =>
    exact ih (legible_applyFlag h (hflags flag List.mem_cons_self))
      fun t ht => hflags t (List.mem_cons_of_mem _ ht)

/-- A property without flags is legible. -/
theorem legible_plain {name column type : String} (hcolumn : IsPart column) (htype : IsPart type)
    (htyped : type ≠ "") : (⟨name, column, none, type, false⟩ : Property).Legible :=
  ⟨hcolumn, htype, htyped, fun _ ho => nomatch ho⟩

/-- **Every property that is read from a text is legible.** -/
theorem legible_decodeProperty (name value : String) : (decodeProperty name value).Legible := by
  have hdefault : defaultPropertyType ≠ "" := by decide
  have hparts : ∀ s ∈ valueParts value, IsPart s := fun s hs => isPart_of_mem_valueParts hs
  unfold decodeProperty
  split
  · exact legible_plain isPart_empty isPart_defaultPropertyType hdefault
  · rename_i column heq
    rw [heq] at hparts
    exact legible_plain (hparts column List.mem_cons_self) isPart_defaultPropertyType hdefault
  · rename_i column type flags heq
    rw [heq] at hparts
    have hcolumn : IsPart column := hparts column List.mem_cons_self
    have htype : IsPart type := hparts type (by simp)
    refine legible_foldl_applyFlag ?_ fun t ht => hparts t (by simp [ht])
    split
    · exact legible_plain hcolumn isPart_defaultPropertyType hdefault
    · rename_i htyped
      exact legible_plain hcolumn htype htyped

/-- **Exactly the legible properties are read back.** -/
theorem decodeProperty_encodeProperty_iff {p : Property} :
    decodeProperty p.name (encodeProperty p).2 = p ↔ p.Legible := by
  constructor
  · intro h
    rw [← h]
    exact legible_decodeProperty _ _
  · exact decodeProperty_encodeProperty

end Diagram

end GraphIngest
