import GraphIngest.Proofs.Json.Integer
import GraphIngest.Proofs.Json.Layout
import GraphIngest.Proofs.Json.Literal

/-!
# Printed values read back

The reader finds in the text of a value the tree of that value, in any layout and with any text
behind it. Only numbers need care: an integer of 64 bits is kept exactly.

* `readValue_chars` — a value in a layout is read as its tree;
* `Tree.ofText_compact`, `Tree.ofText_pretty` — so are the two texts of a value, without a fault.
-/

namespace GraphIngest.Json

mutual

/-- Every number in a value is an integer of 64 bits. -/
def Exact : Json → Prop
  | .null | .bool _ | .string _ => True
  | .number (.integer i) => IsWord i
  | .number (.float _) => False
  | .array items => ExactItems items
  | .object members => ExactMembers members

def ExactItems : List Json → Prop
  | [] => True
  | j :: js => Exact j ∧ ExactItems js

def ExactMembers : List (String × Json) → Prop
  | [] => True
  | (_, j) :: ms => Exact j ∧ ExactMembers ms

end

/-! ## White space -/

theorem skipSpace_append {ws : List Char} (h : ∀ c ∈ ws, isSpace c = true) (cs : List Char) :
    skipSpace (ws ++ cs) = skipSpace cs :=
  List.dropWhile_append_of_pos h

theorem skipSpace_cons {c : Char} (hc : isSpace c = false) (cs : List Char) :
    skipSpace (c :: cs) = c :: cs :=
  (stops_cons.2 hc).dropWhile

/-- Space in front of a value is passed over. -/
theorem readValue_append {ws : List Char} (h : ∀ c ∈ ws, isSpace c = true) (fuel : Nat)
    (cs : List Char) : readValue fuel (ws ++ cs) = readValue fuel cs := by
  cases fuel with
  | zero => rfl
  | succ fuel =>
    unfold readValue
    rw [skipSpace_append h]

/-- A text that a value begins with: neither white space nor a closing bracket. -/
def BeginsValue (cs : List Char) : Prop :=
  ∃ c rest, cs = c :: rest ∧ isSpace c = false ∧ c ≠ ']' ∧ c ≠ '\x7d'

theorem BeginsValue.append {cs : List Char} (h : BeginsValue cs) (more : List Char) :
    BeginsValue (cs ++ more) := by
  obtain ⟨c, rest, rfl, hc⟩ := h
  exact ⟨c, rest ++ more, rfl, hc⟩

theorem BeginsValue.skipSpace {cs : List Char} (h : BeginsValue cs) : skipSpace cs = cs := by
  obtain ⟨c, rest, rfl, hc, -⟩ := h
  exact skipSpace_cons hc rest

theorem BeginsValue.skipSpace_gap {cs : List Char} (h : BeginsValue cs) (l : Layout) (level : Nat) :
    Json.skipSpace (l.gap level ++ cs) = cs := by
  rw [skipSpace_append (l.gap_space level), h.skipSpace]

theorem beginsValue_literal (s : String) : BeginsValue (literal s) :=
  ⟨'"', _, rfl, by decide, by decide, by decide⟩

theorem beginsValue_integerText (i : Int) : BeginsValue (JsonNumber.integerText i) := by
  unfold JsonNumber.integerText
  split
  · exact ⟨'-', _, rfl, by decide, by decide, by decide⟩
  · obtain ⟨c, cs, hcs, -⟩ := toDigits_head i.natAbs
    have hc : c.isDigit = true := isDigit_of_mem_toDigits (n := i.natAbs) (by simp [hcs])
    refine ⟨c, cs, hcs, ?_, ?_, ?_⟩
    · refine Bool.eq_false_iff.2 fun hspace => ?_
      simp only [isSpace, Bool.or_eq_true, decide_eq_true_eq] at hspace
      rcases hspace with ((rfl | rfl) | rfl) | rfl <;> cases hc
    · rintro rfl
      cases hc
    · rintro rfl
      cases hc

variable (l : Layout)

theorem beginsValue_chars (level : Nat) {j : Json} (h : j.Exact) :
    BeginsValue (l.chars level j) := by
  cases j with
  | null => exact ⟨'n', _, rfl, by decide, by decide, by decide⟩
  | bool b =>
    cases b
    · exact ⟨'f', _, rfl, by decide, by decide, by decide⟩
    · exact ⟨'t', _, rfl, by decide, by decide, by decide⟩
  | number n =>
    cases n with
    | integer i => exact beginsValue_integerText i
    | float x => cases h
  | string s => exact beginsValue_literal s
  | array items =>
    cases items <;> exact ⟨'[', _, rfl, by decide, by decide, by decide⟩
  | object members =>
    cases members <;> exact ⟨'\x7b', _, rfl, by decide, by decide, by decide⟩

/-! ## One item, one member -/

variable {fuel : Nat} {cs mid rest : List Char}

theorem readItems_close {first : Bool} (h : skipSpace cs = ']' :: rest) :
    readItems (fuel + 1) first cs = ([], .closed, some rest) := by
  unfold readItems
  simp only [h, if_true]

theorem readItems_first (h : skipSpace cs = rest) (hrest : BeginsValue rest) :
    readItems (fuel + 1) true cs = readItem fuel rest := by
  obtain ⟨c, rest, rfl, -, hc, -⟩ := hrest
  unfold readItems
  simp [h, hc]

theorem readItems_comma (h : skipSpace cs = ',' :: mid) (hmid : skipSpace mid = rest)
    (hrest : BeginsValue rest) : readItems (fuel + 1) false cs = readItem fuel rest := by
  obtain ⟨c, rest, rfl, -, hc, -⟩ := hrest
  unfold readItems
  simp [h, hmid, hc]

theorem readItem_cons {t : Tree} {ts : List Tree} {ending : Ending} {rest : Option (List Char)}
    (ht : readValue fuel cs = (t, some mid)) (hts : readItems fuel false mid = (ts, ending, rest)) :
    readItem (fuel + 1) cs = (t :: ts, ending, rest) := by
  unfold readItem
  simp only [ht, hts]

theorem readMembers_close {first : Bool} (h : skipSpace cs = '\x7d' :: rest) :
    readMembers (fuel + 1) first cs = ([], .closed, some rest) := by
  unfold readMembers
  simp only [h, if_true]

theorem readMembers_first (h : skipSpace cs = rest) (hrest : BeginsValue rest) :
    readMembers (fuel + 1) true cs = readMember fuel rest := by
  obtain ⟨c, rest, rfl, -, -, hc⟩ := hrest
  unfold readMembers
  simp [h, hc]

theorem readMembers_comma (h : skipSpace cs = ',' :: mid) (hmid : skipSpace mid = rest)
    (hrest : BeginsValue rest) : readMembers (fuel + 1) false cs = readMember fuel rest := by
  obtain ⟨c, rest, rfl, -, -, hc⟩ := hrest
  unfold readMembers
  simp [h, hmid, hc]

theorem readValue_literal (k : String) (rest : List Char) :
    readValue (fuel + 1) (literal k ++ rest) = (.string ⟨.ok k, none⟩, some rest) := by
  have hcs : literal k ++ rest = '"' :: (k.toList.flatMap escapeChar ++ '"' :: rest) := by
    simp [literal]
  rw [hcs, readValue, skipSpace_cons (by decide)]
  simp [readString_literal]

theorem readMember_cons {k : String} {t : Tree} {ms : List (Tree × Tree)} {ending : Ending}
    {rest : Option (List Char)} (ht : readValue (fuel + 1) cs = (t, some mid))
    (hms : readMembers (fuel + 1) false mid = (ms, ending, rest)) :
    readMember (fuel + 2) (literal k ++ ':' :: cs) =
      ((.string ⟨.ok k, none⟩, t) :: ms, ending, rest) := by
  unfold readMember
  simp only [readValue_literal, skipSpace_cons (c := ':') (by decide), if_true, ht, hms]

/-! ## What stands behind a value -/

theorem stops_space {ws : List Char} (h : ∀ c ∈ ws, isSpace c = true) {c : Char}
    (hc : continuesNumber c = false) (rest : List Char) :
    Stops continuesNumber (ws ++ c :: rest) := by
  cases ws with
  | nil => exact stops_cons.2 hc
  | cons w ws =>
    have hw := h w List.mem_cons_self
    simp only [isSpace, Bool.or_eq_true, decide_eq_true_eq] at hw
    refine stops_cons.2 ?_
    rcases hw with ((rfl | rfl) | rfl) | rfl <;> rfl

theorem stops_moreItems (level closing : Nat) (js : List Json) (rest : List Char) :
    Stops continuesNumber (l.moreItems level js ++ (l.gap closing ++ ']' :: rest)) := by
  cases js with
  | nil => exact stops_space (l.gap_space closing) (by decide) rest
  | cons j js => exact stops_cons.2 (by decide)

theorem stops_moreMembers (level closing : Nat) (ms : List (String × Json)) (rest : List Char) :
    Stops continuesNumber (l.moreMembers level ms ++ (l.gap closing ++ '\x7d' :: rest)) := by
  cases ms with
  | nil => exact stops_space (l.gap_space closing) (by decide) rest
  | cons m ms => exact stops_cons.2 (by decide)

/-! ## Values -/

theorem readValue_integer {i : Int} (hi : IsWord i) (h : Stops continuesNumber rest) :
    readValue (fuel + 1) (JsonNumber.integerText i ++ rest) =
      (.number (.ok (.integer i)), some rest) := by
  have hread := readNumber_integerText hi h
  obtain ⟨c, cs, hcs, hspace, -⟩ := beginsValue_integerText i
  have hc : c = '-' ∨ c.isDigit = true := by
    unfold JsonNumber.integerText at hcs
    split at hcs
    · cases hcs
      exact .inl rfl
    · exact .inr (isDigit_of_mem_toDigits (n := i.natAbs) (by simp [hcs]))
  have hother : c ≠ 'n' ∧ c ≠ 't' ∧ c ≠ 'f' ∧ c ≠ '"' ∧ c ≠ '[' ∧ c ≠ '\x7b' := by
    refine ⟨?_, ?_, ?_, ?_, ?_, ?_⟩ <;> (rintro rfl; rcases hc with hc | hc <;> cases hc)
  rw [hcs, List.cons_append] at hread ⊢
  rw [readValue, skipSpace_cons hspace]
  simp [hother, hc, hread]

theorem readValue_array {items : List Tree} {ending : Ending} {rest : Option (List Char)}
    (h : readItems fuel true cs = (items, ending, rest)) :
    readValue (fuel + 1) ('[' :: cs) = (.array items ending, rest) := by
  rw [readValue, skipSpace_cons (by decide)]
  simp [h]

theorem readValue_object {members : List (Tree × Tree)} {ending : Ending}
    {rest : Option (List Char)} (h : readMembers fuel true cs = (members, ending, rest)) :
    readValue (fuel + 1) ('\x7b' :: cs) = (.object members ending, rest) := by
  rw [readValue, skipSpace_cons (by decide)]
  simp [h]

/-- Reading finds a value in front of any text behind it. Three units of fuel for each character are
enough, since no more than three readers call each other before one of them takes a character. -/
def ReadsValue (level : Nat) (j : Json) : Prop :=
  ∀ fuel rest, 3 * (l.chars level j).length ≤ fuel → Stops continuesNumber rest →
    readValue fuel (l.chars level j ++ rest) = (toTree j, some rest)

/-- Reading finds the items behind another one, up to the closing bracket. -/
def ReadsItems (level : Nat) (js : List Json) : Prop :=
  ∀ closing fuel rest, 3 * (l.moreItems level js).length < fuel →
    readItems fuel false (l.moreItems level js ++ (l.gap closing ++ ']' :: rest)) =
      (toTreeItems js, .closed, some rest)

/-- Reading finds the members behind another one, up to the closing brace. -/
def ReadsMembers (level : Nat) (ms : List (String × Json)) : Prop :=
  ∀ closing fuel rest, 3 * (l.moreMembers level ms).length < fuel →
    readMembers fuel false (l.moreMembers level ms ++ (l.gap closing ++ '\x7d' :: rest)) =
      (toTreeMembers ms, .closed, some rest)

section

variable {l} {level closing : Nat} {k : String} {j : Json} {js : List Json}
  {ms : List (String × Json)}

theorem readItem_chars (hj : ReadsValue l level j) (hjs : ReadsItems l level js)
    (hfuel : 3 * (l.chars level j).length + 3 * (l.moreItems level js).length + 1 < fuel) :
    readItem fuel (l.chars level j ++ (l.moreItems level js ++ (l.gap closing ++ ']' :: rest))) =
      (toTree j :: toTreeItems js, .closed, some rest) := by
  obtain ⟨f, rfl⟩ : ∃ f, fuel = f + 1 := ⟨fuel - 1, by omega⟩
  exact readItem_cons (hj f _ (by omega) (stops_moreItems l level closing js rest))
    (hjs closing f rest (by omega))

theorem readMember_chars (hj : ReadsValue l level j) (hms : ReadsMembers l level ms)
    (hfuel : 3 * (l.chars level j).length + 3 * (l.moreMembers level ms).length + 2 < fuel) :
    readMember fuel (literal k ++ ':' :: (l.colon ++ (l.chars level j ++
        (l.moreMembers level ms ++ (l.gap closing ++ '\x7d' :: rest))))) =
      ((.string ⟨.ok k, none⟩, toTree j) :: toTreeMembers ms, .closed, some rest) := by
  obtain ⟨f, rfl⟩ : ∃ f, fuel = f + 2 := ⟨fuel - 2, by omega⟩
  refine readMember_cons ?_ (hms closing (f + 1) rest (by omega))
  rw [readValue_append l.colon_space]
  exact hj (f + 1) _ (by omega) (stops_moreMembers l level closing ms rest)

end

mutual

/-- **A printed value is read as its tree**, in any layout and in front of any text that does not go
on with a number. -/
theorem readValue_chars (level : Nat) : ∀ j : Json, j.Exact → ReadsValue l level j
  | .null, _ | .bool true, _ | .bool false, _ => by
    intro fuel rest hfuel _
    obtain ⟨f, rfl⟩ : ∃ f, fuel = f + 1 := ⟨fuel - 1, by simp [Layout.chars] at hfuel; omega⟩
    rfl
  | .number (.integer i), h => by
    intro fuel rest hfuel hrest
    obtain ⟨c, cs, hcs, -⟩ := beginsValue_integerText i
    simp only [Layout.chars, JsonNumber.text, hcs, List.length_cons] at hfuel
    obtain ⟨f, rfl⟩ : ∃ f, fuel = f + 1 := ⟨fuel - 1, by omega⟩
    exact readValue_integer h hrest
  | .string s, _ => by
    intro fuel rest hfuel _
    obtain ⟨f, rfl⟩ : ∃ f, fuel = f + 1 :=
      ⟨fuel - 1, by simp [Layout.chars, literal] at hfuel; omega⟩
    exact readValue_literal s rest
  | .array [], _ => by
    intro fuel rest hfuel _
    obtain ⟨f, rfl⟩ : ∃ f, fuel = f + 2 := ⟨fuel - 2, by simp [Layout.chars] at hfuel; omega⟩
    exact readValue_array (readItems_close (skipSpace_cons (by decide) rest))
  | .array (j :: js), h => by
    intro fuel rest hfuel _
    have hj := readValue_chars (level + 1) j h.1
    have hjs := readItems_moreItems (level + 1) js h.2
    have hbegins := (beginsValue_chars l (level + 1) h.1).append
      (l.moreItems (level + 1) js ++ (l.gap level ++ ']' :: rest))
    simp only [Layout.chars, List.length_append, List.length_cons] at hfuel
    obtain ⟨f, rfl⟩ : ∃ f, fuel = f + 2 := ⟨fuel - 2, by omega⟩
    simp only [Layout.chars, List.cons_append, List.append_assoc, List.nil_append]
    refine readValue_array ?_
    rw [readItems_first (hbegins.skipSpace_gap l (level + 1)) hbegins]
    exact readItem_chars hj hjs (by omega)
  | .object [], _ => by
    intro fuel rest hfuel _
    obtain ⟨f, rfl⟩ : ∃ f, fuel = f + 2 := ⟨fuel - 2, by simp [Layout.chars] at hfuel; omega⟩
    exact readValue_object (readMembers_close (skipSpace_cons (by decide) rest))
  | .object ((k, j) :: ms), h => by
    intro fuel rest hfuel _
    have hj := readValue_chars (level + 1) j h.1
    have hms := readMembers_moreMembers (level + 1) ms h.2
    have hbegins := (beginsValue_literal k).append (':' :: (l.colon ++ (l.chars (level + 1) j ++
      (l.moreMembers (level + 1) ms ++ (l.gap level ++ '\x7d' :: rest)))))
    simp only [Layout.chars, List.length_append, List.length_cons] at hfuel
    obtain ⟨f, rfl⟩ : ∃ f, fuel = f + 2 := ⟨fuel - 2, by omega⟩
    simp only [Layout.chars, List.cons_append, List.append_assoc, List.nil_append]
    refine readValue_object ?_
    rw [readMembers_first (hbegins.skipSpace_gap l (level + 1)) hbegins]
    exact readMember_chars hj hms (by omega)

theorem readItems_moreItems (level : Nat) : ∀ js : List Json, ExactItems js → ReadsItems l level js
  | [], _ => by
    intro closing fuel rest hfuel
    obtain ⟨f, rfl⟩ : ∃ f, fuel = f + 1 := ⟨fuel - 1, by omega⟩
    refine readItems_close ?_
    exact (skipSpace_append (l.gap_space closing) _).trans (skipSpace_cons (by decide) rest)
  | j :: js, h => by
    intro closing fuel rest hfuel
    have hj := readValue_chars level j h.1
    have hjs := readItems_moreItems level js h.2
    have hbegins := (beginsValue_chars l level h.1).append
      (l.moreItems level js ++ (l.gap closing ++ ']' :: rest))
    simp only [Layout.moreItems, List.length_append, List.length_cons] at hfuel
    obtain ⟨f, rfl⟩ : ∃ f, fuel = f + 1 := ⟨fuel - 1, by omega⟩
    simp only [Layout.moreItems, List.cons_append, List.append_assoc]
    rw [readItems_comma (skipSpace_cons (by decide) _) (hbegins.skipSpace_gap l level) hbegins]
    exact readItem_chars hj hjs (by omega)

theorem readMembers_moreMembers (level : Nat) : ∀ ms : List (String × Json), ExactMembers ms →
    ReadsMembers l level ms
  | [], _ => by
    intro closing fuel rest hfuel
    obtain ⟨f, rfl⟩ : ∃ f, fuel = f + 1 := ⟨fuel - 1, by omega⟩
    refine readMembers_close ?_
    exact (skipSpace_append (l.gap_space closing) _).trans (skipSpace_cons (by decide) rest)
  | (k, j) :: ms, h => by
    intro closing fuel rest hfuel
    have hj := readValue_chars level j h.1
    have hms := readMembers_moreMembers level ms h.2
    have hbegins := (beginsValue_literal k).append (':' :: (l.colon ++ (l.chars level j ++
      (l.moreMembers level ms ++ (l.gap closing ++ '\x7d' :: rest)))))
    simp only [Layout.moreMembers, List.length_append, List.length_cons] at hfuel
    obtain ⟨f, rfl⟩ : ∃ f, fuel = f + 1 := ⟨fuel - 1, by omega⟩
    simp only [Layout.moreMembers, List.cons_append, List.append_assoc]
    rw [readMembers_comma (skipSpace_cons (by decide) _) (hbegins.skipSpace_gap l level) hbegins]
    exact readMember_chars hj hms (by omega)

end

/-! ## Texts -/

theorem Tree.ofText_chars (level : Nat) {j : Json} (h : j.Exact) :
    Tree.ofText (String.ofList (l.chars level j)) = (toTree j, none) := by
  unfold Tree.ofText
  have hread := readValue_chars l level j h (3 * (l.chars level j).length + 3) [] (by omega)
    (stops_nil _)
  rw [List.append_nil] at hread
  simp only [String.toList_ofList, hread]
  rfl

/-- **The compact text of a value** is read as its tree. -/
theorem Tree.ofText_compact {j : Json} (h : j.Exact) :
    Tree.ofText j.compact = (toTree j, none) := by
  rw [Json.compact, compactChars_eq 0, Tree.ofText_chars Layout.dense 0 h]

/-- **The indented text of a value** is read as its tree. -/
theorem Tree.ofText_pretty {j : Json} (h : j.Exact) : Tree.ofText j.pretty = (toTree j, none) := by
  rw [Json.pretty, prettyChars_eq 0, Tree.ofText_chars Layout.indented 0 h]

end GraphIngest.Json
