import GraphIngest.Json.Printer
import GraphIngest.Json.Reader

/-!
# One printer for both layouts

The compact and the indented text of a value differ in the white space between the tokens and in
nothing else. `Layout.chars` prints with any such white space, and both printers are cases of it, so
that what holds of reading a layout holds of both.

* `compactChars_eq`, `prettyChars_eq` — the two printers as layouts.
-/

namespace GraphIngest.Json

/-- The white space between the tokens of a text. -/
structure Layout where
  /-- In front of the items and the closing bracket of a level. -/
  gap : Nat → List Char
  /-- Behind a colon. -/
  colon : List Char
  gap_space : ∀ level, ∀ c ∈ gap level, isSpace c = true
  colon_space : ∀ c ∈ colon, isSpace c = true

namespace Layout

mutual

/-- The text of a value at a level. -/
def chars (l : Layout) (level : Nat) : Json → List Char
  | .null => ['n', 'u', 'l', 'l']
  | .bool true => ['t', 'r', 'u', 'e']
  | .bool false => ['f', 'a', 'l', 's', 'e']
  | .number n => n.text
  | .string s => literal s
  | .array [] => ['[', ']']
  | .array (j :: js) =>
    '[' :: l.gap (level + 1) ++ (chars l (level + 1) j ++ (moreItems l (level + 1) js ++
      (l.gap level ++ [']'])))
  | .object [] => ['\x7b', '\x7d']
  | .object ((k, j) :: ms) =>
    '\x7b' :: l.gap (level + 1) ++ (literal k ++ ':' :: l.colon ++ (chars l (level + 1) j ++
      (moreMembers l (level + 1) ms ++ (l.gap level ++ ['\x7d']))))

/-- Items behind another one. -/
def moreItems (l : Layout) (level : Nat) : List Json → List Char
  | [] => []
  | j :: js => ',' :: l.gap level ++ (chars l level j ++ moreItems l level js)

/-- Members behind another one. -/
def moreMembers (l : Layout) (level : Nat) : List (String × Json) → List Char
  | [] => []
  | (k, j) :: ms =>
    ',' :: l.gap level ++ (literal k ++ ':' :: l.colon ++ (chars l level j ++
      moreMembers l level ms))

end

/-- No white space at all. -/
def dense : Layout := ⟨fun _ => [], [], by simp, by simp⟩

/-- A line for each item, and a space behind a colon. -/
def indented : Layout where
  gap := newLine
  colon := [' ']
  gap_space := by
    intro level c hc
    rcases List.mem_cons.1 hc with rfl | hc
    · rfl
    · rw [List.eq_of_mem_replicate hc]
      rfl
  colon_space := by
    intro c hc
    rw [List.mem_singleton.1 hc]
    rfl

end Layout

/-! ## The compact printer -/

mutual

theorem compactChars_eq (level : Nat) : ∀ j, compactChars j = Layout.dense.chars level j
  | .null | .bool true | .bool false | .number _ | .string _ | .array [] | .object [] => by
    simp [compactChars, compactItems, compactMembers, Layout.chars]
  | .array (j :: js) => by
    rw [compactChars, compactItems_eq (level + 1) js, compactChars_eq (level + 1) j]
    simp [Layout.chars, Layout.dense]
  | .object ((k, j) :: ms) => by
    rw [compactChars, compactMembers_eq (level + 1) ms, compactChars_eq (level + 1) j]
    simp [Layout.chars, Layout.dense]

theorem compactItems_eq (level : Nat) : ∀ js {j},
    compactItems (j :: js) = compactChars j ++ Layout.dense.moreItems level js
  | [], j => by simp [compactItems, Layout.moreItems]
  | j' :: js, j => by
    rw [compactItems, compactItems_eq level js, compactChars_eq level j']
    · simp [Layout.moreItems, Layout.dense]
    · simp

theorem compactMembers_eq (level : Nat) : ∀ ms {k j},
    compactMembers ((k, j) :: ms) =
      literal k ++ ':' :: (compactChars j ++ Layout.dense.moreMembers level ms)
  | [], k, j => by simp [compactMembers, Layout.moreMembers]
  | (k', j') :: ms, k, j => by
    rw [compactMembers, compactMembers_eq level ms, compactChars_eq level j']
    · simp [Layout.moreMembers, Layout.dense]
    · simp

end

/-! ## The indented printer -/

mutual

theorem prettyChars_eq (level : Nat) : ∀ j, prettyChars level j = Layout.indented.chars level j
  | .null | .bool true | .bool false | .number _ | .string _ | .array [] | .object [] => by
    simp [prettyChars, Layout.chars]
  | .array (j :: js) => by
    rw [prettyChars, prettyItems_eq (level + 1) js, prettyChars_eq (level + 1) j]
    simp [Layout.chars, Layout.indented]
  | .object ((k, j) :: ms) => by
    rw [prettyChars, prettyMembers_eq (level + 1) ms, prettyChars_eq (level + 1) j]
    simp [Layout.chars, Layout.indented]

theorem prettyItems_eq (level : Nat) : ∀ js {j},
    prettyItems level (j :: js) =
      newLine level ++ (prettyChars level j ++ Layout.indented.moreItems level js)
  | [], j => by simp [prettyItems, Layout.moreItems]
  | j' :: js, j => by
    rw [prettyItems, prettyItems_eq level js, prettyChars_eq level j']
    · simp [Layout.moreItems, Layout.indented]
    · simp

theorem prettyMembers_eq (level : Nat) : ∀ ms {k j},
    prettyMembers level ((k, j) :: ms) =
      newLine level ++ (literal k ++ ':' :: ' ' ::
        (prettyChars level j ++ Layout.indented.moreMembers level ms))
  | [], k, j => by simp [prettyMembers, Layout.moreMembers]
  | (k', j') :: ms, k, j => by
    rw [prettyMembers, prettyMembers_eq level ms, prettyChars_eq level j']
    · simp [Layout.moreMembers, Layout.indented]
    · simp

end

end GraphIngest.Json
