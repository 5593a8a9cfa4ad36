import GraphIngest.Json.Decoder
import GraphIngest.Proofs.Json.Reading

/-!
# Decoders and the values they read back

`Decodes` says that a decoder gives a value for a JSON value, wherever it stands and as long as the
nesting allows it. There is one lemma for each kind of decoder, so that the decoder of a record is
shown to read back what its encoder writes field by field (`Fills`).

* `Decodes.record` — an object whose members fill a record is decoded to that record;
* `Decodes.untagged` — of several shapes the first one that fits is taken;
* `decodeText_pretty`, `decodeText_compact` — what is decoded is decoded from its texts.
-/

namespace GraphIngest.Json

/-! ## Where a value stands -/

/-- Arrays and objects may still nest so deep. -/
def Origin.Allows (depth : Nat) : Origin → Prop
  | .direct levels => depth < levels
  | .buffered => True

theorem Origin.Allows.mono {o : Origin} {depth depth' : Nat} (h : o.Allows depth')
    (hle : depth ≤ depth') : o.Allows depth := by
  cases o with
  | direct levels => exact Nat.lt_of_le_of_lt hle h
  | buffered => trivial

theorem Origin.Allows.enter {o : Origin} {depth : Nat} (h : o.Allows (depth + 1)) :
    ∃ o', o.enter = .ok o' ∧ o'.Allows depth := by
  cases o with
  | buffered => exact ⟨.buffered, rfl, trivial⟩
  | direct levels =>
    obtain ⟨n, rfl⟩ : ∃ n, levels = n + 2 := ⟨levels - 2, by unfold Allows at h; omega⟩
    exact ⟨.direct (n + 1), rfl, by unfold Allows at h ⊢; omega⟩

/-- A decoder gives a value for a JSON value that nests at most so deep. -/
def Decodes {α : Type} (decode : Decoder α) (depth : Nat) (j : Json) (a : α) : Prop :=
  ∀ o : Origin, o.Allows depth → decode o (toTree j) = .ok a

namespace Decodes

variable {α : Type} {decode : Decoder α} {depth : Nat}

theorem mono {j : Json} {a : α} (h : Decodes decode depth j a) {depth' : Nat}
    (hle : depth ≤ depth') : Decodes decode depth' j a :=
  fun o ho => h o (ho.mono hle)

theorem string (s : String) : Decodes Decoder.string depth (.string s) s :=
  fun _ _ => rfl

theorem bool (b : Bool) : Decodes Decoder.bool depth (.bool b) b :=
  fun _ _ => rfl

theorem size (n : Nat) : Decodes Decoder.size depth (.nat n) n := by
  intro o _
  have hn : ¬ (n : Int) < 0 := by omega
  simp [Decoder.size, Json.nat, toTree, bind, Except.bind, hn]

theorem option_string (s : String) :
    Decodes (Decoder.option Decoder.string) depth (.string s) (some s) :=
  fun _ _ => rfl

theorem stringWith {expected : String} {rule : String → Except String α} {s : String} {a : α}
    (h : rule s = .ok a) : Decodes (Decoder.stringWith expected rule) depth (.string s) a := by
  intro o _
  simp [Decoder.stringWith, toTree, bind, Except.bind, h]

theorem items {β : Type} {o : Origin} (ho : o.Allows depth) {encode : β → Json} {value : β → α}
    (bs : List β) (h : ∀ b ∈ bs, Decodes decode depth (encode b) (value b)) :
    Decoder.items (decode o) .closed (toTreeItems (bs.map encode)) = .ok (bs.map value) := by
  induction bs with
  | nil => rfl
  | cons b bs ih =>
    have hb := h b List.mem_cons_self o ho
    have hbs := ih fun b' hb' => h b' (List.mem_cons_of_mem b hb')
    simp [Decoder.items, toTreeItems, hb, hbs, bind, Except.bind, pure, Except.pure]

/-- A list is decoded item by item. -/
theorem list {encode : α → Json} {as : List α}
    (h : ∀ a ∈ as, Decodes decode depth (encode a) a) :
    Decodes (Decoder.list decode) (depth + 1) (.array (as.map encode)) as := by
  intro o ho
  obtain ⟨o', hin, ho'⟩ := ho.enter
  have hitems := items ho' as h
  rw [List.map_id'] at hitems
  simp [Decoder.list, toTree, hin, hitems, bind, Except.bind]

theorem members {o : Origin} (ho : o.Allows depth) {encode : α → Json}
    (es : List (String × α)) (h : ∀ e ∈ es, Decodes decode depth (encode e.2) e.2) :
    Decoder.members (decode o) .closed (toTreeMembers (es.map fun e => (e.1, encode e.2))) =
      .ok es := by
  induction es with
  | nil => rfl
  | cons e es ih =>
    have he := h e List.mem_cons_self o ho
    have hes := ih fun e' he' => h e' (List.mem_cons_of_mem e he')
    simp [Decoder.members, toTreeMembers, keyText, he, hes, bind, Except.bind, pure, Except.pure]

/-- An object of like values is decoded member by member. -/
theorem map {expected : String} {encode : α → Json} {es : List (String × α)}
    (h : ∀ e ∈ es, Decodes decode depth (encode e.2) e.2) :
    Decodes (Decoder.map expected decode) (depth + 1)
      (.object (es.map fun e => (e.1, encode e.2))) es := by
  intro o ho
  obtain ⟨o', hin, ho'⟩ := ho.enter
  simp [Decoder.map, toTree, hin, members ho' es h, bind, Except.bind]

end Decodes

/-! ## Records -/

/-- Members that fill a record one after the other, each by the field with its key. -/
inductive Fills {ρ : Type} (fields : List (Decoder.Field ρ)) (depth : Nat) :
    List (String × Json) → ρ → ρ → Prop where
  | nil (r : ρ) : Fills fields depth [] r r
  | cons {key : String} {j : Json} {ms : List (String × Json)} {f : Decoder.Field ρ} {r r' r'' : ρ}
      (known : fields.find? (·.key == key) = some f)
      (stored : ∀ o : Origin, o.Allows depth → f.store o (toTree j) r = .ok r')
      (rest : Fills fields depth ms r' r'') : Fills fields depth ((key, j) :: ms) r r''

section

variable {ρ α : Type} {fields : List (Decoder.Field ρ)} {depth : Nat} {ms : List (String × Json)}
  {r r' : ρ}

/-- A field that is decoded and put into the record. -/
theorem Decodes.stored {decode : Decoder α} {j : Json} {a : α} (h : Decodes decode depth j a)
    {key : String} {presence : Decoder.Presence} {put : α → ρ → ρ} (o : Origin)
    (ho : o.Allows depth) :
    (Decoder.Field.of key presence decode put).store o (toTree j) r = .ok (put a r) := by
  simp [Decoder.Field.of, h o ho, bind, Except.bind, pure, Except.pure]

theorem Fills.recordMembers (h : Fills fields depth ms r r') {o : Origin} (ho : o.Allows depth)
    {seen : List String} (hnew : ∀ key ∈ ms.map (·.1), key ∉ seen)
    (hdistinct : (ms.map (·.1)).Nodup) :
    Decoder.recordMembers fields o .closed (toTreeMembers ms) seen r =
      .ok (r', (ms.map (·.1)).reverse ++ seen) := by
  induction h generalizing seen with
  | nil r => rfl
  | @cons key j ms f r r' r'' known stored rest ih =>
    obtain ⟨hkey, hms⟩ := List.nodup_cons.1 hdistinct
    have hseen : key ∉ seen := hnew key List.mem_cons_self
    have hnew' : ∀ key' ∈ ms.map (·.1), key' ∉ key :: seen := by
      intro key' hkey' hmem
      rcases List.mem_cons.1 hmem with rfl | hmem
      · exact hkey hkey'
      · exact hnew key' (List.mem_cons_of_mem _ hkey') hmem
    have hrest := ih hnew' hms
    simp [Decoder.recordMembers, toTreeMembers, keyText, bind, Except.bind, known, hseen,
      stored o ho, hrest]

/-- **An object whose members fill a record is decoded to it**, if it has all required ones. -/
theorem Decodes.record {name : String} (h : Fills fields depth ms r r')
    (hdistinct : (ms.map (·.1)).Nodup)
    (hrequired : ∀ f ∈ fields, f.presence = .required → f.key ∈ ms.map (·.1)) :
    Decodes (Decoder.record name r fields) (depth + 1) (.object ms) r' := by
  intro o ho
  obtain ⟨o', hin, ho'⟩ := ho.enter
  have hmembers := h.recordMembers ho' (fun _ _ => List.not_mem_nil) hdistinct
  rw [List.append_nil] at hmembers
  have hmissing : Decoder.missingField? fields (ms.map (·.1)).reverse = none := by
    unfold Decoder.missingField?
    rw [Option.map_eq_none_iff, List.find?_eq_none]
    intro f hf hmissing
    simp only [Bool.and_eq_true, beq_iff_eq, Bool.not_eq_true', List.contains_eq_mem,
      decide_eq_false_iff_not, List.mem_reverse] at hmissing
    exact hmissing.2 (hrequired f hf hmissing.1)
  simp [Decoder.record, Decoder.recordBody, toTree, hin, hmembers, hmissing, bind, Except.bind,
    pure, Except.pure]

end

/-! ## Values of any shape -/

mutual

/-- How deep arrays and objects nest in a value. -/
def depth : Json → Nat
  | .null | .bool _ | .number _ | .string _ => 0
  | .array items => depthItems items + 1
  | .object members => depthMembers members + 1

def depthItems : List Json → Nat
  | [] => 0
  | j :: js => max j.depth (depthItems js)

def depthMembers : List (String × Json) → Nat
  | [] => 0
  | (_, j) :: ms => max j.depth (depthMembers ms)

end

mutual

/-- A value of any shape is read back from its tree. -/
theorem value_toTree : ∀ (j : Json) (o : Origin), o.Allows j.depth →
    Decoder.value (toTree j) o = .ok j
  | .null, _, _ | .bool _, _, _ | .number _, _, _ | .string _, _, _ => rfl
  | .array items, o, ho => by
    obtain ⟨o', hin, ho'⟩ := Origin.Allows.enter ho
    simp [Decoder.value, toTree, hin, valueItems_toTree items o' ho', Ending.arrayFault?, check,
      Tree.failing, bind, Except.bind, pure, Except.pure]
  | .object members, o, ho => by
    obtain ⟨o', hin, ho'⟩ := Origin.Allows.enter ho
    simp [Decoder.value, toTree, hin, valueMembers_toTree members o' ho', Ending.objectFault?,
      check, Tree.failing, bind, Except.bind, pure, Except.pure]

theorem valueItems_toTree : ∀ (js : List Json) (o : Origin), o.Allows (depthItems js) →
    Decoder.valueItems (toTreeItems js) o = .ok js
  | [], _, _ => rfl
  | j :: js, o, ho => by
    have hj := value_toTree j o (ho.mono (Nat.le_max_left _ _))
    have hjs := valueItems_toTree js o (ho.mono (Nat.le_max_right _ _))
    simp [Decoder.valueItems, toTreeItems, hj, hjs, bind, Except.bind, pure, Except.pure]

theorem valueMembers_toTree : ∀ (ms : List (String × Json)) (o : Origin),
    o.Allows (depthMembers ms) → Decoder.valueMembers (toTreeMembers ms) o = .ok ms
  | [], _, _ => rfl
  | (k, j) :: ms, o, ho => by
    have hj := value_toTree j o (ho.mono (Nat.le_max_left _ _))
    have hms := valueMembers_toTree ms o (ho.mono (Nat.le_max_right _ _))
    simp [Decoder.valueMembers, toTreeMembers, keyText, hj, hms, bind, Except.bind, pure,
      Except.pure]

end

/-- **The first shape that fits is taken.** -/
theorem Decodes.untagged {α : Type} {name : String} {shapes : List (Decoder α)} {j : Json} {a : α}
    (h : (shapes.findSome? fun decode => (decode .buffered (toTree j)).toOption) = some a) :
    Decodes (Decoder.untagged name shapes) j.depth j a := by
  intro o ho
  have hany : Decoder.any o (toTree j) = .ok j := value_toTree j o ho
  simp [Decoder.untagged, hany, h, bind, Except.bind, pure, Except.pure]

/-! ## Texts -/

theorem exactItems_iff {js : List Json} : ExactItems js ↔ ∀ j ∈ js, j.Exact := by
  induction js with
  | nil => simp [ExactItems]
  | cons j js ih => simp [ExactItems, ih]

theorem exactMembers_iff {ms : List (String × Json)} : ExactMembers ms ↔ ∀ m ∈ ms, m.2.Exact := by
  induction ms with
  | nil => simp [ExactMembers]
  | cons m ms ih => simp [ExactMembers, ih]

section

variable {α : Type} {decode : Decoder α} {depth : Nat} {j : Json} {a : α}

theorem decodeText_of (h : Decodes decode depth j a) (hdepth : depth < nestingLimit) {s : String}
    (hs : Tree.ofText s = (toTree j, none)) : decodeText decode s = .ok a := by
  have hj := h (.direct nestingLimit) hdepth
  simp [decodeText, hs, hj, check, Tree.failing, bind, Except.bind, pure, Except.pure]

theorem decodeText_compact (h : Decodes decode depth j a) (hdepth : depth < nestingLimit)
    (hexact : j.Exact) : decodeText decode j.compact = .ok a :=
  decodeText_of h hdepth (Tree.ofText_compact hexact)

theorem decodeText_pretty (h : Decodes decode depth j a) (hdepth : depth < nestingLimit)
    (hexact : j.Exact) : decodeText decode j.pretty = .ok a :=
  decodeText_of h hdepth (Tree.ofText_pretty hexact)

end

end GraphIngest.Json
