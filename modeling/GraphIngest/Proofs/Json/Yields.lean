import GraphIngest.Json.Decoder
import GraphIngest.Proofs.Basic

/-!
# What holds of every decoded value

`Yields` says that whatever a decoder gives has a property, from any text and any place in it. A
record has a property when it begins with it and every field keeps it.

* `Yields.stringWith`, `Yields.list` — texts under a rule, and lists;
* `Yields.record` — records, as objects and as arrays of their fields.
-/

namespace GraphIngest.Json

variable {α ρ : Type}

/-- Every value that a decoder gives has a property. -/
def Yields (decode : Decoder α) (P : α → Prop) : Prop :=
  ∀ o t a, decode o t = .ok a → P a

theorem unexpected_ne_ok (expected : String) (t : Tree) (a : α) :
    unexpected expected t ≠ .ok a := by
  intro h
  cases t with
  | number n =>
    obtain ⟨_, -, h⟩ := bind_eq_ok.1 h
    cases h
  | string token =>
    obtain ⟨_, -, h⟩ := bind_eq_ok.1 h
    cases h
  | _ => cases h

theorem Yields.stringWith {expected : String} {rule : String → Except String α} {P : α → Prop}
    (h : ∀ s a, rule s = .ok a → P a) : Yields (Decoder.stringWith expected rule) P := by
  intro o t a ha
  unfold Decoder.stringWith at ha
  split at ha
  · obtain ⟨s, -, ha⟩ := bind_eq_ok.1 ha
    split at ha
    · rename_i a' hrule
      cases ha
      exact h s a hrule
    · cases ha
  · exact absurd ha (unexpected_ne_ok _ _ _)

theorem Yields.items {decode : Tree → Except Fault α} {P : α → Prop}
    (h : ∀ t a, decode t = .ok a → P a) {ending : Ending} {ts : List Tree} {as : List α}
    (has : Decoder.items decode ending ts = .ok as) : ∀ a ∈ as, P a := by
  induction ts generalizing as with
  | nil =>
    obtain ⟨-, -, has⟩ := bind_eq_ok.1 has
    cases has
    exact fun a ha => nomatch ha
  | cons t ts ih =>
    obtain ⟨a, ha, has⟩ := bind_eq_ok.1 has
    obtain ⟨as', has', has⟩ := bind_eq_ok.1 has
    cases has
    intro b hb
    rcases List.mem_cons.1 hb with rfl | hb
    · exact h t b ha
    · exact ih has' b hb

theorem Yields.list {decode : Decoder α} {P : α → Prop} (h : Yields decode P) :
    Yields (Decoder.list decode) fun as => ∀ a ∈ as, P a := by
  intro o t as has
  unfold Decoder.list at has
  split at has
  · obtain ⟨o', -, has⟩ := bind_eq_ok.1 has
    exact Yields.items (h o') has
  · exact absurd has (unexpected_ne_ok _ _ _)

/-! ## Records -/

/-- A field keeps a property of the record. -/
def Keeps (P : ρ → Prop) (f : Decoder.Field ρ) : Prop :=
  ∀ o t r r', P r → f.store o t r = .ok r' → P r'

theorem Yields.keeps {decode : Decoder α} {Q : α → Prop} (h : Yields decode Q) {P : ρ → Prop}
    {put : α → ρ → ρ} (hput : ∀ a r, Q a → P r → P (put a r)) {key : String}
    {presence : Decoder.Presence} : Keeps P (.of key presence decode put) := by
  intro o t r r' hr hstore
  obtain ⟨a, ha, hstore⟩ := bind_eq_ok.1 hstore
  cases hstore
  exact hput a r (h o t a ha) hr

/-- A field that is stored beside what the property is about. -/
theorem keeps_of_put {decode : Decoder α} {P : ρ → Prop} {put : α → ρ → ρ}
    (hput : ∀ a r, P r → P (put a r)) {key : String} {presence : Decoder.Presence} :
    Keeps P (.of key presence decode put) := by
  have h : Yields decode fun _ => True := fun _ _ _ _ => trivial
  exact h.keeps fun a r _ => hput a r

variable {P : ρ → Prop} {fields : List (Decoder.Field ρ)}

theorem recordMembers_keeps (h : ∀ f ∈ fields, Keeps P f) {o : Origin} {ending : Ending}
    {ms : List (Tree × Tree)} {seen seen' : List String} {r r' : ρ} (hr : P r)
    (hms : Decoder.recordMembers fields o ending ms seen r = .ok (r', seen')) : P r' := by
  induction ms generalizing seen r with
  | nil =>
    obtain ⟨-, -, hms⟩ := bind_eq_ok.1 hms
    cases hms
    exact hr
  | cons m ms ih =>
    obtain ⟨k, t⟩ := m
    unfold Decoder.recordMembers at hms
    obtain ⟨key, -, hms⟩ := bind_eq_ok.1 hms
    split at hms
    · rename_i f hf
      split at hms
      · cases hms
      · obtain ⟨r₁, hr₁, hms⟩ := bind_eq_ok.1 hms
        exact ih (h f (List.mem_of_find?_eq_some hf) o t r r₁ hr hr₁) hms
    · obtain ⟨-, -, hms⟩ := bind_eq_ok.1 hms
      exact ih hr hms

theorem recordItems_keeps (h : ∀ f ∈ fields, Keeps P f) {expected : String} {total i : Nat}
    {o : Origin} {ending : Ending} {ts left : List Tree} {r r' : ρ} (hr : P r)
    (hts : Decoder.recordItems expected total o ending fields i ts r = .ok (r', left)) : P r' := by
  induction fields generalizing i ts r with
  | nil =>
    cases hts
    exact hr
  | cons f fs ih =>
    have hfs : ∀ f ∈ fs, Keeps P f := fun f' hf' => h f' (List.mem_cons_of_mem f hf')
    cases ts with
    | nil =>
      unfold Decoder.recordItems at hts
      obtain ⟨-, -, hts⟩ := bind_eq_ok.1 hts
      split at hts
      · exact ih hfs hr hts
      · cases hts
    | cons t ts =>
      unfold Decoder.recordItems at hts
      obtain ⟨r₁, hr₁, hts⟩ := bind_eq_ok.1 hts
      exact ih hfs (h f List.mem_cons_self o t r r₁ hr hr₁) hts

/-- **A record keeps what its fields keep.** -/
theorem Yields.record {name : String} {initial : ρ} (hinitial : P initial)
    (h : ∀ f ∈ fields, Keeps P f) : Yields (Decoder.record name initial fields) P := by
  intro o t r hr
  unfold Decoder.record Decoder.recordBody at hr
  split at hr
  · obtain ⟨o', -, hr⟩ := bind_eq_ok.1 hr
    obtain ⟨⟨r', seen⟩, hms, hr⟩ := bind_eq_ok.1 hr
    simp only at hr
    split at hr
    · cases hr
    · cases hr
      exact recordMembers_keeps h hinitial hms
  · obtain ⟨o', -, hr⟩ := bind_eq_ok.1 hr
    obtain ⟨⟨r', left⟩, hts, hr⟩ := bind_eq_ok.1 hr
    obtain ⟨-, -, hr⟩ := bind_eq_ok.1 hr
    cases hr
    exact recordItems_keeps h hinitial hts
  · exact absurd hr (unexpected_ne_ok _ _ _)

end GraphIngest.Json
