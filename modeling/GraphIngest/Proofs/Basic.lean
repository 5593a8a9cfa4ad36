import Mathlib.Data.List.Forall2

/-!
# Lists with distinct keys, texts that stop, and runs that succeed

Facts that the proofs about the model share:

* nodes have distinct labels and files may have distinct stems; in such a list looking for a key and
  filtering by it come to the same element (`Keyed`); where every element of a list has a partner,
  there is a list of partners (`exists_forall₂`);
* a reader that takes characters of a class stops in front of a text that does not begin with one
  (`Stops`);
* a computation in steps that succeeds has succeeded in each step (`bind_eq_ok`), and one that fails
  has failed in one of them (`bind_eq_error`); the same steps for each element of a list succeed
  with the results of all, and fail at the first failure (`mapM_eq_ok_iff`, `mapM_eq_error_iff`); a
  computation with a state goes on with the state that a step leaves behind (`run_bind_of_run`).
-/

namespace GraphIngest

/-! ## Lists of elements with distinct keys -/

namespace Keyed

variable {α κ : Type} [BEq κ] [LawfulBEq κ] {key : α → κ} {l : List α}

/-- An element is the first with its key. -/
theorem find?_of_mem (h : l.Pairwise fun a b => key a ≠ key b) {x : α} (hx : x ∈ l) :
    l.find? (fun a => key a == key x) = some x := by
  induction l with
  | nil => cases hx
  | cons a l ih =>
    obtain ⟨ha, hl⟩ := List.pairwise_cons.1 h
    rcases List.mem_cons.1 hx with rfl | hx
    · simp
    · rw [List.find?_cons_of_neg (by simpa using ha x hx)]
      exact ih hl hx

/-- The elements with a key are the first one, if there is one. -/
theorem filter_eq_find? (h : l.Pairwise fun a b => key a ≠ key b) (k : κ) :
    l.filter (fun a => key a == k) = (l.find? fun a => key a == k).toList := by
  induction l with
  | nil => rfl
  | cons a l ih =>
    obtain ⟨ha, hl⟩ := List.pairwise_cons.1 h
    by_cases hk : key a = k
    · have hrest : l.filter (fun a => key a == k) = [] :=
        List.filter_eq_nil_iff.2 fun b hb => by simpa [← hk] using (ha b hb).symm
      simp [hk, hrest]
    · simp [hk, ih hl]

end Keyed

/-! ## Lists of partners -/

theorem exists_forall₂ {α β : Type} {R : α → β → Prop} {l : List α} (h : ∀ x ∈ l, ∃ y, R x y) :
    ∃ ys, List.Forall₂ R l ys := by
  induction l with
  | nil => exact ⟨[], .nil⟩
  | cons x l ih =>
    obtain ⟨⟨y, hy⟩, hrest⟩ := List.forall_mem_cons.1 h
    obtain ⟨ys, hys⟩ := ih hrest
    exact ⟨y :: ys, .cons hy hys⟩

/-! ## Texts that stop -/

/-- The text does not begin with such a character. -/
def Stops (p : Char → Bool) (cs : List Char) : Prop := ∀ c rest, cs = c :: rest → p c = false

section

variable {p : Char → Bool} {c : Char} {cs ds rest : List Char}

theorem stops_nil (p : Char → Bool) : Stops p [] := by
  intro c rest h
  cases h

theorem stops_cons : Stops p (c :: cs) ↔ p c = false := by
  constructor
  · exact fun h => h c cs rfl
  · intro hc c' rest h
    cases h
    exact hc

theorem Stops.takeWhile (h : Stops p cs) : cs.takeWhile p = [] := by
  cases cs with
  | nil => rfl
  | cons c cs => simp [stops_cons.1 h]

theorem Stops.dropWhile (h : Stops p cs) : cs.dropWhile p = cs := by
  cases cs with
  | nil => rfl
  | cons c cs => simp [stops_cons.1 h]

theorem Stops.take (h : Stops p cs) (n : Nat) : Stops p (cs.take n) := by
  cases cs with
  | nil => simpa using h
  | cons c cs =>
    cases n with
    | zero => exact stops_nil p
    | succ n => exact stops_cons.2 (stops_cons.1 h)

theorem takeWhile_append_of_stops (hds : ∀ c ∈ ds, p c = true) (hrest : Stops p rest) :
    (ds ++ rest).takeWhile p = ds := by
  rw [List.takeWhile_append_of_pos hds, hrest.takeWhile, List.append_nil]

theorem dropWhile_append_of_stops (hds : ∀ c ∈ ds, p c = true) (hrest : Stops p rest) :
    (ds ++ rest).dropWhile p = rest := by
  rw [List.dropWhile_append_of_pos hds, hrest.dropWhile]

end

/-! ## Runs that succeed -/

theorem bind_eq_ok {ε α β : Type} {x : Except ε α} {f : α → Except ε β} {b : β} :
    (x >>= f) = .ok b ↔ ∃ a, x = .ok a ∧ f a = .ok b := by
  cases x with
  | error e =>
    constructor
    · intro h
      cases h
    · rintro ⟨a, h, -⟩
      cases h
  | ok a =>
    constructor
    · exact fun h => ⟨a, rfl, h⟩
    · rintro ⟨a', h, hf⟩
      cases h
      exact hf

theorem bind_eq_error {ε α β : Type} {x : Except ε α} {f : α → Except ε β} {e : ε} :
    (x >>= f) = .error e ↔ x = .error e ∨ ∃ a, x = .ok a ∧ f a = .error e := by
  cases x with
  | error e' =>
    constructor
    · intro h
      cases h
      exact .inl rfl
    · rintro (h | ⟨a, h, -⟩) <;> cases h
      rfl
  | ok a =>
    constructor
    · exact fun h => .inr ⟨a, rfl, h⟩
    · rintro (h | ⟨a', h, hf⟩) <;> cases h
      exact hf

/-- A step that gives up under a condition. -/
theorem guard_eq_ok {ε α : Type} {c : Prop} [Decidable c] {e : ε} {next : Unit → Except ε α}
    {a : α} :
    (if c then (throw e : Except ε Unit) >>= next else next ()) = .ok a ↔
      ¬ c ∧ next () = .ok a := by
  split
  · rename_i hc
    constructor
    · intro h
      cases h
    · rintro ⟨hn, -⟩
      exact absurd hc hn
  · rename_i hc
    exact (and_iff_right hc).symm

/-! ## Steps that are made one by one -/

section

variable {ε α β : Type} {f : α → Except ε β} {l : List α}

/-- Steps that are made one by one succeed with the results of all. -/
theorem mapM_eq_ok_iff {ys : List β} :
    l.mapM f = .ok ys ↔ List.Forall₂ (fun x y => f x = .ok y) l ys := by
  induction l generalizing ys with
  | nil =>
    rw [List.mapM_nil, List.forall₂_nil_left_iff]
    exact ⟨fun h => (Except.ok.inj h).symm, fun h => congrArg _ h.symm⟩
  | cons x l ih =>
    rw [List.mapM_cons, List.forall₂_cons_left_iff, bind_eq_ok]
    constructor
    · rintro ⟨y, hy, hrest⟩
      obtain ⟨ys', hys, hcons⟩ := bind_eq_ok.1 hrest
      exact ⟨y, ys', hy, ih.1 hys, (Except.ok.inj hcons).symm⟩
    · rintro ⟨y, ys', hy, hys, rfl⟩
      exact ⟨y, hy, bind_eq_ok.2 ⟨ys', ih.2 hys, rfl⟩⟩

/-- Steps that are made one by one are all made, if each of them can be. -/
theorem exists_mapM_eq_ok {R : α → β → Prop} (h : ∀ x ∈ l, ∃ y, f x = .ok y ∧ R x y) :
    ∃ ys, l.mapM f = .ok ys ∧ List.Forall₂ R l ys := by
  obtain ⟨ys, hys⟩ := exists_forall₂ h
  exact ⟨ys, mapM_eq_ok_iff.2 (hys.imp fun _ _ => And.left), hys.imp fun _ _ => And.right⟩

/-- Steps that are made one by one fail at the first failure of all. -/
theorem mapM_eq_error_iff {failures : α → List ε}
    (h : ∀ x e, f x = .error e ↔ (failures x).head? = some e) {e : ε} :
    l.mapM f = .error e ↔ (l.flatMap failures).head? = some e := by
  induction l with
  | nil => exact ⟨nofun, nofun⟩
  | cons x l ih =>
    rw [List.mapM_cons, List.flatMap_cons, List.head?_append, Option.or_eq_some_iff, bind_eq_error]
    cases hx : f x with
    | error e' =>
      have hhead := (h x e').1 hx
      simp [hhead]
    | ok y =>
      have hhead : (failures x).head? = none :=
        Option.eq_none_iff_forall_ne_some.2 fun e' he' => nomatch hx.symm.trans ((h x e').2 he')
      simp only [hhead, reduceCtorEq, false_or, true_and, Except.ok.injEq, exists_eq_left',
        bind_eq_error, ih]
      exact ⟨fun hrest => hrest.resolve_right nofun, .inl⟩

end

/-! ## Runs with a state -/

/-- A computation with a state goes on with what its first step leaves behind. -/
theorem run_bind_of_run {σ α β : Type} {x : StateM σ α} {s next : σ} {answer : α}
    (hx : x.run s = (answer, next)) (k : α → StateM σ β) :
    (x >>= k).run s = (k answer).run next := by
  rw [StateT.run_bind, hx]
  rfl

end GraphIngest
