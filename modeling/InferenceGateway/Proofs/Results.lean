import Mathlib

/-!
# What results are made of

Lemmas about computations that may fail: when a chain of them succeeds, and when a loop does.

* `bind_eq_ok_iff`, `exists_bind_eq_ok_iff`: chains.
* `of_foldlM_eq_ok`: what each step of a loop keeps; `foldlM_eq_error_iff`: where a loop fails.
* `exists_foldlM_eq_ok_iff`, `mapM_eq_ok_iff`, `exists_mapM_eq_ok_iff`: loops whose steps fail by
  their element alone.
-/

namespace InferenceGateway

/-! ## Chains -/

/-- An action succeeds if its first part does, and then the second. -/
theorem bind_eq_ok_iff {ε α β : Type} {x : Except ε α} {f : α → Except ε β} {b : β} :
    x >>= f = .ok b ↔ ∃ a, x = .ok a ∧ f a = .ok b := by
  cases x with
  | error e => simp [bind, Except.bind]
  | ok a => simp [bind, Except.bind]

theorem exists_bind_eq_ok_iff {ε α β : Type} {x : Except ε α} {f : α → Except ε β} :
    (∃ b, x >>= f = .ok b) ↔ ∃ a, x = .ok a ∧ ∃ b, f a = .ok b := by
  simp only [bind_eq_ok_iff]
  constructor
  · rintro ⟨b, a, first, second⟩
    exact ⟨a, first, b, second⟩
  · rintro ⟨a, first, b, second⟩
    exact ⟨b, a, first, second⟩

theorem map_eq_ok_iff {ε α β : Type} {x : Except ε α} {f : α → β} {b : β} :
    x.map f = .ok b ↔ ∃ a, x = .ok a ∧ f a = b := by
  cases x <;> simp [Except.map]

theorem mapError_eq_ok_iff {ε ε' α : Type} {x : Except ε α} {f : ε → ε'} {a : α} :
    x.mapError f = .ok a ↔ x = .ok a := by
  cases x <;> simp [Except.mapError]

theorem pure_eq_ok_iff {ε α : Type} {a b : α} : (pure a : Except ε α) = .ok b ↔ a = b := by
  simp [pure, Except.pure]

theorem elim_eq_ok_iff {ε α : Type} {x : Option α} {e : ε} {a : α} :
    x.elim (Except.error e) Except.ok = .ok a ↔ x = some a := by
  cases x <;> simp

/-! ## Loops -/

/-- What each step of a fold that may fail keeps, with the elements taken so far, holds at its
end. -/
theorem of_foldlM_eq_ok {α β ε : Type} {f : β → α → Except ε β} {holds : List α → β → Prop}
    (keeps : ∀ {taken b a b'}, holds taken b → f b a = .ok b' → holds (taken ++ [a]) b')
    {xs taken : List α} {b b' : β} (start : holds taken b) (h : xs.foldlM f b = .ok b') :
    holds (taken ++ xs) b' := by
  induction xs generalizing taken b with
  | nil =>
    cases h
    rw [List.append_nil]
    exact start
  | cons a rest ih =>
    rw [List.foldlM_cons] at h
    obtain ⟨c, next, later⟩ := bind_eq_ok_iff.mp h
    rw [List.append_cons]
    exact ih (keeps start next) later

/-- A loop fails where it comes to the first step that fails. -/
theorem foldlM_eq_error_iff {α β ε : Type} {f : β → α → Except ε β} {xs : List α} {b : β} {e : ε} :
    xs.foldlM f b = .error e ↔ ∃ before a after c, xs = before ++ a :: after
      ∧ before.foldlM f b = .ok c ∧ f c a = .error e := by
  constructor
  · intro h
    induction xs generalizing b with
    | nil => cases h
    | cons a rest ih =>
      rw [List.foldlM_cons] at h
      cases first : f b a with
      | error e' =>
        rw [first] at h
        cases h
        exact ⟨[], a, rest, b, rfl, rfl, first⟩
      | ok c =>
        rw [first] at h
        obtain ⟨before, a', after, d, rfl, passed, failed⟩ := ih h
        refine ⟨a :: before, a', after, d, rfl, ?_, failed⟩
        rw [List.foldlM_cons, first]
        exact passed
  · rintro ⟨before, a, after, c, rfl, passed, failed⟩
    rw [List.foldlM_append, passed]
    show (a :: after).foldlM f c = .error e
    rw [List.foldlM_cons, failed]
    rfl

/-- A loop of which each step succeeds or fails by its element alone succeeds if all of them do. -/
theorem exists_foldlM_eq_ok_iff {α β ε : Type} {f : β → α → Except ε β} (good : α → Prop)
    (step : ∀ b a, (∃ c, f b a = .ok c) ↔ good a) (xs : List α) (b : β) :
    (∃ c, xs.foldlM f b = .ok c) ↔ ∀ a ∈ xs, good a := by
  induction xs generalizing b with
  | nil => exact iff_of_true ⟨b, rfl⟩ nofun
  | cons a rest ih =>
    rw [List.forall_mem_cons, List.foldlM_cons, exists_bind_eq_ok_iff, ← step b a]
    constructor
    · rintro ⟨c, first, later⟩
      exact ⟨⟨c, first⟩, (ih c).mp later⟩
    · rintro ⟨⟨c, first⟩, later⟩
      exact ⟨c, first, (ih c).mpr later⟩

/-- A list is converted to those values that its elements are, one by one. -/
theorem mapM_eq_ok_iff {α β ε : Type} {f : α → Except ε β} {xs : List α} {ys : List β} :
    xs.mapM f = .ok ys ↔ List.Forall₂ (fun x y => f x = .ok y) xs ys := by
  induction xs generalizing ys with
  | nil => rw [List.mapM_nil, pure_eq_ok_iff, List.forall₂_nil_left_iff, eq_comm]
  | cons x rest ih =>
    simp only [List.mapM_cons, bind_eq_ok_iff, pure_eq_ok_iff, ih, List.forall₂_cons_left_iff]
    constructor
    · rintro ⟨y, first, ys, others, rfl⟩
      exact ⟨y, ys, first, others, rfl⟩
    · rintro ⟨y, ys, first, others, rfl⟩
      exact ⟨y, first, ys, others, rfl⟩

/-- All elements are converted if each one is. -/
theorem exists_mapM_eq_ok_iff {α β ε : Type} {f : α → Except ε β} {xs : List α} :
    (∃ ys, xs.mapM f = .ok ys) ↔ ∀ x ∈ xs, ∃ y, f x = .ok y := by
  induction xs with
  | nil => exact iff_of_true ⟨[], rfl⟩ nofun
  | cons x rest ih =>
    rw [List.mapM_cons, exists_bind_eq_ok_iff, List.forall_mem_cons, ← ih]
    constructor
    · rintro ⟨y, first, later⟩
      obtain ⟨ys, others, -⟩ := exists_bind_eq_ok_iff.mp later
      exact ⟨⟨y, first⟩, ys, others⟩
    · rintro ⟨⟨y, first⟩, ys, others⟩
      exact ⟨y, first, exists_bind_eq_ok_iff.mpr ⟨ys, others, _, rfl⟩⟩

end InferenceGateway
