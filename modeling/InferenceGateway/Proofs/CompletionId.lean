import Mathlib
import InferenceGateway.CompletionId

/-!
# Ids that never repeat

Any number of calls draw numbers from one cell, and take their steps in any order. The clock may
stand still or go back, and a call may fail to put its number into the cell for no reason. What
carries over from step to step is that the cell is never behind a number that was returned.

* `Board.HasNext`: the cell does not hold the last number of all.
* `Run`: interleavings of steps, each taken while there is a next number.
* `Step.returns_or_keeps`: all that a step does to the cell and to returned numbers.
* `Board.Issued`: the invariant; `Run.issued` says that it holds at all times.
* `numbers_go_up`: numbers never repeat, and of calls one after the other the later one's is larger.
-/

namespace InferenceGateway.CompletionId

/-! ## One number -/

/-- There is a number after the one in the cell. -/
def Board.HasNext (b : Board) : Prop :=
  b.last.toNat + 1 < UInt64.size

instance (b : Board) : Decidable b.HasNext :=
  inferInstanceAs (Decidable (_ < _))

/-- Whatever the clock says, the number drawn is past the last one. -/
theorem lt_draw {last : UInt64} (next : last.toNat + 1 < UInt64.size) (clock : UInt64) :
    last < draw clock last := by
  have up : last < last + 1 := by
    rw [UInt64.lt_iff_toNat_lt, UInt64.toNat_add]
    show last.toNat < (last.toNat + 1) % 2 ^ 64
    rw [Nat.mod_eq_of_lt next]
    exact Nat.lt_succ_self _
  show last < if clock ≤ last + 1 then last + 1 else clock
  split
  · exact up
  · next past => exact UInt64.lt_trans up (UInt64.not_le.mp past)

/-- An id says which provider it is of, and which number it has. -/
theorem text_injective {p q : Provider} {n m : UInt64} (h : text p n = text q m) :
    p = q ∧ n = m := by
  have letters : p.id.toList ++ '-' :: Nat.toDigits 10 n.toNat
      = q.id.toList ++ '-' :: Nat.toDigits 10 m.toNat := by
    simpa [text] using congrArg String.toList h
  have same : p = q := by
    -- already the first letters of two names differ
    have first := congrArg List.head? letters
    cases p <;> cases q <;> simp_all [Provider.id]
  subst same
  refine ⟨rfl, ?_⟩
  have digits : Nat.toDigits 10 n.toNat = Nat.toDigits 10 m.toNat :=
    (List.cons.inj (List.append_cancel_left letters)).2
  have read := congrArg (fun cs => Nat.ofDigitChars 10 cs 0) digits
  simp only [Nat.ofDigitChars_toDigits (by decide : 1 < 10) (le_refl 10)] at read
  exact UInt64.toNat_inj.mp read

/-! ## One step -/

theorem calls_advance (b : Board) (i : Nat) (progress : Progress) (j : Nat) :
    (b.advance i progress).calls j = if j = i then progress else b.calls j := rfl

/-- A call that comes further without returning leaves all returned numbers as they are. -/
theorem returned_advance_iff {b : Board} {i : Nat} {progress : Progress}
    (pending : ∀ n, b.calls i ≠ .returned n) (further : ∀ n, progress ≠ .returned n) (j : Nat)
    (n : UInt64) : (b.advance i progress).calls j = .returned n ↔ b.calls j = .returned n := by
  rw [calls_advance]
  split
  · next here =>
    subst here
    exact iff_of_false (further n) (pending n)
  · rfl

/-- All that a step does to the cell and to returned numbers: either one call puts its number into
the cell and returns it, or nothing. -/
theorem Step.returns_or_keeps {b c : Board} (s : Step b c) :
    (∃ i clock, b.calls i = .loaded clock b.last
      ∧ c = { b with last := draw clock b.last }.advance i (.returned (draw clock b.last)))
    ∨ c.last = b.last ∧ ∀ j n, c.calls j = .returned n ↔ b.calls j = .returned n := by
  cases s with
  | @readClock i clock idle =>
    right
    exact ⟨rfl, returned_advance_iff (fun n => idle ▸ nofun) nofun⟩
  | @load i clock timed =>
    right
    exact ⟨rfl, returned_advance_iff (fun n => timed ▸ nofun) nofun⟩
  | @exchange i clock loaded =>
    left
    exact ⟨i, clock, loaded, rfl⟩
  | @retry i clock seen loaded =>
    right
    exact ⟨rfl, returned_advance_iff (fun n => loaded ▸ nofun) nofun⟩

/-- A step never puts the cell back. -/
theorem Step.last_le {b c : Board} (s : Step b c) (next : b.HasNext) : b.last ≤ c.last := by
  rcases s.returns_or_keeps with ⟨i, clock, -, rfl⟩ | ⟨same, -⟩
  · exact UInt64.le_of_lt (lt_draw next clock)
  · rw [same]
    exact UInt64.le_refl _

/-- A number that is returned stays so. -/
theorem Step.returned {b c : Board} (s : Step b c) {i : Nat} {n : UInt64}
    (h : b.calls i = .returned n) : c.calls i = .returned n := by
  rcases s.returns_or_keeps with ⟨j, clock, loaded, rfl⟩ | ⟨-, same⟩
  · rw [calls_advance]
    split
    · next here =>
      subst here
      cases h.symm.trans loaded
    · exact h
  · exact (same i n).mpr h

/-- A number that a step returns is past all that the cell has held before. -/
theorem Step.lt_returned {b c : Board} (s : Step b c) (next : b.HasNext) {i : Nat} {n : UInt64}
    (before : b.calls i ≠ .returned n) (h : c.calls i = .returned n) : b.last < n := by
  rcases s.returns_or_keeps with ⟨j, clock, -, rfl⟩ | ⟨-, same⟩
  · rw [calls_advance] at h
    split at h
    · cases h
      exact lt_draw next clock
    · exact absurd h before
  · exact absurd ((same i n).mp h) before

/-! ## Any number of steps -/

/-- Interleavings of steps, each taken while there is a next number. -/
inductive Run : Board → Board → Prop where
  | refl (b : Board) : Run b b
  | tail {a b c} (h : Run a b) (next : b.HasNext) (s : Step b c) : Run a c

/-- The last number never goes down. -/
theorem Run.last_le {a b : Board} (run : Run a b) : a.last ≤ b.last := by
  induction run with
  | refl => exact UInt64.le_refl _
  | tail _ next s ih => exact UInt64.le_trans ih (s.last_le next)

/-- A number that has been returned stays with its call. -/
theorem Run.returned {a b : Board} (run : Run a b) {i : Nat} {n : UInt64}
    (h : a.calls i = .returned n) : b.calls i = .returned n := by
  induction run with
  | refl => exact h
  | tail _ _ s ih => exact s.returned ih

/-- A number that is returned later is past all that the cell has held before. -/
theorem Run.lt_returned {a b : Board} (run : Run a b) {i : Nat} {n : UInt64}
    (before : ∀ m, a.calls i ≠ .returned m) (h : b.calls i = .returned n) : a.last < n := by
  induction run with
  | refl => exact absurd h (before n)
  | @tail b c run next s ih =>
    by_cases already : b.calls i = .returned n
    · exact ih already
    · -- it is returned in this very step, and the cell has only gone up until then
      have past : b.last < n := s.lt_returned next already h
      exact Std.lt_of_le_of_lt run.last_le past

/-- What is known of the numbers that were returned so far. -/
structure Board.Issued (b : Board) : Prop where
  /-- The cell is not behind any of them. -/
  le_last : ∀ i n, b.calls i = .returned n → n ≤ b.last
  /-- No two calls have the same one. -/
  distinct : ∀ i j n, b.calls i = .returned n → b.calls j = .returned n → i = j

theorem issued_start : Board.Issued {} where
  le_last := nofun
  distinct := nofun

/-- A step keeps what has been issued, and what it adds is new. -/
theorem Step.issued {b c : Board} (s : Step b c) (next : b.HasNext) (h : b.Issued) :
    c.Issued := by
  rcases s.returns_or_keeps with ⟨k, clock, -, rfl⟩ | ⟨last, same⟩
  · -- the number that one call returns is past all others
    have past : b.last < draw clock b.last := lt_draw next clock
    have unused : ∀ i, b.calls i ≠ .returned (draw clock b.last) := by
      intro i already
      exact UInt64.not_lt.mpr (h.le_last i _ already) past
    constructor
    · intro i n returned
      rw [calls_advance] at returned
      split at returned
      · cases returned
        exact UInt64.le_refl _
      · exact UInt64.le_trans (h.le_last i n returned) (UInt64.le_of_lt past)
    -- of two calls with one number neither, both or one has just returned
    · intro i j n hi hj
      rw [calls_advance] at hi hj
      split at hi
      · next one =>
        cases hi
        split at hj
        · next other => exact one.trans other.symm
        · exact absurd hj (unused j)
      · split at hj
        · cases hj
          exact absurd hi (unused i)
        · exact h.distinct i j n hi hj
  · constructor
    · intro i n returned
      rw [last]
      exact h.le_last i n ((same i n).mp returned)
    · intro i j n hi hj
      exact h.distinct i j n ((same i n).mp hi) ((same j n).mp hj)

theorem Run.issued {a b : Board} (run : Run a b) (start : a.Issued) : b.Issued := by
  induction run with
  | refl => exact start
  | tail _ next s ih => exact s.issued next ih

/--
What any interleaving of any number of calls comes to, as long as the cell does not hold the last
number of all. From an earlier to a later board the cell never goes back, and numbers that were
returned stay so. No two calls return the same number, so that their ids differ too, whatever their
providers are. Where one call has returned before another one starts, the later one's number is
larger.
-/
theorem numbers_go_up {earlier later : Board} (start : Run {} earlier) (run : Run earlier later) :
    earlier.last ≤ later.last
    ∧ (∀ i n, earlier.calls i = .returned n → later.calls i = .returned n)
    ∧ (∀ i j n m, i ≠ j → later.calls i = .returned n → later.calls j = .returned m →
        n ≠ m ∧ ∀ p q, text p n ≠ text q m)
    ∧ ∀ i j n m, earlier.calls i = .returned n → earlier.calls j = .idle →
        later.calls j = .returned m → n < m := by
  have before : earlier.Issued := start.issued issued_start
  have after : later.Issued := run.issued before
  refine ⟨run.last_le, fun i n h => run.returned h, ?_, ?_⟩
  · intro i j n m other hi hj
    have differ : n ≠ m := by
      rintro rfl
      exact other (after.distinct i j n hi hj)
    exact ⟨differ, fun p q same => differ (text_injective same).2⟩
  · intro i j n m hi idle hj
    have past : earlier.last < m := run.lt_returned (fun k => idle ▸ nofun) hj
    exact Std.lt_of_le_of_lt (before.le_last i n hi) past

/-- Two calls load the same number, and the one that is late has to load again; then the clock goes
back, and the next call still gets a larger number. -/
theorem number_past_clock_that_goes_back :
    ∃ earlier later, Run {} earlier ∧ Run earlier later
      ∧ earlier.calls 0 = .returned 7 ∧ earlier.calls 1 = .returned 8 ∧ later.calls 2 = .returned 9
      ∧ text .jan 7 ≠ text .jan 8 ∧ (8 : UInt64) < 9 := by
  -- the second call has loaded before the first one exchanged, and so must try again
  obtain ⟨earlier, first, last, zero, one, two⟩ : ∃ b, Run {} b ∧ b.last = 8
      ∧ b.calls 0 = .returned 7 ∧ b.calls 1 = .returned 8 ∧ b.calls 2 = .idle :=
    ⟨_, (((((((Run.refl {}).tail
      (by decide) (.readClock (i := 0) 7 rfl)).tail
      (by decide) (.readClock (i := 1) 7 rfl)).tail
      (by decide) (.load (i := 0) rfl)).tail
      (by decide) (.load (i := 1) rfl)).tail
      (by decide) (.exchange (i := 0) rfl)).tail
      (by decide) (.retry (i := 1) rfl)).tail
      (by decide) (.exchange (i := 1) rfl), rfl, rfl, rfl, rfl⟩
  have next : earlier.HasNext := by
    unfold Board.HasNext
    rw [last]
    decide
  have second := (((Run.refl earlier).tail
    next (.readClock (i := 2) 3 two)).tail
    next (.load (i := 2) rfl)).tail
    next (.exchange (i := 2) rfl)
  have nine : draw 3 earlier.last = 9 := by
    rw [last]
    decide
  obtain ⟨-, stays, differ, larger⟩ := numbers_go_up first second
  refine ⟨earlier, _, first, second, zero, one, congrArg Progress.returned nine, ?_, ?_⟩
  · exact (differ 0 1 7 8 (by decide) (stays 0 7 zero) (stays 1 8 one)).2 .jan .jan
  · exact larger 1 2 8 9 one two (congrArg Progress.returned nine)

end InferenceGateway.CompletionId
