import Mathlib
import InferenceGateway.Stream.Source

/-!
# Polls of a stream

A reader polls a stream again and again, waits as long as it likes each time and pauses as long as
it likes in between.

* `arrivesAt`: when the next item is ready for a poll, and which.
* `Arrivals.looks`: what one look comes to at a stream that is told by its arrivals.
* `session`: polls, with since when each asks for its item.
* `Closes`: streams that stay as they are behind their last item.
* `session_map`: where one stream is another one seen otherwise, so are all polls.
-/

namespace InferenceGateway.Stream

variable {ε σ τ : Type} {asked begun limit now : Nat}

/-- Whether no other item follows an item. -/
def Item.last : Item ε → Bool
  | .chunk _ => false
  | .failure _ | .finished => true

/-! ## The earlier of two times -/

/-- The earlier of two times is one of them. -/
theorem mem_earlier {a b : Option Nat} {w : Nat} (h : w ∈ earlier a b) : w ∈ a ∨ w ∈ b := by
  cases a <;> cases b
  · cases h
  · exact .inr h
  · exact .inl h
  · next x y =>
    cases h
    rcases Nat.le_total x y with le | le
    · exact .inl (congrArg some (Nat.min_eq_left le).symm)
    · exact .inr (congrArg some (Nat.min_eq_right le).symm)

/-- The earlier of two times is no later than either. -/
theorem exists_earlier {a b : Option Nat} {x : Nat} (mem : x ∈ a ∨ x ∈ b) :
    ∃ w ∈ earlier a b, w ≤ x := by
  cases a <;> cases b <;> rcases mem with ⟨⟨⟩⟩ | ⟨⟨⟩⟩
  · exact ⟨x, rfl, Nat.le_refl x⟩
  · exact ⟨x, rfl, Nat.le_refl x⟩
  · exact ⟨_, rfl, Nat.min_le_left _ _⟩
  · exact ⟨_, rfl, Nat.min_le_right _ _⟩

/-! ## The next arrival -/

/-- When the next item is ready for a poll that begins at `begun`, and which, if it was first asked
for at `asked`. After all arrivals there is the end. -/
def arrivesAt (asked begun : Nat) : List (Arrival ε) → Option (Nat × Item ε)
  | [] => some (begun, .finished)
  | a :: _ => a.item.map fun item => (max begun (asked + a.delay), item)

/-- Who begins later finds the same item, ready then or later. -/
theorem arrivesAt_of_le {later : Nat} (le : now ≤ later) (asked : Nat)
    (coming : List (Arrival ε)) :
    arrivesAt asked later coming
      = (arrivesAt asked now coming).map fun next => (max later next.1, next.2) := by
  cases coming with
  | nil =>
    show some (later, Item.finished) = some (max later now, .finished)
    rw [Nat.max_eq_left le]
  | cons a rest =>
    show Option.map _ a.item = Option.map _ (Option.map _ a.item)
    rw [Option.map_map]
    congr 1
    funext item
    show _ = (max later (max now (asked + a.delay)), item)
    rw [← Nat.max_assoc, Nat.max_eq_left le]

/-- Nothing is ready for a poll before it begins. -/
theorem le_of_arrivesAt {t : Nat} {coming : List (Arrival ε)} {item : Item ε}
    (h : arrivesAt asked begun coming = some (t, item)) : begun ≤ t := by
  rw [arrivesAt_of_le (Nat.le_refl begun)] at h
  obtain ⟨next, -, eq⟩ := Option.map_eq_some_iff.mp h
  cases eq
  exact Nat.le_max_left _ _

/-- What is ready at some time is ready for a poll that begins then. -/
theorem arrivesAt_self {t : Nat} {coming : List (Arrival ε)} {item : Item ε}
    (h : arrivesAt asked begun coming = some (t, item)) :
    arrivesAt asked t coming = some (t, item) := by
  rw [arrivesAt_of_le (le_of_arrivesAt h), h]
  show some (max t t, item) = _
  rw [Nat.max_self]

/-- An item that is ready is that of the next arrival, or the end after all of them. -/
theorem head_of_arrivesAt {t : Nat} {coming : List (Arrival ε)} {item : Item ε}
    (h : arrivesAt asked begun coming = some (t, item)) :
    coming = [] ∧ item = .finished ∨ ∃ a rest, coming = a :: rest ∧ a.item = some item := by
  cases coming with
  | nil =>
    cases h
    exact .inl ⟨rfl, rfl⟩
  | cons a rest =>
    obtain ⟨_, present, eq⟩ := Option.map_eq_some_iff.mp h
    cases eq
    exact .inr ⟨a, rest, rfl, present⟩

/-! ## Looking at arrivals -/

namespace Arrivals

/-- The next arrival was first asked for at `asked`, or is now. -/
def Asked (s : Arrivals ε) (asked now : Nat) : Prop :=
  ∀ a rest, s.coming = a :: rest → s.due.getD (now + a.delay) = asked + a.delay

/-- The next arrival is asked for since `since`, if it is. -/
def Since (s : Arrivals ε) (since : Option Nat) : Prop :=
  ∀ now, s.Asked (since.getD now) now

theorem since_none (coming : List (Arrival ε)) : Since { coming } none := by
  rintro now a rest -
  rfl

/-- What looking at arrivals comes to: the next item, if it is ready now, or when it will be. -/
inductive Looks (asked now : Nat) (s : Arrivals ε) : Look ε × Arrivals ε → Prop where
  | ready {item s'} (h : arrivesAt asked now s.coming = some (now, item))
    (rest : item ≠ .finished → s' = { coming := s.coming.tail }) :
    Looks asked now s (.ready item, s')
  | pending {wake s'} (wakes : (arrivesAt asked now s.coming).map Prod.fst = wake)
    (late : ∀ t ∈ wake, now < t) (same : s'.coming = s.coming) (waits : ∀ n, s'.Asked asked n) :
    Looks asked now s (.pending wake, s')

theorem look_cons (a : Arrival ε) (rest : List (Arrival ε)) (due : Option Nat) (now : Nat) :
    look now { coming := a :: rest, due } =
      match a.item with
      | none => (.pending none, { coming := a :: rest, due := some (due.getD (now + a.delay)) })
      | some item =>
        if due.getD (now + a.delay) ≤ now then (.ready item, { coming := rest })
        else (.pending (some (due.getD (now + a.delay))),
          { coming := a :: rest, due := some (due.getD (now + a.delay)) }) := rfl

/-- Each look comes to one of these; in particular none fails. -/
theorem looks {s : Arrivals ε} (h : s.Asked asked now) : Looks asked now s (s.look now) := by
  obtain ⟨coming, due⟩ := s
  cases coming with
  | nil => exact .ready rfl fun event => absurd rfl event
  | cons a rest =>
    have dueAt : due.getD (now + a.delay) = asked + a.delay := h a rest rfl
    have waits : ∀ n, Asked { coming := a :: rest, due := some (asked + a.delay) } asked n := by
      rintro n _ _ ⟨⟩
      rfl
    obtain ⟨delay, item⟩ := a
    rw [look_cons, dueAt]
    cases item with
    | none => exact .pending rfl nofun rfl waits
    | some item =>
      dsimp only
      split
      -- the item is due by now, or the look says when it will be
      · next due =>
        refine .ready ?_ fun _ => rfl
        show some (max now (asked + delay), item) = _
        rw [Nat.max_eq_left due]
      · next early =>
        have late : now < asked + delay := by omega
        refine .pending ?_ ?_ rfl waits
        · show some (max now (asked + delay)) = _
          rw [Nat.max_eq_right (Nat.le_of_lt late)]
        · rintro t ⟨⟩
          exact late

end Arrivals

/-! ## Scripts as arrivals -/

theorem Source.look_cons (e : Event ε) (rest : List (Event ε)) (due : Option Nat) (now : Nat) :
    look now { script := e :: rest, due } =
      match e.item? with
      | none => (.pending none, { script := e :: rest, due := some (due.getD (now + e.delay)) })
      | some item =>
        if due.getD (now + e.delay) ≤ now then (.ready item, { script := rest })
        else (.pending (some (due.getD (now + e.delay))),
          { script := e :: rest, due := some (due.getD (now + e.delay)) }) := by
  obtain ⟨delay, occurrence⟩ := e
  cases occurrence <;> rfl

/-- Looking at a script is looking at its arrivals. -/
theorem Source.look_arrivals (now : Nat) (s : Source ε) :
    s.arrivals.look now = ((s.look now).1, (s.look now).2.arrivals) := by
  obtain ⟨script, due⟩ := s
  cases script with
  | nil => rfl
  | cons e rest =>
    show Arrivals.look now { coming := e.arrival :: rest.map Event.arrival, due } = _
    have sameItem : e.arrival.item = e.item? := rfl
    have sameDelay : e.arrival.delay = e.delay := rfl
    rw [Arrivals.look_cons, Source.look_cons, sameItem, sameDelay]
    cases e.item? with
    | none => rfl
    | some item => by_cases ready : due.getD (now + e.delay) ≤ now <;> simp only [ready] <;> rfl

/-! ## Waiting -/

variable {look : Nat → σ → Look ε × σ}

theorem await_of_ready {s s' : σ} {item : Item ε} (h : look now s = (.ready item, s')) :
    await look limit now s = ((now, .item item), s') := by
  rw [await, h]

theorem await_of_crash {s s' : σ} (h : look now s = (.crash, s')) :
    await look limit now s = ((now, .crash), s') := by
  rw [await, h]

/-- What is looked at again at a time within the limit. -/
theorem await_of_wake {s s' : σ} {wake : Nat} (h : look now s = (.pending (some wake), s'))
    (after : now < wake) (within : wake ≤ limit) :
    await look limit now s = await look limit wake s' := by
  rw [await, h]
  exact if_pos ⟨after, within⟩

/-- What will not be looked at again within the limit. -/
theorem await_of_pending {s s' : σ} {wake : Option Nat} (le : now ≤ limit)
    (h : look now s = (.pending wake, s')) (late : ∀ w ∈ wake, limit < w) :
    await look limit now s = ((limit, .givenUp), s') := by
  rw [await, h]
  cases wake with
  | none => rw [Nat.max_eq_right le]
  | some w =>
    dsimp only
    rw [if_neg fun both => Nat.not_le_of_lt (late w rfl) both.2, Nat.max_eq_right le]

/-! ## Sessions -/

/-- How a reader polls: how long it waits for an item, and how long it pauses after that. -/
structure Poll where
  patience : Nat
  pause : Nat

/-- What has come of a poll. -/
structure Polled (ε σ : Type) where
  begun : Nat
  /-- When the reader gives up. -/
  limit : Nat
  /-- Since when the item is asked for, by this poll or by those before it that were given up. -/
  asked : Nat
  outcome : Outcome ε
  /-- The stream after the poll. -/
  after : σ

namespace Polled

/-- Whether a poll has got an item that no other one follows. -/
def last (p : Polled ε σ) : Bool :=
  match p.outcome.2 with
  | .item item => item.last
  | .givenUp | .crash => false

/-- Since when the next item is asked for after a poll, if it is. -/
def since (p : Polled ε σ) : Option Nat :=
  match p.outcome.2 with
  | .givenUp => some p.asked
  | .item _ | .crash => none

/-- Whether looking at the stream has failed. -/
def crashed (p : Polled ε σ) : Bool := p.outcome.2.isCrash

/-- A poll is the last one if it has got an item that is. -/
theorem exists_of_last {p : Polled ε σ} (h : p.last = true) :
    ∃ item, p.outcome.2 = .item item ∧ item.last = true := by
  obtain ⟨begun, limit, asked, ⟨t, ending⟩, after⟩ := p
  cases ending with
  | item item => exact ⟨item, rfl, h⟩
  | givenUp | crash => cases h

theorem not_crashed_of_last {p : Polled ε σ} (h : p.last = true) : p.crashed = false := by
  obtain ⟨item, got, -⟩ := exists_of_last h
  rw [crashed, got]
  rfl

/-- A poll of a stream that is another one seen otherwise. -/
def map (f : σ → τ) (q : Polled ε σ) : Polled ε τ where
  begun := q.begun
  limit := q.limit
  asked := q.asked
  outcome := q.outcome
  after := f q.after

end Polled

/-- One poll of a stream whose next item is asked for since `since`, if it is. -/
def pollOnce (look : Nat → σ → Look ε × σ) (poll : Poll) (now : Nat) (since : Option Nat) (s : σ) :
    Polled ε σ :=
  let (outcome, after) := await look (now + poll.patience) now s
  { begun := now, limit := now + poll.patience, asked := since.getD now, outcome, after }

/-- One poll after the other, until looking fails. -/
def session (look : Nat → σ → Look ε × σ) :
    List Poll → Nat → Option Nat → σ → List (Polled ε σ)
  | [], _, _, _ => []
  | poll :: polls, now, since, s =>
    let p := pollOnce look poll now since s
    p :: if p.crashed then [] else session look polls (p.outcome.1 + poll.pause) p.since p.after

/-- With the same patience each time, it is what waiting for one item after the other gives. -/
theorem outcomes_session (look : Nat → σ → Look ε × σ) (patience : Nat) (pauses : List Nat)
    (now : Nat) (since : Option Nat) (s : σ) :
    (session look (pauses.map fun pause => { patience, pause }) now since s).map Polled.outcome
      = turns look patience pauses now s := by
  induction pauses generalizing now since s with
  | nil => rfl
  | cons pause pauses ih =>
    rw [List.map_cons, session, turns, List.map_cons, apply_ite (List.map Polled.outcome), ih]
    rfl

/-- What comes after a poll, if its look has not failed, is a session of its own. -/
theorem session_eq_append {polls : List Poll} {since : Option Nat} {s : σ}
    {front rest : List (Polled ε σ)} {p : Polled ε σ}
    (h : session look polls now since s = front ++ p :: rest) :
    (∃ s', await look p.limit p.begun s' = (p.outcome, p.after))
      ∧ ∃ polls' now' since',
        rest = if p.crashed then [] else session look polls' now' since' p.after := by
  -- along the polls before; each leaves a session of its own behind
  induction front generalizing polls now since s with
  | nil =>
    cases polls with
    | nil => cases h
    | cons poll polls =>
      cases h
      exact ⟨⟨s, rfl⟩, polls, _, _, rfl⟩
  | cons b front ih =>
    cases polls with
    | nil => cases h
    | cons poll polls =>
      have onward := (List.cons.inj h).2
      split at onward
      · cases front <;> cases onward
      · exact ih onward

/-- Behind a poll whose look has not failed there are the others. -/
theorem session_cons {poll : Poll} {since : Option Nat} {s : σ} {p : Polled ε σ}
    (once : pollOnce look poll now since s = p) (going : p.crashed = false) (polls : List Poll) :
    session look (poll :: polls) now since s
      = p :: session look polls (p.outcome.1 + poll.pause) p.since p.after := by
  subst once
  exact congrArg _ (if_neg (Bool.eq_false_iff.mp going))

/-- A poll with another one behind it has not failed, and the others go on where it has left the
stream. -/
theorem uncons_session {poll : Poll} {polls : List Poll} {since : Option Nat} {s : σ}
    {front rest : List (Polled ε σ)} {p q : Polled ε σ}
    (h : session look (poll :: polls) now since s = q :: front ++ p :: rest) :
    pollOnce look poll now since s = q ∧ q.crashed = false
      ∧ session look polls (q.outcome.1 + poll.pause) q.since q.after = front ++ p :: rest := by
  obtain ⟨rfl, onward⟩ := List.cons.inj h
  refine ⟨rfl, ?_⟩
  split at onward
  · cases front <;> cases onward
  · next going => exact ⟨Bool.eq_false_iff.mpr going, onward⟩

/-! ## Behind the last item -/

/-- Streams that stay as they are, with nothing but the end, once they have handed out an item that
no other one follows; `closed` tells which have. -/
structure Closes (look : Nat → σ → Look ε × σ) (closed : σ → Prop) : Prop where
  stays : ∀ now s, closed s → look now s = (.ready .finished, s)
  closes : ∀ now s item s', look now s = (.ready item, s') → item.last = true → closed s'

namespace Closes

variable {closed : σ → Prop} (c : Closes look closed)
include c

/-- It does not matter how often it was looked before the item was ready. -/
theorem of_await {s s' : σ} {t : Nat} {item : Item ε}
    (h : await look limit now s = ((t, .item item), s')) (last : item.last = true) : closed s' := by
  fun_induction await look limit now s with
  | case1 now s item' s' looked =>
    cases h
    exact c.closes _ s item s' looked last
  | case2 => cases h
  | case3 now s s' t looked within ih => exact ih h
  | case4 => cases h
  | case5 => cases h

/-- A closed stream answers every poll with the end, at once, and stays as it is. -/
theorem session_of_closed {polls : List Poll} {since : Option Nat} {s : σ} (shut : closed s) :
    ∀ p ∈ session look polls now since s,
      p.outcome = (p.begun, .item .finished) ∧ p.after = s := by
  induction polls generalizing now since with
  | nil => nofun
  | cons poll polls ih =>
    intro p mem
    unfold session pollOnce at mem
    rw [await_of_ready (c.stays now s shut)] at mem
    rcases List.mem_cons.mp mem with rfl | mem
    · exact ⟨rfl, rfl⟩
    · exact ih p mem

/-- Behind the last item every poll gets the end at once, and the stream stays as it was. -/
theorem ended_of_last {polls : List Poll} {since : Option Nat} {s : σ}
    {front rest : List (Polled ε σ)} {p : Polled ε σ}
    (h : session look polls now since s = front ++ p :: rest) (last : p.last = true) :
    ∀ q ∈ rest, q.outcome = (q.begun, .item .finished) ∧ q.after = p.after := by
  obtain ⟨⟨s, came⟩, polls', now', since', onward⟩ := session_eq_append h
  rw [Polled.not_crashed_of_last last] at onward
  obtain rfl := onward
  obtain ⟨item, got, last⟩ := Polled.exists_of_last last
  rw [show p.outcome = (p.outcome.1, .item item) from congrArg (Prod.mk _) got] at came
  exact c.session_of_closed (c.of_await came last)

/-- Who gets something else than the end has not got the last item before. -/
theorem going_of_ne {polls : List Poll} {since : Option Nat} {s : σ}
    {front rest : List (Polled ε σ)} {p : Polled ε σ}
    (h : session look polls now since s = front ++ p :: rest)
    (other : p.outcome.2 ≠ .item .finished) : ∀ q ∈ front, q.last = false := by
  intro q mem
  rw [Bool.eq_false_iff]
  intro last
  obtain ⟨before, between, rfl⟩ := List.append_of_mem mem
  rw [List.append_assoc, List.cons_append] at h
  have ended := c.ended_of_last h last p (List.mem_append_right _ List.mem_cons_self)
  exact other (congrArg Prod.snd ended.1)

end Closes

/-! ## One stream seen as another -/

/-- A place among polls is the same place among the polls seen otherwise. -/
theorem Polled.map_eq_append (f : σ → τ) {polled front rest : List (Polled ε σ)}
    {p : Polled ε σ} (split : polled = front ++ p :: rest) :
    polled.map (Polled.map f) = front.map (Polled.map f) ++ p.map f :: rest.map (Polled.map f) := by
  rw [split, List.map_append, List.map_cons]

/-- Where each look at one stream is the look at another one, seen otherwise, so is waiting. -/
theorem await_map {look' : Nat → τ → Look ε × τ} {f : σ → τ}
    (same : ∀ now s, look' now (f s) = ((look now s).1, f (look now s).2)) (limit now : Nat)
    (s : σ) :
    await look' limit now (f s) = ((await look limit now s).1, f (await look limit now s).2) := by
  -- both look again at the same times, so the induction is along the waiting of the one
  fun_induction await look limit now s with
  | case1 now s item s' looked => rw [await, same, looked]
  | case2 now s s' looked => rw [await, same, looked]
  | case3 now s s' t within looked ih =>
    rw [await, same, looked]
    dsimp only
    rw [if_pos within, ih]
  | case4 now s s' t beyond looked =>
    rw [await, same, looked]
    dsimp only
    rw [if_neg beyond]
  | case5 now s s' looked => rw [await, same, looked]

/-- Sessions differ in the streams that are left behind alone, which are those of the one, seen
otherwise. -/
theorem session_map {look' : Nat → τ → Look ε × τ} {f : σ → τ}
    (same : ∀ now s, look' now (f s) = ((look now s).1, f (look now s).2)) (polls : List Poll)
    (now : Nat) (since : Option Nat) (s : σ) :
    session look' polls now since (f s) = (session look polls now since s).map (Polled.map f) := by
  induction polls generalizing now since s with
  | nil => rfl
  | cons poll polls ih =>
    have once : pollOnce look' poll now since (f s) = (pollOnce look poll now since s).map f := by
      unfold pollOnce
      rw [await_map same]
      rfl
    rw [session, session, once, List.map_cons, apply_ite (List.map (Polled.map f)), ← ih]
    rfl

end InferenceGateway.Stream
