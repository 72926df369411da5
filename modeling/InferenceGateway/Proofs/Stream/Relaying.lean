import InferenceGateway.Proofs.Stream.Polling
import InferenceGateway.Stream.Relay

/-!
# What a relayed stream hands out

A client polls a relayed stream again and again, waits as long as it likes each time and pauses as
long as it likes in between. Whatever comes, with whatever delays, and whenever the gateway shuts
down, the client gets a prefix of what the provider sent.

* `Settles`: what one poll of a stream that has not ended comes to.
* `sent`: the bytes of the chunks that come before anything else.
* `Faithful`: what the answers to all polls have to do with what comes.
* `relay_faithful`: every session is faithful, and nothing is looked at after the last item.
-/

namespace InferenceGateway.Stream

variable {ε σ τ : Type}

/-! ## What comes -/

/-- The bytes of an item. -/
def Item.bytes : Item ε → List UInt8
  | .chunk bytes => bytes
  | .failure _ | .finished => []

/-- The bytes of an arrival. -/
def Arrival.bytes (a : Arrival ε) : List UInt8 :=
  (a.item.map Item.bytes).getD []

/-- Whether an arrival is a chunk. -/
def Arrival.isChunk (a : Arrival ε) : Bool :=
  match a.item with
  | some (.chunk _) => true
  | _ => false

/-- The chunks that come before an error, the end, or a silence without end. -/
def leading (coming : List (Arrival ε)) : List (Arrival ε) :=
  coming.takeWhile Arrival.isChunk

/-- The bytes that a provider sends before an error, the end, or a silence without end. -/
def sent (coming : List (Arrival ε)) : List UInt8 :=
  (leading coming).flatMap Arrival.bytes

/-- Chunks from the first on are the first of the leading ones. -/
theorem leading_eq_append {coming : List (Arrival ε)} {n : Nat}
    (chunks : ∀ a ∈ coming.take n, a.isChunk = true) :
    leading coming = coming.take n ++ leading (coming.drop n) := by
  calc leading coming
    _ = leading (coming.take n ++ coming.drop n) := by rw [List.take_append_drop]
    _ = coming.take n ++ leading (coming.drop n) := List.takeWhile_append_of_pos chunks

/-- As long as chunks come, what is sent is these and what is sent behind them. -/
theorem sent_eq_append {coming : List (Arrival ε)} {n : Nat}
    (chunks : ∀ a ∈ coming.take n, a.isChunk = true) :
    sent coming = (coming.take n).flatMap Arrival.bytes ++ sent (coming.drop n) := by
  rw [sent, leading_eq_append chunks, List.flatMap_append]
  rfl

/-- Items and arrivals with the same items have the same bytes. -/
theorem flatMap_bytes_eq {items : List (Item ε)} {arrivals : List (Arrival ε)}
    (same : items.map some = arrivals.map Arrival.item) :
    items.flatMap Item.bytes = arrivals.flatMap Arrival.bytes := by
  have bytes := congrArg (List.flatMap fun item => (item.map Item.bytes).getD []) same
  rw [List.flatMap_map, List.flatMap_map] at bytes
  exact bytes

/-- A chunk brings bytes. -/
theorem Arrival.exists_of_isChunk {a : Arrival ε} (h : a.isChunk = true) :
    ∃ bytes, a.item = some (.chunk bytes) := by
  obtain ⟨delay, item⟩ := a
  rcases item with _ | ⟨bytes | _ | _⟩
  · cases h
  · exact ⟨bytes, rfl⟩
  · cases h
  · cases h

/-! ## Looking at a relayed stream -/

variable {inner : Nat → σ → Look ε × σ} {stop : Option Nat} {limit now asked : Nat}

theorem Relay.look_of_finished {r : Relay σ} (h : r.finished = true) :
    r.look inner stop now = (.ready .finished, r) := by
  unfold Relay.look
  rw [if_pos h]

/-- At the shutdown there is the end, whether or not something is ready within. -/
theorem Relay.look_of_stopped {r : Relay σ} (live : r.finished = false) {S : Nat} (h : S ∈ stop)
    (past : S ≤ now) : r.look inner stop now = (.ready .finished, { r with finished := true }) := by
  have fires : stop.any (· ≤ now) = true := by
    rw [Option.mem_def.mp h]
    exact decide_eq_true past
  unfold Relay.look
  rw [live, if_neg Bool.false_ne_true, if_pos fires]

/-- Before the shutdown a look is passed on to the stream within. -/
theorem Relay.look_of_running {r : Relay σ} (live : r.finished = false)
    (running : ∀ S ∈ stop, now < S) :
    r.look inner stop now = match inner now r.inner with
      | (.ready item, s) => (.ready item, { inner := s, finished := item.last })
      | (.pending wake, s) => (.pending (earlier wake stop), { inner := s, finished := false })
      | (.crash, s) => (.crash, { inner := s, finished := false }) := by
  have silent : ¬ stop.any (· ≤ now) = true := by
    cases stop with
    | none => exact Bool.false_ne_true
    | some S =>
      intro past
      exact absurd (of_decide_eq_true past) (Nat.not_le_of_lt (running S rfl))
  unfold Relay.look
  rw [live, if_neg Bool.false_ne_true, if_neg silent]
  rcases inner now r.inner with ⟨⟨⟨_⟩ | _ | _⟩ | _ | _, _⟩ <;> rfl

/-- A relayed stream has either ended, or the gateway has shut down, or it still runs. -/
theorem Relay.live_cases (r : Relay σ) (stop : Option Nat) (now : Nat) :
    r.finished = true ∨ r.finished = false ∧ (∃ S ∈ stop, S ≤ now)
      ∨ r.finished = false ∧ ∀ S ∈ stop, now < S := by
  cases r.finished with
  | true => exact .inl rfl
  | false =>
    by_cases running : ∀ S ∈ stop, now < S
    · exact .inr (.inr ⟨rfl, running⟩)
    · push Not at running
      exact .inr (.inl ⟨rfl, running⟩)

/-- A relayed stream is done with at its last item, whatever the stream within is. -/
theorem Relay.closes (inner : Nat → σ → Look ε × σ) (stop : Option Nat) :
    Closes (Relay.look inner stop) fun r => r.finished = true := by
  refine ⟨fun now r finished => Relay.look_of_finished finished, ?_⟩
  intro now r item r' looked last
  rcases r.live_cases stop now with finished | ⟨live, S, fires, past⟩ | ⟨live, running⟩
  · rw [Relay.look_of_finished finished] at looked
    cases looked
    exact finished
  · rw [Relay.look_of_stopped live fires past] at looked
    cases looked
    rfl
  · rw [Relay.look_of_running live running] at looked
    rcases came : inner now r.inner with ⟨item' | _ | _, s⟩ <;> rw [came] at looked <;> cases looked
    exact last

/-! ## One poll -/

/-- What a poll of a relayed stream that has not ended comes to: the next item, the end because of
the shutdown, or nothing. -/
inductive Settles (stop : Option Nat) (asked limit now : Nat) (coming : List (Arrival ε)) :
    Outcome ε × Relay (Arrivals ε) → Prop where
  | item {t item s} (ready : arrivesAt asked now coming = some (t, item)) (waited : t ≤ limit)
    (running : ∀ S ∈ stop, t < S) (rest : item ≠ .finished → s = { coming := coming.tail }) :
    Settles stop asked limit now coming ((t, .item item), { inner := s, finished := item.last })
  | stopped {S s} (fires : S ∈ stop) (waited : max now S ≤ limit)
    (late : ∀ t item, arrivesAt asked now coming = some (t, item) → S ≤ t) :
    Settles stop asked limit now coming
      ((max now S, .item .finished), { inner := s, finished := true })
  | pending {s} (late : ∀ t item, arrivesAt asked now coming = some (t, item) → limit < t)
    (running : ∀ S ∈ stop, limit < S) (same : s.coming = coming) (waits : ∀ n, s.Asked asked n) :
    Settles stop asked limit now coming ((limit, .givenUp), { inner := s, finished := false })

/-- When the next item is ready while the gateway runs, the poll gets it. -/
theorem settles_of_ready {t : Nat} {item : Item ε} {r : Relay (Arrivals ε)}
    (live : r.finished = false) (h : r.inner.Asked asked t) (running : ∀ S ∈ stop, t < S)
    (ready : arrivesAt asked now r.inner.coming = some (t, item)) (waited : t ≤ limit) :
    Settles stop asked limit now r.inner.coming
      (await (Relay.look Arrivals.look stop) limit t r) := by
  have look : r.look Arrivals.look stop t = _ := Relay.look_of_running live running
  have looks := Arrivals.looks h
  generalize Arrivals.look t r.inner = looked at look looks
  cases looks with
  | ready h rest =>
    cases (arrivesAt_self ready).symm.trans h
    rw [await_of_ready look]
    exact .item ready waited running rest
  | pending wakes late =>
    rw [arrivesAt_self ready] at wakes
    exact absurd (late t wakes.symm) (Nat.lt_irrefl t)

/-- When the gateway shuts down before the next item is ready, the poll gets the end. -/
theorem settles_of_stopped (asked : Nat) {S : Nat} {r : Relay (Arrivals ε)}
    (live : r.finished = false) (fires : S ∈ stop) (waited : max now S ≤ limit)
    (late : ∀ t item, arrivesAt asked now r.inner.coming = some (t, item) → S ≤ t) :
    Settles stop asked limit now r.inner.coming
      (await (Relay.look Arrivals.look stop) limit (max now S) r) := by
  rw [await_of_ready (Relay.look_of_stopped live fires (Nat.le_max_right now S))]
  exact .stopped fires waited late

/-- Where the relay looks again, it has an item or the gateway shuts down. -/
theorem settles_of_wake {w : Nat} {r : Relay (Arrivals ε)} (live : r.finished = false)
    (h : r.inner.Asked asked w)
    (wake : w ∈ earlier ((arrivesAt asked now r.inner.coming).map Prod.fst) stop)
    (after : now < w) (within : w ≤ limit) :
    Settles stop asked limit now r.inner.coming
      (await (Relay.look Arrivals.look stop) limit w r) := by
  have soonest : ∀ x, x ∈ (arrivesAt asked now r.inner.coming).map Prod.fst ∨ x ∈ stop →
      w ≤ x := by
    intro x mem
    obtain ⟨w', wake', le⟩ := exists_earlier mem
    rwa [Option.mem_unique wake wake']
  -- at the same time the shutdown comes first
  by_cases fires : w ∈ stop
  · have here : max now w = w := Nat.max_eq_right (Nat.le_of_lt after)
    have stopped := settles_of_stopped asked live fires (here.trans_le within)
      fun t item ready => soonest t (.inl (congrArg _ ready))
    rwa [here] at stopped
  · have ready := (mem_earlier wake).resolve_right fires
    obtain ⟨⟨_, item⟩, comes, rfl⟩ := Option.map_eq_some_iff.mp ready
    refine settles_of_ready live h (fun S fires' => ?_) comes within
    refine Nat.lt_of_le_of_ne (soonest S (.inr fires')) ?_
    rintro rfl
    exact fires fires'

/-- Each poll of a stream that has not ended settles. -/
theorem settles {r : Relay (Arrivals ε)} (live : r.finished = false) (h : r.inner.Asked asked now)
    (le : now ≤ limit) :
    Settles stop asked limit now r.inner.coming
      (await (Relay.look Arrivals.look stop) limit now r) := by
  by_cases running : ∀ S ∈ stop, now < S
  · have look : r.look Arrivals.look stop now = _ := Relay.look_of_running live running
    have looks := Arrivals.looks h
    generalize Arrivals.look now r.inner = looked at look looks
    cases looks with
    | ready ready => exact settles_of_ready live h running ready le
    | @pending wake s' wakes late same waits =>
      -- it looks once more, when the item is ready or the gateway shuts down, or gives up before
      by_cases within : ∃ w ∈ earlier wake stop, w ≤ limit
      · obtain ⟨w, soon, within⟩ := within
        have after : now < w := (mem_earlier soon).elim (late w) (running w)
        dsimp only at look
        rw [Option.mem_def.mp soon] at look
        rw [await_of_wake look after within]
        rw [← wakes, ← same] at soon
        rw [← same]
        exact settles_of_wake (r := { inner := s' }) rfl (waits w) soon after within
      · have never : ∀ x, x ∈ wake ∨ x ∈ stop → limit < x := by
          intro x mem
          obtain ⟨w, wake, le⟩ := exists_earlier mem
          exact Nat.lt_of_lt_of_le (Nat.lt_of_not_le fun le => within ⟨w, wake, le⟩) le
        rw [await_of_pending le look fun w wake => never w (mem_earlier wake)]
        refine .pending (fun t item ready => never t (.inl ?_))
          (fun S fires => never S (.inr fires)) same waits
        rw [← wakes, ready]
        rfl
  · push Not at running
    obtain ⟨S, fires, past⟩ := running
    have here : max now S = now := Nat.max_eq_left past
    have stopped := settles_of_stopped asked live fires (here.trans_le le)
      fun t item ready => past.trans (le_of_arrivesAt ready)
    rwa [here] at stopped

/-! ## What is handed out -/

/-- The item that a poll has got, if any, unless it is the end. -/
def Polled.items (p : Polled ε σ) : List (Item ε) :=
  match p.outcome.2 with
  | .item .finished | .givenUp | .crash => []
  | .item item => [item]

/-- The items that were handed out, in order, without the end. -/
def delivered (polled : List (Polled ε σ)) : List (Item ε) :=
  polled.flatMap Polled.items

/-- The bytes that the client has received. -/
def received (polled : List (Polled ε σ)) : List UInt8 :=
  (delivered polled).flatMap Item.bytes

theorem delivered_cons (p : Polled ε σ) (polled : List (Polled ε σ)) :
    delivered (p :: polled) = p.items ++ delivered polled :=
  List.flatMap_cons

theorem received_cons (p : Polled ε σ) (polled : List (Polled ε σ)) :
    received (p :: polled) = p.items.flatMap Item.bytes ++ received polled :=
  List.flatMap_append

/-- Polls that get the end, and nothing else, hand out nothing. -/
theorem delivered_of_ended {polled : List (Polled ε σ)}
    (ended : ∀ p ∈ polled, p.outcome = (p.begun, .item .finished)) : delivered polled = [] := by
  refine List.flatMap_eq_nil_iff.mpr fun p mem => ?_
  rw [Polled.items, ended p mem]

namespace Settles

variable {coming : List (Arrival ε)} {p : Polled ε (Relay (Arrivals ε))}

theorem not_crashed (h : Settles stop asked limit now coming (p.outcome, p.after)) :
    p.crashed = false := by
  obtain ⟨begun, limit, asked, outcome, after⟩ := p
  cases h <;> rfl

/-- What a poll has got comes next. -/
theorem items_eq (h : Settles stop asked limit now coming (p.outcome, p.after)) :
    p.items.map some = (coming.take p.items.length).map Arrival.item := by
  obtain ⟨begun, limit, asked, outcome, after⟩ := p
  cases h with
  | @item t item s ready waited running rest =>
    obtain ⟨rfl, rfl⟩ | ⟨a, rest, rfl, comes⟩ := head_of_arrivesAt ready
    · rfl
    · cases item with
      | finished => rfl
      | chunk | failure => exact congrArg (· :: []) comes.symm
  | stopped => rfl
  | pending => rfl

/-- A poll that has not got the last item has got a chunk or nothing, and leaves a stream of what is
left to come. -/
theorem goes_on (h : Settles stop p.asked limit now coming (p.outcome, p.after))
    (going : p.last = false) :
    p.after.finished = false ∧ p.after.inner.Since p.since
      ∧ p.after.inner.coming = coming.drop p.items.length
      ∧ ∀ a ∈ coming.take p.items.length, a.isChunk = true := by
  obtain ⟨begun, limit, asked, outcome, after⟩ := p
  cases h with
  | @item t item s ready waited running rest =>
    cases item with
    | finished | failure => cases going
    | chunk bytes =>
      obtain ⟨-, ⟨⟩⟩ | ⟨⟨delay, _⟩, _, rfl, rfl⟩ := head_of_arrivesAt ready
      rw [rest nofun]
      refine ⟨rfl, Arrivals.since_none _, rfl, ?_⟩
      rintro _ (_ | ⟨_, ⟨⟩⟩)
      rfl
  | stopped => cases going
  | pending late running same waits => exact ⟨rfl, waits, same, nofun⟩

/-- The last item, be it an error or the end, holds no bytes. -/
theorem bytes_of_last (last : p.last = true) : p.items.flatMap Item.bytes = [] := by
  obtain ⟨item, got, last⟩ := Polled.exists_of_last last
  rw [Polled.items, got]
  cases item with
  | chunk => cases last
  | failure | finished => rfl

end Settles

section Sessions

variable {since : Option Nat} {r : Relay (Arrivals ε)}

theorem settles_pollOnce (stop : Option Nat) (live : r.finished = false)
    (h : r.inner.Since since) (poll : Poll) (now : Nat) :
    let p := pollOnce (Relay.look Arrivals.look stop) poll now since r
    Settles stop p.asked p.limit p.begun r.inner.coming (p.outcome, p.after) :=
  settles live (h now) (Nat.le_add_right now poll.patience)

/-- What is handed out is what comes, from the first on, and its bytes are the first that are sent
before anything but a chunk. -/
theorem delivered_session (stop : Option Nat) (polls : List Poll) (now : Nat)
    (live : r.finished = false) (h : r.inner.Since since) :
    (delivered (session (Relay.look Arrivals.look stop) polls now since r)).map some
        <+: r.inner.coming.map Arrival.item
      ∧ received (session (Relay.look Arrivals.look stop) polls now since r)
        <+: sent r.inner.coming := by
  induction polls generalizing now since r with
  | nil => exact ⟨List.nil_prefix, List.nil_prefix⟩
  | cons poll polls ih =>
    have settled := settles_pollOnce stop live h poll now
    generalize once : pollOnce (Relay.look Arrivals.look stop) poll now since r = p at settled
    dsimp only at settled
    have onward := session_cons once settled.not_crashed polls
    rw [onward, delivered_cons, received_cons, List.map_append]
    cases last : p.last with
    | false =>
      -- the first poll has got the next chunk or none, and the others go on behind it
      obtain ⟨live', since', coming, chunks⟩ := settled.goes_on last
      obtain ⟨order, bytes⟩ := ih (p.outcome.1 + poll.pause) live' since'
      rw [coming] at order bytes
      have whole : r.inner.coming.map Arrival.item
          = p.items.map some ++ (r.inner.coming.drop p.items.length).map Arrival.item := by
        rw [settled.items_eq, ← List.map_append, List.take_append_drop]
      rw [whole, sent_eq_append chunks, flatMap_bytes_eq settled.items_eq]
      exact ⟨(List.prefix_append_right_inj _).mpr order,
        (List.prefix_append_right_inj _).mpr bytes⟩
    | true =>
      -- the first poll has got the last item, and the others get nothing
      have ended := (Relay.closes Arrivals.look stop).ended_of_last
        (onward.trans (List.nil_append _).symm) last
      have nothing := delivered_of_ended fun q mem => (ended q mem).1
      rw [received, nothing, List.map_nil, List.append_nil, settled.items_eq,
        Settles.bytes_of_last last]
      exact ⟨(List.take_prefix _ _).map _, List.nil_prefix⟩

/-- Until one poll has got the last item, each has got a chunk or nothing, and the next one settles
on what is left to come. -/
theorem settles_of_append (stop : Option Nat) (polls : List Poll) (now : Nat)
    (front rest : List (Polled ε (Relay (Arrivals ε)))) (p : Polled ε (Relay (Arrivals ε)))
    (live : r.finished = false) (h : r.inner.Since since)
    (split : session (Relay.look Arrivals.look stop) polls now since r = front ++ p :: rest)
    (going : ∀ q ∈ front, q.last = false) :
    (∀ a ∈ r.inner.coming.take (delivered front).length, a.isChunk = true)
      ∧ (delivered front).map some
        = (r.inner.coming.take (delivered front).length).map Arrival.item
      ∧ Settles stop p.asked p.limit p.begun (r.inner.coming.drop (delivered front).length)
        (p.outcome, p.after) := by
  induction front generalizing polls now since r with
  | nil =>
    cases polls with
    | nil => cases split
    | cons poll polls =>
      cases split
      exact ⟨nofun, rfl, settles_pollOnce stop live h poll now⟩
  | cons q front ih =>
    cases polls with
    | nil => cases split
    | cons poll polls =>
      -- the first poll has taken its chunk away, and the others settle on what is left
      obtain ⟨rfl, -, split'⟩ := uncons_session split
      have settled := settles_pollOnce stop live h poll now
      obtain ⟨live', since', coming, chunks⟩ := settled.goes_on (going _ List.mem_cons_self)
      obtain ⟨chunks', order, onward⟩ := ih polls _ live' since' split' fun q mem =>
        going q (List.mem_cons_of_mem _ mem)
      rw [coming] at chunks' order onward
      have first := settled.items_eq
      rw [delivered_cons, List.length_append, List.take_add, List.map_append, List.map_append,
        ← List.drop_drop, first, order]
      refine ⟨fun a mem => ?_, rfl, onward⟩
      exact (List.mem_append.mp mem).elim (chunks a) (chunks' a)

end Sessions

/-! ## Faithful sessions -/

/-- What the answers to polls have to do with what comes and with the time of the shutdown. -/
structure Faithful (coming : List (Arrival ε)) (stop : Option Nat) (polled : List (Polled ε σ)) :
    Prop where
  /-- What is handed out is what comes, in order from the first. -/
  inOrder : (delivered polled).map some <+: coming.map Arrival.item
  /-- What is ready for a poll in time and before the shutdown is handed out. -/
  handsOut : ∀ front p rest, polled = front ++ p :: rest → (∀ q ∈ front, q.last = false) →
    ∀ t item, arrivesAt p.asked p.begun (coming.drop (delivered front).length) = some (t, item) →
      t ≤ p.limit → (∀ S ∈ stop, t < S) → p.outcome = (t, .item item)
  /-- At the shutdown the stream ends, even if an item is ready just then. -/
  stops : ∀ front p rest, polled = front ++ p :: rest → (∀ q ∈ front, q.last = false) →
    ∀ S ∈ stop, max p.begun S ≤ p.limit →
      (∀ t item, arrivesAt p.asked p.begun (coming.drop (delivered front).length)
        = some (t, item) → S ≤ t) → p.outcome = (max p.begun S, .item .finished)
  /-- Where nothing is ready in time, nothing is handed out. -/
  waits : ∀ front p rest, polled = front ++ p :: rest → (∀ q ∈ front, q.last = false) →
    (∀ t item, arrivesAt p.asked p.begun (coming.drop (delivered front).length)
      = some (t, item) → p.limit < t) → (∀ S ∈ stop, p.limit < S) → p.outcome = (p.limit, .givenUp)
  /-- Nothing but the end is handed out from the shutdown on. -/
  running : ∀ p ∈ polled, ∀ item ∈ p.items, ∀ S ∈ stop, p.outcome.1 < S
  /-- Nothing but the end is handed out after an error or the end. -/
  ended : ∀ front p rest, polled = front ++ p :: rest → p.last = true →
    ∀ q ∈ rest, q.outcome = (q.begun, .item .finished)
  /-- The client receives the first of the bytes that are sent. -/
  bytes : received polled <+: sent coming
  /-- It receives all of them, and everything that comes, if the stream ends without an error and
  before the shutdown. -/
  whole : ∀ front p rest, polled = front ++ p :: rest → (∀ q ∈ front, q.last = false) →
    p.outcome.2 = .item .finished → (∀ S ∈ stop, p.outcome.1 < S) →
      (delivered polled).map some = (leading coming).map Arrival.item
        ∧ received polled = sent coming

namespace Settles

variable {coming : List (Arrival ε)} {came : Outcome ε × Relay (Arrivals ε)}

/-- What is ready in time and before the shutdown is handed out. -/
theorem hands_out (h : Settles stop asked limit now coming came) {t : Nat} {item : Item ε}
    (ready : arrivesAt asked now coming = some (t, item)) (waited : t ≤ limit)
    (running : ∀ S ∈ stop, t < S) : came.1 = (t, .item item) := by
  cases h with
  | item ready' =>
    cases ready.symm.trans ready'
    rfl
  | stopped fires _ late =>
    exact absurd (running _ fires) (Nat.not_lt_of_le (late t item ready))
  | pending late => exact absurd (late t item ready) (Nat.not_lt_of_le waited)

/-- Where nothing is ready before the shutdown, it ends the stream. -/
theorem stops (h : Settles stop asked limit now coming came) {S : Nat} (fires : S ∈ stop)
    (waited : max now S ≤ limit)
    (late : ∀ t item, arrivesAt asked now coming = some (t, item) → S ≤ t) :
    came.1 = (max now S, .item .finished) := by
  cases h with
  | @item t item s ready _ running =>
    exact absurd (running S fires) (Nat.not_lt_of_le (late t item ready))
  | stopped fires' =>
    rw [Option.mem_unique fires fires']
  | pending _ running =>
    exact absurd (running S fires) (Nat.not_lt_of_le ((Nat.le_max_right now S).trans waited))

/-- Where neither comes in time, the poll gives up. -/
theorem waits (h : Settles stop asked limit now coming came)
    (late : ∀ t item, arrivesAt asked now coming = some (t, item) → limit < t)
    (running : ∀ S ∈ stop, limit < S) : came.1 = (limit, .givenUp) := by
  cases h with
  | item ready waited => exact absurd (late _ _ ready) (Nat.not_lt_of_le waited)
  | stopped fires waited =>
    exact absurd (running _ fires) (Nat.not_lt_of_le ((Nat.le_max_right _ _).trans waited))
  | pending => rfl

/-- A poll that waits long enough gets the next chunk, unless the shutdown comes before. -/
theorem gets_chunk (h : Settles stop asked limit now coming came) {t : Nat}
    {bytes : List UInt8} (ready : arrivesAt asked now coming = some (t, .chunk bytes))
    (waited : t ≤ limit) (early : ∀ S ∈ stop, came.1.1 < S) :
    came = ((t, .item (.chunk bytes)), { inner := { coming := coming.tail } }) := by
  cases h with
  | item ready' _ _ rest =>
    cases ready.symm.trans ready'
    rw [rest nofun]
    rfl
  | stopped fires => exact absurd (early _ fires) (Nat.not_lt_of_le (Nat.le_max_right _ _))
  | pending late => exact absurd (late t _ ready) (Nat.not_lt_of_le waited)

/-- What a poll gets, other than the end, it gets before the shutdown. -/
theorem running {p : Polled ε (Relay (Arrivals ε))}
    (h : Settles stop asked limit now coming (p.outcome, p.after)) {item : Item ε}
    (got : item ∈ p.items) : ∀ S ∈ stop, p.outcome.1 < S := by
  obtain ⟨begun, limit, asked, outcome, after⟩ := p
  cases h with
  | item ready waited running => exact running
  | stopped => cases got
  | pending => cases got

/-- Where a poll finds the end before the shutdown, no chunk comes next. -/
theorem leading_eq_nil (h : Settles stop asked limit now coming came)
    (finished : came.1.2 = .item .finished) (early : ∀ S ∈ stop, came.1.1 < S) :
    leading coming = [] := by
  cases h with
  | item ready =>
    cases finished
    obtain ⟨rfl, -⟩ | ⟨a, rest, rfl, comes⟩ := head_of_arrivesAt ready
    · rfl
    · refine List.takeWhile_cons_of_neg ?_
      rw [Arrival.isChunk, comes]
      exact Bool.false_ne_true
  | stopped fires =>
    exact absurd (early _ fires) (Nat.not_lt_of_le (Nat.le_max_right _ _))
  | pending => cases finished

end Settles

/-- An item is not the end. -/
theorem ne_finished_of_items {p : Polled ε σ} {item : Item ε} (got : item ∈ p.items) :
    p.outcome.2 ≠ .item .finished := by
  intro finished
  rw [Polled.items, finished] at got
  cases got

/-- Behind the end nothing is handed out, so all was handed out before. -/
theorem delivered_of_finished (front : List (Polled ε σ)) {rest : List (Polled ε σ)}
    {p : Polled ε σ} (finished : p.outcome.2 = .item .finished)
    (ended : ∀ q ∈ rest, q.outcome = (q.begun, .item .finished)) :
    delivered (front ++ p :: rest) = delivered front := by
  have nothing : p.items = [] := by rw [Polled.items, finished]
  rw [delivered, List.flatMap_append]
  show delivered front ++ delivered (p :: rest) = _
  rw [delivered_cons, nothing, delivered_of_ended ended, List.append_nil, List.append_nil]

/-- All sessions are faithful. -/
theorem faithful_session (coming : List (Arrival ε)) (stop : Option Nat) (polls : List Poll)
    (start : Nat) :
    Faithful coming stop
      (session (Relay.look Arrivals.look stop) polls start none { inner := { coming } }) := by
  obtain ⟨inOrder, bytes⟩ := delivered_session stop polls start (r := { inner := { coming } }) rfl
    (Arrivals.since_none coming)
  -- where no poll before has got the last item, the next one settles on what is left to come
  have settled := fun front rest p split going =>
    (settles_of_append stop polls start front rest p (r := { inner := { coming } }) rfl
      (Arrivals.since_none coming) split going).2.2
  refine ⟨inOrder, ?_, ?_, ?_, ?_, ?_, bytes, ?_⟩
  · intro front p rest split going t item
    exact (settled front rest p split going).hands_out
  · intro front p rest split going S
    exact (settled front rest p split going).stops
  · intro front p rest split going
    exact (settled front rest p split going).waits
  · intro p mem item got
    obtain ⟨front, rest, split⟩ := List.append_of_mem mem
    have going := (Relay.closes Arrivals.look stop).going_of_ne split (ne_finished_of_items got)
    exact (settled front rest p split going).running got
  · intro front p rest split last q mem
    exact ((Relay.closes Arrivals.look stop).ended_of_last split last q mem).1
  · intro front p rest split going finished early
    obtain ⟨chunks, order, last⟩ := settles_of_append stop polls start front rest p
      (r := { inner := { coming } }) rfl (Arrivals.since_none coming) split going
    have isLast : p.last = true := by
      rw [Polled.last, finished]
      rfl
    have ended := (Relay.closes Arrivals.look stop).ended_of_last split isLast
    have same := delivered_of_finished front finished fun q mem => (ended q mem).1
    have all := leading_eq_append chunks
    rw [last.leading_eq_nil finished early, List.append_nil] at all
    rw [split, received, same, sent, all, order]
    exact ⟨rfl, flatMap_bytes_eq order⟩

/-- A client that waits long enough each time receives all bytes that are sent, if the shutdown
comes late enough. -/
theorem received_session (coming : List (Arrival ε)) {polls : List Poll} {start : Nat}
    (patient : ∀ poll ∈ polls, ∀ a ∈ leading coming, a.delay ≤ poll.patience)
    (enough : (leading coming).length ≤ polls.length)
    (early : ∀ p ∈ session (Relay.look Arrivals.look stop) polls start none
      { inner := { coming } }, ∀ S ∈ stop, p.outcome.1 < S) :
    received (session (Relay.look Arrivals.look stop) polls start none { inner := { coming } })
      = sent coming := by
  induction coming generalizing polls start with
  | nil => exact List.prefix_nil.mp (faithful_session [] stop polls start).bytes
  | cons a coming ih =>
    by_cases chunk : a.isChunk = true
    · have first : leading (a :: coming) = a :: leading coming := List.takeWhile_cons_of_pos chunk
      rw [first] at patient enough
      cases polls with
      | nil => cases enough
      | cons poll polls =>
        obtain ⟨bytes, comes⟩ := Arrival.exists_of_isChunk chunk
        have waited : start + a.delay ≤ start + poll.patience :=
          Nat.add_le_add_left (patient poll List.mem_cons_self a List.mem_cons_self) start
        have ready :
            arrivesAt start start (a :: coming) = some (start + a.delay, .chunk bytes) := by
          refine Option.map_eq_some_iff.mpr ⟨_, comes, ?_⟩
          rw [Nat.max_eq_right (Nat.le_add_right _ _)]
        -- the first poll waits until the chunk is due, and the others get what is left
        have came := (settles_pollOnce stop (r := { inner := { coming := a :: coming } })
          rfl (Arrivals.since_none _) poll start).gets_chunk ready waited
          (early _ List.mem_cons_self)
        have once : pollOnce (Relay.look Arrivals.look stop) poll start none
              { inner := { coming := a :: coming } }
            = { begun := start, limit := start + poll.patience, asked := start,
                outcome := (start + a.delay, .item (.chunk bytes)),
                after := { inner := { coming } } } := by
          unfold pollOnce
          rw [show await _ _ _ _ = _ from came]
          rfl
        rw [session_cons once rfl] at early ⊢
        have sends : sent (a :: coming) = bytes ++ sent coming := by
          rw [sent, first, List.flatMap_cons, Arrival.bytes, comes]
          rfl
        rw [received_cons, sends]
        refine congrArg₂ (· ++ ·) (List.append_nil bytes) (ih ?_ ?_ ?_)
        · exact fun poll mem a mem' =>
            patient poll (List.mem_cons_of_mem _ mem) a (List.mem_cons_of_mem _ mem')
        · exact Nat.le_of_succ_le_succ enough
        · exact fun p mem => early p (List.mem_cons_of_mem _ mem)
    · have nothing : sent (a :: coming) = [] := by
        rw [sent, leading, List.takeWhile_cons_of_neg chunk, List.flatMap_nil]
      have received := (faithful_session (a :: coming) stop polls start).bytes
      rw [nothing] at received ⊢
      exact List.prefix_nil.mp received

/-! ## Scripts -/

/-- A relayed stream over another one within. -/
def Relay.map (f : σ → τ) (r : Relay σ) : Relay τ where
  inner := f r.inner
  finished := r.finished

/-- Where the stream within is another one seen otherwise, so is the relayed one. -/
theorem Relay.look_map {inner' : Nat → τ → Look ε × τ} {f : σ → τ}
    (same : ∀ now s, inner' now (f s) = ((inner now s).1, f (inner now s).2)) (stop : Option Nat)
    (now : Nat) (r : Relay σ) :
    (r.map f).look inner' stop now
      = ((r.look inner stop now).1, (r.look inner stop now).2.map f) := by
  rcases r.live_cases stop now with finished | ⟨live, S, fires, past⟩ | ⟨live, running⟩
  · rw [look_of_finished finished, look_of_finished (show (r.map f).finished = true from finished)]
  · rw [look_of_stopped live fires past,
      look_of_stopped (show (r.map f).finished = false from live) fires past]
    rfl
  · rw [look_of_running live running,
      look_of_running (show (r.map f).finished = false from live) running,
      show inner' now (r.map f).inner = _ from same now r.inner]
    rcases inner now r.inner with ⟨_ | _ | _, _⟩ <;> rfl

/-- Faithfulness is about what is handed out, not about the streams that are left behind. -/
theorem Faithful.of_map {f : σ → τ} {coming : List (Arrival ε)} {polled : List (Polled ε σ)}
    (h : Faithful coming stop (polled.map (Polled.map f))) : Faithful coming stop polled := by
  have same : ∀ qs : List (Polled ε σ), delivered (qs.map (Polled.map f)) = delivered qs :=
    fun qs => List.flatMap_map ..
  have sameBytes : received (polled.map (Polled.map f)) = received polled :=
    congrArg (List.flatMap Item.bytes) (same polled)
  obtain ⟨inOrder, handsOut, stops, waits, running, ended, bytes, whole⟩ := h
  rw [same] at inOrder whole
  rw [sameBytes] at bytes whole
  refine ⟨inOrder, ?_, ?_, ?_, ?_, ?_, bytes, ?_⟩
  · intro front p rest split going
    rw [← same front]
    exact handsOut _ _ _ (Polled.map_eq_append f split) (List.forall_mem_map.mpr going)
  · intro front p rest split going
    rw [← same front]
    exact stops _ _ _ (Polled.map_eq_append f split) (List.forall_mem_map.mpr going)
  · intro front p rest split going
    rw [← same front]
    exact waits _ _ _ (Polled.map_eq_append f split) (List.forall_mem_map.mpr going)
  · exact fun p mem => running (p.map f) (List.mem_map_of_mem mem)
  · exact fun front p rest split last q mem =>
      ended _ _ _ (Polled.map_eq_append f split) last (q.map f) (List.mem_map_of_mem mem)
  · exact fun front p rest split going =>
      whole _ _ _ (Polled.map_eq_append f split) (List.forall_mem_map.mpr going)

/--
What the client gets of a relayed stream, whatever comes, be it chunks, errors, silence or the end,
each with any delay, and also behind an error or an end. The items are those that come, in order,
each handed out when it is ready for the poll that waits for it, as long as that is before the
shutdown, up to the first error; at the shutdown, after an error and after the end there is the end
and nothing else. So the bytes are the first of those that are sent, and all of them if the stream
ends without an error before the shutdown, or if the client is patient and the shutdown comes late
enough. After the last item the stream within is not looked at again: whatever it is, it stays as it
was. Streams that follow a script are such streams, and polls of equal patience are what `turns`
makes.
-/
theorem relay_faithful (stop : Option Nat) (polls : List Poll) (start : Nat) :
    (∀ coming : List (Arrival ε), Faithful coming stop
      (session (Relay.look Arrivals.look stop) polls start none { inner := { coming } }))
    ∧ (∀ coming : List (Arrival ε),
        (∀ poll ∈ polls, ∀ a ∈ leading coming, a.delay ≤ poll.patience) →
        (leading coming).length ≤ polls.length →
        (∀ p ∈ session (Relay.look Arrivals.look stop) polls start none { inner := { coming } },
          ∀ S ∈ stop, p.outcome.1 < S) →
        received (session (Relay.look Arrivals.look stop) polls start none { inner := { coming } })
          = sent coming)
    ∧ (∀ (σ : Type) (inner : Nat → σ → Look ε × σ) (s : σ) (front : List (Polled ε (Relay σ)))
        (p : Polled ε (Relay σ)) (rest : List (Polled ε (Relay σ))),
        session (Relay.look inner stop) polls start none { inner := s } = front ++ p :: rest →
        p.last = true →
        ∀ q ∈ rest, q.outcome = (q.begun, .item .finished) ∧ q.after = p.after)
    ∧ (∀ script : List (Event ε), Faithful (script.map Event.arrival) stop
        (session (Relay.look Source.look stop) polls start none { inner := { script } }))
    ∧ ∀ (script : List (Event ε)) patience pauses,
        (session (Relay.look Source.look stop) (pauses.map fun pause => { patience, pause }) start
          none { inner := { script } }).map Polled.outcome
        = turns (Relay.look Source.look stop) patience pauses start { inner := { script } } := by
  refine ⟨fun coming => faithful_session coming stop polls start,
    fun coming => received_session coming,
    fun _ inner _ _ _ _ split last => (Relay.closes inner stop).ended_of_last split last,
    fun script => ?_,
    fun script patience pauses => outcomes_session _ patience pauses start none _⟩
  refine Faithful.of_map (f := Relay.map Source.arrivals) ?_
  rw [← session_map (Relay.look_map (fun now s => s.look_arrivals now) stop)]
  exact faithful_session (script.map Event.arrival) stop polls start

/-- The end would come at 9. -/
example : turns (Relay.look (@Arrivals.look Nat) (some 5)) 10 [0, 0, 0] 0
    { inner :=
        { coming := [{ item := some (.chunk [1]) }, { delay := 9, item := some .finished }] } }
    = [(0, .item (.chunk [1])), (5, .item .finished), (5, .item .finished)] := by
  cbv

end InferenceGateway.Stream
