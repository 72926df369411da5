import InferenceGateway.Config.Environment
import InferenceGateway.Proofs.Stream.Polling
import InferenceGateway.Stream.Idle

/-!
# How long a watched stream is borne

A watched stream is polled again and again, with any patience and any pauses. What each poll comes
to is told by three times: when the next item within is ready, when the poll begins, and the
deadline, which lies one idle time behind the last chunk that was handed out. A deadline that the
clock cannot hold is put off when the stream opens, and is the end of the reader later on.

* `deadlineAfter`: the deadline after some polls.
* `Polled.OnTime`: what a poll comes to; `Timely`: what all polls come to.
* `Elapses`: the same, with the stream that the poll leaves behind.
* `watched_timely`: every session is timely, and a reader that keeps up meets no deadline.
* `chunk_lost_to_long_idle_time`: an idle time that can be configured, and loses the first chunk.
-/

namespace InferenceGateway.Stream

variable {ε σ τ : Type}

/-! ## Looking at a watched stream -/

variable {inner : Nat → σ → Look Http.Fault × σ} {p : Provider}
  {asked begun idle deadline limit now : Nat}

/-- An item of the stream within, as it is handed out. -/
def Item.passedBy (p : Provider) : Item Http.Fault → Item ProviderError
  | .chunk bytes => .chunk bytes
  | .failure fault => .failure (.ofFault p streamBody fault)
  | .finished => .finished

/-- What is handed out when the deadline has passed. -/
def silence (p : Provider) : Item ProviderError :=
  .failure (.timedOut p nextChunk)

/-- No error of the stream within is taken for silence: the two name other waits. -/
theorem Item.passedBy_ne_silence (item : Item Http.Fault) : item.passedBy p ≠ silence p := by
  cases item with
  | chunk => nofun
  | finished => nofun
  | failure fault =>
    cases fault with
    | timedOut =>
      intro same
      have texts : streamBody = nextChunk := by injection same with same; injection same
      exact absurd texts (by decide)
    | _ => nofun

@[simp] theorem Item.last_passedBy (item : Item Http.Fault) :
    (item.passedBy p).last = item.last := by
  cases item <;> rfl

/-- Whether a stream can go on behind an item that is handed out at `now`: behind the last one
always, behind a chunk if the clock can hold the new deadline. -/
def Item.Fits (item : Item ε) (now idle : Nat) : Prop :=
  item.last = true ∨ now + idle ≤ lastInstant

instance (item : Item ε) (now idle : Nat) : Decidable (item.Fits now idle) :=
  inferInstanceAs (Decidable (_ ∨ _))

/-- A watched stream after it has handed out an item. -/
def Watched.after (s : Watched σ) (now : Nat) (item : Item Http.Fault) (source : σ) :
    Watched σ where
  source := source
  idle := s.idle
  deadline := if item.last then s.deadline else now + s.idle
  done := item.last

theorem Watched.look_of_done {s : Watched σ} (h : s.done = true) :
    s.look inner p now = (.ready .finished, s) := by
  unfold Watched.look
  rw [if_pos h]

/-- What the stream within has ready is handed out. -/
theorem Watched.look_of_ready {s : Watched σ} (live : s.done = false) {item : Item Http.Fault}
    {source : σ} (h : inner now s.source = (.ready item, source)) (fits : item.Fits now s.idle) :
    s.look inner p now = (.ready (item.passedBy p), s.after now item source) := by
  obtain ⟨_, idle, deadline, _⟩ := s
  cases live
  unfold Watched.look
  rw [if_neg Bool.false_ne_true, h]
  cases item with
  | chunk bytes => exact if_pos (fits.resolve_left Bool.false_ne_true)
  | failure | finished => rfl

/-- A chunk behind which the clock cannot hold the deadline is lost. -/
theorem Watched.look_of_misfit {s : Watched σ} (live : s.done = false) {item : Item Http.Fault}
    {source : σ} (h : inner now s.source = (.ready item, source)) (misfit : ¬item.Fits now s.idle) :
    s.look inner p now = (.crash, { s with source, done := false }) := by
  obtain ⟨_, idle, deadline, _⟩ := s
  cases live
  unfold Watched.look
  rw [if_neg Bool.false_ne_true, h]
  cases item with
  | chunk bytes => exact if_neg fun room => misfit (.inr room)
  | failure | finished => exact absurd (.inl rfl) misfit

/-- With nothing ready at the deadline, silence is the last item. -/
theorem Watched.look_of_late {s : Watched σ} (live : s.done = false) {wake : Option Nat}
    {source : σ} (h : inner now s.source = (.pending wake, source)) (late : s.deadline ≤ now) :
    s.look inner p now = (.ready (silence p), { s with source, done := true }) := by
  unfold Watched.look
  rw [live, if_neg Bool.false_ne_true, h]
  exact if_pos late

/-- Before the deadline it is put off to whatever comes first, the item or the deadline. -/
theorem Watched.look_of_early {s : Watched σ} (live : s.done = false) {wake : Option Nat}
    {source : σ} (h : inner now s.source = (.pending wake, source)) (early : now < s.deadline) :
    s.look inner p now
      = (.pending (earlier wake (some s.deadline)), { s with source, done := false }) := by
  unfold Watched.look
  rw [live, if_neg Bool.false_ne_true, h]
  exact if_neg (Nat.not_le_of_lt early)

/-- Where looking at the stream within fails, so does looking at the watched one. -/
theorem Watched.look_of_crash {s : Watched σ} (live : s.done = false) {source : σ}
    (h : inner now s.source = (.crash, source)) :
    s.look inner p now = (.crash, { s with source, done := false }) := by
  unfold Watched.look
  rw [live, if_neg Bool.false_ne_true, h]

/-- A watched stream is done with at its last item, whatever the stream within is. -/
theorem Watched.closes (inner : Nat → σ → Look Http.Fault × σ) (p : Provider) :
    Closes (Watched.look inner p) fun s => s.done = true := by
  refine ⟨fun now s done => Watched.look_of_done done, ?_⟩
  intro now s item s' looked last
  cases done : s.done with
  | true =>
    rw [Watched.look_of_done done] at looked
    cases looked
    exact done
  | false =>
    rcases came : inner now s.source with ⟨item' | wake | _, source⟩
    · by_cases fits : item'.Fits now s.idle
      · rw [Watched.look_of_ready done came fits] at looked
        cases looked
        rwa [Item.last_passedBy] at last
      · rw [Watched.look_of_misfit done came fits] at looked
        cases looked
    · by_cases late : s.deadline ≤ now
      · rw [Watched.look_of_late done came late] at looked
        cases looked
        rfl
      · rw [Watched.look_of_early done came (Nat.lt_of_not_le late)] at looked
        cases looked
    · rw [Watched.look_of_crash done came] at looked
      cases looked

/-! ## One poll -/

/-- What a poll of a watched stream that is not done comes to: the next item, a chunk that is lost,
silence beyond the deadline, or nothing so far. -/
inductive Elapses (p : Provider) (idle deadline asked limit now : Nat)
    (coming : List (Arrival Http.Fault)) :
    Outcome ProviderError × Watched (Arrivals Http.Fault) → Prop
  | chunk {t bytes} (ready : arrivesAt asked now coming = some (t, .chunk bytes))
    (early : t = now ∨ t ≤ deadline) (waited : t ≤ limit) (room : t + idle ≤ lastInstant) :
    Elapses p idle deadline asked limit now coming
      ((t, .item (.chunk bytes)),
        { source := { coming := coming.tail }, idle, deadline := t + idle })
  | lost {t bytes s} (ready : arrivesAt asked now coming = some (t, .chunk bytes))
    (early : t = now ∨ t ≤ deadline) (waited : t ≤ limit) (beyond : lastInstant < t + idle) :
    Elapses p idle deadline asked limit now coming ((t, .crash), s)
  | last {t item s} (ready : arrivesAt asked now coming = some (t, item)) (last : item.last = true)
    (early : t = now ∨ t ≤ deadline) (waited : t ≤ limit) (done : s.done = true) :
    Elapses p idle deadline asked limit now coming ((t, .item (item.passedBy p)), s)
  | silent {s}
    (late : ∀ t item, arrivesAt asked now coming = some (t, item) → now < t ∧ deadline < t)
    (waited : max now deadline ≤ limit) (done : s.done = true) :
    Elapses p idle deadline asked limit now coming ((max now deadline, .item (silence p)), s)
  | waiting {source} (late : ∀ t item, arrivesAt asked now coming = some (t, item) → limit < t)
    (early : limit < deadline) (same : source.coming = coming)
    (waits : ∀ n, source.Asked asked n) :
    Elapses p idle deadline asked limit now coming ((limit, .givenUp), { source, idle, deadline })

/-- When the next item is ready at once or by the deadline, the poll gets it, unless it is a chunk
that is lost. -/
theorem elapses_of_ready {t : Nat} {item : Item Http.Fault} {s : Watched (Arrivals Http.Fault)}
    (live : s.done = false) (h : s.source.Asked asked t)
    (ready : arrivesAt asked now s.source.coming = some (t, item))
    (early : t = now ∨ t ≤ s.deadline) (waited : t ≤ limit) :
    Elapses p s.idle s.deadline asked limit now s.source.coming
      (await (Watched.look Arrivals.look p) limit t s) := by
  have looks := Arrivals.looks h
  generalize looked : Arrivals.look t s.source = came at looks
  -- what is ready at the first look is ready still, so that the look does not come to nothing
  cases looks with
  | @ready item' source h' rest =>
    cases (arrivesAt_self ready).symm.trans h'
    by_cases fits : item.Fits t s.idle
    · rw [await_of_ready (Watched.look_of_ready live looked fits)]
      cases item with
      | chunk bytes =>
        cases rest nofun
        exact .chunk ready early waited (fits.resolve_left Bool.false_ne_true)
      | failure | finished => exact .last ready rfl early waited rfl
    · rw [await_of_crash (Watched.look_of_misfit live looked fits)]
      cases item with
      | chunk bytes =>
        exact .lost ready early waited (Nat.lt_of_not_le fun room => fits (.inr room))
      | failure | finished => exact absurd (.inl rfl) fits
  | pending wakes late =>
    rw [arrivesAt_self ready] at wakes
    exact absurd (late t wakes.symm) (Nat.lt_irrefl t)

/-- When nothing is ready up to the deadline, the poll gets an error then, or at once. -/
theorem elapses_of_silent {s : Watched (Arrivals Http.Fault)} (live : s.done = false)
    (h : s.source.Asked asked (max now s.deadline))
    (late : ∀ t item, arrivesAt asked now s.source.coming = some (t, item) →
      now < t ∧ s.deadline < t) (waited : max now s.deadline ≤ limit) :
    Elapses p s.idle s.deadline asked limit now s.source.coming
      (await (Watched.look Arrivals.look p) limit (max now s.deadline) s) := by
  have looks := Arrivals.looks h
  generalize looked : Arrivals.look (max now s.deadline) s.source = came at looks
  cases looks with
  | ready h' =>
    rw [arrivesAt_of_le (Nat.le_max_left now s.deadline)] at h'
    obtain ⟨⟨t, item⟩, ready, eq⟩ := Option.map_eq_some_iff.mp h'
    have both := late t item ready
    have at_ : max (max now s.deadline) t = max now s.deadline := congrArg Prod.fst eq
    omega
  | pending =>
    rw [await_of_ready (Watched.look_of_late live looked (Nat.le_max_right _ _))]
    exact .silent late waited rfl

/-- A poll that looks again when the next item is ready gets it then, or gives up before. -/
theorem elapses_of_later {t : Nat} {item : Item Http.Fault} {s : Watched (Arrivals Http.Fault)}
    {source : Arrivals Http.Fault} (le : now ≤ limit)
    (look : s.look Arrivals.look p now = (.pending (some t), { s with source, done := false }))
    (same : source.coming = s.source.coming) (waits : ∀ n, source.Asked asked n)
    (ready : arrivesAt asked now s.source.coming = some (t, item)) (after : now < t)
    (early : t ≤ s.deadline) :
    Elapses p s.idle s.deadline asked limit now s.source.coming
      (await (Watched.look Arrivals.look p) limit now s) := by
  by_cases within : t ≤ limit
  · rw [await_of_wake look after within]
    rw [← same] at ready ⊢
    exact elapses_of_ready (s := { s with source, done := false }) rfl (waits t) ready (.inr early)
      within
  · rw [await_of_pending le look (by rintro w ⟨⟩; omega)]
    refine .waiting (fun t' item' ready' => ?_) (by omega) same waits
    cases ready.symm.trans ready'
    omega

/-- A poll that looks again at the deadline finds nothing, or gives up before. -/
theorem elapses_of_nothing {s : Watched (Arrivals Http.Fault)} {source : Arrivals Http.Fault}
    (le : now ≤ limit)
    (look : s.look Arrivals.look p now
      = (.pending (some s.deadline), { s with source, done := false }))
    (same : source.coming = s.source.coming) (waits : ∀ n, source.Asked asked n)
    (late : ∀ t item, arrivesAt asked now s.source.coming = some (t, item) →
      now < t ∧ s.deadline < t) (early : now < s.deadline) :
    Elapses p s.idle s.deadline asked limit now s.source.coming
      (await (Watched.look Arrivals.look p) limit now s) := by
  by_cases within : s.deadline ≤ limit
  · have there : max now s.deadline = s.deadline := Nat.max_eq_right (Nat.le_of_lt early)
    rw [await_of_wake look early within]
    rw [← same] at late ⊢
    have silent := elapses_of_silent (p := p) (s := { s with source, done := false }) rfl (waits _)
      late (there.trans_le within)
    rwa [there] at silent
  · rw [await_of_pending le look (by rintro w ⟨⟩; omega)]
    refine .waiting (fun t item ready => ?_) (by omega) same waits
    have after := (late t item ready).2
    omega

/-- Each poll of a watched stream that is not done takes one of these courses. -/
theorem elapses {s : Watched (Arrivals Http.Fault)} (live : s.done = false)
    (h : s.source.Asked asked now) (le : now ≤ limit) :
    Elapses p s.idle s.deadline asked limit now s.source.coming
      (await (Watched.look Arrivals.look p) limit now s) := by
  have looks := Arrivals.looks h
  generalize looked : Arrivals.look now s.source = came at looks
  cases looks with
  | ready ready => exact elapses_of_ready live h ready (.inl rfl) le
  | @pending wake source wakes after same waits =>
    have next : ∀ t item, arrivesAt asked now s.source.coming = some (t, item) → now < t := by
      intro t item ready
      rw [ready] at wakes
      exact after t wakes.symm
    by_cases late : s.deadline ≤ now
    · have here : max now s.deadline = now := Nat.max_eq_left late
      have beyond : ∀ t item, arrivesAt asked now s.source.coming = some (t, item) →
          now < t ∧ s.deadline < t := by
        intro t item ready
        have after := next t item ready
        omega
      have silent := elapses_of_silent (p := p) live (here.symm ▸ h) beyond (here.trans_le le)
      rwa [here] at silent
    · have early : now < s.deadline := Nat.lt_of_not_le late
      have look := Watched.look_of_early (p := p) live looked early
      rw [← wakes] at look
      -- the poll looks again when the item is ready or at the deadline, whichever is sooner
      cases coming : arrivesAt asked now s.source.coming with
      | none =>
        rw [coming] at look
        exact elapses_of_nothing le look same waits (by rw [coming]; nofun) early
      | some came =>
        obtain ⟨t, item⟩ := came
        have after := next t item coming
        rw [coming] at look
        by_cases soon : t ≤ s.deadline
        · have sooner : earlier (some t) (some s.deadline) = some t :=
            congrArg some (Nat.min_eq_left soon)
          exact elapses_of_later le (sooner ▸ look) same waits coming after soon
        · have beyond : s.deadline < t := Nat.lt_of_not_le soon
          have sooner : earlier (some t) (some s.deadline) = some s.deadline :=
            congrArg some (Nat.min_eq_right (Nat.le_of_lt beyond))
          refine elapses_of_nothing le (sooner ▸ look) same waits (fun t' item' ready' => ?_) early
          cases coming.symm.trans ready'
          exact ⟨after, beyond⟩

/-! ## Sessions -/

/-- The chunk that a poll has got, if any. -/
def Polled.chunk (q : Polled ε σ) : List (List UInt8) :=
  match q.outcome.2 with
  | .item (.chunk bytes) => [bytes]
  | _ => []

/-- The chunks that were handed out, in order. -/
def chunks (polled : List (Polled ε σ)) : List (List UInt8) :=
  polled.flatMap Polled.chunk

/-- The deadline after a poll: one idle time behind a chunk, and as it was without one. -/
def Polled.nextDeadline (idle deadline : Nat) (q : Polled ε σ) : Nat :=
  if q.chunk.isEmpty then deadline else q.outcome.1 + idle

/-- The deadline after some polls. -/
def deadlineAfter (idle deadline : Nat) (polled : List (Polled ε σ)) : Nat :=
  polled.foldl (Polled.nextDeadline idle) deadline

theorem chunks_cons (q : Polled ε σ) (polled : List (Polled ε σ)) :
    chunks (q :: polled) = q.chunk ++ chunks polled :=
  List.flatMap_cons

/-- Polls that get the end, and nothing else, hand out no chunk. -/
theorem chunks_of_ended {polled : List (Polled ε σ)}
    (ended : ∀ q ∈ polled, q.outcome = (q.begun, .item .finished)) : chunks polled = [] := by
  refine List.flatMap_eq_nil_iff.mpr fun q mem => ?_
  rw [Polled.chunk, ended q mem]

section Course

variable {coming : List (Arrival Http.Fault)}
  {q : Polled ProviderError (Watched (Arrivals Http.Fault))}

theorem elapses_pollOnce (p : Provider) {s : Watched (Arrivals Http.Fault)} {since : Option Nat}
    (live : s.done = false) (h : s.source.Since since) (poll : Poll) (now : Nat) :
    let q := pollOnce (Watched.look Arrivals.look p) poll now since s
    Elapses p s.idle s.deadline q.asked q.limit q.begun s.source.coming (q.outcome, q.after) :=
  elapses live (h now) (Nat.le_add_right now poll.patience)

/-- A poll that has got neither the last item nor lost a chunk leaves a stream of what is left to
come. -/
theorem Elapses.goes_on (h : Elapses p idle deadline q.asked limit now coming (q.outcome, q.after))
    (going : q.last = false) (sound : q.crashed = false) :
    q.after.done = false ∧ q.after.idle = idle ∧ q.after.deadline = q.nextDeadline idle deadline
      ∧ q.after.source.Since q.since ∧ q.after.source.coming = coming.drop q.chunk.length := by
  obtain ⟨begun, limit, asked, outcome, after⟩ := q
  cases h with
  | chunk ready => exact ⟨rfl, rfl, rfl, Arrivals.since_none _, List.drop_one.symm⟩
  | lost => cases sound
  | @last t item s ready last =>
    have last' : (item.passedBy p).last = true := by rw [Item.last_passedBy, last]
    cases going.symm.trans last'
  | silent => cases going
  | waiting late early same waits => exact ⟨rfl, rfl, rfl, waits, same⟩

/-- What a poll has got, if it is a chunk, is what comes next. -/
theorem Elapses.chunk_eq (h : Elapses p idle deadline asked limit now coming (q.outcome, q.after)) :
    q.chunk.map (some ∘ Item.chunk) = (coming.take q.chunk.length).map Arrival.item := by
  obtain ⟨begun, limit, asked, outcome, after⟩ := q
  cases h with
  | @chunk t bytes ready =>
    obtain ⟨-, ⟨⟩⟩ | ⟨a, rest, rfl, present⟩ := head_of_arrivesAt ready
    exact congrArg (· :: []) present.symm
  | lost => rfl
  | @last t item s ready last =>
    cases item with
    | chunk => cases last
    | failure | finished => rfl
  | silent => rfl
  | waiting => rfl

/-- A poll that loses a chunk finds that the clock cannot hold the deadline behind it. -/
theorem Elapses.beyond (h : Elapses p idle deadline asked limit now coming (q.outcome, q.after))
    (crashed : q.crashed = true) : lastInstant < q.outcome.1 + idle := by
  obtain ⟨begun, limit, asked, outcome, after⟩ := q
  cases h with
  | lost _ _ _ beyond => exact beyond
  | chunk | last | silent | waiting => cases crashed

end Course

/-- The last item is an error or the end, and no chunk. -/
theorem Polled.chunk_of_last {q : Polled ε σ} (last : q.last = true) : q.chunk = [] := by
  obtain ⟨item, got, last⟩ := Polled.exists_of_last last
  rw [Polled.chunk, got]
  cases item with
  | chunk => cases last
  | failure | finished => rfl

/-- A poll that has lost a chunk has got none. -/
theorem Polled.chunk_of_crashed {q : Polled ε σ} (crashed : q.crashed = true) : q.chunk = [] := by
  obtain ⟨begun, limit, asked, ⟨t, ending⟩, after⟩ := q
  cases ending with
  | crash => rfl
  | item | givenUp => cases crashed

/-- The chunks that are handed out are those that come, from the first. -/
theorem chunks_session (p : Provider) (polls : List Poll) (now : Nat) {since : Option Nat}
    {s : Watched (Arrivals Http.Fault)} (live : s.done = false) (h : s.source.Since since) :
    (chunks (session (Watched.look Arrivals.look p) polls now since s)).map (some ∘ Item.chunk)
      <+: s.source.coming.map Arrival.item := by
  induction polls generalizing now since s with
  | nil => exact List.nil_prefix
  | cons poll polls ih =>
    have course := elapses_pollOnce p live h poll now
    generalize once : pollOnce (Watched.look Arrivals.look p) poll now since s = q at course
    dsimp only at course
    cases crashed : q.crashed with
    | true =>
      have alone : session (Watched.look Arrivals.look p) (poll :: polls) now since s = [q] := by
        rw [session, once]
        exact congrArg _ (if_pos crashed)
      rw [alone, chunks_cons, Polled.chunk_of_crashed crashed]
      exact List.nil_prefix
    | false =>
      have onward := session_cons once crashed polls
      rw [onward, chunks_cons]
      cases last : q.last with
      | false =>
        -- the first poll has got the next chunk or none, and the others go on behind it
        obtain ⟨live', -, -, since', coming⟩ := course.goes_on last crashed
        have rest := ih (q.outcome.1 + poll.pause) live' since'
        have whole : s.source.coming.map Arrival.item
            = q.chunk.map (some ∘ Item.chunk)
              ++ (s.source.coming.drop q.chunk.length).map Arrival.item := by
          rw [course.chunk_eq, ← List.map_append, List.take_append_drop]
        rw [coming] at rest
        rw [List.map_append, whole]
        exact (List.prefix_append_right_inj _).mpr rest
      | true =>
        have ended := (Watched.closes Arrivals.look p).ended_of_last
          (onward.trans (List.nil_append _).symm) last
        rw [Polled.chunk_of_last last, chunks_of_ended fun b mem => (ended b mem).1]
        exact List.nil_prefix

/-- Each poll takes its course until one has got the last item. -/
theorem elapses_of_append (p : Provider) (polls : List Poll) (now : Nat)
    (front rest : List (Polled ProviderError (Watched (Arrivals Http.Fault))))
    (q : Polled ProviderError (Watched (Arrivals Http.Fault))) {since : Option Nat}
    {s : Watched (Arrivals Http.Fault)} (live : s.done = false) (h : s.source.Since since)
    (split : session (Watched.look Arrivals.look p) polls now since s = front ++ q :: rest)
    (going : ∀ b ∈ front, b.last = false) :
    Elapses p s.idle (deadlineAfter s.idle s.deadline front) q.asked q.limit q.begun
      (s.source.coming.drop (chunks front).length) (q.outcome, q.after) := by
  -- each poll before has left a stream of what is left to come, with the next deadline
  induction front generalizing polls now since s with
  | nil =>
    cases polls with
    | nil => cases split
    | cons poll polls =>
      cases split
      exact elapses_pollOnce p live h poll now
  | cons b front ih =>
    cases polls with
    | nil => cases split
    | cons poll polls =>
      obtain ⟨rfl, sound, split'⟩ := uncons_session split
      have course := elapses_pollOnce p live h poll now
      obtain ⟨live', idle, deadline, since', coming⟩ :=
        course.goes_on (going _ List.mem_cons_self) sound
      have onward := ih polls _ live' since' split' fun q mem =>
        going q (List.mem_cons_of_mem _ mem)
      rw [chunks_cons, List.length_append, ← List.drop_drop]
      rwa [coming, idle, deadline] at onward

/-! ## Timely sessions -/

/-- What a poll comes to, from the deadline and from what is still to come when it begins. -/
structure Polled.OnTime (p : Provider) (idle deadline : Nat) (coming : List (Arrival Http.Fault))
    (q : Polled ProviderError σ) : Prop where
  /-- What is ready at once, or by the deadline, is handed out when it is ready. -/
  handsOut : ∀ t item, arrivesAt q.asked q.begun coming = some (t, item) →
    t = q.begun ∨ t ≤ deadline → t ≤ q.limit → item.Fits t idle →
    q.outcome = (t, .item (item.passedBy p))
  /-- A chunk is lost, and the reader with it, where the clock cannot hold the new deadline. -/
  loses : ∀ t item, arrivesAt q.asked q.begun coming = some (t, item) →
    t = q.begun ∨ t ≤ deadline → t ≤ q.limit → ¬item.Fits t idle → q.outcome = (t, .crash)
  /-- Otherwise there is an error at the deadline, or at once. -/
  fails : (∀ t item, arrivesAt q.asked q.begun coming = some (t, item) →
      q.begun < t ∧ deadline < t) → max q.begun deadline ≤ q.limit →
    q.outcome = (max q.begun deadline, .item (.failure (.timedOut p nextChunk)))
  /-- A reader who gives up before has got nothing. -/
  givesUp : (∀ t item, arrivesAt q.asked q.begun coming = some (t, item) → q.limit < t) →
    q.limit < deadline → q.outcome = (q.limit, .givenUp)
  /-- No poll waits beyond the deadline, and without giving up each comes to something. -/
  bounded : q.outcome.1 ≤ max q.begun deadline
    ∧ (max q.begun deadline ≤ q.limit → q.outcome.2 ≠ .givenUp)

/-- What all polls of a stream come to that was opened at `opened`. -/
structure Timely (p : Provider) (opened idle : Nat) (coming : List (Arrival Http.Fault))
    (polled : List (Polled ProviderError σ)) : Prop where
  /-- Until the last item each poll is on time. -/
  onTime : ∀ front q rest, polled = front ++ q :: rest → (∀ b ∈ front, b.last = false) →
    q.OnTime p idle (deadlineAfter idle (openingDeadline opened idle) front)
      (coming.drop (chunks front).length)
  /-- Nothing but the end is handed out after an error or the end. -/
  ended : ∀ front q rest, polled = front ++ q :: rest → q.last = true →
    ∀ b ∈ rest, b.outcome = (b.begun, .item .finished)
  /-- The chunks are those that come, unchanged and in order from the first. -/
  inOrder : (chunks polled).map (some ∘ Item.chunk) <+: coming.map Arrival.item
  /-- No chunk is lost while the clock can hold the time one idle time ahead. -/
  sound : ∀ q ∈ polled, q.outcome.1 + idle ≤ lastInstant → q.crashed = false

section OnTime

variable {coming : List (Arrival Http.Fault)} {q : Polled ProviderError σ}

/-- A poll is on time with the next item, if that is ready by the deadline and fits. -/
theorem Polled.onTime_of_ready {t : Nat} {item : Item Http.Fault}
    (ready : arrivesAt q.asked q.begun coming = some (t, item)) (early : t = q.begun ∨ t ≤ deadline)
    (waited : t ≤ q.limit) (fits : item.Fits t idle)
    (got : q.outcome = (t, .item (item.passedBy p))) : q.OnTime p idle deadline coming := by
  have after := le_of_arrivesAt ready
  refine ⟨fun t' item' ready' _ _ _ => ?_, fun t' item' ready' _ _ misfit => ?_, fun late _ => ?_,
    fun late _ => ?_, ?_⟩
  · cases ready.symm.trans ready'
    exact got
  · cases ready.symm.trans ready'
    exact absurd fits misfit
  · have beyond := late t item ready
    omega
  · have beyond := late t item ready
    omega
  · rw [got]
    exact ⟨by omega, nofun⟩

/-- A poll is on time with nothing where the next chunk does not fit. -/
theorem Polled.onTime_of_lost {t : Nat} {item : Item Http.Fault}
    (ready : arrivesAt q.asked q.begun coming = some (t, item)) (early : t = q.begun ∨ t ≤ deadline)
    (waited : t ≤ q.limit) (misfit : ¬item.Fits t idle) (got : q.outcome = (t, .crash)) :
    q.OnTime p idle deadline coming := by
  have after := le_of_arrivesAt ready
  refine ⟨fun t' item' ready' _ _ fits => ?_, fun t' item' ready' _ _ _ => ?_, fun late _ => ?_,
    fun late _ => ?_, ?_⟩
  · cases ready.symm.trans ready'
    exact absurd fits misfit
  · cases ready.symm.trans ready'
    exact got
  · have beyond := late t item ready
    omega
  · have beyond := late t item ready
    omega
  · rw [got]
    exact ⟨by omega, nofun⟩

/-- A poll is on time with silence at the deadline, if nothing is ready by then. -/
theorem Polled.onTime_of_silent
    (late : ∀ t item, arrivesAt q.asked q.begun coming = some (t, item) →
      q.begun < t ∧ deadline < t)
    (waited : max q.begun deadline ≤ q.limit)
    (got : q.outcome = (max q.begun deadline, .item (silence p))) :
    q.OnTime p idle deadline coming := by
  refine ⟨fun t item ready early _ _ => ?_, fun t item ready early _ _ => ?_, fun _ _ => got,
    fun _ early => ?_, ?_⟩
  · have beyond := late t item ready
    omega
  · have beyond := late t item ready
    omega
  · omega
  · rw [got]
    exact ⟨Nat.le_refl _, nofun⟩

/-- A poll is on time with nothing so far, if it gives up before both. -/
theorem Polled.onTime_of_waiting
    (late : ∀ t item, arrivesAt q.asked q.begun coming = some (t, item) → q.limit < t)
    (early : q.limit < deadline) (got : q.outcome = (q.limit, .givenUp)) :
    q.OnTime p idle deadline coming := by
  refine ⟨fun t item ready _ waited _ => ?_, fun t item ready _ waited _ => ?_, fun _ waited => ?_,
    fun _ _ => got, ?_⟩
  · have beyond := late t item ready
    omega
  · have beyond := late t item ready
    omega
  · omega
  · rw [got]
    exact ⟨by omega, by omega⟩

end OnTime

/-- A poll that takes one of its courses is on time. -/
theorem Elapses.onTime {coming : List (Arrival Http.Fault)}
    {q : Polled ProviderError (Watched (Arrivals Http.Fault))}
    (h : Elapses p idle deadline q.asked q.limit q.begun coming (q.outcome, q.after)) :
    q.OnTime p idle deadline coming := by
  obtain ⟨begun, limit, asked, outcome, after⟩ := q
  dsimp only at h
  cases h with
  | chunk ready early waited room => exact Polled.onTime_of_ready ready early waited (.inr room) rfl
  | lost ready early waited beyond =>
    refine Polled.onTime_of_lost ready early waited (fun fits => ?_) rfl
    exact Nat.not_lt_of_le (fits.resolve_left Bool.false_ne_true) beyond
  | last ready last early waited =>
    exact Polled.onTime_of_ready ready early waited (.inl last) rfl
  | silent late waited => exact Polled.onTime_of_silent late waited rfl
  | waiting late early => exact Polled.onTime_of_waiting late early rfl

/-- All sessions are timely. -/
theorem timely_session (p : Provider) (opened idle : Nat) (coming : List (Arrival Http.Fault))
    (polls : List Poll) (start : Nat) :
    Timely p opened idle coming
      (session (Watched.look Arrivals.look p) polls start none
        (.start opened idle { coming })) := by
  have course := fun front q rest split going =>
    elapses_of_append p polls start front rest q (s := .start opened idle { coming }) rfl
      (Arrivals.since_none coming) split going
  constructor
  · intro front q rest split going
    exact (course front q rest split going).onTime
  · intro front q rest split last b mem
    exact ((Watched.closes Arrivals.look p).ended_of_last split last b mem).1
  · exact chunks_session p polls start rfl (Arrivals.since_none coming)
  · intro q mem room
    rw [Bool.eq_false_iff]
    intro crashed
    obtain ⟨front, rest, split⟩ := List.append_of_mem mem
    have lost : q.outcome.2 ≠ .item .finished := by
      intro finished
      rw [Polled.crashed, finished] at crashed
      cases crashed
    have going := (Watched.closes Arrivals.look p).going_of_ne split lost
    have beyond := (course front q rest split going).beyond crashed
    exact Nat.not_lt_of_le room beyond

/-! ## Readers that keep up -/

/-- A poll meets no deadline where the next item comes by then. -/
theorem Elapses.ne_silence {coming : List (Arrival Http.Fault)}
    {came : Outcome ProviderError × Watched (Arrivals Http.Fault)}
    (h : Elapses p idle deadline asked limit now coming came)
    (prompt : ∀ a ∈ coming.head?, a.item ≠ none ∧ asked + a.delay ≤ deadline) :
    came.1.2 ≠ .item (silence p) := by
  cases h with
  | chunk => nofun
  | lost => nofun
  | @last t item =>
    intro same
    exact item.passedBy_ne_silence (Ending.item.inj same)
  | waiting => nofun
  | silent late =>
    -- silence means that nothing was ready by the deadline, but the next item was
    exfalso
    cases coming with
    | nil => exact absurd (late now .finished rfl).1 (Nat.lt_irrefl now)
    | cons a rest =>
      obtain ⟨comes, soon⟩ := prompt a rfl
      obtain ⟨item, present⟩ := Option.ne_none_iff_exists'.mp comes
      have ready : arrivesAt asked now (a :: rest) = some (max now (asked + a.delay), item) :=
        Option.map_eq_some_iff.mpr ⟨item, present, rfl⟩
      have beyond := late _ item ready
      omega

/-- Of a reader that polls again at once, the deadline is one idle time behind the moment at which
it has begun to ask for the next item. -/
theorem deadlineAfter_of_prompt {look : Nat → σ → Look ε × σ} {polls : List Poll}
    {since : Option Nat} {s : σ} {front rest : List (Polled ε σ)} {q : Polled ε σ}
    (prompt : ∀ poll ∈ polls, poll.pause = 0) (asks : deadline = since.getD now + idle)
    (split : session look polls now since s = front ++ q :: rest)
    (going : ∀ b ∈ front, b.last = false) :
    deadlineAfter idle deadline front = q.asked + idle := by
  induction front generalizing polls now since s deadline with
  | nil =>
    cases polls with
    | nil => cases split
    | cons poll polls =>
      cases split
      exact asks
  | cons b front ih =>
    cases polls with
    | nil => cases split
    | cons poll polls =>
      obtain ⟨first, sound, split'⟩ := uncons_session split
      have asked : b.asked = since.getD now := by rw [← first]; rfl
      have last := going b List.mem_cons_self
      rw [prompt poll List.mem_cons_self] at split'
      refine ih (fun poll mem => prompt poll (List.mem_cons_of_mem _ mem)) ?_ split'
        fun c mem => going c (List.mem_cons_of_mem _ mem)
      -- after a chunk the next item is asked for from then on, after nothing as before
      rw [Polled.nextDeadline, Polled.chunk, Polled.since]
      rw [Polled.last] at last
      rw [Polled.crashed] at sound
      rcases outcome : b.outcome.2 with ⟨bytes | e | _⟩ | _ | _ <;> rw [outcome] at last sound
      · rfl
      · cases last
      · cases last
      · show deadline = b.asked + idle
        rw [asks, asked]
      · cases sound

theorem openingDeadline_of_le {opened idle : Nat} (room : opened + idle ≤ lastInstant) :
    openingDeadline opened idle = opened + idle :=
  if_pos room

/-- A reader that polls again at once, from the beginning, never finds that the stream was silent
for too long where the next item comes within the idle time. -/
theorem ne_silence_of_prompt {opened idle : Nat} {coming : List (Arrival Http.Fault)}
    {polls : List Poll} (room : opened + idle ≤ lastInstant)
    (prompt : ∀ poll ∈ polls, poll.pause = 0)
    {front rest : List (Polled ProviderError (Watched (Arrivals Http.Fault)))}
    {q : Polled ProviderError (Watched (Arrivals Http.Fault))}
    (split : session (Watched.look Arrivals.look p) polls opened none
      (.start opened idle { coming }) = front ++ q :: rest)
    (soon : ∀ a ∈ (coming.drop (chunks front).length).head?, a.item ≠ none ∧ a.delay ≤ idle) :
    q.outcome.2 ≠ .item (silence p) := by
  intro silent
  -- behind the last item there is the end and no silence
  have going := (Watched.closes Arrivals.look p).going_of_ne split (by rw [silent]; nofun)
  have course := elapses_of_append p polls opened front rest q rfl (Arrivals.since_none coming)
    split going
  have asks : deadlineAfter idle (openingDeadline opened idle) front = q.asked + idle := by
    rw [openingDeadline_of_le room]
    exact deadlineAfter_of_prompt prompt rfl split going
  refine course.ne_silence (fun a mem => ⟨(soon a mem).1, ?_⟩) silent
  show _ ≤ deadlineAfter idle (openingDeadline opened idle) front
  rw [asks]
  exact Nat.add_le_add_left (soon a mem).2 q.asked

/-! ## Scripts -/

/-- A watched stream over another one within. -/
def Watched.map (f : σ → τ) (s : Watched σ) : Watched τ where
  source := f s.source
  idle := s.idle
  deadline := s.deadline
  done := s.done

/-- Where the stream within is another one seen otherwise, so is the watched one: what counts beside
the look within are the deadline, the idle time and whether the stream is done, and these are the
same. -/
theorem Watched.look_map {inner' : Nat → τ → Look Http.Fault × τ} {f : σ → τ}
    (same : ∀ now s, inner' now (f s) = ((inner now s).1, f (inner now s).2)) (now : Nat)
    (s : Watched σ) :
    (s.map f).look inner' p now
      = ((s.look inner p now).1, (s.look inner p now).2.map f) := by
  have came : inner' now (s.map f).source = ((inner now s.source).1, f (inner now s.source).2) :=
    same now s.source
  cases live : s.done with
  | true =>
    have live' : (s.map f).done = true := live
    rw [look_of_done live, look_of_done live']
  | false =>
    have live' : (s.map f).done = false := live
    -- both look within alike, and decide by the same idle time and deadline
    rcases looked : inner now s.source with ⟨item | wake | _, source⟩ <;> rw [looked] at came
    · by_cases fits : item.Fits now s.idle
      · rw [look_of_ready live looked fits, look_of_ready live' came fits]
        rfl
      · rw [look_of_misfit live looked fits, look_of_misfit live' came fits]
        rfl
    · by_cases late : s.deadline ≤ now
      · rw [look_of_late live looked late, look_of_late live' came late]
        rfl
      · have early : now < s.deadline := Nat.lt_of_not_le late
        rw [look_of_early live looked early, look_of_early live' came early]
        rfl
    · rw [look_of_crash live looked, look_of_crash live' came]
      rfl

/-- Being timely is about times and what is handed out, not about the streams that are left behind.
-/
theorem Timely.of_map {f : σ → τ} {opened idle : Nat} {coming : List (Arrival Http.Fault)}
    {polled : List (Polled ProviderError σ)}
    (h : Timely p opened idle coming (polled.map (Polled.map f))) :
    Timely p opened idle coming polled := by
  have sameChunks : ∀ qs : List (Polled ProviderError σ),
      chunks (qs.map (Polled.map f)) = chunks qs :=
    fun qs => List.flatMap_map ..
  have sameDeadline : ∀ qs : List (Polled ProviderError σ),
      deadlineAfter idle (openingDeadline opened idle) (qs.map (Polled.map f))
        = deadlineAfter idle (openingDeadline opened idle) qs :=
    fun qs => List.foldl_map ..
  refine ⟨fun front q rest split going => ?_, fun front q rest split last b mem => ?_, ?_,
    fun q mem => ?_⟩
  · have onTime := h.onTime _ _ _ (Polled.map_eq_append f split) (List.forall_mem_map.mpr going)
    rw [sameChunks, sameDeadline] at onTime
    exact ⟨onTime.handsOut, onTime.loses, onTime.fails, onTime.givesUp, onTime.bounded⟩
  · exact h.ended _ _ _ (Polled.map_eq_append f split) last (b.map f) (List.mem_map_of_mem mem)
  · rw [← sameChunks]
    exact h.inOrder
  · exact h.sound (q.map f) (List.mem_map_of_mem mem)

/--
How long a watched stream is borne, whatever comes, however long the reader waits and pauses, and
whenever it begins. A poll gets the next item if it is ready at once, even behind the deadline, or
by the deadline; otherwise it gets an error at the deadline, or at once if that has passed. The
deadline is one idle time behind the opening and is set anew by each chunk that is handed out. The
chunks are those that come, in order; after an error or the end there is the end and nothing else,
and the stream within stays as it was. A reader that polls again at once meets no deadline as long
as the next item comes within the idle time. All this is so while the clock can hold the time one
idle time ahead: a deadline that it cannot hold is put off when the stream opens, and later on the
poll that has got the chunk fails, and the chunk is lost. Bodies of answers, which follow a script,
are such streams.
-/
theorem watched_timely (p : Provider) (opened idle start : Nat) (polls : List Poll) :
    (∀ coming, Timely p opened idle coming
      (session (Watched.look Arrivals.look p) polls start none (.start opened idle { coming })))
    ∧ (opened + idle ≤ lastInstant →
        ∀ coming, (∀ poll ∈ polls, poll.pause = 0) → ∀ front q rest,
        session (Watched.look Arrivals.look p) polls opened none (.start opened idle { coming })
          = front ++ q :: rest →
        (∀ a ∈ (coming.drop (chunks front).length).head?, a.item ≠ none ∧ a.delay ≤ idle) →
        q.outcome.2 ≠ .item (.failure (.timedOut p nextChunk)))
    ∧ (∀ (σ : Type) (inner : Nat → σ → Look Http.Fault × σ) (s : σ)
        (front : List (Polled ProviderError (Watched σ))) (q : Polled ProviderError (Watched σ))
        (rest : List (Polled ProviderError (Watched σ))),
        session (Watched.look inner p) polls start none (.start opened idle s)
          = front ++ q :: rest → q.last = true →
        ∀ b ∈ rest, b.outcome = (b.begun, .item .finished) ∧ b.after = q.after)
    ∧ (∀ script, Timely p opened idle (script.map Event.arrival)
        (session (Idle.look p) polls start none (.start opened idle { script })))
    ∧ ∀ script patience pauses,
        (session (Idle.look p) (pauses.map fun pause => { patience, pause }) start none
          (.start opened idle { script })).map Polled.outcome
        = turns (Idle.look p) patience pauses start (.start opened idle { script }) := by
  refine ⟨fun coming => timely_session p opened idle coming polls start,
    fun room coming prompt front q rest split soon => ne_silence_of_prompt room prompt split soon,
    fun _ inner _ _ _ _ split last => (Watched.closes inner p).ended_of_last split last,
    fun script => ?_, fun script patience pauses => outcomes_session _ patience pauses start none _⟩
  have seen : ∀ now (s : Idle), Watched.look Arrivals.look p now (s.map Source.arrivals)
      = ((Idle.look p now s).1, (Idle.look p now s).2.map Source.arrivals) :=
    Watched.look_map fun now s => s.look_arrivals now
  refine Timely.of_map (f := Watched.map Source.arrivals) ?_
  rw [← session_map seen]
  exact timely_session p opened idle (script.map Event.arrival) polls start

/-- An idle time that can be configured and with which the first chunk of every answer is lost: it
is ready for the first poll at once, and that poll fails. -/
theorem chunk_lost_to_long_idle_time :
    Config.numberBelow? Config.secondsLimit "18446744073709551615" = some 18446744073709551615
    ∧ arrivesAt 0 0 [({ item := some (.chunk [1]) } : Arrival Http.Fault)] = some (0, .chunk [1])
    ∧ turns (Idle.look .jan) 10 [0, 0] 0
        (.start 0 18446744073709551615000 { script := [{ occurrence := .chunk [1] }] })
      = [(0, .crash)] := by
  refine ⟨by decide, rfl, by cbv⟩

/-- Where the deadline has passed, a chunk that is there is handed out, and one to wait for is not.
-/
example : turns (Idle.look .jan) 10 [8, 8, 0, 0] 0
    (.start 0 5
      { script :=
          [{ occurrence := .chunk [1] }, { occurrence := .chunk [2] },
            { delay := 1, occurrence := .chunk [3] }] })
    = [(0, .item (.chunk [1])), (8, .item (.chunk [2])),
      (16, .item (.failure (.timedOut .jan nextChunk))), (16, .item .finished)] := by
  cbv

end InferenceGateway.Stream
