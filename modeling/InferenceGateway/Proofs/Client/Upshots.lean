import Mathlib
import InferenceGateway.Client.Remote

/-!
# What comes of a request to a provider

A client sends one request for a completion, and what comes of it is one of four things: no
connection, nothing in time, a refusal, or a success, which may turn out to be unreadable. The first
reason in this order decides how the call fails; the rest of the reply has no part in it.

* `Receives`: what becomes of a body for one who waits for all of it.
* `Upshot`, `Comes`: what comes of a request, from what the network does.
* `Yields`: how a call ends with each upshot.
* `Attempts`: a call that sends one request, and ends with what comes of it.
* `Remote.attempts_chat`, `Remote.attempts_stream`: the calls of all clients.
-/

namespace InferenceGateway.Client

open Http (Fault Outcome Peer Reply Traffic)

/-! ## Bodies -/

/-- The events of a body whose pieces arrive after some delays. -/
def pieces (arrivals : List (Nat × List UInt8)) : List (Stream.Event Fault) :=
  arrivals.map fun a => { delay := a.1, occurrence := .chunk a.2 }

/-- How long it takes until all pieces are there. -/
def duration (arrivals : List (Nat × List UInt8)) : Nat :=
  (arrivals.map Prod.fst).sum

/-- The bytes of all pieces. -/
def content (arrivals : List (Nat × List UInt8)) : List UInt8 :=
  (arrivals.map Prod.snd).flatten

theorem duration_cons (a : Nat × List UInt8) (arrivals : List (Nat × List UInt8)) :
    duration (a :: arrivals) = a.1 + duration arrivals := List.sum_cons

theorem content_cons (a : Nat × List UInt8) (arrivals : List (Nat × List UInt8)) :
    content (a :: arrivals) = a.2 ++ content arrivals := List.flatten_cons

/-- What becomes of a body. -/
inductive Receipt where
  | whole (bytes : List UInt8)
  | broken
  | late

/-- What becomes of a body for one who waits for all of it, at most so long. -/
inductive Receives (room : Nat) : List (Stream.Event Fault) → Receipt → Prop where
  | whole (arrivals : List (Nat × List UInt8)) (inTime : duration arrivals ≤ room) :
    Receives room (pieces arrivals) (.whole (content arrivals))
  | broken (arrivals : List (Nat × List UInt8)) (delay : Nat) (rest : List (Stream.Event Fault))
    (inTime : duration arrivals + delay ≤ room) :
    Receives room (pieces arrivals ++ ⟨delay, .failure .brokenBody⟩ :: rest) .broken
  | late (arrivals : List (Nat × List UInt8)) (e : Stream.Event Fault)
    (rest : List (Stream.Event Fault))
    (overdue : room < duration arrivals + e.delay ∨ e.occurrence = .never) :
    Receives room (pieces arrivals ++ e :: rest) .late

/-- More bytes in front of a body. -/
def Receipt.behind (bytes : List UInt8) : Receipt → Receipt
  | whole rest => .whole (bytes ++ rest)
  | broken => .broken
  | late => .late

/-- A piece that arrives in time comes in front of what becomes of the rest. -/
theorem Receives.chunk {room delay : Nat} {bytes : List UInt8} {body : List (Stream.Event Fault)}
    {receipt : Receipt} (inTime : delay ≤ room) (h : Receives (room - delay) body receipt) :
    Receives room (⟨delay, .chunk bytes⟩ :: body) (receipt.behind bytes) := by
  cases h with
  | whole arrivals rest =>
    exact .whole ((delay, bytes) :: arrivals) (by rw [duration_cons]; omega)
  | broken arrivals pause rest within =>
    exact .broken ((delay, bytes) :: arrivals) pause rest (by rw [duration_cons]; omega)
  | late arrivals e rest overdue =>
    refine .late ((delay, bytes) :: arrivals) e rest (overdue.imp_left fun past => ?_)
    rw [duration_cons]
    omega

/-- A body that fails does so by breaking off. -/
def BreaksOff (body : List (Stream.Event Fault)) : Prop :=
  ∀ e ∈ body, ∀ fault, e.occurrence = .failure fault → fault = .brokenBody

/-- Something becomes of every body. -/
theorem exists_receives {room : Nat} {body : List (Stream.Event Fault)} (sound : BreaksOff body) :
    ∃ receipt, Receives room body receipt := by
  -- The room that is left shrinks with each piece that arrives in time.
  induction body generalizing room with
  | nil => exact ⟨_, .whole [] (Nat.zero_le _)⟩
  | cons e rest ih =>
    obtain ⟨soundFirst, soundRest⟩ := List.forall_mem_cons.mp sound
    obtain ⟨delay, occurrence⟩ := e
    by_cases overdue : room < delay
    · exact ⟨_, .late [] _ rest (.inl (by simpa [duration] using overdue))⟩
    · cases occurrence with
      | never => exact ⟨_, .late [] _ rest (.inr rfl)⟩
      | failure fault =>
        obtain rfl := soundFirst fault rfl
        exact ⟨_, .broken [] delay rest (by simpa [duration] using overdue)⟩
      | chunk bytes =>
        obtain ⟨receipt, receives⟩ := @ih (room - delay) soundRest
        exact ⟨_, receives.chunk (Nat.le_of_not_lt overdue)⟩

/-- What waiting for a body gives. -/
def Receipt.result : Receipt → Except Fault (List UInt8)
  | whole bytes => .ok bytes
  | broken => .error .brokenBody
  | late => .error .timedOut

/-- A piece that arrives in time is put in front of the others. -/
theorem wholeBody_chunk {limit now delay : Nat} (inTime : now + delay ≤ limit)
    (bytes : List UInt8) (rest : List (Stream.Event Fault)) :
    (Http.wholeBody limit now (⟨delay, .chunk bytes⟩ :: rest)).1
      = (Http.wholeBody limit (now + delay) rest).1.map (bytes ++ ·) := by
  rw [Http.wholeBody, if_neg (Nat.not_lt.mpr inTime)]

/-- Pieces that arrive in time are waited for. -/
theorem wholeBody_pieces {limit now : Nat} {arrivals : List (Nat × List UInt8)}
    (inTime : now + duration arrivals ≤ limit) (rest : List (Stream.Event Fault)) :
    (Http.wholeBody limit now (pieces arrivals ++ rest)).1
      = (Http.wholeBody limit (now + duration arrivals) rest).1.map (content arrivals ++ ·) := by
  -- What all pieces take together bounds what the first one takes.
  induction arrivals generalizing now with
  | nil =>
    show (Http.wholeBody limit now rest).1
      = (Http.wholeBody limit now rest).1.map fun bytes => bytes
    cases (Http.wholeBody limit now rest).1 <;> rfl
  | cons a arrivals ih =>
    have longer := duration_cons a arrivals
    have later : now + a.1 + duration arrivals = now + duration (a :: arrivals) := by omega
    have soon : now + a.1 ≤ limit := by omega
    have first := wholeBody_chunk soon a.2 (pieces arrivals ++ rest)
    rw [ih (by omega), later] at first
    refine first.trans ?_
    cases (Http.wholeBody limit (now + duration (a :: arrivals)) rest).1 with
    | error fault => rfl
    | ok bytes => simp [Except.map, content_cons]

/-- Waiting for a body ends when the time for it is over. -/
theorem wholeBody_of_late {limit now : Nat} {arrivals : List (Nat × List UInt8)}
    {e : Stream.Event Fault} (rest : List (Stream.Event Fault))
    (overdue : limit < now + duration arrivals + e.delay ∨ e.occurrence = .never) :
    (Http.wholeBody limit now (pieces arrivals ++ e :: rest)).1 = .error .timedOut := by
  -- A piece may be too late itself; else the one that is lies behind it.
  induction arrivals generalizing now with
  | nil =>
    have overdue : limit < now + e.delay ∨ e.occurrence = .never := overdue
    show (Http.wholeBody limit now (e :: rest)).1 = .error .timedOut
    rw [Http.wholeBody]
    split
    · rfl
    · next soon =>
      rw [overdue.resolve_left soon]
  | cons a arrivals ih =>
    have longer := duration_cons a arrivals
    by_cases soon : now + a.1 ≤ limit
    · have first := wholeBody_chunk soon a.2 (pieces arrivals ++ e :: rest)
      rw [ih (overdue.imp_left fun past => by omega)] at first
      exact first
    · show (Http.wholeBody limit now (⟨a.1, .chunk a.2⟩ :: (pieces arrivals ++ e :: rest))).1 = _
      rw [Http.wholeBody, if_pos (Nat.lt_of_not_le soon)]

/-- Who waits for a body gets what becomes of it. -/
theorem Receives.wholeBody_eq {limit now : Nat} {body : List (Stream.Event Fault)}
    {receipt : Receipt} (h : Receives (limit - now) body receipt) (begun : now ≤ limit) :
    (Http.wholeBody limit now body).1 = receipt.result := by
  cases h with
  | whole arrivals inTime =>
    have within : now + duration arrivals ≤ limit := by omega
    have all := wholeBody_pieces within []
    rw [List.append_nil, Http.wholeBody] at all
    rw [all]
    simp [Except.map, Receipt.result]
  | broken arrivals delay rest inTime =>
    have within : now + duration arrivals ≤ limit := by omega
    have soon : ¬limit < now + duration arrivals + delay := by omega
    rw [wholeBody_pieces within, Http.wholeBody, if_neg soon]
    rfl
  | late arrivals e rest overdue =>
    exact wholeBody_of_late rest (overdue.imp_left fun past => by omega)

/-! ## Upshots -/

/-- What comes of a request: its success has a value, unless it cannot be read. -/
inductive Upshot (α : Type) where
  | unconnected
  | late
  | refused (status : Nat)
  | success (value : Option α)

/-- What the body of a success is worth to one who waits for all of it. -/
def Receipt.upshot {α : Type} (read : List UInt8 → Option α) : Receipt → Upshot α
  | whole bytes => .success (read bytes)
  | broken => .success none
  | late => .late

variable {α : Type}

/--
What comes of a request to one who waits for `limit`. `worth` says what a success comes to, from
when it began and its body.
-/
inductive Comes (limit : Nat) (worth : Nat → List (Stream.Event Fault) → Upshot α → Prop) :
    Outcome → Upshot α → Prop where
  | unconnected {after : Nat} (inTime : after ≤ limit) :
    Comes limit worth (.refused after) .unconnected
  | connecting {after : Nat} (overdue : limit < after) : Comes limit worth (.refused after) .late
  | silent : Comes limit worth .silent .late
  | unanswered {after : Nat} (overdue : limit < after) (reply : Reply) :
    Comes limit worth (.replied after reply) .late
  | refused {after status : Nat} (inTime : after ≤ limit) (refusal : Http.isSuccess status = false)
    (body : List (Stream.Event Fault)) :
    Comes limit worth (.replied after ⟨status, body⟩) (.refused status)
  | success {after status : Nat} (inTime : after ≤ limit) (success : Http.isSuccess status = true)
    {body : List (Stream.Event Fault)} {u : Upshot α} (value : worth after body u) :
    Comes limit worth (.replied after ⟨status, body⟩) u

/-- The worth of a success to one who waits for all of its body. -/
def WholeWorth (limit : Nat) (read : List UInt8 → Option α) (after : Nat)
    (body : List (Stream.Event Fault)) (u : Upshot α) : Prop :=
  ∃ receipt, Receives (limit - after) body receipt ∧ u = receipt.upshot read

/-- The worth of a success to one who takes the body as it comes. -/
def OpenWorth (idle : Nat) (after : Nat) (body : List (Stream.Event Fault))
    (u : Upshot Stream.Idle) : Prop :=
  u = .success (some (.start after idle { script := body }))

/-- An outcome whose reply, if there is one, does nothing but arrive, stall or break off. -/
def Sound : Outcome → Prop
  | .replied _ reply => BreaksOff reply.body
  | _ => True

/-- Something comes of a request if its reply, should there be one, is worth something. -/
theorem exists_comes_of_worth {limit : Nat}
    {worth : Nat → List (Stream.Event Fault) → Upshot α → Prop} {o : Outcome}
    (worthy : ∀ after reply, o = .replied after reply → after ≤ limit →
      ∃ u, worth after reply.body u) :
    ∃ u, Comes limit worth o u := by
  cases o with
  | refused after =>
    by_cases inTime : after ≤ limit
    · exact ⟨_, .unconnected inTime⟩
    · exact ⟨_, .connecting (Nat.lt_of_not_le inTime)⟩
  | silent => exact ⟨_, .silent⟩
  | replied after reply =>
    obtain ⟨status, body⟩ := reply
    by_cases inTime : after ≤ limit
    · cases success : Http.isSuccess status with
      | false => exact ⟨_, .refused inTime success body⟩
      | true =>
        obtain ⟨u, value⟩ := worthy after _ rfl inTime
        exact ⟨u, .success inTime success value⟩
    · exact ⟨_, .unanswered (Nat.lt_of_not_le inTime) _⟩

/-- Something comes of every request. -/
theorem exists_comes {limit : Nat} {worth : Nat → List (Stream.Event Fault) → Upshot α → Prop}
    (worthy : ∀ after body, BreaksOff body → ∃ u, worth after body u) {o : Outcome}
    (sound : Sound o) : ∃ u, Comes limit worth o u := by
  refine exists_comes_of_worth fun after reply replied _ => ?_
  subst replied
  exact worthy after reply.body sound

/-- A body that is waited for is worth something, unless it fails in an unknown way. -/
theorem exists_wholeWorth (limit : Nat) (read : List UInt8 → Option α) (after : Nat)
    (body : List (Stream.Event Fault)) (sound : BreaksOff body) :
    ∃ u, WholeWorth limit read after body u := by
  obtain ⟨receipt, receives⟩ := exists_receives sound
  exact ⟨_, receipt, receives, rfl⟩

theorem exists_openWorth (idle after : Nat) (body : List (Stream.Event Fault)) :
    ∃ u, OpenWorth idle after body u :=
  ⟨_, rfl⟩

/-! ## Calls -/

/-- How a call ends with what comes of its request. -/
inductive Yields (p : Provider) : Upshot α → Except ProviderError α → Prop where
  | unconnected (message : String) : Yields p .unconnected (.error (.unreachable p message))
  | late (during : String) : Yields p .late (.error (.timedOut p during))
  | refused (status : Nat) (snippet : String) :
    Yields p (.refused status) (.error (.refused p status snippet))
  | unreadable (message : String) : Yields p (.success none) (.error (.unreadable p message))
  | success (a : α) : Yields p (.success (some a)) (.ok a)

/-- A call that sends one request, and ends with what comes of it. -/
structure Attempts (p : Provider) (peer : Peer) (request : Http.Request) (limit : Nat)
    (worth : Nat → List (Stream.Event Fault) → Upshot α → Prop)
    (attempt : Http.Sending (Except ProviderError α)) : Prop where
  sends : ∀ t, (attempt t).2.sent = t.sent ++ [request]
  yields : ∀ t u, Comes limit worth (peer t.sent request) u → Yields p u (attempt t).1

/-- What a call makes of what the network does with its request, and when it is done. -/
def concluded (p : Provider) (limit : Nat) (during : String)
    (read : Nat → Reply → Except ProviderError α × Nat) (o : Outcome) :
    Except ProviderError α × Nat :=
  match o.head limit with
  | (.error fault, time) => (.error (.ofFault p during fault), time)
  | (.ok reply, began) => read began reply

section

variable {p : Provider} {peer : Peer} {request : Http.Request} {limit : Nat} {during : String}
  {worth : Nat → List (Stream.Event Fault) → Upshot α → Prop}
  {read : Nat → Reply → Except ProviderError α × Nat}

/-- An exchange sends its request, and takes as long as its conclusion. -/
theorem exchange_eq (address : Http.isAddress request.address = true) (t : Traffic) :
    exchange peer p limit during request read t
      = ((concluded p limit during read (peer t.sent request)).1,
        { sent := t.sent ++ [request]
          elapsed := t.elapsed + (concluded p limit during read (peer t.sent request)).2 }) := by
  unfold exchange Http.send concluded
  rw [if_pos address]
  rcases Outcome.head limit (peer t.sent request) with ⟨_ | _, _⟩ <;> rfl

/-- Nothing is sent to what is no address. -/
theorem exchange_of_no_address (nowhere : Http.isAddress request.address = false) (t : Traffic) :
    exchange peer p limit during request read t = (.error (.ofFault p during .badAddress), t) := by
  unfold exchange Http.send
  rw [if_neg (ne_true_of_eq_false nowhere)]
  rfl

/-- What a call gives may be changed when a reply is read. -/
theorem exchange_map {β : Type} (f : α → β) (t : Traffic) :
    ((exchange peer p limit during request read t).1.map f,
        (exchange peer p limit during request read t).2)
      = exchange peer p limit during request
        (fun began reply => ((read began reply).1.map f, (read began reply).2)) t := by
  unfold exchange
  rcases Http.send peer limit request t with ⟨⟨_ | _, _⟩, _⟩ <;> rfl

/-- A call attempts what it says if it takes every reply for what comes of it. -/
theorem attempts_exchange (address : Http.isAddress request.address = true)
    (readRefusal : ∀ after status body, Http.isSuccess status = false →
      Yields p (.refused status) (read after ⟨status, body⟩).1)
    (readSuccess : ∀ after status body u, after ≤ limit → Http.isSuccess status = true →
      worth after body u → Yields p u (read after ⟨status, body⟩).1) :
    Attempts p peer request limit worth (exchange peer p limit during request read) where
  sends t := by rw [exchange_eq address]
  yields t u comes := by
    rw [exchange_eq address]
    show Yields p u (concluded p limit during read (peer t.sent request)).1
    generalize peer t.sent request = o at comes
    unfold concluded
    -- Only a reply that begins in time is read at all.
    cases comes with
    | unconnected inTime =>
      rw [Outcome.head, if_pos inTime]
      exact .unconnected _
    | connecting overdue =>
      rw [Outcome.head, if_neg (Nat.not_le.mpr overdue)]
      exact .late _
    | silent => exact .late _
    | unanswered overdue reply =>
      rw [Outcome.head, if_neg (Nat.not_le.mpr overdue)]
      exact .late _
    | refused inTime refusal body =>
      rw [Outcome.head, if_pos inTime]
      exact readRefusal _ _ body refusal
    | success inTime success value =>
      rw [Outcome.head, if_pos inTime]
      exact readSuccess _ _ _ u inTime success value

/-! ## Reading replies -/

/-- An answer that refuses is an error, with its status and some snippet. -/
theorem success_of_refusal (p : Provider) (limit : Nat) (deadline : Option Nat) (after : Nat)
    {status : Nat} (body : List (Stream.Event Fault)) (refusal : Http.isSuccess status = false) :
    ∃ snippet, (Client.success p limit deadline after ⟨status, body⟩).1
      = .error (.refused p status snippet) := by
  unfold Client.success
  rw [if_neg (by simp [refusal])]
  exact ⟨_, rfl⟩

/-- An answer that does not is handed on at once. -/
theorem success_of_success (p : Provider) (limit : Nat) (deadline : Option Nat) (after : Nat)
    {status : Nat} (body : List (Stream.Event Fault)) (success : Http.isSuccess status = true) :
    Client.success p limit deadline after ⟨status, body⟩ = (.ok ⟨status, body⟩, after) := by
  unfold Client.success
  rw [if_pos success]

/-- A refusal is one whatever happens to its body. -/
theorem readWhole_of_refusal (p : Provider) (limit : Nat) (during : String) (after : Nat)
    {status : Nat} (body : List (Stream.Event Fault)) (refusal : Http.isSuccess status = false) :
    ∃ snippet, (readWhole p limit during after ⟨status, body⟩).1
      = .error (.refused p status snippet) := by
  obtain ⟨snippet, refused⟩ := success_of_refusal p limit (some limit) after body refusal
  refine ⟨snippet, ?_⟩
  unfold readWhole
  generalize Client.success p limit (some limit) after ⟨status, body⟩ = result at refused
  obtain ⟨_, time⟩ := result
  cases refused
  rfl

/-- The body of a success is waited for, and what becomes of it is the result. -/
theorem readWhole_of_success (p : Provider) {limit : Nat} (during : String) {after : Nat}
    {status : Nat} {body : List (Stream.Event Fault)} {receipt : Receipt}
    (success : Http.isSuccess status = true) (inTime : after ≤ limit)
    (receives : Receives (limit - after) body receipt) :
    (readWhole p limit during after ⟨status, body⟩).1
      = receipt.result.mapError (.ofFault p during) := by
  unfold readWhole
  rw [success_of_success p limit (some limit) after body success]
  dsimp only
  rw [receives.wholeBody_eq inTime]

/-- What is read from a whole body, or why nothing is. -/
theorem yields_receipt (during : String) {decode : List UInt8 → Except ProviderError α}
    (unreadable : ∀ bytes e, decode bytes = .error e → ∃ message, e = .unreadable p message)
    (receipt : Receipt) :
    Yields p (receipt.upshot fun bytes => (decode bytes).toOption)
      ((receipt.result.mapError (.ofFault p during)).bind decode) := by
  cases receipt with
  | whole bytes =>
    show Yields p (.success (decode bytes).toOption) (decode bytes)
    cases decoded : decode bytes with
    | error e =>
      obtain ⟨message, rfl⟩ := unreadable bytes e decoded
      exact .unreadable message
    | ok a => exact .success a
  | broken => exact .unreadable _
  | late => exact .late _

/-- A call that waits for a whole body attempts what it says. -/
theorem attempts_whole (address : Http.isAddress request.address = true) (whole : String)
    {decode : List UInt8 → Except ProviderError α}
    (unreadable : ∀ bytes e, decode bytes = .error e → ∃ message, e = .unreadable p message) :
    Attempts p peer request limit (WholeWorth limit fun bytes => (decode bytes).toOption)
      (exchange peer p limit during request fun began reply =>
        let (bytes, time) := readWhole p limit whole began reply
        (bytes.bind decode, time)) := by
  refine attempts_exchange address (fun after status body refusal => ?_)
    fun after status body u inTime success value => ?_
  · obtain ⟨snippet, refused⟩ := readWhole_of_refusal p limit whole after body refusal
    show Yields p _ ((readWhole p limit whole after ⟨status, body⟩).1.bind decode)
    rw [refused]
    exact .refused status snippet
  · obtain ⟨receipt, receives, rfl⟩ := value
    show Yields p _ ((readWhole p limit whole after ⟨status, body⟩).1.bind decode)
    rw [readWhole_of_success p whole success inTime receives]
    exact yields_receipt whole unreadable receipt

end

/-- A request can be made if there is no key, or one that a header can carry. -/
theorem OpenAi.exists_chatRequest (c : OpenAi) (delivery : Delivery) {key : String}
    (sendable : key = "" ∨ Http.isHeaderValue key = true) (r : ChatRequest) :
    ∃ q, c.chatRequest delivery key r = .ok q ∧ q.address = baseOf c.baseUrl ++ c.chatPath := by
  unfold chatRequest keyHeader
  by_cases empty : key = ""
  · subst empty
    exact ⟨_, rfl, rfl⟩
  · have carried : (some key).filter (fun k => !k.isEmpty) = some key := by simp [empty]
    rw [carried]
    dsimp only
    rw [if_pos (sendable.resolve_left empty)]
    exact ⟨_, rfl, rfl⟩

/-! ## All clients -/

namespace Remote

/-- How long exchanges of a client may take. -/
def limits : Remote → Limits
  | openAi c => c.limits
  | gemini c => c.limits

/-- The request for a completion. -/
def request (c : Remote) (delivery : Delivery) (key : String) (r : ChatRequest) :
    Except ProviderError Http.Request :=
  match c with
  | openAi c => c.chatRequest delivery key r
  | gemini c => .ok (c.chatRequest key r)

/-- Whether a request can carry a key. The key of Gemini is part of the query, as any text can. -/
def Carries (c : Remote) (key : String) : Prop :=
  match c with
  | openAi _ => key = "" ∨ Http.isHeaderValue key = true
  | gemini _ => True

/-- Where completions of a model are asked for. -/
def address (c : Remote) (model : String) : String :=
  match c with
  | openAi c => baseOf c.baseUrl ++ c.chatPath
  | gemini c => baseOf c.baseUrl ++ "/models/"
    ++ Text.withoutStart InferenceGateway.Gemini.resourceName model ++ ":generateContent"

/-- A request can be made for every key that it can carry, and goes to the address of its model. -/
theorem exists_request {c : Remote} {key : String} (carries : c.Carries key) (delivery : Delivery)
    (r : ChatRequest) :
    ∃ q, c.request delivery key r = .ok q ∧ q.address = c.address r.model := by
  cases c with
  | openAi c => exact c.exists_chatRequest delivery carries r
  | gemini c => exact ⟨_, rfl, rfl⟩

/-- The completion that the body of a success holds, if it can be read. -/
def completion? (c : Remote) (stamp : Stamp) (model : String) (bytes : List UInt8) :
    Option ChatResponse :=
  match c with
  | openAi _ => (ChatResponse.parse bytes).toOption
  | gemini _ => (InferenceGateway.Gemini.Reply.parse bytes).toOption.map (stamped stamp model)

theorem toOption_mapError {ε ε' β : Type} (f : ε → ε') (x : Except ε β) :
    (x.mapError f).toOption = x.toOption := by
  cases x <;> rfl

/-- An error that was translated has a cause. -/
theorem of_mapError_eq_error {ε ε' β : Type} {f : ε → ε'} {x : Except ε β} {e : ε'}
    (h : x.mapError f = .error e) : ∃ cause, f cause = e := by
  cases x with
  | error cause => exact ⟨cause, Except.error.inj h⟩
  | ok b => cases h

variable {c : Remote} {key : String} {r : ChatRequest} {q : Http.Request}

theorem chat_gemini (c : Gemini) (peer : Peer) (stamp : Stamp) (key : String) (r : ChatRequest)
    (t : Traffic) : (gemini c).chat peer stamp key r t
      = ((c.chat peer key r t).1.map (stamped stamp r.model), (c.chat peer key r t).2) := by
  simp only [chat]

/-- Asking for a buffered completion sends one request, and its whole body is waited for. -/
theorem attempts_chat (peer : Peer) (stamp : Stamp) (made : c.request .buffered key r = .ok q)
    (address : Http.isAddress q.address = true) :
    Attempts c.provider peer q c.limits.request
      (WholeWorth c.limits.request (c.completion? stamp r.model)) (c.chat peer stamp key r) := by
  cases c with
  | openAi c =>
    have made : c.chatRequest .buffered key r = .ok q := made
    have worth : completion? (openAi c) stamp r.model
        = fun bytes => (OpenAi.readCompletion c.provider bytes).toOption :=
      funext fun bytes => (toOption_mapError _ _).symm
    show Attempts c.provider peer q c.limits.request _ (c.chat peer key r)
    unfold OpenAi.chat OpenAi.sending
    rw [made, worth]
    refine attempts_whole address _ fun bytes e failed => ?_
    obtain ⟨cause, rfl⟩ := of_mapError_eq_error failed
    exact ⟨_, rfl⟩
  | gemini c =>
    obtain rfl : c.chatRequest key r = q := Except.ok.inj made
    let decode (bytes : List UInt8) : Except ProviderError ChatResponse :=
      (Gemini.readReply bytes).map (stamped stamp r.model)
    have worth : completion? (gemini c) stamp r.model = fun bytes => (decode bytes).toOption := by
      funext bytes
      simp only [completion?, decode, Gemini.readReply]
      cases InferenceGateway.Gemini.Reply.parse bytes <;> rfl
    have call : (gemini c).chat peer stamp key r
        = exchange peer .gemini c.limits.request "completion response" (c.chatRequest key r)
          fun began reply =>
            let (bytes, time) := readWhole .gemini c.limits.request "completion body" began reply
            (bytes.bind decode, time) := by
      -- The stamp can be put on as part of the reading of the body.
      have reading (whole : Except ProviderError (List UInt8)) :
          (whole.bind Gemini.readReply).map (stamped stamp r.model) = whole.bind decode := by
        cases whole <;> rfl
      funext t
      rw [chat_gemini, Gemini.chat, exchange_map]
      simp only [reading]
    rw [call, worth]
    refine attempts_whole address _ fun bytes e failed => ?_
    simp only [decode, Gemini.readReply] at failed
    cases parsed : InferenceGateway.Gemini.Reply.parse bytes with
    | error cause =>
      rw [parsed] at failed
      exact ⟨_, (Except.error.inj failed).symm⟩
    | ok reply =>
      rw [parsed] at failed
      cases failed

/-- Asking for a streamed completion sends one request, and its success is taken as it comes. -/
theorem attempts_stream {c : OpenAi} (peer : Peer)
    (made : (openAi c).request .streamed key r = .ok q)
    (address : Http.isAddress q.address = true) :
    Attempts c.provider peer q c.limits.streamHeader (OpenWorth c.limits.streamIdle)
      ((openAi c).stream peer key r) := by
  have made : c.chatRequest .streamed key r = .ok q := made
  show Attempts c.provider peer q c.limits.streamHeader _ (c.stream peer key r)
  unfold OpenAi.stream OpenAi.sending
  rw [made]
  refine attempts_exchange address (fun after status body refusal => ?_)
    fun after status body u inTime success value => ?_
  · obtain ⟨snippet, refused⟩ :=
      success_of_refusal c.provider c.limits.streamHeader none after body refusal
    dsimp only
    rw [refused]
    exact .refused status snippet
  · obtain rfl : u = _ := value
    rw [success_of_success c.provider c.limits.streamHeader none after body success]
    exact .success _

end Remote

end InferenceGateway.Client
