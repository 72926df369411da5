import InferenceGateway.Rehearsal.World

/-!
# Runs of the gateway

Everything that can happen to a gateway over scripted providers, one step after the other and in
any order: time passes, what is due is done, refreshes and calls begin, scripts change, the gateway
shuts down. Of things that are due at the same time any may come first, and a request that is
accepted after a shutdown may be sent before that is noticed.

* `Contact`: a call that a provider receives on behalf of a call under way.
* `World.Begins`: how a request begins.
* `World.Step`: one step, with the contacts that are made in it.
* `World.Run`: any number of steps, with all contacts in order; `Run.chats_eq` says that they are
  what the providers have received.
* `World.Undisturbed`: what refreshes and their task leave alone.
-/

namespace InferenceGateway

theorem Call.of_isPausing {α : Type} {c : Call α} (h : c.isPausing = true) :
    ∃ resume, c = .pausing resume := by
  cases c with
  | pausing resume => exact ⟨resume, rfl⟩
  | _ => cases h

namespace Rehearsal

/-- A call that a provider receives on behalf of a call under way. -/
structure Contact where
  /-- Where the call under way stands among all of them. -/
  place : Nat
  time : Nat
  call : ProviderCall
  /-- What the provider will answer, and when. -/
  answer : Answer Payload

/-- Whether a provider is asked for a completion. -/
def ProviderCall.isChat : ProviderCall → Bool
  | listing .. => false
  | chat .. => true

namespace World

/-- The calls for completions that providers have received. -/
def chats (w : World) : List ProviderCall :=
  w.log.filter ProviderCall.isChat

/-- An attempt that begins now; the provider takes its answer from its script. -/
def contact (w : World) (place : Nat) (accepted : Accepted) (delivery : Delivery)
    (request : ChatRequest) : Contact where
  place := place
  time := w.now
  call := .chat accepted.binding.provider delivery accepted.key request
  answer := (w.takeReply accepted.binding.provider delivery request).1

/-- The first attempt for a request that is accepted now. -/
def opening (w : World) (accepted : Accepted) (delivery : Delivery) (r : ChatRequest) : Contact :=
  w.contact w.running.length accepted delivery (outgoing delivery accepted.binding r)

/-- The attempts that begin when something due is done: a second one after its pause. -/
def contactsOf (w : World) (time : Nat) : Due → List Contact
  | .call place r =>
    if r.call.isPausing then
      [{ w with now := max w.now time }.contact place r.accepted r.delivery r.request]
    else []
  | _ => []

/-- A request begins as a call under way, or, after a shutdown, as one that was sent before that was
noticed. -/
def Begins (w : World) (id : Option String) (delivery : Delivery) (caller : Caller)
    (r : ChatRequest) (w' : World) : Prop :=
  w.beginCall id delivery caller r = .ok w'
    ∨ w.stopped ≠ none ∧ w.beginLate id delivery caller r = .ok w'

/-- One step, with the contacts that are made in it. -/
inductive Step : World → List Contact → World → Prop where
  /-- Time passes, at most until something is due. -/
  | wait {w} (time : Nat) (idle : ∀ d ∈ w.agenda, time ≤ d.1) :
    Step w [] { w with now := max w.now time }
  /-- Something is done than which nothing is due sooner. -/
  | perform {w time due} (listed : (time, due) ∈ w.agenda) (soonest : ∀ d ∈ w.agenda, time ≤ d.1) :
    Step w (w.contactsOf time due) (w.perform time due)
  /-- A provider will answer otherwise than before. -/
  | script {w} (p : Provider) (f : Script → Script) (same : ∀ s, (f s).client = s.client) :
    Step w [] (w.script p f)
  | refresh (w) : Step w [] w.beginRefresh
  | task (w) (interval : Nat) : Step w [] (w.startTask interval)
  /-- A request is accepted, and its provider receives it. -/
  | begin {w w' accepted} (id : Option String) (delivery : Delivery) (caller : Caller)
    (r : ChatRequest) (accepts : w.gateway.accept w.snapshot caller r = .ok accepted)
    (begun : w.Begins id delivery caller r w') :
    Step w [w.opening accepted delivery r] w'
  | shutdown (w) : Step w [] w.shutdown

/-- Any number of steps, with the contacts of all of them. -/
inductive Run : World → List Contact → World → Prop where
  | refl (w) : Run w [] w
  | tail {a b c contacts made} (h : Run a contacts b) (s : Step b made c) :
    Run a (contacts ++ made) c

theorem Run.single {a b : World} {made : List Contact} (s : Step a made b) : Run a made b := by
  simpa using Run.tail (.refl a) s

/-- A run may be followed by another one, and so are its contacts. -/
theorem Run.trans {a b c : World} {xs ys : List Contact} (h : Run a xs b) (k : Run b ys c) :
    Run a (xs ++ ys) c := by
  induction k with
  | refl => simpa using h
  | tail _ s ih =>
    rw [← List.append_assoc]
    exact ih.tail s

/-- What every step keeps holds after any number of them. -/
theorem Run.invariant {holds : World → Prop}
    (keeps : ∀ {a b made}, Step a made b → holds a → holds b) {a b : World}
    {contacts : List Contact} (h : Run a contacts b) (start : holds a) : holds b := by
  induction h with
  | refl => exact start
  | tail _ s ih => exact keeps s ih

/-! ## The agenda -/

/-- What is due: the end of the first round, a refresh of the task, and the calls that go on. -/
theorem mem_agenda {w : World} {time : Nat} {due : Due} :
    (time, due) ∈ w.agenda ↔
      (∃ asker listings rest, w.refreshes = { asker, round := some (time, listings) } :: rest
        ∧ due = .round)
      ∨ (∃ t, w.task = some t ∧ t.busy = false ∧ t.due = time ∧ due = .tick)
      ∨ ∃ place r, w.running[place]? = some r ∧ r.call.wake = some time ∧ due = .call place r := by
  unfold agenda
  rw [List.mem_append, List.mem_append, or_assoc]
  -- The agenda has three parts, for rounds, for the task and for calls.
  refine or_congr ?_ (or_congr ?_ ?_)
  · constructor
    · intro h
      split at h
      · next asker t listings rest eq =>
        cases List.mem_singleton.mp h
        exact ⟨asker, listings, rest, eq, rfl⟩
      · cases h
    · rintro ⟨asker, listings, rest, eq, rfl⟩
      rw [eq]
      exact List.mem_singleton_self _
  · constructor
    · intro h
      split at h
      · next t eq =>
        split at h
        · cases h
        · next free =>
          cases List.mem_singleton.mp h
          exact ⟨t, eq, Bool.eq_false_iff.mpr free, rfl, rfl⟩
      · cases h
    · rintro ⟨t, eq, free, rfl, rfl⟩
      simp only [eq, free]
      exact List.mem_singleton_self _
  · rw [List.mem_filterMap]
    constructor
    · rintro ⟨⟨r, place⟩, mem, eq⟩
      obtain ⟨t, wake, eq⟩ := Option.map_eq_some_iff.mp eq
      cases eq
      exact ⟨place, r, List.mem_zipIdx_iff_getElem?.mp mem, wake, rfl⟩
    · rintro ⟨place, r, present, wake, rfl⟩
      refine ⟨(r, place), List.mem_zipIdx_iff_getElem?.mpr present, ?_⟩
      show Option.map _ r.call.wake = _
      rw [wake]
      rfl

/-- Calls on the agenda are those under way that go on by themselves. -/
theorem call_mem_agenda {w : World} {place time : Nat} {r : Running} :
    (time, Due.call place r) ∈ w.agenda
      ↔ w.running[place]? = some r ∧ r.call.wake = some time := by
  rw [mem_agenda]
  constructor
  · rintro (⟨_, _, _, -, eq⟩ | ⟨_, -, -, -, eq⟩ | ⟨_, _, present, wake, eq⟩)
    · cases eq
    · cases eq
    · cases eq
      exact ⟨present, wake⟩
  · rintro ⟨present, wake⟩
    exact .inr (.inr ⟨place, r, present, wake, rfl⟩)

/-! ## What refreshes leave alone -/

/-- A change that concerns no call: none begins, goes on or ends, and no time passes. -/
structure Undisturbed (a b : World) : Prop where
  running : b.running = a.running
  now : b.now = a.now
  stopped : b.stopped = a.stopped
  chats : b.chats = a.chats

theorem Undisturbed.refl (w : World) : Undisturbed w w := ⟨rfl, rfl, rfl, rfl⟩

theorem Undisturbed.trans {a b c : World} (h : Undisturbed a b) (k : Undisturbed b c) :
    Undisturbed a c :=
  ⟨k.running.trans h.running, k.now.trans h.now, k.stopped.trans h.stopped,
    k.chats.trans h.chats⟩

theorem undisturbed_script (w : World) (p : Provider) (f : Script → Script) :
    Undisturbed w (w.script p f) := ⟨rfl, rfl, rfl, rfl⟩

/-- The clients that are asked for their models are not asked for completions. -/
theorem undisturbed_beginRound (w : World) : Undisturbed w w.beginRound := by
  unfold beginRound
  split
  · refine ⟨rfl, rfl, rfl, ?_⟩
    show (w.log ++ _).filter ProviderCall.isChat = w.log.filter ProviderCall.isChat
    rw [List.filter_append, List.append_right_eq_self, List.filter_map, List.map_eq_nil_iff]
    exact List.filter_eq_nil_iff.mpr fun p _ => Bool.false_ne_true
  · exact .refl w

theorem undisturbed_enqueue (w : World) (asker : Asker) : Undisturbed w (w.enqueue asker) := by
  refine .trans ?_ (undisturbed_beginRound _)
  exact ⟨rfl, rfl, rfl, rfl⟩

theorem undisturbed_beginRefresh (w : World) : Undisturbed w w.beginRefresh := by
  refine .trans ?_ (undisturbed_enqueue _ .visitor)
  exact ⟨rfl, rfl, rfl, rfl⟩

/-- The end of a round concerns nobody but who waits for it. -/
theorem undisturbed_endRound (w : World) : Undisturbed w w.endRound := by
  unfold endRound
  split
  · next asker _ _ _ _ =>
    refine .trans ?_ (undisturbed_beginRound _)
    cases asker <;> exact ⟨rfl, rfl, rfl, rfl⟩
  · exact .refl w

/-- A tick of the task asks for a refresh, and nothing else. -/
theorem undisturbed_tick (w : World) : Undisturbed w w.tick := by
  unfold tick
  split
  · refine .trans ?_ (undisturbed_enqueue _ .task)
    exact ⟨rfl, rfl, rfl, rfl⟩
  · exact .refl w

theorem undisturbed_endTask (w : World) : Undisturbed w w.endTask := by
  refine .trans ?_ (undisturbed_beginRound _)
  exact ⟨rfl, rfl, rfl, rfl⟩

/-- To start a task does not touch calls. -/
theorem undisturbed_startTask (w : World) (interval : Nat) :
    Undisturbed w (w.startTask interval) := by
  refine .trans (undisturbed_endTask w) ?_
  unfold startTask
  dsimp only
  split <;> exact ⟨rfl, rfl, rfl, rfl⟩

/-! ## What calls do -/

/-- A reply is taken from the scripts, and nothing else changes. -/
theorem takeReply_snd (w : World) (p : Provider) (delivery : Delivery) (r : ChatRequest) :
    ∃ scripts, (w.takeReply p delivery r).2 = { w with scripts } := by
  unfold takeReply
  split
  · exact ⟨_, rfl⟩
  · exact ⟨w.scripts, rfl⟩

/-- The last number drawn for an id has no part in what is replied. -/
theorem takeReply_with_lastId (w : World) (n : UInt64) (p : Provider) (delivery : Delivery)
    (r : ChatRequest) : ∃ scripts, { w with lastId := n }.takeReply p delivery r
      = ((w.takeReply p delivery r).1, { w with lastId := n, scripts }) := by
  unfold takeReply
  dsimp only
  split
  · exact ⟨_, rfl⟩
  · exact ⟨w.scripts, rfl⟩

/-- The call under way that an accepted request begins as. -/
def opened (w : World) (id : Option String) (accepted : Accepted) (delivery : Delivery)
    (r : ChatRequest) : Running where
  id := id
  requestId := CompletionId.text accepted.binding.provider (CompletionId.draw w.clock w.lastId)
  delivery := delivery
  accepted := accepted
  request := outgoing delivery accepted.binding r
  begun := w.now
  call := .trying .first w.now (w.opening accepted delivery r).answer

/-- The world in which an accepted request has begun, but for its provider's script. -/
def began (w : World) (id : Option String) (accepted : Accepted) (delivery : Delivery)
    (r : ChatRequest) (scripts : List Script) (call : Call Payload) : World :=
  { w with
    scripts
    lastId := CompletionId.draw w.clock w.lastId
    log := w.log ++ [(w.opening accepted delivery r).call]
    running := w.running ++ [{ w.opened id accepted delivery r with call }] }

/-- A request that is sent is a call under way, in the state that its answer puts it in. -/
theorem launch_eq (w : World) (id : Option String) (delivery : Delivery) (accepted : Accepted)
    (r : ChatRequest) (state : Answer Payload → Call Payload) :
    ∃ scripts, w.launch id delivery accepted r state
      = w.began id accepted delivery r scripts (state (w.opening accepted delivery r).answer) := by
  obtain ⟨scripts, taken⟩ := w.takeReply_with_lastId (CompletionId.draw w.clock w.lastId)
    accepted.binding.provider delivery (outgoing delivery accepted.binding r)
  refine ⟨scripts, ?_⟩
  unfold launch
  simp only [taken]
  rfl

section Beginnings

variable {w w' : World} {accepted : Accepted} {id : Option String} {delivery : Delivery}
  {caller : Caller} {r : ChatRequest}

/-- An accepted request begins as a call under way and is sent to its provider at once. -/
theorem beginCall_eq_ok (id : Option String)
    (accepts : w.gateway.accept w.snapshot caller r = .ok accepted) (going : w.stopped = none) :
    ∃ scripts, w.beginCall id delivery caller r
      = .ok (w.began id accepted delivery r scripts (w.opened id accepted delivery r).call) := by
  obtain ⟨scripts, launched⟩ := launch_eq w id delivery accepted r (.trying .first w.now)
  refine ⟨scripts, ?_⟩
  unfold beginCall
  rw [accepts]
  simp only [bind, Except.bind, going, launched]
  rfl

/-- Once the shutdown is noticed no request begins. -/
theorem going_of_beginCall (accepts : w.gateway.accept w.snapshot caller r = .ok accepted)
    (begun : w.beginCall id delivery caller r = .ok w') : w.stopped = none := by
  cases stopped : w.stopped with
  | none => rfl
  | some s =>
    unfold beginCall at begun
    rw [accepts] at begun
    simp only [bind, Except.bind, stopped] at begun
    cases begun

/-- A call that has begun is the one of the accepted request. -/
theorem of_beginCall (accepts : w.gateway.accept w.snapshot caller r = .ok accepted)
    (begun : w.beginCall id delivery caller r = .ok w') :
    ∃ scripts, w' = w.began id accepted delivery r scripts
      (w.opened id accepted delivery r).call := by
  obtain ⟨scripts, eq⟩ := beginCall_eq_ok id accepts (going_of_beginCall accepts begun)
  rw [eq] at begun
  exact ⟨scripts, (Except.ok.inj begun).symm⟩

/-- After a shutdown an accepted request may yet be sent, and its call is over then. -/
theorem beginLate_eq_ok (id : Option String)
    (accepts : w.gateway.accept w.snapshot caller r = .ok accepted) :
    ∃ scripts, w.beginLate id delivery caller r = .ok (w.began id accepted delivery r scripts
      (.late w.now (w.opening accepted delivery r).answer)) := by
  obtain ⟨scripts, launched⟩ := launch_eq w id delivery accepted r (.late w.now)
  refine ⟨scripts, ?_⟩
  unfold beginLate
  rw [accepts]
  simp only [bind, Except.bind, launched]
  rfl

/-- How an accepted request begins: while the gateway runs with its first attempt, and after a
shutdown with a call that is over. -/
theorem Begins.cases (accepts : w.gateway.accept w.snapshot caller r = .ok accepted)
    (begun : w.Begins id delivery caller r w') :
    (∃ scripts, w.stopped = none
        ∧ w' = w.began id accepted delivery r scripts (w.opened id accepted delivery r).call)
      ∨ ∃ scripts, w.stopped ≠ none ∧ w' = w.began id accepted delivery r scripts
        (.late w.now (w.opening accepted delivery r).answer) := by
  -- The first way is open only while no shutdown has been noticed.
  rcases begun with begun | ⟨stopped, begun⟩
  · obtain ⟨scripts, eq⟩ := of_beginCall accepts begun
    exact .inl ⟨scripts, going_of_beginCall accepts begun, eq⟩
  · obtain ⟨scripts, eq⟩ := beginLate_eq_ok id accepts
    rw [eq] at begun
    exact .inr ⟨scripts, stopped, (Except.ok.inj begun).symm⟩

/-- However an accepted request begins, it is sent. -/
theorem Begins.exists_launch (accepts : w.gateway.accept w.snapshot caller r = .ok accepted)
    (begun : w.Begins id delivery caller r w') :
    ∃ state, w' = w.launch id delivery accepted r state := by
  rcases begun with begun | ⟨-, begun⟩
  · have going := going_of_beginCall accepts begun
    unfold beginCall at begun
    rw [accepts] at begun
    simp only [bind, Except.bind, going] at begun
    exact ⟨_, (Except.ok.inj begun).symm⟩
  · unfold beginLate at begun
    rw [accepts] at begun
    exact ⟨_, (Except.ok.inj begun).symm⟩

/-- However it begins, its provider receives it, and its call stands behind all others. -/
theorem Begins.exists_began (accepts : w.gateway.accept w.snapshot caller r = .ok accepted)
    (begun : w.Begins id delivery caller r w') :
    ∃ scripts call, w' = w.began id accepted delivery r scripts call := by
  obtain ⟨state, rfl⟩ := begun.exists_launch accepts
  obtain ⟨scripts, eq⟩ := launch_eq w id delivery accepted r state
  exact ⟨scripts, _, eq⟩

end Beginnings

/-- A call that waits for an answer goes on by itself. -/
theorem stepCall_of_not_pausing (w : World) (place : Nat) {r : Running}
    (h : r.call.isPausing = false) : w.stepCall place r =
      { w with
        running := w.running.set place
          { r with call := r.call.step w.now (defaultAnswer r.delivery r.request) } } := by
  unfold stepCall
  rw [h]
  rfl

/-- After its pause a call makes its second attempt. -/
theorem stepCall_of_pausing (w : World) (place : Nat) {r : Running} {resume : Nat}
    (h : r.call = .pausing resume) : ∃ scripts, w.stepCall place r =
      { w with
        scripts
        log := w.log ++ [(w.contact place r.accepted r.delivery r.request).call]
        running := w.running.set place
          { r with
            call := .trying .second w.now
              (w.contact place r.accepted r.delivery r.request).answer } } := by
  obtain ⟨scripts, eq⟩ := takeReply_snd w r.accepted.binding.provider r.delivery r.request
  refine ⟨scripts, ?_⟩
  unfold stepCall contact note
  simp only [h, Call.isPausing, if_true, eq, Call.step]

/-- However a call goes on, nothing but the call, the scripts and the log changes. -/
theorem stepCall_eq (w : World) (place : Nat) (r : Running) : ∃ scripts log answer,
    w.stepCall place r =
      { w with
        scripts
        log
        running := w.running.set place { r with call := r.call.step w.now answer } } := by
  -- Only a call that pauses takes a new answer, from its provider's script.
  by_cases pause : r.call.isPausing = true
  · obtain ⟨resume, state⟩ := Call.of_isPausing pause
    obtain ⟨scripts, eq⟩ := stepCall_of_pausing w place state
    rw [state]
    exact ⟨scripts, _, _, eq⟩
  · exact ⟨w.scripts, w.log, _, stepCall_of_not_pausing w place (Bool.eq_false_iff.mpr pause)⟩

/-- A call that goes on takes no time. -/
theorem now_stepCall (w : World) (place : Nat) (r : Running) :
    (w.stepCall place r).now = w.now := by
  obtain ⟨scripts, log, answer, eq⟩ := stepCall_eq w place r
  rw [eq]

theorem stopped_stepCall (w : World) (place : Nat) (r : Running) :
    (w.stepCall place r).stopped = w.stopped := by
  obtain ⟨scripts, log, answer, eq⟩ := stepCall_eq w place r
  rw [eq]

/-- Only the call at its place is changed when it goes on. -/
theorem running_stepCall_of_ne (w : World) {place i : Nat} (r : Running) (h : place ≠ i) :
    (w.stepCall place r).running[i]? = w.running[i]? := by
  obtain ⟨scripts, log, answer, eq⟩ := stepCall_eq w place r
  rw [eq]
  exact List.getElem?_set_ne h

/-! ## What providers receive -/

/-- A contact is a call for a completion. -/
theorem chats_append_chat (w : World) (c : Contact) (p : Provider) (delivery : Delivery)
    (key : String) (r : ChatRequest) (h : c.call = .chat p delivery key r) :
    (w.log ++ [c.call]).filter ProviderCall.isChat = w.chats ++ [c.call] := by
  rw [List.filter_append, h]
  rfl

/-- Of what falls due only the second attempts of calls reach providers. -/
theorem chats_perform (w : World) (time : Nat) (due : Due) :
    (w.perform time due).chats = w.chats ++ (w.contactsOf time due).map Contact.call := by
  cases due with
  | round => exact (undisturbed_endRound _).chats.trans (List.append_nil _).symm
  | tick => exact (undisturbed_tick _).chats.trans (List.append_nil _).symm
  | call place r =>
    unfold perform contactsOf
    dsimp only
    by_cases pause : r.call.isPausing = true
    · obtain ⟨resume, state⟩ := Call.of_isPausing pause
      obtain ⟨scripts, eq⟩ := stepCall_of_pausing { w with now := max w.now time } place state
      rw [eq, if_pos pause]
      exact chats_append_chat { w with now := max w.now time } _ _ _ _ _ rfl
    · rw [stepCall_of_not_pausing _ place (Bool.eq_false_iff.mpr pause), if_neg pause]
      exact (List.append_nil _).symm

/-- In a step providers receive the contacts of the step. -/
theorem Step.chats_eq {a b : World} {made : List Contact} (s : Step a made b) :
    b.chats = a.chats ++ made.map Contact.call := by
  cases s with
  | wait => exact (List.append_nil _).symm
  | @perform time due => exact chats_perform a time due
  | script => exact (List.append_nil _).symm
  | refresh => exact (undisturbed_beginRefresh a).chats.trans (List.append_nil _).symm
  | task interval => exact (undisturbed_startTask a interval).chats.trans (List.append_nil _).symm
  | begin id delivery caller r accepts begun =>
    obtain ⟨scripts, call, rfl⟩ := begun.exists_began accepts
    exact chats_append_chat a _ _ _ _ _ rfl
  | shutdown => exact (undisturbed_endTask _).chats.trans (List.append_nil _).symm

/-- Providers receive the contacts of a run, in order, and no other call for a completion. -/
theorem Run.chats_eq {a b : World} {contacts : List Contact} (h : Run a contacts b) :
    b.chats = a.chats ++ contacts.map Contact.call := by
  induction h with
  | refl => exact (List.append_nil _).symm
  | tail _ s ih => rw [s.chats_eq, ih, List.map_append, List.append_assoc]

end World

end Rehearsal

end InferenceGateway
