import Mathlib
import InferenceGateway.Proofs.Dispatch.Credential
import InferenceGateway.Proofs.Dispatch.Delivery

/-!
# Which keys providers get

Every call on behalf of a caller carries the first key that there is for this caller and this
provider, and every listing the default of the process. Nothing else has a part in that: not the
keys of other providers, of other organizations or of other callers.

* `World.ListsByDefault`: what every step leaves alone, and how it lists providers.
* `World.Attributed`: runs, with the caller on whose behalf each provider is called.
* `World.Attended`: each call is one that its caller was let through to.
* `World.SelectsKeys`, `World.SendsSameKeys`: the keys in all calls of a run, and in two runs side
  by side; `World.selects_keys` says this of every run.
* `World.default_is_passed_over`: a default of the process that does not count.
-/

namespace InferenceGateway

open CredentialRules

namespace Rehearsal

namespace World

/-! ## Listings -/

/-- A change that leaves the gateway as it is, and lets no provider be listed but with the default
of the process. -/
structure ListsByDefault (a b : World) : Prop where
  gateway : b.gateway = a.gateway
  listed : ∀ p key, .listing p key ∈ b.log →
    .listing p key ∈ a.log ∨ key = a.gateway.rules.processDefault p

theorem ListsByDefault.of_log_eq {a b : World} (gateway : b.gateway = a.gateway)
    (log : b.log = a.log) : ListsByDefault a b where
  gateway := gateway
  listed _ _ mem := .inl (log ▸ mem)

theorem ListsByDefault.refl (w : World) : ListsByDefault w w := .of_log_eq rfl rfl

theorem ListsByDefault.trans {a b c : World} (h : ListsByDefault a b) (k : ListsByDefault b c) :
    ListsByDefault a c where
  gateway := k.gateway.trans h.gateway
  listed p key mem := by
    rcases k.listed p key mem with before | default
    · exact h.listed p key before
    · rw [h.gateway] at default
      exact .inr default

/-- A round asks every provider for its listing with the default of the process. -/
theorem listsByDefault_beginRound (w : World) : ListsByDefault w w.beginRound := by
  unfold beginRound
  split
  · refine ⟨rfl, fun p key mem => ?_⟩
    rcases List.mem_append.mp mem with before | now
    · exact .inl before
    · obtain ⟨q, -, same⟩ := List.mem_map.mp now
      cases same
      exact .inr rfl
  · exact .refl w

theorem listsByDefault_enqueue (w : World) (asker : Asker) :
    ListsByDefault w (w.enqueue asker) := by
  refine .trans ?_ (listsByDefault_beginRound _)
  exact .of_log_eq rfl rfl

theorem listsByDefault_beginRefresh (w : World) : ListsByDefault w w.beginRefresh := by
  refine .trans ?_ (listsByDefault_enqueue _ .visitor)
  exact .of_log_eq rfl rfl

theorem listsByDefault_endRound (w : World) : ListsByDefault w w.endRound := by
  unfold endRound
  split
  · next asker _ _ _ _ =>
    refine .trans ?_ (listsByDefault_beginRound _)
    cases asker <;> exact .of_log_eq rfl rfl
  · exact .refl w

theorem listsByDefault_tick (w : World) : ListsByDefault w w.tick := by
  unfold tick
  split
  · refine .trans ?_ (listsByDefault_enqueue _ .task)
    exact .of_log_eq rfl rfl
  · exact .refl w

theorem listsByDefault_endTask (w : World) : ListsByDefault w w.endTask := by
  refine .trans ?_ (listsByDefault_beginRound _)
  exact .of_log_eq rfl rfl

theorem listsByDefault_startTask (w : World) (interval : Nat) :
    ListsByDefault w (w.startTask interval) := by
  refine .trans (listsByDefault_endTask w) ?_
  unfold startTask
  dsimp only
  split <;> exact .of_log_eq rfl rfl

/-- Where a provider is asked for a completion, none is listed. -/
theorem ListsByDefault.of_chat {a b : World} {c : ProviderCall} (gateway : b.gateway = a.gateway)
    (log : b.log = a.log ++ [c]) (chat : c.isChat = true) : ListsByDefault a b where
  gateway := gateway
  listed p key mem := by
    rw [log] at mem
    rcases List.mem_append.mp mem with before | now
    · exact .inl before
    · rw [← List.mem_singleton.mp now] at chat
      cases chat

/-- A call that goes on asks for nothing but its completion. -/
theorem listsByDefault_stepCall (w : World) (place : Nat) (r : Running) :
    ListsByDefault w (w.stepCall place r) := by
  by_cases pause : r.call.isPausing = true
  · obtain ⟨resume, state⟩ := Call.of_isPausing pause
    obtain ⟨scripts, eq⟩ := stepCall_of_pausing w place state
    rw [eq]
    exact .of_chat rfl rfl rfl
  · rw [stepCall_of_not_pausing w place (Bool.eq_false_iff.mpr pause)]
    exact .of_log_eq rfl rfl

/-- Nothing that falls due lists in another way. -/
theorem listsByDefault_perform (w : World) (time : Nat) (due : Due) :
    ListsByDefault w (w.perform time due) := by
  have waited : ListsByDefault w { w with now := max w.now time } := .of_log_eq rfl rfl
  cases due with
  | round => exact waited.trans (listsByDefault_endRound _)
  | tick => exact waited.trans (listsByDefault_tick _)
  | call place r => exact waited.trans (listsByDefault_stepCall _ place r)

/-- Every step lists by default. -/
theorem Step.listsByDefault {a b : World} {made : List Contact} (s : Step a made b) :
    ListsByDefault a b := by
  cases s with
  | wait => exact .of_log_eq rfl rfl
  | @perform time due => exact listsByDefault_perform a time due
  | script => exact .of_log_eq rfl rfl
  | refresh => exact listsByDefault_beginRefresh a
  | task interval => exact listsByDefault_startTask a interval
  | begin id delivery caller r accepts begun =>
    obtain ⟨scripts, call, rfl⟩ := begun.exists_began accepts
    exact .of_chat rfl rfl rfl
  | shutdown =>
    refine .trans ?_ (listsByDefault_endTask _)
    exact .of_log_eq rfl rfl

/-- Neither does a whole run. -/
theorem Run.listsByDefault {a b : World} {contacts : List Contact} (h : Run a contacts b) :
    ListsByDefault a b := by
  induction h with
  | refl => exact .refl a
  | tail _ s ih => exact ih.trans s.listsByDefault

/-! ## On whose behalf -/

/-- The requests that are let through with the calls under way, in their places. -/
def accepteds (w : World) : List Accepted :=
  w.running.map Running.accepted

/-- A call that goes on keeps what it was accepted with. -/
theorem accepteds_set {w : World} {place : Nat} {r r' : Running}
    (present : w.running[place]? = some r) (same : r'.accepted = r.accepted) :
    (w.running.set place r').map Running.accepted = w.accepteds := by
  have here : w.accepteds[place]? = some r'.accepted := by
    rw [same]
    exact (List.getElem?_map).trans (congrArg _ present)
  obtain ⟨lt, eq⟩ := List.getElem?_eq_some_iff.mp here
  rw [List.map_set, ← eq]
  exact List.set_getElem_self lt

/-- Rounds do not touch the requests under way. -/
theorem Undisturbed.accepteds_eq {a b : World} (u : Undisturbed a b) :
    b.accepteds = a.accepteds := by
  unfold accepteds
  rw [u.running]

/-- Calls that go on keep what they were accepted with, and no other one begins. -/
theorem accepteds_perform {w : World} {time : Nat} {due : Due} (listed : (time, due) ∈ w.agenda) :
    (w.perform time due).accepteds = w.accepteds := by
  unfold perform
  cases due with
  | round => exact (undisturbed_endRound _).accepteds_eq
  | tick => exact (undisturbed_tick _).accepteds_eq
  | call place r =>
    obtain ⟨present, -⟩ := call_mem_agenda.mp listed
    obtain ⟨scripts, log, answer, eq⟩ := stepCall_eq { w with now := max w.now time } place r
    dsimp only
    rw [eq]
    exact accepteds_set present rfl

/-- A shutdown ends calls, but they stay in their places. -/
theorem accepteds_shutdown (w : World) : w.shutdown.accepteds = w.accepteds := by
  refine (undisturbed_endTask _).accepteds_eq.trans ?_
  unfold accepteds
  rw [List.map_map]
  rfl

/-- A request is let through, or the calls under way go on with what they were accepted with. -/
theorem Step.begins_or_goes_on {a b : World} {made : List Contact} (s : Step a made b) :
    (∃ accepted id delivery caller r, a.gateway.accept a.snapshot caller r = .ok accepted
      ∧ a.Begins id delivery caller r b ∧ made = [a.opening accepted delivery r])
    ∨ b.accepteds = a.accepteds ∧ ∀ y ∈ made, ∃ r, a.running[y.place]? = some r
      ∧ y.call = .chat r.accepted.binding.provider r.delivery r.accepted.key r.request := by
  cases s with
  | wait => exact .inr ⟨rfl, List.forall_mem_nil _⟩
  | @perform time due listed =>
    refine .inr ⟨accepteds_perform listed, fun y mem => ?_⟩
    cases due with
    | round => cases mem
    | tick => cases mem
    | call place r =>
      -- Of what falls due only a call that tries again makes contact.
      obtain ⟨present, -⟩ := call_mem_agenda.mp listed
      unfold contactsOf at mem
      dsimp only at mem
      split at mem
      · cases List.mem_singleton.mp mem
        exact ⟨r, present, rfl⟩
      · cases mem
  | script => exact .inr ⟨rfl, List.forall_mem_nil _⟩
  | refresh => exact .inr ⟨(undisturbed_beginRefresh a).accepteds_eq, List.forall_mem_nil _⟩
  | task interval =>
    exact .inr ⟨(undisturbed_startTask a interval).accepteds_eq, List.forall_mem_nil _⟩
  | begin id delivery caller r accepts begun =>
    exact .inl ⟨_, id, delivery, caller, r, accepts, begun, rfl⟩
  | shutdown => exact .inr ⟨accepteds_shutdown a, List.forall_mem_nil _⟩

/-- The calls of contacts, each with the caller whose request it is for. -/
def onBehalf (callers : List Caller) (made : List Contact) : List (Caller × ProviderCall) :=
  made.filterMap fun y => callers[y.place]?.map fun caller => (caller, y.call)

/-- Runs, with the callers of the calls under way in their places, and with the calls that providers
have received, each with the caller on whose behalf. -/
inductive Attributed (start : World) :
    List Caller → List (Caller × ProviderCall) → World → Prop where
  | start : Attributed start [] [] start
  | begin {callers sent w w' accepted} (h : Attributed start callers sent w) (id : Option String)
    (delivery : Delivery) (caller : Caller) (r : ChatRequest)
    (accepts : w.gateway.accept w.snapshot caller r = .ok accepted)
    (begun : w.Begins id delivery caller r w') :
    Attributed start (callers ++ [caller])
      (sent ++ [(caller, (w.opening accepted delivery r).call)]) w'
  | other {callers sent w w' made} (h : Attributed start callers sent w) (s : Step w made w')
    (none : w'.running.length = w.running.length) :
    Attributed start callers (sent ++ onBehalf callers made) w'

/-- Every run is attributed. -/
theorem Run.exists_attributed {start w : World} {contacts : List Contact}
    (h : Run start contacts w) : ∃ callers sent, Attributed start callers sent w := by
  induction h with
  | refl => exact ⟨[], [], .start⟩
  | tail _ s ih =>
    obtain ⟨callers, sent, before⟩ := ih
    rcases s.begins_or_goes_on with
      ⟨accepted, id, delivery, caller, r, accepts, begun, -⟩ | ⟨same, -⟩
    · exact ⟨_, _, before.begin id delivery caller r accepts begun⟩
    · have none := congrArg List.length same
      unfold accepteds at none
      rw [List.length_map, List.length_map] at none
      exact ⟨_, _, before.other s none⟩

/-- Each call under way was let through for its caller, and so was each call that a provider has
received. -/
structure Attended (callers : List Caller) (sent : List (Caller × ProviderCall)) (w : World) :
    Prop where
  granted : List.Forall₂ w.gateway.LetsThrough callers w.accepteds
  keyed : ∀ x ∈ sent, ∃ accepted delivery r,
    x.2 = .chat accepted.binding.provider delivery accepted.key r
      ∧ w.gateway.LetsThrough x.1 accepted
  chats : sent.map Prod.snd = w.chats

theorem exists_of_forall₂ {α β : Type} {holds : α → β → Prop} {xs : List α} {ys : List β}
    (h : List.Forall₂ holds xs ys) {i : Nat} {y : β} (present : ys[i]? = some y) :
    ∃ x, xs[i]? = some x ∧ holds x y := by
  obtain ⟨lt, rfl⟩ := List.getElem?_eq_some_iff.mp present
  have lt' : i < xs.length := h.length_eq ▸ lt
  exact ⟨xs[i], List.getElem?_eq_getElem lt', h.get lt' lt⟩

/-- What calls under way send is on behalf of their callers. -/
theorem Attended.onBehalf {callers : List Caller} {sent : List (Caller × ProviderCall)} {w : World}
    (h : Attended callers sent w) {made : List Contact}
    (theirs : ∀ y ∈ made, ∃ r, w.running[y.place]? = some r
      ∧ y.call = .chat r.accepted.binding.provider r.delivery r.accepted.key r.request) :
    (World.onBehalf callers made).map Prod.snd = made.map Contact.call
      ∧ ∀ x ∈ World.onBehalf callers made, ∃ accepted delivery r,
        x.2 = .chat accepted.binding.provider delivery accepted.key r
          ∧ w.gateway.LetsThrough x.1 accepted := by
  have known : ∀ y ∈ made, ∃ caller accepted delivery r, callers[y.place]? = some caller
      ∧ y.call = .chat accepted.binding.provider delivery accepted.key r
      ∧ w.gateway.LetsThrough caller accepted := by
    intro y mem
    obtain ⟨r, present, call⟩ := theirs y mem
    have accepted : w.accepteds[y.place]? = some r.accepted :=
      (List.getElem?_map).trans (congrArg _ present)
    obtain ⟨caller, own, granted⟩ := exists_of_forall₂ h.granted accepted
    exact ⟨caller, r.accepted, r.delivery, r.request, own, call, granted⟩
  -- Every call under way has its caller in the same place, so none is left out when callers are put
  -- to calls.
  constructor
  · clear theirs
    induction made with
    | nil => rfl
    | cons y rest ih =>
      obtain ⟨caller, -, -, -, own, -⟩ := known y List.mem_cons_self
      have others := ih fun z mem => known z (List.mem_cons_of_mem y mem)
      unfold World.onBehalf at others ⊢
      rw [List.filterMap_cons, own]
      exact congrArg (y.call :: ·) others
  · intro x mem
    obtain ⟨y, mem, same⟩ := List.mem_filterMap.mp mem
    obtain ⟨caller, accepted, delivery, r, own, call, granted⟩ := known y mem
    rw [own] at same
    cases same
    exact ⟨accepted, delivery, r, call, granted⟩

/-- Whatever happens, calls are attended. -/
theorem Attributed.attended {start w : World} {callers : List Caller}
    {sent : List (Caller × ProviderCall)} (h : Attributed start callers sent w)
    (fresh : start.running = []) (silent : start.chats = []) : Attended callers sent w := by
  induction h with
  | start =>
    refine ⟨?_, List.forall_mem_nil _, silent.symm⟩
    unfold accepteds
    rw [fresh]
    exact .nil
  | @begin callers sent w w' accepted before id delivery caller r accepts begun ih =>
    obtain ⟨-, client, key⟩ := Gateway.of_accept_eq_ok accepts
    have chats := (Step.begin id delivery caller r accepts begun).chats_eq
    obtain ⟨scripts, call, rfl⟩ := begun.exists_began accepts
    refine ⟨?_, fun x mem => ?_, ?_⟩
    · have grown : (w.began id accepted delivery r scripts call).accepteds
          = w.accepteds ++ [accepted] := List.map_append
      rw [grown]
      exact List.rel_append ih.granted (.cons ⟨client, key⟩ .nil)
    · rcases List.mem_append.mp mem with earlier | now
      · exact ih.keyed x earlier
      · cases List.mem_singleton.mp now
        exact ⟨accepted, delivery, _, rfl, client, key⟩
    · rw [chats, List.map_append, ih.chats]
      rfl
  | @other callers sent w w' made before s none ih =>
    rcases s.begins_or_goes_on with ⟨accepted, id, delivery, caller, r, accepts, begun, -⟩
      | ⟨same, theirs⟩
    · -- where a call begins there is one more under way
      obtain ⟨scripts, call, rfl⟩ := begun.exists_began accepts
      have longer : (w.running ++ [{ w.opened id accepted delivery r with call }]).length
          = w.running.length := none
      rw [List.length_append] at longer
      exact absurd longer (Nat.ne_of_gt (Nat.lt_succ_self _))
    · obtain ⟨calls, keyed⟩ := ih.onBehalf theirs
      have gateway := s.listsByDefault.gateway
      refine ⟨?_, fun x mem => ?_, ?_⟩
      · rw [gateway, same]
        exact ih.granted
      · rw [gateway]
        rcases List.mem_append.mp mem with earlier | now
        · exact ih.keyed x earlier
        · exact keyed x now
      · rw [List.map_append, calls, ih.chats, s.chats_eq]

section Runs

variable {order : List Provider} {pins : List ModelPin} {rules : CredentialRules} {limit : Nat}
  {scripts : List Script} {w : World}

/-- The configured rules stay in force. -/
theorem Run.rules_eq {contacts : List Contact}
    (run : Run (.new order pins rules limit scripts) contacts w) : w.gateway.rules = rules :=
  congrArg Gateway.rules run.listsByDefault.gateway

/-- Listings carry the default of the process. -/
theorem Run.listing_key {contacts : List Contact}
    (run : Run (.new order pins rules limit scripts) contacts w) {p : Provider}
    {key : Option String} (listed : .listing p key ∈ w.log) : key = firstKey [ProviderKeys.find? p rules.process] := by
  rcases run.listsByDefault.listed p key listed with before | default
  · cases before
  · exact default.trans (processDefault_eq rules p)

/-- Every call that a provider has received is one that its caller was let through to. -/
theorem Attributed.keyFor {callers : List Caller} {sent : List (Caller × ProviderCall)}
    (h : Attributed (.new order pins rules limit scripts) callers sent w) {caller : Caller}
    {p : Provider} {delivery : Delivery} {key : String} {r : ChatRequest}
    (call : (caller, .chat p delivery key r) ∈ sent) :
    ∃ client, w.gateway.registry.client? p = some client
      ∧ w.gateway.keyFor caller client p = .ok key := by
  obtain ⟨accepted, delivery', r', same, client, granted⟩ := (h.attended rfl rfl).keyed _ call
  cases same
  exact ⟨accepted.client, client, granted⟩

/-- What one run of a gateway under some rules does with keys. -/
structure SelectsKeys (rules : CredentialRules) (start w : World) : Prop where
  /-- Every call for a completion is made on behalf of a caller. -/
  attributed : ∃ callers sent, Attributed start callers sent w
  complete : ∀ callers sent, Attributed start callers sent w → sent.map Prod.snd = w.chats
  /-- Each carries the first key that there is for its caller and its provider. -/
  calls : ∀ callers sent, Attributed start callers sent w →
    ∀ caller p delivery key r, (caller, .chat p delivery key r) ∈ sent →
      ∃ client, w.gateway.registry.client? p = some client
        ∧ rules.Grants caller p client.requiresKey key
  /-- And with that key a request is let through, or without any if its client allows it. -/
  accepts : ∀ caller r binding client default, Gateway.checkRequest r = .ok () →
    w.snapshot.resolve r.model = some binding →
    w.gateway.registry.client? binding.provider = some client →
    rules.organizationDefault caller binding.provider = .ok default →
    w.gateway.accept w.snapshot caller r =
      ((firstKey [ProviderKeys.find? binding.provider caller.keys, default,
        ProviderKeys.find? binding.provider rules.process]).elim
          (Gateway.withoutKey client binding.provider) .ok).map fun key => { binding, client, key }
  /-- Each listing carries the default of the process, or no key. -/
  listings : ∀ p key, .listing p key ∈ w.log → key = firstKey [ProviderKeys.find? p rules.process]
  /-- With a key of its own a caller is let through or refused whatever store there is. -/
  unasked : ∀ caller r binding, w.snapshot.resolve r.model = some binding →
    firstKey [ProviderKeys.find? binding.provider caller.keys] ≠ none → ∀ store,
      { w.gateway with rules := { rules with organizations := store } }.accept w.snapshot caller r
        = w.gateway.accept w.snapshot caller r
  /-- Without one it is refused when the look-up fails, whatever the default of the process is, and
  also after a shutdown. -/
  refuses : ∀ caller r binding client e, Gateway.checkRequest r = .ok () →
    w.snapshot.resolve r.model = some binding →
    w.gateway.registry.client? binding.provider = some client →
    firstKey [ProviderKeys.find? binding.provider caller.keys] = none →
    rules.organizationDefault caller binding.provider = .error e →
    e.isFailure = true ∨ client.requiresKey = true → ∀ id delivery,
      w.beginCall id delivery caller r = .error (.noCredential binding.provider)
        ∧ w.beginLate id delivery caller r = .error (.noCredential binding.provider)
  /-- An organization that itself says that there is no key has the last word: the default of the
  process does not count, and the call carries no key, if its client allows it. -/
  unknown : ∀ caller r binding client q, Gateway.checkRequest r = .ok () →
    w.snapshot.resolve r.model = some binding →
    w.gateway.registry.client? binding.provider = some client →
    firstKey [ProviderKeys.find? binding.provider caller.keys] = none →
    rules.organizationDefault caller binding.provider = .error (.notFound q) →
    w.gateway.accept w.snapshot caller r =
      (Gateway.withoutKey client binding.provider).map fun key => { binding, client, key }

/-- What two runs under rules of their own have in common where the rules agree about a provider. -/
structure SendsSameKeys (p : Provider) (rules : CredentialRules) (start w : World)
    (rules' : CredentialRules) (start' w' : World) : Prop where
  /-- Calls to the provider carry the same key on behalf of callers for whom the rules agree. -/
  calls : ∀ callers sent callers' sent', Attributed start callers sent w →
    Attributed start' callers' sent' w' → ∀ caller delivery key r caller' delivery' key' r',
      (caller, .chat p delivery key r) ∈ sent → (caller', .chat p delivery' key' r') ∈ sent' →
      SameKeys p rules caller rules' caller' → key = key'
  /-- Listings of the provider carry the same key. -/
  listings : firstKey [ProviderKeys.find? p rules.process]
      = firstKey [ProviderKeys.find? p rules'.process] →
    ∀ key key', .listing p key ∈ w.log → .listing p key' ∈ w'.log → key = key'
  /-- With the same clients, the same requests for models of the provider are let through. -/
  accepts : w.gateway.registry = w'.gateway.registry → ∀ s caller caller' r,
    (∀ binding, s.resolve r.model = some binding → binding.provider = p) →
    SameKeys p rules caller rules' caller' →
    w.gateway.accept s caller r = w'.gateway.accept s caller' r

/-- What calls carry was settled when they were accepted, under rules that never change. -/
theorem Run.selectsKeys {contacts : List Contact}
    (run : Run (.new order pins rules limit scripts) contacts w) :
    SelectsKeys rules (.new order pins rules limit scripts) w := by
  have rulesEq := run.rules_eq
  constructor
  · exact run.exists_attributed
  · intro callers sent attributed
    exact (attributed.attended rfl rfl).chats
  · intro callers sent attributed caller p delivery key r call
    obtain ⟨client, found, granted⟩ := attributed.keyFor call
    exact ⟨client, found, rulesEq ▸ Gateway.grants_of_keyFor granted⟩
  · intro caller r binding client default checked resolved found answered
    rw [← rulesEq] at answered ⊢
    rw [Gateway.accept_of_client checked resolved found, Gateway.keyFor_of_all answered]
  · intro p key
    exact run.listing_key
  · intro caller r binding resolved own store
    rw [← rulesEq]
    refine Gateway.accept_eq_of_own _ (fun binding' same => ?_) store
    cases resolved.symm.trans same
    exact own
  · intro caller r binding client e checked resolved found own unanswered refused id delivery
    rw [← rulesEq] at unanswered
    have refuses : w.gateway.accept w.snapshot caller r
        = .error (.noCredential binding.provider) := by
      rw [Gateway.accept_of_client checked resolved found,
        Gateway.keyFor_of_unanswered own unanswered refused]
      rfl
    unfold beginCall beginLate
    rw [refuses]
    exact ⟨rfl, rfl⟩
  · intro caller r binding client q checked resolved found own unknown
    rw [← rulesEq] at unknown
    rw [Gateway.accept_of_client checked resolved found, Gateway.keyFor_of_unknown own unknown]

/-- The rules are asked only for the caller and the provider of the call, so where they agree about
these, so do the calls. -/
theorem Run.sendsSameKeys {contacts : List Contact}
    (run : Run (.new order pins rules limit scripts) contacts w) {order' : List Provider}
    {pins' : List ModelPin} {rules' : CredentialRules} {limit' : Nat} {scripts' : List Script}
    {contacts' : List Contact} {w' : World}
    (run' : Run (.new order' pins' rules' limit' scripts') contacts' w') (p : Provider) :
    SendsSameKeys p rules (.new order pins rules limit scripts) w
      rules' (.new order' pins' rules' limit' scripts') w' := by
  have rulesEq := run.rules_eq
  have rulesEq' := run'.rules_eq
  constructor
  · intro callers sent callers' sent' attributed attributed' caller delivery key r caller' delivery'
      key' r' call call' same
    -- Clients may differ in whether they need a key; a key that is found is the same.
    obtain ⟨client, -, granted⟩ := attributed.keyFor call
    obtain ⟨client', -, granted'⟩ := attributed'.keyFor call'
    rw [← rulesEq, ← rulesEq'] at same
    rw [Gateway.keyFor_eq_of_sameKeys same] at granted
    exact Gateway.key_unique granted granted'
  · intro same key key' listed listed'
    rw [run.listing_key listed, run'.listing_key listed', same]
  · intro clients s caller caller' r here same
    refine Gateway.accept_eq_of_sameKeys clients fun binding resolved => ?_
    rw [here binding resolved, rulesEq, rulesEq']
    exact same

/--
Which keys providers get, in every run of refreshes and calls for completions: each call the first
key that there is for its caller, each listing the default of the process. And in any two runs, of
any two configurations that agree on the keys for a provider, it gets the same keys, whatever keys
there are for other providers, organizations or callers.
-/
theorem selects_keys {contacts : List Contact}
    (run : Run (.new order pins rules limit scripts) contacts w) :
    SelectsKeys rules (.new order pins rules limit scripts) w
    ∧ ∀ order' pins' rules' limit' scripts' contacts' w',
      Run (.new order' pins' rules' limit' scripts') contacts' w' → ∀ p,
        SendsSameKeys p rules (.new order pins rules limit scripts) w
          rules' (.new order' pins' rules' limit' scripts') w' :=
  ⟨run.selectsKeys, fun _ _ _ _ _ _ _ run' p => run.sendsSameKeys run' p⟩

end Runs

/-! ## One call -/

/-- Where no provider has received a call for a completion before, the one of an accepted request is
on behalf of its caller. -/
theorem Run.exists_attributed_call {start w : World} {contacts : List Contact}
    (run : Run start contacts w) (fresh : start.running = []) (silent : start.chats = [])
    (quiet : w.chats = []) (going : w.stopped = none) {caller : Caller} {r : ChatRequest}
    {accepted : Accepted} (accepts : w.gateway.accept w.snapshot caller r = .ok accepted)
    (delivery : Delivery) :
    ∃ contacts' w' callers, Run start contacts' w'
      ∧ Attributed start callers [(caller, sentCall accepted delivery r)] w'
      ∧ w'.log = w.log ++ [sentCall accepted delivery r] := by
  obtain ⟨callers, sent, attributed⟩ := run.exists_attributed
  have nothing := (attributed.attended fresh silent).chats
  rw [quiet] at nothing
  obtain rfl := List.map_eq_nil_iff.mp nothing
  obtain ⟨scripts, begun⟩ : ∃ scripts, w.beginCall none delivery caller r
      = .ok (w.began none accepted delivery r scripts (w.opened none accepted delivery r).call) :=
    beginCall_eq_ok none accepts going
  have onward := attributed.begin none delivery caller r accepts (.inl begun)
  rw [call_opening] at onward
  refine ⟨_, _, _, run.tail (.begin none delivery caller r accepts (.inl begun)), onward, ?_⟩
  rw [← call_opening w]
  rfl

/-- A gateway under some rules over one provider, which has listed its model. -/
def keyed (rules : CredentialRules) (requires : Bool) : World :=
  .new [] [] rules 1000
    [{ client := ⟨.jan, requires⟩, listing := { result := .ok [⟨"m", "model", 0, ""⟩] } }]

/-- The same after the provider has listed its model. -/
def keyedListed (rules : CredentialRules) (requires : Bool) : World :=
  (keyed rules requires).beginRefresh.runTo 0

theorem run_keyedListed (rules : CredentialRules) (requires : Bool) :
    ∃ contacts, Run (keyed rules requires) contacts (keyedListed rules requires) :=
  exists_run_refreshed _ rfl

theorem stopped_keyedListed (rules : CredentialRules) (requires : Bool) :
    (keyedListed rules requires).stopped = none := by
  cbv

/-- A caller with an organization and without keys. -/
def member : Caller := { id := "caller", organization := some "org" }

/-- A key for an organization and one for the process. -/
def sharedKeys : CredentialRules :=
  ⟨OrganizationKeys.store [("org", [(.jan, "shared")])], [(.jan, "default")]⟩

theorem log_sharedKeys : (keyedListed sharedKeys true).log = [.listing .jan (some "default")] := by
  cbv

theorem accept_sharedKeys :
    (keyedListed sharedKeys true).gateway.accept (keyedListed sharedKeys true).snapshot member
        { model := "m", messages := [{ role := "user" }] }
      = .ok ⟨⟨"m", .jan, "m"⟩, ⟨.jan, true⟩, "shared"⟩ := by
  cbv

/-- A call carries the key of the organization, and the listing before it the default of the
process. -/
theorem shared_key_is_sent :
    let r : ChatRequest := { model := "m", messages := [{ role := "user" }] }
    ∃ contacts w callers, Run (keyed sharedKeys true) contacts w
      ∧ Attributed (keyed sharedKeys true) callers [(member, .chat .jan .buffered "shared" r)] w
      ∧ (∃ key, .listing .jan key ∈ w.log)
      ∧ ∀ key, .listing .jan key ∈ w.log → key = some "default" := by
  intro r
  obtain ⟨contacts, run⟩ := run_keyedListed sharedKeys true
  have quiet : (keyedListed sharedKeys true).chats = [] := by
    rw [chats, log_sharedKeys]
    rfl
  obtain ⟨contacts', w, callers, run', attributed, log⟩ := run.exists_attributed_call rfl rfl quiet
    (stopped_keyedListed _ _) accept_sharedKeys .buffered
  -- The listing has happened before; that its key was the default is said of every run.
  have selects := (selects_keys run').1
  refine ⟨contacts', w, callers, run', attributed, ⟨some "default", ?_⟩,
    fun key => selects.listings .jan key⟩
  rw [log, log_sharedKeys]
  exact List.mem_cons_self

/-- Organizations that say of every provider that there is no key for it, and a key for the process.
-/
def unknowing : CredentialRules :=
  ⟨fun _ p => .error (.notFound p), [(.jan, "default")]⟩

theorem log_unknowing : (keyedListed unknowing false).log = [.listing .jan (some "default")] := by
  cbv

theorem accept_unknowing :
    (keyedListed unknowing false).gateway.accept (keyedListed unknowing false).snapshot member
        { model := "m", messages := [{ role := "user" }] }
      = .ok ⟨⟨"m", .jan, "m"⟩, ⟨.jan, false⟩, ""⟩ := by
  cbv

/-- A call carries no key although there is a default of the process, and it is made although the
look-up has failed: the organizations have said that there is no key. -/
theorem default_is_passed_over :
    let r : ChatRequest := { model := "m", messages := [{ role := "user" }] }
    unknowing.organizationDefault member .jan = .error (.notFound .jan)
      ∧ unknowing.processDefault .jan = some "default"
      ∧ ∃ contacts w callers, Run (keyed unknowing false) contacts w
        ∧ Attributed (keyed unknowing false) callers [(member, .chat .jan .buffered "" r)] w := by
  intro r
  refine ⟨rfl, by decide, ?_⟩
  obtain ⟨contacts, run⟩ := run_keyedListed unknowing false
  have quiet : (keyedListed unknowing false).chats = [] := by
    rw [chats, log_unknowing]
    rfl
  obtain ⟨contacts', w, callers, run', attributed, -⟩ := run.exists_attributed_call rfl rfl quiet
    (stopped_keyedListed _ _) accept_unknowing .buffered
  exact ⟨contacts', w, callers, run', attributed⟩

end World

end Rehearsal

end InferenceGateway
