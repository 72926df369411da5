import Mathlib
import InferenceGateway.Proofs.Client.Upshots
import InferenceGateway.Proofs.Json.Reading
import InferenceGateway.Proofs.Results

/-!
# Listings in pages

Gemini lists its models in pages, and each page names the next one by a token. The client follows
them one request at a time, for at most ten pages. Whatever the other side does, the run ends; it
ends well only if every page on the way was read, and then with the usable models of all of them.

* `Gemini.Lists`: the models that a page, or several in a row, have to offer.
* `ListingWorth`: what a body comes to as a listing; all that is wrong with it counts alike.
* `Client.Gemini.Follows`: the rounds of a run, each asking with the token of the page before it.
* `Client.Gemini.Concludes`: how a run ends, given its rounds.
* `Client.Gemini.Serves`: an endpoint that has a listing to give.
* `Client.Gemini.follows_pages`: listing the models, with a key and without.
-/

namespace InferenceGateway

namespace Gemini

/-! ## The models of a page -/

/-- A model that says it generates content, or says nothing. -/
def Model.Usable (m : Model) : Prop :=
  m.methods = [] ∨ "generateContent" ∈ m.methods

/-- The id that a resource has by its name. -/
inductive Identifies : String → String → Prop where
  | resource (id : String) : Identifies ("models/" ++ id) id
  | plain {name : String} (bare : ∀ id, name ≠ "models/" ++ id) : Identifies name name

/-- The usable models, in order and each once, under their ids. -/
inductive Lists : List Model → List ModelInfo → Prop where
  | nil : Lists [] []
  | usable {m : Model} {rest : List Model} {infos : List ModelInfo} {id : String}
    (usable : m.Usable) (named : Identifies m.name id) (more : Lists rest infos) :
    Lists (m :: rest) ({ id, object := "model", created := 0, ownedBy := "google" } :: infos)
  | other {m : Model} {rest : List Model} {infos : List ModelInfo}
    (unusable : ¬m.Usable) (more : Lists rest infos) : Lists (m :: rest) infos

/-- The test of the method names is the one of usability. -/
theorem completes_iff (m : Model) : m.completes = true ↔ m.Usable := by
  simp [Model.completes, Model.Usable]

/-- The id is the name behind the start that resources have, if it has this start. -/
theorem identifies_withoutStart (name : String) :
    Identifies name (Text.withoutStart resourceName name) := by
  unfold Text.withoutStart Text.dropStart?
  split
  · next starts =>
    obtain ⟨rest, split⟩ := List.isPrefixOf_iff_prefix.mp starts
    have whole : name = resourceName ++ String.ofList rest := by
      rw [← String.toList_inj, String.toList_append, String.toList_ofList, split]
    rw [← split, List.drop_left, Option.getD_some]
    exact whole ▸ .resource _
  · next bare =>
    refine .plain fun id split => bare ?_
    rw [split, String.toList_append]
    exact List.isPrefixOf_iff_prefix.mpr (List.prefix_append _ _)

/-- A page offers its usable models. -/
theorem lists_models (page : ModelPage) : Lists page.entries page.models := by
  unfold ModelPage.models
  induction page.entries with
  | nil => exact .nil
  | cons m rest ih =>
    cases completes : m.completes with
    | true =>
      rw [List.filter_cons_of_pos completes, List.map_cons]
      exact .usable ((completes_iff m).mp completes) (identifies_withoutStart m.name) ih
    | false =>
      rw [List.filter_cons_of_neg (by simp [completes])]
      exact .other (fun usable => by simp [(completes_iff m).mpr usable] at completes) ih

/-- Models are listed page after page. -/
theorem Lists.append {front back : List Model} {infos more : List ModelInfo}
    (first : Lists front infos) (rest : Lists back more) :
    Lists (front ++ back) (infos ++ more) := by
  induction first with
  | nil => exact rest
  | usable usable named _ ih => exact .usable usable named ih
  | other unusable _ ih => exact .other unusable ih

/-- There is a next page if there is a token for it. -/
theorem next?_eq_some_iff {page : ModelPage} {token : String} :
    page.next? = some token ↔ page.nextPageToken = some token ∧ token ≠ "" := by
  simp [ModelPage.next?, Option.filter_eq_some_iff]

end Gemini

namespace Client

open Http (Fault Outcome Peer Reply Traffic)

/-! ## Listings in bodies -/

section

variable {α : Type}

/--
The worth of a success to one who reads a listing from it: the listing, if all of the body arrives
in time and can be read.
-/
def ListingWorth (limit : Nat) (read : List UInt8 → Option α) (after : Nat)
    (body : List (Stream.Event Fault)) (u : Upshot α) : Prop :=
  ∃ listing, u = .success listing ∧ ∀ a, listing = some a ↔ ∃ arrivals,
    body = pieces arrivals ∧ duration arrivals ≤ limit - after ∧ read (content arrivals) = some a

/-- A body is all there only if it comes in pieces, and these are its bytes. -/
theorem exists_arrivals_of_wholeBody {limit now : Nat} {body : List (Stream.Event Fault)}
    {bytes : List UInt8} (begun : now ≤ limit)
    (whole : (Http.wholeBody limit now body).1 = .ok bytes) :
    ∃ arrivals, body = pieces arrivals ∧ duration arrivals ≤ limit - now
      ∧ content arrivals = bytes := by
  -- The time that is left shrinks by each delay, and the bytes by each piece.
  induction body generalizing now bytes with
  | nil => exact ⟨[], rfl, Nat.zero_le _, Except.ok.inj whole⟩
  | cons e rest ih =>
    obtain ⟨delay, occurrence⟩ := e
    unfold Http.wholeBody at whole
    split at whole
    · cases whole
    · next soon =>
      cases occurrence with
      | never => cases whole
      | failure fault => cases whole
      | chunk front =>
        obtain ⟨more, rest, rfl⟩ := map_eq_ok_iff.mp whole
        have soon : now + delay ≤ limit := Nat.not_lt.mp soon
        obtain ⟨arrivals, rfl, inTime, rfl⟩ := ih soon rest
        refine ⟨(delay, front) :: arrivals, rfl, ?_, content_cons _ _⟩
        rw [duration_cons]
        omega

/-- A body is all there exactly if it comes in pieces, in time. -/
theorem wholeBody_eq_ok_iff {limit now : Nat} {body : List (Stream.Event Fault)}
    {bytes : List UInt8} (begun : now ≤ limit) :
    (Http.wholeBody limit now body).1 = .ok bytes
      ↔ ∃ arrivals, body = pieces arrivals ∧ duration arrivals ≤ limit - now
        ∧ content arrivals = bytes := by
  refine ⟨exists_arrivals_of_wholeBody begun, ?_⟩
  rintro ⟨arrivals, rfl, inTime, rfl⟩
  exact (Receives.whole arrivals inTime).wholeBody_eq begun

/-- What a body comes to as a listing is what is read of it when it is waited for. -/
theorem listingWorth_iff {limit after : Nat} (inTime : after ≤ limit)
    (read : List UInt8 → Option α) (body : List (Stream.Event Fault)) (u : Upshot α) :
    ListingWorth limit read after body u
      ↔ u = .success ((Http.wholeBody limit after body).1.toOption.bind read) := by
  have known (a : α) : (Http.wholeBody limit after body).1.toOption.bind read = some a
      ↔ ∃ arrivals, body = pieces arrivals ∧ duration arrivals ≤ limit - after
        ∧ read (content arrivals) = some a := by
    simp only [Option.bind_eq_some_iff, Json.toOption_eq_some_iff, wholeBody_eq_ok_iff inTime]
    constructor
    · rintro ⟨_, ⟨arrivals, all, soon, rfl⟩, read⟩
      exact ⟨arrivals, all, soon, read⟩
    · rintro ⟨arrivals, all, soon, read⟩
      exact ⟨_, ⟨arrivals, all, soon, rfl⟩, read⟩
  constructor
  · rintro ⟨listing, rfl, listed⟩
    rw [show listing = _ from Option.ext fun a => (listed a).trans (known a).symm]
  · rintro rfl
    exact ⟨_, rfl, known⟩

/-- A body that is all there in time comes to what is read of it. -/
theorem listingWorth_of_pieces {limit after : Nat} (inTime : after ≤ limit)
    (read : List UInt8 → Option α) {arrivals : List (Nat × List UInt8)}
    (soon : duration arrivals ≤ limit - after) :
    ListingWorth limit read after (pieces arrivals) (.success (read (content arrivals))) := by
  rw [listingWorth_iff inTime, (Receives.whole arrivals soon).wholeBody_eq inTime]
  rfl

variable {p : Provider} {peer : Peer} {request : Http.Request} {limit : Nat}

/-- A call that reads a listing attempts what it says. -/
theorem attempts_listing (address : Http.isAddress request.address = true) (during : String)
    (parse : List UInt8 → Except Json.Error α) :
    Attempts p peer request limit (ListingWorth limit fun bytes => (parse bytes).toOption)
      (exchange peer p limit during request (readListing p limit parse)) := by
  -- Either the answer refuses, or its body is read as a listing.
  refine attempts_exchange address (fun after status body refusal => ?_)
    fun after status body u inTime success value => ?_
  · obtain ⟨snippet, refused⟩ := success_of_refusal p limit (some limit) after body refusal
    unfold readListing
    generalize Client.success p limit (some limit) after ⟨status, body⟩ = result at refused
    obtain ⟨_, time⟩ := result
    cases refused
    exact .refused status snippet
  · obtain rfl := (listingWorth_iff inTime _ _ _).mp value
    unfold readListing
    rw [success_of_success p limit (some limit) after body success]
    dsimp only
    cases (Http.wholeBody limit after body).1 with
    | error fault => exact .unreadable _
    | ok bytes =>
      show Yields p (.success (parse bytes).toOption) ((parse bytes).mapError _)
      cases parse bytes with
      | error cause => exact .unreadable _
      | ok listing => exact .success listing

end

namespace Gemini

open InferenceGateway.Gemini (Lists ModelPage)

/-! ## Rounds -/

/-- The values that a request gives under a name. -/
def given (name : String) (q : Http.Request) : List String :=
  (q.query.filter fun pair => pair.1 == name).map Prod.snd

/-- A request for a page, and what comes of it. -/
structure Round where
  request : Http.Request
  upshot : Upshot ModelPage

variable (c : Gemini) (peer : Peer) (key : String)

/-- What comes of a request for a page that is sent after others. -/
abbrev Brings (sent : List Http.Request) (q : Http.Request) (u : Upshot ModelPage) : Prop :=
  Comes c.limits.request
    (ListingWorth c.limits.request fun bytes => (ModelPage.parse bytes).toOption) (peer sent q) u

/-- Nothing to go on with: no page, or one without a token. -/
def Final (u : Upshot ModelPage) : Prop :=
  ∀ page token, u = .success (some page) → page.nextPageToken = some token → token = ""

/-- The rounds of a run that may take so many, from a token on. -/
structure Follows (room : Nat) (token : Option String) (sent : List Http.Request)
    (rounds : List Round) : Prop where
  bounded : rounds.length ≤ room
  asks : ∀ r ∈ rounds, r.request.method = .get
    ∧ r.request.address = baseOf c.baseUrl ++ "/models" ∧ given "key" r.request = [key]
  brings : ∀ earlier r later, rounds = earlier ++ r :: later →
    c.Brings peer (sent ++ earlier.map Round.request) r.request r.upshot
  first : ∀ r later, rounds = r :: later → given "pageToken" r.request = token.toList
  linked : ∀ earlier r next later, rounds = earlier ++ r :: next :: later →
    ∃ page token, r.upshot = .success (some page) ∧ page.nextPageToken = some token ∧ token ≠ ""
      ∧ given "pageToken" next.request = [token]
  ends : rounds.length = room ∨ ∃ earlier r, rounds = earlier ++ [r] ∧ Final r.upshot

/-- How a run ends: with the models of all pages, or with the failure of its last round. -/
inductive Concludes (rounds : List Round) : Except ProviderError (List ModelInfo) → Prop where
  | listed (pages : List ModelPage) (parts : List (List ModelInfo))
    (readable : rounds.map Round.upshot = pages.map fun page => .success (some page))
    (each : List.Forall₂ (fun page part => Lists page.entries part) pages parts) :
    Concludes rounds (.ok parts.flatten)
  | failed (earlier : List Round) (r : Round) {e : ProviderError}
    (last : rounds = earlier ++ [r]) (failing : Yields .gemini r.upshot (.error e)) :
    Concludes rounds (.error e)

/--
An endpoint that gives these pages to one who asks for the first of them, and for each other one
with the token of the page before it.
-/
inductive Serves : List Http.Request → Option String → List ModelPage → Prop where
  | last {sent : List Http.Request} {token : Option String} {page : ModelPage}
    (brings : c.Brings peer sent (c.pageRequest key token) (.success (some page)))
    (final : Final (.success (some page))) : Serves sent token [page]
  | more {sent : List Http.Request} {token : Option String} {page : ModelPage} {next : String}
    {rest : List ModelPage}
    (brings : c.Brings peer sent (c.pageRequest key token) (.success (some page)))
    (names : page.nextPageToken = some next) (nonempty : next ≠ "")
    (onward : Serves (sent ++ [c.pageRequest key token]) (some next) rest) :
    Serves sent token (page :: rest)

variable {c : Gemini} {peer : Peer} {key : String}

/-! ## One round -/

@[simp] theorem given_key_pageRequest (token : Option String) :
    given "key" (c.pageRequest key token) = [key] := by
  cases token <;> rfl

@[simp] theorem given_pageToken_pageRequest (token : Option String) :
    given "pageToken" (c.pageRequest key token) = token.toList := by
  cases token <;> rfl

/-- Something comes of every request for a page. -/
theorem exists_brings (c : Gemini) (peer : Peer) (sent : List Http.Request) (q : Http.Request) :
    ∃ u, c.Brings peer sent q u :=
  exists_comes_of_worth fun _ reply _ inTime =>
    ⟨_, (listingWorth_iff inTime _ reply.body _).mpr rfl⟩

/-- A round attempts to read a page. -/
theorem attempts_page (peer : Peer) (key : String)
    (address : Http.isAddress (baseOf c.baseUrl ++ "/models") = true) (token : Option String) :
    Attempts .gemini peer (c.pageRequest key token) c.limits.request
      (ListingWorth c.limits.request fun bytes => (ModelPage.parse bytes).toOption)
      (c.page peer key token) := by
  unfold page
  refine attempts_listing ?_ _ _
  exact address

/-- Where no next page is asked for there is nothing to go on with. -/
theorem final_of_next? {page : ModelPage} (none : page.next? = none) :
    Final (.success (some page)) := by
  intro page' token same names
  cases same
  by_contra nonempty
  rw [InferenceGateway.Gemini.next?_eq_some_iff.mpr ⟨names, nonempty⟩] at none
  cases none

/-- And where there is nothing to go on with, none is asked for. -/
theorem next?_of_final {page : ModelPage} (final : Final (.success (some page))) :
    page.next? = none := by
  rw [Option.eq_none_iff_forall_ne_some]
  intro token next
  obtain ⟨names, nonempty⟩ := InferenceGateway.Gemini.next?_eq_some_iff.mp next
  exact nonempty (final page token rfl names)

/-- A failure is nothing to go on with. -/
theorem final_of_yields {u : Upshot ModelPage} {e : ProviderError}
    (failing : Yields .gemini u (.error e)) : Final u := by
  rintro page token rfl
  cases failing

/-- Only a page that can be read yields one. -/
theorem eq_of_yields {u : Upshot ModelPage} {page : ModelPage}
    (listed : Yields .gemini u (.ok page)) : u = .success (some page) := by
  cases listed
  rfl

section

-- What a page takes is no part of this equation; looking into it is slow.
attribute [local irreducible] page

theorem pages_succ (room : Nat) (token : Option String) (t : Traffic) :
    c.pages peer key (room + 1) token t =
      match c.page peer key token t with
      | (.error e, t) => (.error e, t)
      | (.ok page, t) =>
        match page.next? with
        | none => (.ok page.models, t)
        | some next =>
          let (rest, t) := c.pages peer key room (some next) t
          (rest.map (page.models ++ ·), t) :=
  rfl

end

/-- A round that brings a page ends with it. -/
theorem page_of_brings (address : Http.isAddress (baseOf c.baseUrl ++ "/models") = true)
    {token : Option String} {t : Traffic} {page : ModelPage}
    (brings : c.Brings peer t.sent (c.pageRequest key token) (.success (some page))) :
    ∃ after, c.page peer key token t = (.ok page, after)
      ∧ after.sent = t.sent ++ [c.pageRequest key token] := by
  obtain ⟨sends, yields⟩ := attempts_page peer key address token
  replace sends := sends t
  replace yields := yields t _ brings
  generalize c.page peer key token t = outcome at sends yields
  obtain ⟨result, after⟩ := outcome
  cases yields
  exact ⟨after, rfl, sends⟩

/-! ## Runs -/

/-- Without room there is no round. -/
theorem Follows.nil (token : Option String) (sent : List Http.Request) :
    c.Follows peer key 0 token sent [] where
  bounded := Nat.le_refl 0
  asks r member := nomatch member
  brings earlier r later split := by simp at split
  first r later split := by cases split
  linked earlier r next later split := by simp at split
  ends := .inl rfl

/-- A round with nothing to go on with is the last one. -/
theorem Follows.single {token : Option String} {sent : List Http.Request} {u : Upshot ModelPage}
    (room : Nat) (brings : c.Brings peer sent (c.pageRequest key token) u) (final : Final u) :
    c.Follows peer key (room + 1) token sent [⟨c.pageRequest key token, u⟩] where
  bounded := by simp
  asks r member := by
    obtain rfl := List.mem_singleton.mp member
    exact ⟨rfl, rfl, given_key_pageRequest token⟩
  brings earlier r later split := by
    cases earlier with
    | nil =>
      cases split
      simpa using brings
    | cons _ earlier => simp at split
  first r later split := by
    cases split
    exact given_pageToken_pageRequest token
  linked earlier r next later split := by
    cases earlier <;> simp at split
  ends := .inr ⟨[], _, rfl, final⟩

/-- A page with a token is followed by the rounds from this token on. -/
theorem Follows.cons {token : Option String} {sent : List Http.Request} {page : ModelPage}
    {next : String} {room : Nat} {rounds : List Round}
    (brings : c.Brings peer sent (c.pageRequest key token) (.success (some page)))
    (names : page.nextPageToken = some next) (nonempty : next ≠ "")
    (rest : c.Follows peer key room (some next) (sent ++ [c.pageRequest key token]) rounds) :
    c.Follows peer key (room + 1) token sent
      (⟨c.pageRequest key token, .success (some page)⟩ :: rounds) where
  bounded := Nat.succ_le_succ rest.bounded
  asks r member := by
    cases member with
    | head => exact ⟨rfl, rfl, given_key_pageRequest token⟩
    | tail _ later => exact rest.asks r later
  brings earlier r later split := by
    cases earlier with
    | nil =>
      cases split
      simpa using brings
    -- what was sent before a later round includes the request at hand
    | cons first earlier =>
      obtain ⟨same, split⟩ := List.cons.inj split
      have later := rest.brings earlier r later split
      rw [List.append_assoc] at later
      exact same ▸ later
  first r later split := by
    cases split
    exact given_pageToken_pageRequest token
  linked earlier r second later split := by
    cases earlier with
    | nil =>
      obtain ⟨same, split⟩ := List.cons.inj split
      exact ⟨page, next, same ▸ rfl, names, nonempty, rest.first second later split⟩
    | cons first earlier => exact rest.linked earlier r second later (List.cons.inj split).2
  ends := by
    obtain full | ⟨earlier, r, rfl, final⟩ := rest.ends
    · exact .inl (congrArg Nat.succ full)
    · exact .inr ⟨_ :: earlier, r, rfl, final⟩

/-- The models of a page come before those of the pages behind it; a failure of a later round takes
them along. -/
theorem Concludes.cons {page : ModelPage} {rounds : List Round} {q : Http.Request}
    {result : Except ProviderError (List ModelInfo)} (rest : Concludes rounds result) :
    Concludes (⟨q, .success (some page)⟩ :: rounds) (result.map (page.models ++ ·)) := by
  cases rest with
  | listed pages parts readable each =>
    have readable : (⟨q, .success (some page)⟩ :: rounds).map Round.upshot
        = (page :: pages).map fun page => .success (some page) := by
      rw [List.map_cons, List.map_cons, readable]
    exact .listed _ _ readable (.cons (InferenceGateway.Gemini.lists_models page) each)
  | failed earlier r last failing => exact .failed (_ :: earlier) r (congrArg _ last) failing

/-- Every run takes its rounds, and ends with what they come to. -/
theorem exists_rounds (address : Http.isAddress (baseOf c.baseUrl ++ "/models") = true)
    (room : Nat) (token : Option String) (t : Traffic) :
    ∃ rounds, c.Follows peer key room token t.sent rounds
      ∧ (c.pages peer key room token t).2.sent = t.sent ++ rounds.map Round.request
      ∧ Concludes rounds (c.pages peer key room token t).1 := by
  -- A round without a page or without a token ends the run; else the rounds for its token follow.
  induction room generalizing token t with
  | zero =>
    exact ⟨[], .nil token t.sent, (List.append_nil _).symm, .listed [] [] rfl .nil⟩
  | succ room ih =>
    obtain ⟨u, brings⟩ := exists_brings c peer t.sent (c.pageRequest key token)
    obtain ⟨sends, yields⟩ := attempts_page peer key address token
    replace sends := sends t
    replace yields := yields t u brings
    rw [pages_succ]
    generalize c.page peer key token t = outcome at sends yields
    obtain ⟨_ | page, after⟩ := outcome
    · next e =>
      refine ⟨_, .single room brings (final_of_yields yields), sends, ?_⟩
      exact .failed [] _ rfl yields
    · obtain rfl := eq_of_yields yields
      dsimp only
      cases next : page.next? with
      | none =>
        refine ⟨_, .single room brings (final_of_next? next), sends, ?_⟩
        have all : Concludes [⟨c.pageRequest key token, .success (some page)⟩]
            (.ok [page.models].flatten) :=
          .listed [page] _ rfl (.cons (InferenceGateway.Gemini.lists_models page) .nil)
        rwa [List.flatten_singleton] at all
      | some following =>
        obtain ⟨names, nonempty⟩ := InferenceGateway.Gemini.next?_eq_some_iff.mp next
        obtain ⟨rounds, follows, sent, concludes⟩ := ih (some following) after
        rw [show after.sent = t.sent ++ [c.pageRequest key token] from sends] at follows sent
        refine ⟨_, .cons brings names nonempty follows, ?_, concludes.cons⟩
        rw [List.append_assoc] at sent
        exact sent

/-- Pages that an endpoint gives are all read, if there is room for them. -/
theorem Serves.pages_eq (address : Http.isAddress (baseOf c.baseUrl ++ "/models") = true)
    {token : Option String} {listing : List ModelPage} {t : Traffic}
    (serves : c.Serves peer key t.sent token listing) {room : Nat}
    (enough : listing.length ≤ room) :
    (c.pages peer key room token t).1 = .ok (listing.flatMap ModelPage.models) := by
  -- The page at hand is what one round brings; the rest of the listing is for the rounds after it.
  generalize started : t.sent = sent at serves
  induction serves generalizing room t with
  | @last sent token page brings final =>
    obtain ⟨room, rfl⟩ : ∃ more, room = more + 1 := Nat.exists_eq_add_one.mpr enough
    obtain ⟨after, got, -⟩ := page_of_brings address (started ▸ brings)
    rw [pages_succ, got]
    dsimp only
    rw [next?_of_final final]
    simp
  | @more sent token page next rest brings names nonempty _ ih =>
    obtain ⟨room, rfl⟩ : ∃ more, room = more + 1 :=
      Nat.exists_eq_add_one.mpr (Nat.lt_of_lt_of_le (Nat.succ_pos _) enough)
    obtain ⟨after, got, sends⟩ := page_of_brings address (started ▸ brings)
    rw [pages_succ, got]
    dsimp only
    rw [InferenceGateway.Gemini.next?_eq_some_iff.mpr ⟨names, nonempty⟩]
    dsimp only
    rw [ih (Nat.le_of_succ_le_succ enough) (sends.trans (started ▸ rfl))]
    rfl

/-- The usable models of several pages are those of each, one page after the other. -/
theorem lists_flatMap (listing : List ModelPage) :
    Lists (listing.flatMap ModelPage.entries) (listing.flatMap ModelPage.models) := by
  induction listing with
  | nil => exact .nil
  | cons page rest ih => exact (InferenceGateway.Gemini.lists_models page).append ih

theorem models_some (t : Traffic) :
    c.models peer (some key) t = c.pages peer key pageLimit none t :=
  rfl

/-- Nothing is sent to what is no address. -/
theorem pages_of_no_address (address : Http.isAddress (baseOf c.baseUrl ++ "/models") = false)
    (room : Nat) (token : Option String) (t : Traffic) :
    c.pages peer key (room + 1) token t
      = (.error (.ofFault .gemini "model list" .badAddress), t) := by
  have nowhere : Http.isAddress (c.pageRequest key token).address = false := address
  rw [pages_succ, page, exchange_of_no_address nowhere]

/--
Listing the models takes at most ten rounds, all with the key: the first asks for no page in
particular, each other one with the token that the page before it names, and there is none after a
page without a token. If all pages can be read, their usable models come of it in order, else the
failure of the last round and no models. So a listing of at most ten pages is there in full. Nothing
is sent without a key.
-/
theorem follows_pages (c : Gemini) (peer : Peer) (t : Traffic) :
    c.models peer none t = (.error noListingKey, t)
    ∧ ∀ key,
      (Http.isAddress (baseOf c.baseUrl ++ "/models") = false →
        ∃ message, c.models peer (some key) t = (.error (.unreachable .gemini message), t))
      ∧ (Http.isAddress (baseOf c.baseUrl ++ "/models") = true →
        (∃ rounds, c.Follows peer key 10 none t.sent rounds
          ∧ (c.models peer (some key) t).2.sent = t.sent ++ rounds.map Round.request
          ∧ Concludes rounds (c.models peer (some key) t).1)
        ∧ ∀ listing, listing.length ≤ 10 → c.Serves peer key t.sent none listing →
          ∃ models, Lists (listing.flatMap ModelPage.entries) models
            ∧ (c.models peer (some key) t).1 = .ok models) := by
  refine ⟨rfl, fun key => ⟨fun address => ?_, fun address => ⟨?_, ?_⟩⟩⟩
  · rw [models_some]
    exact ⟨_, pages_of_no_address address 9 none t⟩
  · rw [models_some]
    exact exists_rounds address pageLimit none t
  · intro listing enough serves
    rw [models_some]
    exact ⟨_, lists_flatMap listing, serves.pages_eq address enough⟩

/-! ## Two pages -/

/-- A page with a model to use, one for other ends, and the token of the page behind it. -/
def firstText : List UInt8 :=
  Text.bytesOf ("\x7b\"models\":[\x7b\"name\":\"models/pro\"\x7d,\x7b\"name\":\"models/embed\","
    ++ "\"supportedGenerationMethods\":[\"embedContent\"]\x7d],\"nextPageToken\":\"t\"\x7d")

/-- A last page, whose token is empty. -/
def secondText : List UInt8 :=
  Text.bytesOf ("\x7b\"models\":[\x7b\"name\":\"flash\","
    ++ "\"supportedGenerationMethods\":[\"generateContent\"]\x7d],\"nextPageToken\":\"\"\x7d")

/-- An endpoint that gives these pages, the second one for its token. -/
def twoPages : Peer := fun _ q =>
  .replied 5 ⟨200, pieces [(3, if given "pageToken" q = [] then firstText else secondText)]⟩

/-- The first page of this endpoint. -/
def firstPage : ModelPage where
  entries := [⟨"models/pro", []⟩, ⟨"models/embed", ["embedContent"]⟩]
  nextPageToken := some "t"

/-- The second page of this endpoint. -/
def secondPage : ModelPage where
  entries := [⟨"flash", ["generateContent"]⟩]
  nextPageToken := some ""

/-- A client of this endpoint. -/
def client : Gemini := ⟨"http://h", ⟨10, 10, 10⟩⟩

theorem brings_of_twoPages {sent : List Http.Request} {q : Http.Request} {page : ModelPage}
    (read : (ModelPage.parse (content
      [(3, if given "pageToken" q = [] then firstText else secondText)])).toOption = some page) :
    client.Brings twoPages sent q (.success (some page)) := by
  refine .success (by decide : 5 ≤ 10) rfl ?_
  rw [← read]
  exact listingWorth_of_pieces (by decide : 5 ≤ 10) _ (by decide : 3 + 0 ≤ 10 - 5)

/-- Both pages of this endpoint are followed. -/
theorem follows_two_pages :
    ∃ models, Lists (firstPage.entries ++ secondPage.entries) models
      ∧ (client.models twoPages (some "k") {}).1 = .ok models := by
  have first : client.Brings twoPages [] (client.pageRequest "k" none)
      (.success (some firstPage)) :=
    brings_of_twoPages (by decide +kernel)
  have second : client.Brings twoPages [client.pageRequest "k" none]
      (client.pageRequest "k" (some "t")) (.success (some secondPage)) :=
    brings_of_twoPages (by decide +kernel)
  have serves : client.Serves twoPages "k" [] none [firstPage, secondPage] :=
    .more first rfl (by decide) (.last second fun page token same names => by
      cases same
      exact (Option.some.inj names).symm)
  obtain ⟨-, keyed⟩ := follows_pages client twoPages {}
  obtain ⟨models, lists, listed⟩ :=
    ((keyed "k").2 (by decide +kernel)).2 [firstPage, secondPage] (by decide) serves
  exact ⟨models, lists, listed⟩

end Gemini

end Client

end InferenceGateway
