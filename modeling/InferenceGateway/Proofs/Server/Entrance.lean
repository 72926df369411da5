import Mathlib
import InferenceGateway.Proofs.Text.Names
import InferenceGateway.Server.Service

/-!
# Who gets to the routes

A guarded route serves no request but those that show a key, in the one place and form in which it
counts, and to all others it says the same, whatever they hold besides and whatever the gateway and
its providers are doing.

* `Guarded.method`, `Guarded.path`: where the guarded routes are.
* `Leads`, `Bears`: the first header of a name, and the key that its value bears.
* `Enters`, `TurnsAway`: what headers let a caller in, and what is said against the others.
* `lockedOut`: the answer to the others.
* `identify_cases`, `identify_eq_ok_iff`: the entrance lets in and turns away accordingly.
* `shields_routes`: a decision about headers settles all requests that carry them.
-/

namespace InferenceGateway.Server

/-! ## Routes -/

/-- The method that a guarded route is served for. -/
def Guarded.method : Guarded → String
  | completions => "POST"
  | models | providers => "GET"

/-- The path of a guarded route. -/
def Guarded.path : Guarded → String
  | completions => "/v1/chat/completions"
  | models => "/v1/models"
  | providers => "/v1/models/providers"

theorem Route.ofPath?_path (g : Guarded) : Route.ofPath? g.path = some (.guarded g) := by
  cases g <;> decide

theorem Route.serves_method (g : Guarded) : (Route.guarded g).serves g.method = true := by
  cases g <;> decide

/-! ## Headers -/

/-- The first of the headers with a name has these bytes; the case of letters does not count. -/
def Leads (headers : List (String × List UInt8)) (name : String) (bytes : List UInt8) : Prop :=
  ∃ before shown after, headers = before ++ (shown, bytes) :: after
    ∧ Text.equalsIgnoringCase shown name = true
    ∧ ∀ h ∈ before, Text.equalsIgnoringCase h.1 name = false

/-- The header that counts is the first one of its name. -/
theorem header?_eq_some_iff {r : Request} {name : String} {bytes : List UInt8} :
    r.header? name = some bytes ↔ Leads r.headers name bytes := by
  unfold Request.header? Leads
  rw [Option.map_eq_some_iff]
  constructor
  · rintro ⟨⟨shown, bytes⟩, found, rfl⟩
    obtain ⟨named, before, after, split, others⟩ := List.find?_eq_some_iff_append.mp found
    exact ⟨before, shown, after, split, named, fun h mem => by simpa using others h mem⟩
  · rintro ⟨before, shown, after, split, named, others⟩
    refine ⟨(shown, bytes), ?_, rfl⟩
    refine List.find?_eq_some_iff_append.mpr ⟨named, before, after, split, fun h mem => ?_⟩
    simpa using others h mem

/-- The bytes of a header are all visible ASCII, spaces or tabs. -/
def Readable (bytes : List UInt8) : Prop :=
  ∀ b ∈ bytes, b = 0x09 ∨ 0x20 ≤ b ∧ b ≤ 0x7E

/-- The text of readable bytes. -/
def textOf (bytes : List UInt8) : String :=
  String.ofList (bytes.map fun b => Char.ofNat b.toNat)

/-- Bytes are read if they are visible ASCII, spaces or tabs, as the text that they spell. -/
theorem readable?_eq_some_iff {bytes : List UInt8} {value : String} :
    readable? bytes = some value ↔ Readable bytes ∧ value = textOf bytes := by
  have all : bytes.all isReadable = true ↔ Readable bytes := by
    simp [Readable, isReadable]
  rw [← all, eq_comm (a := value)]
  unfold readable? textOf
  split <;> simp [*]

/-! ## Keys -/

/-- A text shows a key: behind blanks the word `bearer`, in any case, one space, and the key, perhaps
among further blanks. -/
def Bears (value key : String) : Prop :=
  ∃ blanks scheme rest : String, value = blanks ++ scheme ++ " " ++ rest
    ∧ (∀ c ∈ blanks.toList, Text.isBlank c = true)
    ∧ Text.equalsIgnoringCase scheme "bearer" = true
    ∧ key = Text.trim rest

/-- The word `bearer` holds no blank, however it is written. -/
theorem isBlank_of_bearer {scheme : String}
    (bearer : Text.equalsIgnoringCase scheme "bearer" = true) :
    ∀ c ∈ scheme.toList, ¬Text.isBlank c = true := by
  intro c mem blank
  have letters : c.toLower ∈ "bearer".toList.map Char.toLower := by
    rw [← eq_of_beq bearer]
    exact List.mem_map_of_mem mem
  have none : ("bearer".toList.map Char.toLower).any Text.isBlank = false := by decide
  rw [Text.toLower_of_isBlank blank] at letters
  exact List.any_eq_false.mp none c letters blank

/-- Behind the word `bearer` no blank is taken for one before it. -/
theorem dropWhile_bearer {scheme : String}
    (bearer : Text.equalsIgnoringCase scheme "bearer" = true) (behind : List Char) :
    (scheme.toList ++ behind).dropWhile Text.isBlank = scheme.toList ++ behind := by
  have nonblank := isBlank_of_bearer bearer
  have letters : scheme.toList.map Char.toLower = "bearer".toList.map Char.toLower :=
    eq_of_beq bearer
  cases eq : scheme.toList with
  | nil =>
    rw [eq] at letters
    cases letters
  | cons c rest =>
    rw [eq] at nonblank
    exact List.dropWhile_cons_of_neg (nonblank c List.mem_cons_self)

/-- The key that is taken out of a text is the one that it shows. -/
theorem bearerToken?_eq_some_iff {value key : String} :
    bearerToken? value = some key ↔ Bears value key := by
  unfold bearerToken? Text.trimStart
  rw [String.toList_ofList]
  dsimp only
  constructor
  · intro h
    split at h
    · cases h
    next space rest split =>
    split at h
    · next bearer =>
      cases h
      -- the word before the first space is the scheme, and the key stands behind that space
      have head := List.head?_dropWhile_not (· != ' ') (value.toList.dropWhile Text.isBlank)
      rw [split] at head
      have space : space = ' ' := by simpa using head
      have behind := List.takeWhile_append_dropWhile
        (p := (· != ' ')) (l := value.toList.dropWhile Text.isBlank)
      rw [split, space] at behind
      refine ⟨.ofList (value.toList.takeWhile Text.isBlank), _, .ofList rest, ?_, ?_, bearer, rfl⟩
      · rw [← String.toList_inj]
        simp only [String.toList_append, String.toList_ofList, List.append_assoc]
        exact List.takeWhile_append_dropWhile.symm.trans (congrArg _ behind.symm)
      · rw [String.toList_ofList]
        exact fun c mem => List.mem_takeWhile_imp mem
    · cases h
  · rintro ⟨blanks, scheme, rest, rfl, blank, bearer, rfl⟩
    -- the scheme holds no space, so the first one is where it is written
    have word : ∀ c ∈ scheme.toList, (c != ' ') = true := by
      intro c mem
      refine bne_iff_ne.mpr fun space => isBlank_of_bearer bearer c mem ?_
      rw [space]
      rfl
    have value : (blanks ++ scheme ++ " " ++ rest).toList
        = blanks.toList ++ (scheme.toList ++ ' ' :: rest.toList) := by
      simp [String.toList_append]
    rw [value, List.dropWhile_append_of_pos blank, dropWhile_bearer bearer,
      List.dropWhile_append_of_pos word, List.takeWhile_append_of_pos word,
      List.dropWhile_cons_of_neg (by decide), List.takeWhile_cons_of_neg (by decide)]
    simp [bearer]

/-- A tab before the word, any case, and further spaces do not matter, but there has to be a key. -/
example : bearerToken? "\t BEARER  sk-a " = some "sk-a" ∧ bearerToken? "bearer" = none := by
  decide

/-! ## The entrance -/

/-- Headers let a caller in: the first `Authorization` header can be read and shows its key. -/
def Enters (a : Authenticator) (now : Int) (headers : List (String × List UInt8))
    (caller : Caller) : Prop :=
  ∃ bytes key, Leads headers "authorization" bytes ∧ Readable bytes ∧ Bears (textOf bytes) key
    ∧ a.decide now key = .ok caller

/-- What is said against headers that let no caller in. -/
inductive TurnsAway (a : Authenticator) (now : Int) (headers : List (String × List UInt8)) :
    String → Prop where
  | missing (none : ∀ bytes, Leads headers "authorization" bytes → ¬Readable bytes) :
    TurnsAway a now headers "Missing authorization header"
  | foreign {bytes : List UInt8} (first : Leads headers "authorization" bytes)
    (readable : Readable bytes) (none : ∀ key, ¬Bears (textOf bytes) key) :
    TurnsAway a now headers "Invalid authorization header format"
  | refused {bytes : List UInt8} {key : String} {e : AuthError}
    (first : Leads headers "authorization" bytes) (readable : Readable bytes)
    (shown : Bears (textOf bytes) key) (refused : a.decide now key = .error e) :
    TurnsAway a now headers e.message

variable {a : Authenticator} {now : Int} {r : Request}

/-- The header of a request that counts, if it can be read. -/
theorem readable_header?_eq_some_iff {name value : String} :
    (r.header? name).bind readable? = some value
      ↔ ∃ bytes, Leads r.headers name bytes ∧ Readable bytes ∧ value = textOf bytes := by
  simp only [Option.bind_eq_some_iff, header?_eq_some_iff, readable?_eq_some_iff]

theorem readable_header?_of_readable {name : String} {bytes : List UInt8}
    (first : Leads r.headers name bytes) (readable : Readable bytes) :
    (r.header? name).bind readable? = some (textOf bytes) :=
  readable_header?_eq_some_iff.mpr ⟨bytes, first, readable, rfl⟩

/-- Without a header that can be read, nobody is let in. -/
theorem identify_of_missing
    (none : ∀ bytes, Leads r.headers "authorization" bytes → ¬Readable bytes) :
    identify a now r = .error (.unauthenticated "Missing authorization header") := by
  have unread : (r.header? "authorization").bind readable? = Option.none := by
    refine Option.eq_none_iff_forall_ne_some.mpr fun value read => ?_
    obtain ⟨bytes, first, readable, -⟩ := readable_header?_eq_some_iff.mp read
    exact none bytes first readable
  unfold identify
  rw [unread]

/-- A header that can be read but shows no key lets nobody in. -/
theorem identify_of_foreign {bytes : List UInt8} (first : Leads r.headers "authorization" bytes)
    (readable : Readable bytes) (none : ∀ key, ¬Bears (textOf bytes) key) :
    identify a now r = .error (.unauthenticated "Invalid authorization header format") := by
  have keyless : bearerToken? (textOf bytes) = Option.none :=
    Option.eq_none_iff_forall_ne_some.mpr fun key shown =>
      none key (bearerToken?_eq_some_iff.mp shown)
  unfold identify
  rw [readable_header?_of_readable first readable]
  dsimp only
  rw [keyless]

/-- The key that is shown is decided about. -/
theorem identify_of_shown {bytes : List UInt8} {key : String}
    (first : Leads r.headers "authorization" bytes) (readable : Readable bytes)
    (shown : Bears (textOf bytes) key) :
    identify a now r = (a.decide now key).mapError .ofAuth := by
  unfold identify
  rw [readable_header?_of_readable first readable]
  dsimp only
  rw [bearerToken?_eq_some_iff.mpr shown]

/-- Every request either lets a caller in or has something said against it. -/
theorem identify_cases (a : Authenticator) (now : Int) (r : Request) :
    (∃ caller, Enters a now r.headers caller ∧ identify a now r = .ok caller)
      ∨ ∃ message, TurnsAway a now r.headers message
        ∧ identify a now r = .error (.unauthenticated message) := by
  by_cases first : ∃ bytes, Leads r.headers "authorization" bytes ∧ Readable bytes
  · obtain ⟨bytes, first, readable⟩ := first
    by_cases shown : ∃ key, Bears (textOf bytes) key
    · obtain ⟨key, shown⟩ := shown
      have identified : identify a now r = (a.decide now key).mapError .ofAuth :=
        identify_of_shown first readable shown
      cases decided : a.decide now key with
      | ok caller =>
        rw [decided] at identified
        exact .inl ⟨caller, ⟨bytes, key, first, readable, shown, decided⟩, identified⟩
      | error e =>
        rw [decided] at identified
        exact .inr ⟨e.message, .refused first readable shown decided, identified⟩
    · have none := not_exists.mp shown
      exact .inr ⟨_, .foreign first readable none, identify_of_foreign first readable none⟩
  · have none : ∀ bytes, Leads r.headers "authorization" bytes → ¬Readable bytes :=
      fun bytes leads readable => first ⟨bytes, leads, readable⟩
    exact .inr ⟨_, .missing none, identify_of_missing none⟩

/-- The caller of a request is the one that its headers let in. -/
theorem identify_eq_ok_iff {caller : Caller} :
    identify a now r = .ok caller ↔ Enters a now r.headers caller := by
  constructor
  · intro identified
    rcases identify_cases a now r with ⟨caller', enters, eq⟩ | ⟨message, -, eq⟩
    · cases identified.symm.trans eq
      exact enters
    · cases identified.symm.trans eq
  · rintro ⟨bytes, key, first, readable, shown, decided⟩
    rw [identify_of_shown first readable shown, decided]
    rfl

/-- Nothing of a request but its headers has a part in who its caller is. -/
theorem identify_congr {r' : Request} (same : r.headers = r'.headers) :
    identify a now r = identify a now r' := by
  unfold identify Request.header?
  rw [same]

/-! ## Guarded routes -/

/-- The answer to requests that let no caller in. -/
def lockedOut (message : String) : Answer where
  status := 401
  headers := [("content-type", "application/json")]
  body := .whole (Text.bytesOf (Json.render (Json.ofPairs
    [("error", Json.ofPairs
      [("message", .string message), ("type", .string "authentication_error"), ("param", .null),
       ("code", .string "Unauthenticated")])])))

theorem ofError_unauthenticated (message : String) :
    Answer.ofError (.unauthenticated message) = lockedOut message := rfl

/-- A request for a guarded route. -/
structure Request.For (r : Request) (g : Guarded) (headers : List (String × List UInt8)) : Prop where
  method : r.method = g.method
  path : r.path = g.path
  headers : r.headers = headers

/-- What is answered at a guarded route is up to the entrance first. -/
theorem handle_of_guarded {g : Guarded} {headers : List (String × List UInt8)}
    (guarded : r.For g headers) (site : Site) (peer : Http.Peer) (times : Times) (st : State) :
    handle site peer times r st =
      match identify site.authenticator (inSeconds times.arrival) r with
      | .error e => (.ofError e, st)
      | .ok caller => serve site peer times g caller r st := by
  have notHead : (r.method == "HEAD") = false := by
    rw [guarded.method]
    cases g <;> decide
  have serves : (Route.guarded g).serves r.method = true := by
    rw [guarded.method, Route.serves_method]
  unfold handle
  rw [guarded.path, Route.ofPath?_path]
  dsimp only
  rw [serves, notHead]
  unfold answerAt
  dsimp only
  rw [serves]
  cases identify site.authenticator (inSeconds times.arrival) r <;> rfl

/--
What the headers of a request and the time of its arrival settle at every guarded route. Either they
let a caller in, and the route serves it; or no caller, and then there is one answer that does not
depend on the route, the rest of the request, the state and the gateway behind it, or on how
providers behave, and nothing is sent to them or changes.
-/
theorem shields_routes (a : Authenticator) (arrival : Nat)
    (headers : List (String × List UInt8)) :
    (∃ caller, Enters a (inSeconds arrival) headers caller
      ∧ ∀ (site : Site) (peer : Http.Peer) (times : Times) (g : Guarded) (r : Request) (st : State),
        site.authenticator = a → times.arrival = arrival → r.For g headers →
        handle site peer times r st = serve site peer times g caller r st)
    ∨ ∃ message, TurnsAway a (inSeconds arrival) headers message
      ∧ (∀ caller, ¬Enters a (inSeconds arrival) headers caller)
      ∧ ∀ (site : Site) (peer : Http.Peer) (times : Times) (g : Guarded) (r : Request) (st : State),
        site.authenticator = a → times.arrival = arrival → r.For g headers →
        handle site peer times r st = (lockedOut message, st) := by
  let bare : Request := { method := "GET", target := "", headers }
  rcases identify_cases a (inSeconds arrival) bare with ⟨caller, enters, identified⟩
    | ⟨message, against, identified⟩
  · refine .inl ⟨caller, enters, ?_⟩
    rintro site peer times g r st rfl rfl guarded
    have same : r.headers = bare.headers := guarded.headers
    rw [handle_of_guarded guarded, identify_congr same, identified]
  · refine .inr ⟨message, against, fun caller enters => ?_, ?_⟩
    · have admitted : identify a (inSeconds arrival) bare = .ok caller :=
        identify_eq_ok_iff.mpr enters
      cases identified.symm.trans admitted
    · rintro site peer times g r st rfl rfl guarded
      have same : r.headers = bare.headers := guarded.headers
      rw [handle_of_guarded guarded, identify_congr same, identified]
      exact congrArg (·, st) (ofError_unauthenticated message)

end InferenceGateway.Server
