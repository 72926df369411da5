import Mathlib
import InferenceGateway.Proofs.Auth.Book
import InferenceGateway.Proofs.Auth.Configured
import InferenceGateway.Proofs.Server.States

/-!
# Settings that a gateway starts from

Loaded settings are checked in several places before a gateway serves: records one after the other,
organizations, pins, the order of priority. Together these accept exactly the well-formed settings.
What the providers answer to the first listing has no part in it.

* `KeyEntry.exists_toRecord_iff`, `KeyBook.exists_ofEntries_iff`: the records that are accepted.
* `Config.Settings.WellFormed`: all that is asked of settings.
* `Config.Settings.withoutBlankKeys`: settings that lead to the same, with no key that is blank.
* `Server.startup_accepts_exactly`: who starts, and with which records.
-/

namespace InferenceGateway

/-! ## Names in the file -/

/-- All keys of an organization stand under names of providers, and so for all organizations. -/
theorem OrganizationKeys.exists_ofConfig_iff
    {organizations : List (String × List (String × String))} :
    (∃ keys, ofConfig organizations = .ok keys) ↔ ∀ o ∈ organizations, ProviderKeys.Known o.2 := by
  unfold ofConfig
  rw [exists_mapM_eq_ok_iff]
  refine forall₂_congr fun o _ => ?_
  rw [← ProviderKeys.exists_ofConfig_iff]
  dsimp only
  cases ProviderKeys.ofConfig o.2 with
  | error name => exact iff_of_false nofun nofun
  | ok keys => exact iff_of_true ⟨_, rfl⟩ ⟨keys, rfl⟩

/-- A pin can be read if it names a provider; its model may be anything. -/
theorem PinEntry.exists_toPin_iff {e : PinEntry} :
    (∃ pin, e.toPin = .ok pin) ↔ ∃ p, Provider.Named e.provider p := by
  simp only [← Provider.ofText_eq_ok_iff]
  unfold toPin
  cases Provider.ofText e.provider with
  | error name => exact iff_of_false nofun nofun
  | ok p => exact iff_of_true ⟨_, rfl⟩ ⟨p, rfl⟩

/-- An order can be read if all that stands in it are names, whichever are missing or repeated. -/
theorem Priority.exists_ofNames_iff {names : List String} :
    (∃ order, ofNames names = .ok order) ↔ ∀ name ∈ names, ∃ p, Provider.Named name p := by
  unfold ofNames
  simp only [exists_bind_eq_ok_iff, ← Provider.ofText_eq_ok_iff, ← exists_mapM_eq_ok_iff]
  exact exists_congr fun named => and_iff_left ⟨_, rfl⟩

/-! ## Records -/

/-- The last instant of an entry, if there is one, lies in the calendar. -/
def KeyEntry.EndsInCalendar (e : KeyEntry) : Prop :=
  ∀ t, e.expiresAt = some t → firstSecond ≤ t ∧ t ≤ lastSecond

/-- An entry can be typed if its keys and its end can. -/
theorem KeyEntry.exists_toRecord_iff {e : KeyEntry} :
    (∃ record, e.toRecord = .ok record)
      ↔ ProviderKeys.Known e.providerKeys ∧ e.EndsInCalendar := by
  rw [← ProviderKeys.exists_ofConfig_iff]
  unfold toRecord EndsInCalendar
  -- the keys are typed first, and the end is looked at only if that succeeds
  cases ProviderKeys.ofConfig e.providerKeys with
  | error name => exact iff_of_false nofun nofun
  | ok keys =>
    cases e.expiresAt with
    | none => exact iff_of_true ⟨_, rfl⟩ ⟨⟨keys, rfl⟩, nofun⟩
    | some t =>
      have bounds : inCalendar t = true ↔ firstSecond ≤ t ∧ t ≤ lastSecond := by
        unfold inCalendar
        rw [Bool.and_eq_true, decide_eq_true_iff, decide_eq_true_iff]
      simp only [Option.some.injEq, forall_eq', ← bounds]
      cases inCalendar t with
      | false => exact iff_of_false nofun nofun
      | true => exact iff_of_true ⟨_, rfl⟩ ⟨⟨keys, rfl⟩, rfl⟩

namespace KeyBook

/-- An entry can be added if it can be typed and its hash is new. -/
theorem add_of_new {book : KeyBook} {e : KeyEntry} {record : KeyRecord}
    (typed : e.toRecord = .ok record) (new : Text.lowerAscii e.hash ∉ book.map Prod.fst) :
    KeyBook.add book e = .ok (book ++ [(Text.lowerAscii e.hash, record)]) := by
  have missing : KeyBook.find? (Text.lowerAscii e.hash) book = none := by
    refine List.lookup_eq_none_iff.mpr fun b mem => ?_
    have other : Text.lowerAscii e.hash ≠ b.1 := by
      intro same
      exact new (same ▸ List.mem_map_of_mem mem)
    simpa using other
  unfold KeyBook.add
  rw [typed]
  simp only [bind, Except.bind, missing]
  rfl

/-- Entries with hashes of their own can be added to a book that holds none of these. -/
theorem exists_foldlM_add {entries : List KeyEntry} (typed : ∀ e ∈ entries, ∃ r, e.toRecord = .ok r)
    {book : KeyBook}
    (distinct : (book.map Prod.fst ++ entries.map fun e => Text.lowerAscii e.hash).Nodup) :
    ∃ book', entries.foldlM KeyBook.add book = .ok book' := by
  induction entries generalizing book with
  | nil => exact ⟨book, rfl⟩
  | cons e rest ih =>
    obtain ⟨⟨record, own⟩, typed⟩ := List.forall_mem_cons.mp typed
    rw [List.map_cons] at distinct
    have new : Text.lowerAscii e.hash ∉ book.map Prod.fst := by
      intro mem
      exact (List.nodup_append.mp distinct).2.2 _ mem _ List.mem_cons_self rfl
    -- the hash moves from the entries to the end of the book
    rw [List.append_cons] at distinct
    have grown : ((book ++ [(Text.lowerAscii e.hash, record)]).map Prod.fst
        ++ rest.map fun e => Text.lowerAscii e.hash).Nodup := by
      rw [List.map_append]
      exact distinct
    obtain ⟨book', added⟩ := ih typed grown
    refine ⟨book', ?_⟩
    rw [List.foldlM_cons, add_of_new own new]
    exact added

/-- A book can be built of entries that can be typed and have hashes of their own, and no others. -/
theorem exists_ofEntries_iff {entries : List KeyEntry} :
    (∃ book, ofEntries entries = .ok book)
      ↔ (∀ e ∈ entries, ∃ record, e.toRecord = .ok record)
        ∧ (entries.map fun e => Text.lowerAscii e.hash).Nodup := by
  constructor
  · rintro ⟨book, built⟩
    have records := records_of_ofEntries built
    constructor
    -- each entry is alone under its hash, so the record found there is its own
    · intro e mem
      obtain ⟨record, typed, -⟩ := records.find?_of_only (records.entriesOf_eq_singleton mem)
      exact ⟨record, typed⟩
    · rw [← records.hashes]
      exact records.distinct
  · rintro ⟨typed, distinct⟩
    exact exists_foldlM_add typed distinct

end KeyBook

/-! ## Blank keys -/

namespace ProviderKeys

/-- The pairs whose keys are not blank. -/
def withoutBlank (pairs : List (String × String)) : List (String × String) :=
  pairs.filter fun pair => !Text.isBlankText pair.2

/-- Reading keys passes over blank ones, so that they may as well be left out. -/
theorem ofConfig_withoutBlank (pairs : List (String × String)) :
    ofConfig (withoutBlank pairs) = ofConfig pairs := by
  unfold ofConfig withoutBlank
  rw [List.filter_filter]
  simp only [Bool.and_self]

end ProviderKeys

/-- An entry without its blank keys. -/
def KeyEntry.withoutBlankKeys (e : KeyEntry) : KeyEntry :=
  { e with providerKeys := ProviderKeys.withoutBlank e.providerKeys }

theorem KeyEntry.toRecord_withoutBlankKeys (e : KeyEntry) :
    e.withoutBlankKeys.toRecord = e.toRecord := by
  unfold toRecord withoutBlankKeys
  rw [ProviderKeys.ofConfig_withoutBlank]

/-- A book of entries is the same without their blank keys, and so is what refuses them. -/
theorem KeyBook.ofEntries_withoutBlankKeys (entries : List KeyEntry) :
    ofEntries (entries.map KeyEntry.withoutBlankKeys) = ofEntries entries := by
  unfold ofEntries
  rw [List.foldlM_map]
  -- what is added is the record of an entry under its hash, and neither shows blank keys
  congr 1
  funext book e
  unfold KeyBook.add
  rw [KeyEntry.toRecord_withoutBlankKeys]
  rfl

theorem OrganizationKeys.ofConfig_withoutBlank
    (organizations : List (String × List (String × String))) :
    ofConfig (organizations.map fun o => (o.1, ProviderKeys.withoutBlank o.2))
      = ofConfig organizations := by
  unfold ofConfig
  rw [List.mapM_map]
  simp only [Function.comp_def, ProviderKeys.ofConfig_withoutBlank]

namespace Config.Settings

/-- Settings without the blank keys of records and organizations. -/
def withoutBlankKeys (s : Settings) : Settings :=
  { s with
    file := { s.file with
      apiKeys := s.file.apiKeys.map KeyEntry.withoutBlankKeys
      organizations :=
        s.file.organizations.map fun o => (o.1, ProviderKeys.withoutBlank o.2) } }

/-- What is asked of settings for a gateway to start. -/
structure WellFormed (s : Settings) : Prop where
  recordKeys : ∀ e ∈ s.file.apiKeys, ProviderKeys.Known e.providerKeys
  ends : ∀ e ∈ s.file.apiKeys, e.EndsInCalendar
  /-- Hashes differ, and not by the case of their letters. -/
  hashes : (s.file.apiKeys.map fun e => Text.lowerAscii e.hash).Nodup
  organizationKeys : ∀ o ∈ s.file.organizations, ProviderKeys.Known o.2
  pins : ∀ pin ∈ s.file.pins, ∃ p, Provider.Named pin.provider p
  priority : ∀ name ∈ s.listing.priority, ∃ p, Provider.Named name p

end Config.Settings

/-! ## Starting -/

namespace Server

open Config (Settings)

/-- Callers can be let in if all records can be typed and no two have one hash. -/
theorem exists_authenticatorOf_iff {s : Settings} :
    (∃ a, authenticatorOf s = .ok a)
      ↔ (∀ e ∈ s.file.apiKeys, ProviderKeys.Known e.providerKeys ∧ e.EndsInCalendar)
        ∧ (s.file.apiKeys.map fun e => Text.lowerAscii e.hash).Nodup := by
  unfold authenticatorOf
  simp only [← KeyEntry.exists_toRecord_iff, ← KeyBook.exists_ofEntries_iff, exists_bind_eq_ok_iff,
    mapError_eq_ok_iff]
  exact exists_congr fun book => and_iff_left ⟨_, rfl⟩

/-- A gateway can be made if organizations, pins and the order name only providers that there are.
-/
theorem exists_gatewayOf_iff {s : Settings} {clients : List Client} :
    (∃ g, gatewayOf s clients = .ok g)
      ↔ (∀ o ∈ s.file.organizations, ProviderKeys.Known o.2)
        ∧ (∀ pin ∈ s.file.pins, ∃ p, Provider.Named pin.provider p)
        ∧ ∀ name ∈ s.listing.priority, ∃ p, Provider.Named name p := by
  unfold gatewayOf
  simp only [← OrganizationKeys.exists_ofConfig_iff, ← PinEntry.exists_toPin_iff,
    ← exists_mapM_eq_ok_iff, ← Priority.exists_ofNames_iff, exists_bind_eq_ok_iff,
    mapError_eq_ok_iff]
  -- the three parts are read one after the other, and none looks at what another has read
  constructor
  · rintro ⟨organizations, organized, pins, pinned, order, ordered, -⟩
    exact ⟨⟨organizations, organized⟩, ⟨pins, pinned⟩, ⟨order, ordered⟩⟩
  · rintro ⟨⟨organizations, organized⟩, ⟨pins, pinned⟩, ⟨order, ordered⟩⟩
    exact ⟨organizations, organized, pins, pinned, order, ordered, _, rfl⟩

/-- The two parts of what is asked of settings. -/
theorem wellFormed_iff {s : Settings} (clients : List Client) :
    ((∃ a, authenticatorOf s = .ok a) ∧ ∃ g, gatewayOf s clients = .ok g) ↔ s.WellFormed := by
  rw [exists_authenticatorOf_iff, exists_gatewayOf_iff]
  constructor
  · rintro ⟨⟨records, hashes⟩, organizationKeys, pins, priority⟩
    exact ⟨fun e mem => (records e mem).1, fun e mem => (records e mem).2, hashes,
      organizationKeys, pins, priority⟩
  · rintro ⟨recordKeys, ends, hashes, organizationKeys, pins, priority⟩
    exact ⟨⟨fun e mem => ⟨recordKeys e mem, ends e mem⟩, hashes⟩, organizationKeys, pins, priority⟩

/-- The first listing never stands in the way. -/
theorem exists_boot_iff {s : Settings} {clients : List Client} {ended : Nat}
    {answers : List (Provider × ListingAnswer)} :
    (∃ up, boot s clients ended answers = .ok up) ↔ ∃ g, gatewayOf s clients = .ok g := by
  unfold boot
  rw [exists_bind_eq_ok_iff]
  exact exists_congr fun g => and_iff_left ⟨_, rfl⟩

/-- Other answers to the first listing lead to the same gateway. -/
theorem exists_boot_eq_ok {s : Settings} {clients : List Client} {ended : Nat}
    {answers : List (Provider × ListingAnswer)} {g : Gateway} {snapshot : Snapshot}
    (h : boot s clients ended answers = .ok (g, snapshot)) (ended' : Nat)
    (answers' : List (Provider × ListingAnswer)) :
    ∃ snapshot', boot s clients ended' answers' = .ok (g, snapshot') := by
  unfold boot at h ⊢
  obtain ⟨g', gateway, ⟨⟩⟩ := bind_eq_ok_iff.mp h
  rw [gateway]
  exact ⟨_, rfl⟩

/-- A gateway starts exactly from well-formed settings, whatever is behind its clients. -/
theorem exists_launch_iff {s : Settings} {peer : Http.Peer} {now : Nat} :
    (∃ up, launch s peer now = .ok up) ↔ s.WellFormed := by
  rw [← wellFormed_iff ((remotesOf s).map Client.Remote.toClient)]
  unfold launch Site.ofSettings
  simp only [exists_bind_eq_ok_iff]
  constructor
  · rintro ⟨site, made, -⟩
    obtain ⟨a, authenticator, later⟩ := exists_bind_eq_ok_iff.mp ⟨site, made⟩
    obtain ⟨g, gateway, -⟩ := exists_bind_eq_ok_iff.mp later
    exact ⟨⟨a, authenticator⟩, g, gateway⟩
  · rintro ⟨⟨a, authenticator⟩, g, gateway⟩
    rw [authenticator, gateway]
    exact ⟨_, rfl, _, rfl⟩

/-- Starting with the clients that the settings configure is a case of starting with any clients. -/
theorem boot_of_launch {s : Settings} {peer : Http.Peer} {now : Nat} {site : Site} {st : State}
    (h : launch s peer now = .ok (site, st)) :
    authenticatorOf s = .ok site.authenticator
      ∧ ∃ ended answers, boot s (site.remotes.map Client.Remote.toClient) ended answers
        = .ok (site.gateway, st.snapshot) := by
  unfold launch at h
  obtain ⟨site', made, ⟨⟩⟩ := bind_eq_ok_iff.mp h
  obtain ⟨authenticator, -, gateway, limit⟩ := Site.parts_of_ofSettings made
  -- what the clients of the site answer is one of the lists of answers that a boot may get
  let answers := (listAll site peer site.gateway.registry.providers {}).1
  let ended := roundEnd site.listingLimit (inMilliseconds now) (answers.map Prod.snd)
  refine ⟨authenticator, ended, answers, ?_⟩
  unfold boot
  rw [gateway, ← limit]
  rfl

/-- What lets callers in holds one record for each entry, and finds it under the hash of the entry. -/
theorem of_authenticatorOf {s : Settings} {a : Authenticator} (h : authenticatorOf s = .ok a) :
    a.secret = s.secret
      ∧ (∃ book, a.store = book.store ∧ KeyBook.Records s.file.apiKeys book)
      ∧ ∀ e ∈ s.file.apiKeys, ∃ record, e.toRecord = .ok record
        ∧ a.store (Text.lowerAscii e.hash) = .ok (some record) := by
  unfold authenticatorOf at h
  simp only [bind_eq_ok_iff, mapError_eq_ok_iff] at h
  obtain ⟨book, built, ⟨⟩⟩ := h
  have records := KeyBook.records_of_ofEntries built
  refine ⟨rfl, ⟨book, rfl, records⟩, fun e mem => ?_⟩
  obtain ⟨record, typed, found⟩ := records.find?_of_only (records.entriesOf_eq_singleton mem)
  exact ⟨record, typed, congrArg Except.ok found⟩

/-- Blank keys have no part in what lets callers in. -/
theorem authenticatorOf_withoutBlankKeys (s : Settings) :
    authenticatorOf s.withoutBlankKeys = authenticatorOf s := by
  unfold authenticatorOf Config.Settings.withoutBlankKeys
  simp only [KeyBook.ofEntries_withoutBlankKeys]

theorem gatewayOf_withoutBlankKeys (s : Settings) (clients : List Client) :
    gatewayOf s.withoutBlankKeys clients = gatewayOf s clients := by
  unfold gatewayOf Config.Settings.withoutBlankKeys
  simp only [OrganizationKeys.ofConfig_withoutBlank]
  rfl

theorem boot_withoutBlankKeys (s : Settings) (clients : List Client) (ended : Nat)
    (answers : List (Provider × ListingAnswer)) :
    boot s.withoutBlankKeys clients ended answers = boot s clients ended answers := by
  unfold boot
  rw [gatewayOf_withoutBlankKeys]
  rfl

theorem Site.ofSettings_withoutBlankKeys (s : Settings) :
    Site.ofSettings s.withoutBlankKeys = Site.ofSettings s := by
  unfold Site.ofSettings
  simp only [authenticatorOf_withoutBlankKeys, gatewayOf_withoutBlankKeys]
  rfl

/-- Blank keys have no part in starting. -/
theorem launch_withoutBlankKeys (s : Settings) (peer : Http.Peer) (now : Nat) :
    launch s.withoutBlankKeys peer now = launch s peer now := by
  unfold launch
  rw [Site.ofSettings_withoutBlankKeys]

/--
Which settings a gateway starts from. For any clients, the records and the rest of the file are
accepted exactly if the settings are well-formed, whatever the clients answer to the first listing
and whenever that ends; the gateway is then the same for all answers. The clients that the settings
themselves configure are a case of this, whatever is behind them. Keys that are blank have no part in
anything that settings lead to. What lets callers in, if it is accepted, holds one record for each
entry, which is found under the hash of the entry and nowhere else.
-/
theorem startup_accepts_exactly (s : Settings) :
    (∀ clients ended answers,
      (∃ a, authenticatorOf s = .ok a) ∧ (∃ up, boot s clients ended answers = .ok up)
        ↔ s.WellFormed)
    ∧ (∀ clients g ended ended' answers answers' snapshot,
        boot s clients ended answers = .ok (g, snapshot) →
          ∃ snapshot', boot s clients ended' answers' = .ok (g, snapshot'))
    ∧ (∀ peer now, (∃ up, launch s peer now = .ok up) ↔ s.WellFormed)
    ∧ (∀ peer now site st, launch s peer now = .ok (site, st) →
        authenticatorOf s = .ok site.authenticator
        ∧ ∃ ended answers, boot s (site.remotes.map Client.Remote.toClient) ended answers
          = .ok (site.gateway, st.snapshot))
    ∧ authenticatorOf s.withoutBlankKeys = authenticatorOf s
    ∧ (∀ clients ended answers,
        boot s.withoutBlankKeys clients ended answers = boot s clients ended answers)
    ∧ (∀ peer now, launch s.withoutBlankKeys peer now = launch s peer now)
    ∧ ∀ a, authenticatorOf s = .ok a →
        a.secret = s.secret
        ∧ (∃ book, a.store = book.store ∧ KeyBook.Records s.file.apiKeys book)
        ∧ ∀ e ∈ s.file.apiKeys, ∃ record, e.toRecord = .ok record
          ∧ a.store (Text.lowerAscii e.hash) = .ok (some record) := by
  refine ⟨?_, ?_, fun peer now => exists_launch_iff, fun peer now site st h => boot_of_launch h,
    authenticatorOf_withoutBlankKeys s, boot_withoutBlankKeys s, launch_withoutBlankKeys s,
    fun a h => of_authenticatorOf h⟩
  · intro clients ended answers
    rw [exists_boot_iff]
    exact wellFormed_iff clients
  · intro clients g ended ended' answers answers' snapshot h
    exact exists_boot_eq_ok h ended' answers'

/-- A gateway starts although no provider lists its models, with names in any case, an entry that
ends with the calendar and a blank key for nobody. -/
theorem starts_without_models :
    let s : Settings :=
      { host := "localhost", port := 8080, jan := none, openRouter := { baseUrl := "http://or" }
        gemini := { baseUrl := "http://gem" }, timeouts := .standard
        listing := { Config.ListingSettings.standard with priority := [" Gemini"] }
        logging := .standard, secret := "s"
        file :=
          { apiKeys :=
              [{ hash := "0A", callerId := "alice", expiresAt := some lastSecond
                 providerKeys := [("nobody", " "), (" JAN ", "k")] }, { hash := "0b", callerId := "bob" }]
            organizations := [("org", [("openRouter", "o"), ("", "")])]
            pins := [{ model := "m", provider := "jan ", providerId := "up" }] } }
    let clients : List Client := [⟨.openRouter, true⟩, ⟨.gemini, true⟩]
    let down : List (Provider × ListingAnswer) :=
      [(.openRouter, { result := .error (.unreachable .openRouter "down") }),
        (.gemini, { result := .error (.timedOut .gemini "listing") })]
    s.WellFormed
    ∧ (∃ g snapshot, boot s clients 5000 down = .ok (g, snapshot)
        ∧ (∀ p, snapshot.retained.get p = [])
        ∧ boot s.withoutBlankKeys clients 5000 down = .ok (g, snapshot))
    ∧ ∃ a record, authenticatorOf s = .ok a ∧ a.store "0a" = .ok (some record)
        ∧ record.caller.id = "alice" := by
  intro s clients down
  obtain ⟨accepts, -, -, -, -, blank, -, loaded⟩ := startup_accepts_exactly s
  have records : ∃ a, authenticatorOf s = .ok a := ⟨_, rfl⟩
  -- the boot is run; that the settings are well-formed follows from it, and not the other way
  have serves : ∃ up, boot s clients 5000 down = .ok up ∧ ∀ p, up.2.retained.get p = [] := by
    refine ⟨_, rfl, fun p => ?_⟩
    cases p <;> rfl
  obtain ⟨⟨g, snapshot⟩, up, empty⟩ := serves
  obtain ⟨a, made⟩ := records
  refine ⟨(accepts clients 5000 down).mp ⟨⟨a, made⟩, _, up⟩, ⟨g, snapshot, up, empty, ?_⟩, ?_⟩
  · rw [blank, up]
  · obtain ⟨-, -, finds⟩ := loaded a made
    obtain ⟨record, typed, found⟩ := finds _ List.mem_cons_self
    exact ⟨a, record, made, found, (KeyEntry.of_toRecord_eq_ok typed).1⟩

end Server

end InferenceGateway
