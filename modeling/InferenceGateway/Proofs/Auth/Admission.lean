import Mathlib
import InferenceGateway.Auth.Decision
import InferenceGateway.Proofs.Auth.Book

/-!
# Who is let in, exactly

A token is let in for one entry of the configuration and no other, and a token that is not let in is
refused for the first reason against it.

* `Auth.WellFormed`: the form of a gateway key.
* `KeyEntry.EndedBy`: whether an entry has ended.
* `Auth.Admits`: what there must be for a token to be let in.
* `Auth.Refuses`: the reasons against a token, each where no earlier one applies.
* `Authenticator.decides_exactly`: the decision is no other than these, and the store has no part in
  it but for one look-up of a well-formed token.
-/

namespace InferenceGateway

/-- What is left behind a start is the rest of the text. -/
theorem Text.dropStart?_eq_some_iff {start s rest : String} :
    Text.dropStart? start s = some rest ↔ s = start ++ rest := by
  unfold Text.dropStart?
  constructor
  · intro h
    split at h
    · next behind =>
      cases h
      obtain ⟨tail, eq⟩ := List.isPrefixOf_iff_prefix.mp behind
      rw [← String.toList_inj, String.toList_append, String.toList_ofList, ← eq,
        List.drop_left]
    · cases h
  · rintro rfl
    rw [String.toList_append, if_pos (List.isPrefixOf_iff_prefix.mpr (List.prefix_append _ _)),
      List.drop_left, String.ofList_toList]

namespace Auth

/-- The form of a gateway key: the mark, and at least one character behind it, all of them visible
ASCII. -/
def WellFormed (token : String) : Prop :=
  ∃ rest : String, token = "sk-" ++ rest ∧ rest ≠ "" ∧ ∀ c ∈ rest.toList, '!' ≤ c ∧ c ≤ '~'

theorem isVisibleAscii_iff {c : Char} : Text.isVisibleAscii c = true ↔ '!' ≤ c ∧ c ≤ '~' := by
  unfold Text.isVisibleAscii
  rw [Bool.and_eq_true, decide_eq_true_eq, decide_eq_true_eq]
  rfl

/-- A token is a key if it is well-formed. -/
theorem isKey_iff {token : String} : isKey token = true ↔ WellFormed token := by
  unfold isKey WellFormed
  cases behind : Text.dropStart? keyMark token with
  | none =>
    refine ⟨nofun, fun ⟨rest, eq, _⟩ => ?_⟩
    cases behind.symm.trans (Text.dropStart?_eq_some_iff.mpr eq)
  | some rest =>
    have eq := Text.dropStart?_eq_some_iff.mp behind
    have visible : rest.toList.all Text.isVisibleAscii = true
        ↔ ∀ c ∈ rest.toList, '!' ≤ c ∧ c ≤ '~' := by
      simp only [List.all_eq_true, isVisibleAscii_iff]
    have filled : (!rest.isEmpty) = true ↔ rest ≠ "" := by
      simp
    dsimp only
    rw [Bool.and_eq_true, filled, visible]
    constructor
    · exact fun h => ⟨rest, eq, h⟩
    · rintro ⟨rest', eq', h⟩
      cases behind.symm.trans (Text.dropStart?_eq_some_iff.mpr eq')
      exact h

theorem WellFormed.ne_empty {token : String} (h : WellFormed token) : token ≠ "" := by
  obtain ⟨rest, rfl, -⟩ := h
  simp

end Auth

/-- Whether an entry has ended at a time, in nanoseconds since 1970: its last instant has come. -/
def KeyEntry.EndedBy (e : KeyEntry) (now : Int) : Prop :=
  ∃ t, e.expiresAt = some t ∧ t * 1000000000 ≤ now

/-- The whole seconds of a time in nanoseconds. -/
def wholeSeconds (now : Int) : Int :=
  now / 1000000000

/-- Parts of a second have no part in whether a record has ended. -/
theorem KeyRecord.isExpired_iff {e : KeyEntry} {record : KeyRecord}
    (same : record.expiresAt = e.expiresAt) (now : Int) :
    record.isExpired (wholeSeconds now) = true ↔ e.EndedBy now := by
  unfold isExpired KeyEntry.EndedBy wholeSeconds
  rw [same]
  cases e.expiresAt with
  | none => simp
  | some t =>
    simp only [decide_eq_true_eq, Option.some.injEq, exists_eq_left']
    omega

namespace Auth

/-- What there is for a trimmed token to be let in for an entry. -/
structure Admits (entries : List KeyEntry) (secret : String) (now : Int) (token : String)
    (e : KeyEntry) : Prop where
  wellFormed : WellFormed token
  /-- There is no other entry under the hash of the token. -/
  only : KeyBook.entriesOf (keyHash secret token) entries = [e]
  enabled : e.enabled = true
  lasting : ¬e.EndedBy now

/-- The reasons against a trimmed token. -/
inductive Refuses (entries : List KeyEntry) (secret : String) (now : Int) (token : String) :
    AuthError → Prop where
  | missing (blank : token = "") : Refuses entries secret now token .missingKey
  | malformed (filled : token ≠ "") (malformed : ¬WellFormed token) :
    Refuses entries secret now token .malformedKey
  | unknown (wellFormed : WellFormed token)
    (none : KeyBook.entriesOf (keyHash secret token) entries = []) :
    Refuses entries secret now token .unknownKey
  | disabled {e : KeyEntry} (wellFormed : WellFormed token)
    (only : KeyBook.entriesOf (keyHash secret token) entries = [e]) (disabled : e.enabled = false) :
    Refuses entries secret now token .disabled
  | expired {e : KeyEntry} (wellFormed : WellFormed token)
    (only : KeyBook.entriesOf (keyHash secret token) entries = [e]) (enabled : e.enabled = true)
    (ended : e.EndedBy now) : Refuses entries secret now token .expired

end Auth

namespace Authenticator

/-! ## The decision, case by case -/

variable {a : Authenticator} {now : Int} {token : String}

/-- A blank token counts as none. -/
theorem decide_of_blank (blank : Text.trim token = "") :
    a.decide now token = .error .missingKey := by
  unfold decide
  simp only [blank]
  rfl

/-- A token of another form is refused before anything is looked up. -/
theorem decide_of_malformed (filled : Text.trim token ≠ "")
    (malformed : ¬Auth.WellFormed (Text.trim token)) :
    a.decide now token = .error .malformedKey := by
  have empty : (Text.trim token).isEmpty = false := by simpa using filled
  have key : Auth.isKey (Text.trim token) = false := by
    rw [← Bool.not_eq_true, Auth.isKey_iff]
    exact malformed
  unfold decide
  simp only [empty, key]
  rfl

/-- The record that a store has found, or none, is judged at a time in seconds. -/
def judge (now : Int) : Option KeyRecord → Except AuthError Caller
  | none => .error .unknownKey
  | some record =>
    if record.enabled = false then .error .disabled
    else if record.isExpired now = true then .error .expired
    else .ok record.caller

theorem judge_some (now : Int) (record : KeyRecord) : judge now (some record)
    = if record.enabled = false then .error .disabled
      else if record.isExpired now = true then .error .expired
      else .ok record.caller := rfl

/-- Of a well-formed token the hash is looked up, and what is found is judged. -/
theorem decide_of_wellFormed (wellFormed : Auth.WellFormed (Text.trim token)) :
    a.decide now token = a.store (Auth.keyHash a.secret (Text.trim token)) >>= judge now := by
  have empty : (Text.trim token).isEmpty = false := by simpa using wellFormed.ne_empty
  have key : Auth.isKey (Text.trim token) = true := Auth.isKey_iff.mpr wellFormed
  unfold decide
  simp only [empty, key]
  cases a.store (Auth.keyHash a.secret (Text.trim token)) with
  | error e => rfl
  | ok found =>
    cases found with
    | none => rfl
    | some record =>
      obtain ⟨caller, enabled, expiresAt⟩ := record
      cases enabled with
      | false => rfl
      | true =>
        unfold judge
        cases ended : KeyRecord.isExpired ⟨caller, true, expiresAt⟩ now <;>
          simp only [bind, Except.bind, ended] <;> rfl

/-- The store has no part in the decision but for the look-up of a well-formed token. -/
theorem decide_eq_of_store_eq {secret : String} {store store' : KeyStore}
    (same : Auth.WellFormed (Text.trim token) →
      store (Auth.keyHash secret (Text.trim token))
        = store' (Auth.keyHash secret (Text.trim token))) :
    (Authenticator.mk secret store).decide now token
      = (Authenticator.mk secret store').decide now token := by
  by_cases wellFormed : Auth.WellFormed (Text.trim token)
  · rw [decide_of_wellFormed wellFormed, decide_of_wellFormed wellFormed]
    exact congrArg (· >>= judge now) (same wellFormed)
  · by_cases blank : Text.trim token = ""
    · rw [decide_of_blank blank, decide_of_blank blank]
    · rw [decide_of_malformed blank wellFormed, decide_of_malformed blank wellFormed]

/-! ## The decision over a book -/

variable {entries : List KeyEntry} {book : KeyBook} {secret : String}

/-- A well-formed token is judged by the record under its hash. -/
theorem decide_store (wellFormed : Auth.WellFormed (Text.trim token)) :
    (Authenticator.mk secret book.store).decide now token
      = judge now (KeyBook.find? (Auth.keyHash secret (Text.trim token)) book) :=
  decide_of_wellFormed wellFormed

/-- Where there is a reason against a token it is refused for it. -/
theorem decide_of_refuses (loaded : KeyBook.Records entries book) {fault : AuthError}
    (h : Auth.Refuses entries secret now (Text.trim token) fault) :
    (Authenticator.mk secret book.store).decide (wholeSeconds now) token = .error fault := by
  cases h with
  | missing blank => exact decide_of_blank blank
  | malformed filled malformed => exact decide_of_malformed filled malformed
  | unknown wellFormed none =>
    rw [decide_store wellFormed, loaded.find?_of_none none]
    rfl
  | disabled wellFormed only disabled =>
    obtain ⟨record, typed, found⟩ := loaded.find?_of_only only
    obtain ⟨-, -, -, same, -⟩ := KeyEntry.of_toRecord_eq_ok typed
    rw [decide_store wellFormed, found, judge_some, if_pos (same.trans disabled)]
  | expired wellFormed only enabled ended =>
    obtain ⟨record, typed, found⟩ := loaded.find?_of_only only
    obtain ⟨-, -, -, same, sameEnd⟩ := KeyEntry.of_toRecord_eq_ok typed
    have on : ¬record.enabled = false := by rw [same, enabled]; exact Bool.noConfusion
    have past := (KeyRecord.isExpired_iff sameEnd now).mpr ended
    rw [decide_store wellFormed, found, judge_some, if_neg on, if_pos past]

/-- Where there is all that there must be for a token, the caller of its entry is let in. -/
theorem decide_of_admits (loaded : KeyBook.Records entries book) {e : KeyEntry}
    (h : Auth.Admits entries secret now (Text.trim token) e) :
    ∃ caller, (Authenticator.mk secret book.store).decide (wholeSeconds now) token = .ok caller
      ∧ caller.id = e.callerId ∧ caller.organization = e.organization
      ∧ ∀ p, caller.keys.find? p = ProviderKeys.configured p e.providerKeys := by
  obtain ⟨record, typed, found⟩ := loaded.find?_of_only h.only
  obtain ⟨id, organization, keys, same, sameEnd⟩ := KeyEntry.of_toRecord_eq_ok typed
  refine ⟨record.caller, ?_, id, organization, keys⟩
  have on : ¬record.enabled = false := by rw [same, h.enabled]; exact Bool.noConfusion
  have lasting := mt (KeyRecord.isExpired_iff sameEnd now).mp h.lasting
  rw [decide_store h.wellFormed, found, judge_some, if_neg on, if_neg lasting]

end Authenticator

/-- There is a reason against a token, or an entry that it is let in for. -/
theorem Auth.refuses_or_admits {entries : List KeyEntry} {book : KeyBook}
    (loaded : KeyBook.Records entries book) (secret : String) (now : Int) (token : String) :
    (∃ fault, Refuses entries secret now token fault) ∨ ∃ e, Admits entries secret now token e := by
  by_cases blank : token = ""
  · exact .inl ⟨_, .missing blank⟩
  by_cases wellFormed : WellFormed token
  · rcases loaded.find?_cases (keyHash secret token) with ⟨e, -, only, -⟩ | ⟨none, -⟩
    · by_cases enabled : e.enabled = true
      · by_cases ended : e.EndedBy now
        · exact .inl ⟨_, .expired wellFormed only enabled ended⟩
        · exact .inr ⟨e, wellFormed, only, enabled, ended⟩
      · exact .inl ⟨_, .disabled wellFormed only (Bool.eq_false_iff.mpr enabled)⟩
    · exact .inl ⟨_, .unknown wellFormed none⟩
  · exact .inl ⟨_, .malformed blank wellFormed⟩

/--
The decision about a token, over the records of any configuration that is accepted, under any secret
and at any time in nanoseconds. Someone is let in exactly for a trimmed token of the right form whose
hash is that of an entry in lower case, which is enabled and ends strictly later, if ever; the entry
is then the only one of its hash, and the caller is the one that it names, with its keys. Any other
token is refused for the first reason against it. Whatever else a store holds has no part in the
decision: all that is looked up is the hash of a well-formed token.
-/
theorem Authenticator.decides_exactly {entries : List KeyEntry} {book : KeyBook}
    (accepted : KeyBook.ofEntries entries = .ok book) (secret token : String) (now : Int) :
    let key := Text.trim token
    let hash := Auth.keyHash secret key
    let answer := (Authenticator.mk secret book.store).decide (wholeSeconds now) token
    ((∃ caller, answer = .ok caller) ↔ Auth.WellFormed key ∧ ∃ e ∈ entries,
        Text.lowerAscii e.hash = hash ∧ e.enabled = true ∧ ¬e.EndedBy now)
    ∧ (∀ e ∈ entries, Text.lowerAscii e.hash = hash →
        entries.filter (fun e => Text.lowerAscii e.hash = hash) = [e])
    ∧ (∀ caller, answer = .ok caller → ∃ e, Auth.Admits entries secret now key e
        ∧ caller.id = e.callerId ∧ caller.organization = e.organization
        ∧ ∀ p, caller.keys.find? p = ProviderKeys.configured p e.providerKeys)
    ∧ (∀ fault, answer = .error fault ↔ Auth.Refuses entries secret now key fault)
    ∧ ∀ store : KeyStore, (Auth.WellFormed key → store hash = book.store hash) →
        (Authenticator.mk secret store).decide (wholeSeconds now) token = answer := by
  intro key hash answer
  have loaded := KeyBook.records_of_ofEntries accepted
  -- each token is refused for one reason or admitted by one entry, and the two exclude each other
  have either := Auth.refuses_or_admits loaded secret now key
  refine ⟨⟨?_, ?_⟩, ?_, ?_, fun fault => ⟨?_, ?_⟩, ?_⟩
  · rintro ⟨caller, ok⟩
    rcases either with ⟨fault, refuses⟩ | ⟨e, admits⟩
    · cases ok.symm.trans (decide_of_refuses loaded refuses)
    · have mem : e ∈ KeyBook.entriesOf hash entries := by
        rw [admits.only]
        exact List.mem_singleton_self e
      obtain ⟨mem, same⟩ := List.mem_filter.mp mem
      exact ⟨admits.wellFormed, e, mem, of_decide_eq_true same, admits.enabled, admits.lasting⟩
  · rintro ⟨wellFormed, e, mem, same, enabled, lasting⟩
    have only : KeyBook.entriesOf hash entries = [e] := same ▸ loaded.entriesOf_eq_singleton mem
    obtain ⟨caller, ok, -⟩ := decide_of_admits loaded ⟨wellFormed, only, enabled, lasting⟩
    exact ⟨caller, ok⟩
  · intro e mem same
    exact same ▸ loaded.entriesOf_eq_singleton mem
  · intro caller ok
    rcases either with ⟨fault, refuses⟩ | ⟨e, admits⟩
    · cases ok.symm.trans (decide_of_refuses loaded refuses)
    · obtain ⟨caller', ok', named⟩ := decide_of_admits loaded admits
      cases ok.symm.trans ok'
      exact ⟨e, admits, named⟩
  · intro failed
    rcases either with ⟨fault', refuses⟩ | ⟨e, admits⟩
    · cases failed.symm.trans (decide_of_refuses loaded refuses)
      exact refuses
    · obtain ⟨caller, ok, -⟩ := decide_of_admits loaded admits
      cases failed.symm.trans ok
  · exact decide_of_refuses loaded
  · exact fun store same => decide_eq_of_store_eq same

/-- The caller of an entry whose hash is written in capitals is let in up to the last nanosecond
before its end, with its own keys, and refused from then on. -/
theorem Authenticator.admits_before_end :
    let e : KeyEntry :=
      { hash := "46D2B46C9AEBDD7B12357A696B064E18191711671E0B14B3C18CD3F998168080"
        callerId := "alice", organization := some "org", expiresAt := some 100
        providerKeys := [("Gemini", "  "), (" Jan", " k ")] }
    let entries := [{ hash := "0", callerId := "bob", enabled := false }, e]
    ∃ book, KeyBook.ofEntries entries = .ok book
      ∧ (∃ caller, (Authenticator.mk "s" book.store).decide (wholeSeconds 99999999999) " sk-a "
            = .ok caller
          ∧ caller.id = "alice" ∧ caller.keys.find? .jan = some "k"
          ∧ caller.keys.find? .gemini = none)
      ∧ (Authenticator.mk "s" book.store).decide (wholeSeconds 100000000000) " sk-a "
          = .error .expired := by
  intro e entries
  -- the hash is computed once, by the kernel; all else follows from the theorem
  have accepts : (KeyBook.ofEntries entries).isOk = true := by decide +kernel
  obtain ⟨book, accepted⟩ : ∃ book, KeyBook.ofEntries entries = .ok book := by
    cases loaded : KeyBook.ofEntries entries with
    | ok book => exact ⟨book, rfl⟩
    | error fault =>
      rw [loaded] at accepts
      cases accepts
  have trimmed : Text.trim " sk-a " = "sk-a" := by decide +kernel
  have hash : Text.lowerAscii e.hash = Auth.keyHash "s" "sk-a" := by decide +kernel
  have wellFormed : Auth.WellFormed "sk-a" := Auth.isKey_iff.mp (by decide +kernel)
  have listed : e ∈ entries := List.mem_cons_of_mem _ (List.mem_singleton_self e)
  obtain ⟨admits, only, named, -⟩ := decides_exactly accepted "s" " sk-a " 99999999999
  obtain ⟨-, -, -, refuses, -⟩ := decides_exactly accepted "s" " sk-a " 100000000000
  rw [trimmed] at admits only named refuses
  refine ⟨book, accepted, ?_, ?_⟩
  · have lasting : ¬e.EndedBy 99999999999 := by
      rintro ⟨t, ends, past⟩
      cases ends
      omega
    obtain ⟨caller, ok⟩ := admits.mpr ⟨wellFormed, e, listed, hash, rfl, lasting⟩
    obtain ⟨e', admitted, id, -, keys⟩ := named caller ok
    cases (only e listed hash).symm.trans admitted.only
    refine ⟨caller, ok, id, ?_, ?_⟩
    · rw [keys]
      decide +kernel
    · rw [keys]
      decide +kernel
  · exact (refuses _).mpr (.expired wellFormed (only e listed hash) rfl ⟨100, rfl, by omega⟩)

end InferenceGateway
