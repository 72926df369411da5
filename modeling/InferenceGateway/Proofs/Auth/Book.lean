import Mathlib
import InferenceGateway.Auth.Record
import InferenceGateway.Proofs.Results

/-!
# What a book of key records holds

Configured entries are taken in order, and one that cannot be taken refuses them all. So a book that
is built holds one record for each entry, and no two entries have the same hash.

* `ProviderKeys.configured`: the key that is configured for a provider; typed keys hold no other
  (`ProviderKeys.find?_of_ofConfig`).
* `KeyBook.Records`: a book holds the records of some entries; `KeyBook.records_of_ofEntries` says
  that a book holds those of the entries that it is built from.
* `KeyBook.Records.find?_cases`: looking a hash up finds the record of the one entry that has it.
-/

namespace InferenceGateway

theorem lookup_cons_eq_ite {κ α : Type} [DecidableEq κ] (k : κ) (a : α) (rest : List (κ × α))
    (k' : κ) : List.lookup k' ((k, a) :: rest) = if k = k' then some a else List.lookup k' rest := by
  rw [List.lookup_cons]
  by_cases here : k = k'
  · simp [here]
  · have skip : (k' == k) = false := by simpa using Ne.symm here
    rw [skip, if_neg here]

/-! ## Keys of providers -/

namespace ProviderKeys

/-- A key that is put in is found, and replaces the one before; other providers keep theirs. -/
theorem find?_insert (p q : Provider) (key : String) (keys : ProviderKeys) :
    find? q (insert p key keys) = if p = q then some key else find? q keys := by
  unfold find?
  induction keys with
  | nil =>
    unfold insert
    rw [lookup_cons_eq_ite]
  | cons head rest ih =>
    obtain ⟨r, k⟩ := head
    unfold insert
    split
    · next same =>
      subst same
      rw [lookup_cons_eq_ite, lookup_cons_eq_ite]
      by_cases here : p = q
      · rw [if_pos here, if_pos here]
      · rw [if_neg here, if_neg here, if_neg here]
    · next other =>
      split
      · rw [lookup_cons_eq_ite]
      · rw [lookup_cons_eq_ite, lookup_cons_eq_ite, ih]
        by_cases there : r = q
        · rw [if_pos there, if_pos there, if_neg fun here => other (here.trans there.symm)]
        · rw [if_neg there, if_neg there]

/-- Whether a pair as configured says what the key of a provider is. -/
def Names (p : Provider) (pair : String × String) : Bool :=
  !Text.isBlankText pair.2 && Provider.ofText pair.1 = .ok p

/-- The key that is configured for a provider: of those under its name that are not blank the last
one, trimmed. -/
def configured (p : Provider) (pairs : List (String × String)) : Option String :=
  ((pairs.filter (Names p)).getLast?).map fun pair => Text.trim pair.2

/-- Keys hold what pairs without blank ones say: for every provider the last key under its name. -/
def Collected (taken : List (String × String)) (keys : ProviderKeys) : Prop :=
  ∀ p, find? p keys = ((taken.filter fun pair => Provider.ofText pair.1 = .ok p).getLast?).map
    fun pair => Text.trim pair.2

/-- One more pair adds the key of its provider. -/
theorem Collected.insert {taken : List (String × String)} {keys : ProviderKeys}
    (h : Collected taken keys) {pair : String × String} {q : Provider}
    (named : Provider.ofText pair.1 = .ok q) :
    Collected (taken ++ [pair]) (ProviderKeys.insert q (Text.trim pair.2) keys) := by
  intro p
  rw [find?_insert, h p, List.filter_append]
  by_cases here : q = p
  · simp [here, named]
  · simp [here, named]

/-- Typed keys hold the configured key of every provider and no other. -/
theorem find?_of_ofConfig {pairs : List (String × String)} {keys : ProviderKeys}
    (h : ofConfig pairs = .ok keys) (p : Provider) : find? p keys = configured p pairs := by
  have start : Collected [] [] := fun p => rfl
  have all := of_foldlM_eq_ok (fun {taken keys pair keys'} before next => ?_) start h
  · rw [all p, List.nil_append, List.filter_filter]
    unfold configured Names
    simp only [Bool.and_comm]
  · obtain ⟨q, named, ⟨⟩⟩ := bind_eq_ok_iff.mp next
    exact before.insert named

end ProviderKeys

/-! ## Records -/

/-- A record says what its entry says, in typed form. -/
theorem KeyEntry.of_toRecord_eq_ok {e : KeyEntry} {record : KeyRecord}
    (h : e.toRecord = .ok record) :
    record.caller.id = e.callerId ∧ record.caller.organization = e.organization
      ∧ (∀ p, record.caller.keys.find? p = ProviderKeys.configured p e.providerKeys)
      ∧ record.enabled = e.enabled ∧ record.expiresAt = e.expiresAt := by
  unfold toRecord at h
  cases typed : ProviderKeys.ofConfig e.providerKeys with
  | error name =>
    rw [typed] at h
    cases h
  | ok keys =>
    have found := ProviderKeys.find?_of_ofConfig typed
    rw [typed] at h
    cases expires : e.expiresAt with
    | none =>
      rw [expires] at h
      cases h
      exact ⟨rfl, rfl, found, rfl, rfl⟩
    | some t =>
      simp only [expires] at h
      split at h
      · cases h
        exact ⟨rfl, rfl, found, rfl, rfl⟩
      · cases h

namespace KeyBook

/-- An entry is added under its hash in lower case, which is new to the book. -/
theorem of_add_eq_ok {book book' : KeyBook} {e : KeyEntry} (h : KeyBook.add book e = .ok book') :
    ∃ record, e.toRecord = .ok record ∧ Text.lowerAscii e.hash ∉ book.map Prod.fst
      ∧ book' = book ++ [(Text.lowerAscii e.hash, record)] := by
  unfold KeyBook.add at h
  obtain ⟨record, typed, h⟩ := bind_eq_ok_iff.mp h
  refine ⟨record, typed, ?_⟩
  cases found : KeyBook.find? (Text.lowerAscii e.hash) book with
  | some earlier =>
    simp only [found] at h
    cases h
  | none =>
    simp only [found] at h
    cases h
    refine ⟨fun mem => ?_, rfl⟩
    obtain ⟨b, here, same⟩ := List.mem_map.mp mem
    have other := List.lookup_eq_none_iff.mp found b here
    rw [same] at other
    simp at other

/-- A book holds the records of entries, in their order, each under a hash of its own. -/
structure Records (entries : List KeyEntry) (book : KeyBook) : Prop where
  each : List.Forall₂ (fun e b => b.1 = Text.lowerAscii e.hash ∧ e.toRecord = .ok b.2) entries book
  distinct : (book.map Prod.fst).Nodup

/-- One more entry has its record at the end of the book. -/
theorem Records.add {entries : List KeyEntry} {book book' : KeyBook} {e : KeyEntry}
    (before : Records entries book) (h : KeyBook.add book e = .ok book') :
    Records (entries ++ [e]) book' := by
  obtain ⟨record, typed, new, rfl⟩ := of_add_eq_ok h
  constructor
  · exact List.rel_append before.each (.cons ⟨rfl, typed⟩ .nil)
  · rw [List.map_append, List.nodup_append]
    refine ⟨before.distinct, List.nodup_singleton _, fun a here b last => ?_⟩
    rintro rfl
    rw [List.map_singleton, List.mem_singleton] at last
    subst last
    exact new here

/-- A book holds the records of the entries that it is built from. -/
theorem records_of_ofEntries {entries : List KeyEntry} {book : KeyBook}
    (h : KeyBook.ofEntries entries = .ok book) : Records entries book := by
  have start : Records [] [] := ⟨.nil, List.nodup_nil⟩
  exact of_foldlM_eq_ok Records.add start h

/-- A book is indexed by the hashes of its entries, in lower case. -/
theorem Records.hashes {entries : List KeyEntry} {book : KeyBook} (h : Records entries book) :
    book.map Prod.fst = entries.map fun e => Text.lowerAscii e.hash := by
  obtain ⟨each, -⟩ := h
  induction each with
  | nil => rfl
  | cons own _ ih => rw [List.map_cons, List.map_cons, own.1, ih]

/-- The entries under a hash. -/
def entriesOf (hash : String) (entries : List KeyEntry) : List KeyEntry :=
  entries.filter fun e => Text.lowerAscii e.hash = hash

/-- Looking a hash up finds the record of the one entry that has it, if there is one. -/
theorem Records.find?_cases {entries : List KeyEntry} {book : KeyBook} (h : Records entries book)
    (hash : String) :
    (∃ e record, entriesOf hash entries = [e] ∧ e.toRecord = .ok record
      ∧ KeyBook.find? hash book = some record)
    ∨ (entriesOf hash entries = [] ∧ KeyBook.find? hash book = none) := by
  obtain ⟨each, distinct⟩ := h
  unfold entriesOf KeyBook.find?
  induction each with
  | nil => exact .inr ⟨rfl, rfl⟩
  | @cons e b entries book own rest ih =>
    obtain ⟨first, others⟩ := List.nodup_cons.mp distinct
    obtain ⟨hash', record⟩ := b
    obtain ⟨rfl, typed⟩ := own
    rw [lookup_cons_eq_ite]
    by_cases here : Text.lowerAscii e.hash = hash
    · -- no later entry has the hash of the first
      have none : entries.filter (fun e => Text.lowerAscii e.hash = hash) = [] := by
        refine List.filter_eq_nil_iff.mpr fun e' mem same => first ?_
        rw [Records.hashes ⟨rest, others⟩, here, ← of_decide_eq_true same]
        exact List.mem_map_of_mem mem
      rw [List.filter_cons_of_pos (by simpa using here), none, if_pos here]
      exact .inl ⟨e, record, rfl, typed, rfl⟩
    · rw [List.filter_cons_of_neg (by simpa using here), if_neg here]
      exact ih others

/-- A hash that no entry has leads to nothing. -/
theorem Records.find?_of_none {entries : List KeyEntry} {book : KeyBook} (h : Records entries book)
    {hash : String} (none : entriesOf hash entries = []) : KeyBook.find? hash book = .none := by
  rcases h.find?_cases hash with ⟨e, record, only, -⟩ | ⟨-, missing⟩
  · cases none.symm.trans only
  · exact missing

/-- The hash of one entry alone leads to its record. -/
theorem Records.find?_of_only {entries : List KeyEntry} {book : KeyBook} (h : Records entries book)
    {hash : String} {e : KeyEntry} (only : entriesOf hash entries = [e]) :
    ∃ record, e.toRecord = .ok record ∧ KeyBook.find? hash book = some record := by
  rcases h.find?_cases hash with ⟨e', record, only', typed, found⟩ | ⟨none, -⟩
  · cases only.symm.trans only'
    exact ⟨record, typed, found⟩
  · cases only.symm.trans none

/-- An entry has its hash for itself. -/
theorem Records.entriesOf_eq_singleton {entries : List KeyEntry} {book : KeyBook}
    (h : Records entries book) {e : KeyEntry} (mem : e ∈ entries) :
    entriesOf (Text.lowerAscii e.hash) entries = [e] := by
  have here : e ∈ entriesOf (Text.lowerAscii e.hash) entries :=
    List.mem_filter.mpr ⟨mem, decide_eq_true rfl⟩
  rcases h.find?_cases (Text.lowerAscii e.hash) with ⟨e', record, only, -⟩ | ⟨none, -⟩
  · rw [only] at here ⊢
    rw [List.mem_singleton.mp here]
  · rw [none] at here
    cases here

end KeyBook

end InferenceGateway
