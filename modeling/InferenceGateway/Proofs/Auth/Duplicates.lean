import Mathlib
import InferenceGateway.Proofs.Auth.Book
import InferenceGateway.Proofs.Provider.Snippets

/-!
# What is shown of a repeated hash

A list of key records is refused if two of them have the same hash but for its case, and the
message shows the front of that hash: its first eight bytes, if a character ends there. A configured
hash may be any text, though, and of one in which a character lies across that place all is shown.

* `Text.longestFront_cutAt`: cutting a text at a number of bytes leaves the longest front with room.
* `Shows`: what is shown of a hash; `Shows.fits_iff` says when this is no more than eight bytes.
* `KeyBook.Repeats`: a list of entries comes to one that repeats the hash of an earlier one.
* `KeyBook.refuses_repeated_hash`: how such a list is refused, and that no other is refused but for
  an entry that has no record.
-/

namespace InferenceGateway

/-! ## The front of a hash -/

theorem Text.utf8ByteSize_fitting_le (room : Nat) (cs : List Char) :
    (String.ofList (fitting room cs)).utf8ByteSize ≤ room := by
  induction cs generalizing room with
  | nil => exact Nat.zero_le room
  | cons c rest ih =>
    unfold fitting
    split
    · next fits =>
      have behind := ih (room - c.utf8Size)
      rw [utf8ByteSize_ofList_cons]
      omega
    · exact Nat.zero_le room

theorem Text.exists_fitting_append (room : Nat) (cs : List Char) :
    ∃ rest, cs = fitting room cs ++ rest := by
  induction cs generalizing room with
  | nil => exact ⟨[], rfl⟩
  | cons c cs ih =>
    unfold fitting
    split
    · obtain ⟨rest, eq⟩ := ih (room - c.utf8Size)
      exact ⟨rest, by rw [List.cons_append, ← eq]⟩
    · exact ⟨c :: cs, rfl⟩

/-- No front with room is longer than what fits. -/
theorem Text.le_utf8ByteSize_fitting {room : Nat} {front rest : List Char}
    (h : (String.ofList front).utf8ByteSize ≤ room) :
    (String.ofList front).utf8ByteSize
      ≤ (String.ofList (fitting room (front ++ rest))).utf8ByteSize := by
  induction front generalizing room with
  | nil => exact Nat.zero_le _
  | cons c front ih =>
    rw [utf8ByteSize_ofList_cons] at h ⊢
    rw [List.cons_append, fitting, if_pos (by omega), utf8ByteSize_ofList_cons]
    exact Nat.add_le_add_left (ih (by omega)) _

/-- A text is cut behind the last character that fits. -/
theorem Text.longestFront_cutAt (room : Nat) (s : String) : LongestFront room s (cutAt room s) where
  front := by
    obtain ⟨rest, eq⟩ := exists_fitting_append room s.toList
    refine ⟨String.ofList rest, ?_⟩
    unfold cutAt
    rw [← String.ofList_append, ← eq, String.ofList_toList]
  fits := utf8ByteSize_fitting_le room s.toList
  longest := by
    rintro other rest rfl h
    obtain ⟨front, rfl⟩ : ∃ front, other = String.ofList front := ⟨other.toList, by simp⟩
    unfold cutAt
    rw [String.toList_append, String.toList_ofList]
    exact le_utf8ByteSize_fitting h

/-- Two fronts of a text with as many bytes are one. -/
theorem eq_of_append_eq_append {front rest front' rest' : String}
    (h : front ++ rest = front' ++ rest') (size : front.utf8ByteSize = front'.utf8ByteSize) :
    front = front' := by
  rw [← extract_append front rest, h, size, extract_append]

/-- What is shown of a hash: its first eight bytes if a character ends there, and else all of it. -/
inductive Shows : String → String → Prop where
  | front {front rest : String} (eight : front.utf8ByteSize = 8) : Shows (front ++ rest) front
  | whole {hash : String} (across : ¬Boundary hash 8) : Shows hash hash

theorem Shows.exists_rest {hash shown : String} (h : Shows hash shown) :
    ∃ rest, hash = shown ++ rest := by
  cases h with
  | front => exact ⟨_, rfl⟩
  | whole => exact ⟨"", by simp⟩

/-- No more than eight bytes are shown exactly if there are no more, or a character ends there. -/
theorem Shows.fits_iff {hash shown : String} (h : Shows hash shown) :
    shown.utf8ByteSize ≤ 8 ↔ hash.utf8ByteSize ≤ 8 ∨ Boundary hash 8 := by
  cases h with
  | @front _ rest eight => exact iff_of_true (Nat.le_of_eq eight) (.inr ⟨shown, rest, rfl, eight⟩)
  | whole across => simp [across]

namespace Auth

theorem shownHash_of_boundary {front rest : String} (eight : front.utf8ByteSize = 8) :
    shownHash (front ++ rest) = front := by
  have cut := Text.longestFront_cutAt shownBytes (front ++ rest)
  obtain ⟨behind, eq⟩ := cut.front
  -- of the two fronts neither is longer
  have least : front.utf8ByteSize ≤ (Text.cutAt shownBytes (front ++ rest)).utf8ByteSize :=
    cut.longest front rest rfl (Nat.le_of_eq eight)
  have size : (Text.cutAt shownBytes (front ++ rest)).utf8ByteSize = shownBytes := by
    rw [eight] at least
    exact Nat.le_antisymm cut.fits least
  have same : front = Text.cutAt shownBytes (front ++ rest) :=
    eq_of_append_eq_append eq (eight.trans size.symm)
  unfold shownHash
  rw [if_pos size]
  exact same.symm

theorem shownHash_of_across {hash : String} (across : ¬Boundary hash 8) :
    shownHash hash = hash := by
  refine if_neg fun size => across ?_
  obtain ⟨rest, eq⟩ := (Text.longestFront_cutAt shownBytes hash).front
  exact ⟨_, rest, eq, size⟩

/-- Of every hash that is shown which may be shown. -/
theorem shows_iff {hash shown : String} : Shows hash shown ↔ shown = shownHash hash := by
  constructor
  · intro h
    cases h with
    | front eight => exact (shownHash_of_boundary eight).symm
    | whole across => exact (shownHash_of_across across).symm
  · rintro rfl
    by_cases boundary : Boundary hash 8
    · obtain ⟨front, rest, rfl, eight⟩ := boundary
      rw [shownHash_of_boundary eight]
      exact .front eight
    · rw [shownHash_of_across boundary]
      exact .whole boundary

end Auth

/-! ## Repeated hashes -/

namespace KeyBook

/-- A list of entries comes to one that repeats, but for its case, the hash of an earlier one. Those
before it are taken, and it has a record itself. -/
def Repeats (entries : List KeyEntry) (e : KeyEntry) : Prop :=
  ∃ before after, entries = before ++ e :: after
    ∧ (∃ book, KeyBook.ofEntries before = .ok book) ∧ (∃ record, e.toRecord = .ok record)
    ∧ ∃ earlier ∈ before, Text.lowerAscii earlier.hash = Text.lowerAscii e.hash

/-- The refusal of a list with a repeated hash. -/
def repeated (shown : String) : AuthError :=
  .invalidRecord ("duplicate key hash " ++ shown)

/-- An entry is refused if it has no record, or else if its hash is in the book. -/
theorem add_eq_error_iff {book : KeyBook} {e : KeyEntry} {err : AuthError} :
    KeyBook.add book e = .error err ↔ e.toRecord = .error err
      ∨ (∃ record, e.toRecord = .ok record) ∧ KeyBook.find? (Text.lowerAscii e.hash) book ≠ none
        ∧ err = repeated (Auth.shownHash e.hash) := by
  unfold KeyBook.add repeated
  cases typed : e.toRecord with
  | error e' => simp [bind, Except.bind]
  | ok record =>
    cases found : KeyBook.find? (Text.lowerAscii e.hash) book with
    | none => simp [bind, Except.bind, pure, Except.pure, found]
    | some earlier =>
      simp only [bind, Except.bind, found]
      simp [throw, throwThe, MonadExceptOf.throw, eq_comm]

/-- A hash is in the book if an entry has it that the book is built from. -/
theorem Records.find?_ne_none_iff {entries : List KeyEntry} {book : KeyBook}
    (h : Records entries book) (hash : String) :
    KeyBook.find? hash book ≠ none ↔ ∃ e ∈ entries, Text.lowerAscii e.hash = hash := by
  have some_iff : entriesOf hash entries ≠ [] ↔ ∃ e ∈ entries, Text.lowerAscii e.hash = hash := by
    simp [entriesOf, List.filter_eq_nil_iff]
  rw [← some_iff]
  rcases h.find?_cases hash with ⟨e, record, only, -, found⟩ | ⟨none, missing⟩
  · rw [only, found]
    exact iff_of_true nofun nofun
  · rw [none, missing]
    simp

theorem ofEntries_of_repeats {entries : List KeyEntry} {e : KeyEntry} (h : Repeats entries e) :
    KeyBook.ofEntries entries = .error (repeated (Auth.shownHash e.hash)) := by
  obtain ⟨before, after, rfl, ⟨book, taken⟩, typed, known⟩ := h
  have found := ((records_of_ofEntries taken).find?_ne_none_iff _).mpr known
  exact foldlM_eq_error_iff.mpr
    ⟨before, e, after, book, rfl, taken, add_eq_error_iff.mpr (.inr ⟨typed, found, rfl⟩)⟩

/-- A list is refused for a repeated hash or for an entry without a record. -/
theorem of_ofEntries_eq_error {entries : List KeyEntry} {err : AuthError}
    (h : KeyBook.ofEntries entries = .error err) :
    (∃ e ∈ entries, e.toRecord = .error err) ∨ ∃ e, Repeats entries e := by
  obtain ⟨before, e, after, book, rfl, taken, failed⟩ := foldlM_eq_error_iff.mp h
  rcases add_eq_error_iff.mp failed with noRecord | ⟨typed, found, -⟩
  · exact .inl ⟨e, by simp, noRecord⟩
  · have known := ((records_of_ofEntries taken).find?_ne_none_iff _).mp found
    exact .inr ⟨e, before, after, rfl, ⟨book, taken⟩, typed, known⟩

/--
How a list of key records with a repeated hash is refused, and what is shown of the hash. A list is
refused for a repeated hash, or else for an entry that has no record. The message for a repeated
hash shows a front of the hash as it is written in the later entry: the first eight bytes if a
character ends there, and else the whole hash. So no more than eight bytes are shown of a hash that
has no more, and of one with a character that ends behind the eighth byte; of any other hash, as
long as it is, everything.
-/
theorem refuses_repeated_hash (entries : List KeyEntry) :
    (∀ err, KeyBook.ofEntries entries = .error err →
      (∃ e ∈ entries, e.toRecord = .error err) ∨ ∃ e, Repeats entries e)
    ∧ ∀ e, Repeats entries e → ∃ shown rest, e.hash = shown ++ rest
      ∧ KeyBook.ofEntries entries = .error (repeated shown)
      ∧ (repeated shown).message = "Invalid API key record: duplicate key hash " ++ shown
      ∧ (Boundary e.hash 8 → shown.utf8ByteSize = 8)
      ∧ (¬Boundary e.hash 8 → shown = e.hash)
      ∧ (shown.utf8ByteSize ≤ 8 ↔ e.hash.utf8ByteSize ≤ 8 ∨ Boundary e.hash 8) := by
  refine ⟨fun err => of_ofEntries_eq_error, fun e repeats => ?_⟩
  have shows : Shows e.hash (Auth.shownHash e.hash) := Auth.shows_iff.mpr rfl
  obtain ⟨rest, whole⟩ := shows.exists_rest
  refine ⟨Auth.shownHash e.hash, rest, whole, ofEntries_of_repeats repeats, ?_, ?_,
    Auth.shownHash_of_across, shows.fits_iff⟩
  · show "Invalid API key record: " ++ ("duplicate key hash " ++ _) = _
    rw [← String.append_assoc]
    rfl
  · rintro ⟨front, behind, eq, eight⟩
    rw [eq, Auth.shownHash_of_boundary eight, eight]

/-- Of a hash with ASCII digits, written in both cases, eight are shown. -/
theorem eight_digits_are_shown :
    let e : KeyEntry := { hash := "0123456789ABCDEF", callerId := "later" }
    let entries : List KeyEntry := [{ hash := "0123456789abcdef", callerId := "first" }, e]
    Repeats entries e ∧ KeyBook.ofEntries entries = .error (repeated "01234567") := by
  intro e entries
  have repeats : Repeats entries e :=
    ⟨entries.take 1, [], rfl, ⟨_, rfl⟩, ⟨_, rfl⟩, _, List.mem_singleton_self _, by decide⟩
  obtain ⟨shown, rest, whole, refused, -, eight, -⟩ := (refuses_repeated_hash entries).2 e repeats
  have split : e.hash = "01234567" ++ "89ABCDEF" := by decide
  have size : shown.utf8ByteSize = 8 := eight ⟨_, _, split, by decide⟩
  rw [eq_of_append_eq_append (whole.symm.trans split) (size.trans (by decide))] at refused
  exact ⟨repeats, refused⟩

/-- The eighth byte of a hash is the first of a character with two, and so the message shows all
there is. -/
theorem whole_hash_is_shown :
    let e : KeyEntry := { hash := "1234567é-and-the-rest-of-it", callerId := "later" }
    let entries : List KeyEntry := [{ e with callerId := "first" }, e]
    Repeats entries e ∧ KeyBook.ofEntries entries = .error (repeated e.hash)
      ∧ 8 < (Auth.shownHash e.hash).utf8ByteSize := by
  intro e entries
  have shown : Auth.shownHash e.hash = e.hash := by decide
  have repeats : Repeats entries e :=
    ⟨entries.take 1, [], rfl, ⟨_, rfl⟩, ⟨_, rfl⟩, _, List.mem_singleton_self _, rfl⟩
  have refused := ofEntries_of_repeats repeats
  rw [shown] at refused ⊢
  exact ⟨repeats, refused, by decide⟩

end KeyBook

end InferenceGateway
