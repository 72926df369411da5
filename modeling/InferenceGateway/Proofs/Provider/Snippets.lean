import Mathlib
import InferenceGateway.Proofs.Json.Members
import InferenceGateway.Provider.Error

/-!
# What is kept of a refusal

A refusal is told by one message: what its body declares as an error, if it is an object that does,
and else the text of the body. A long message is cut. The place for the cut is searched from the
limit towards the start, and since no character has more than four bytes, the search is over after
three steps at most.

* `Declares`, `Tells`: the message that an object declares, and that a body tells.
* `Boundary`: the places where a text can be cut; `boundaryFrom_eq_some_iff` says which of them is
  found, and `exists_boundary` that there is one nearby.
* `LongestFront`, `Keeps`: the most of a text that has room, and how it is found.
* `ProviderError.keeps_longest_front`: the snippet of every refusal.
-/

namespace InferenceGateway

open Json (Members)

/-! ## Messages of bodies -/

/-- What stands under the key of an error: a text, or an object with a text as its message. -/
inductive ErrorText : Json → String → Prop where
  | text (s : String) : ErrorText (.string s) s
  | message {ms : Members} {s : String} (has : Members.find? "message" ms = some (.string s)) :
    ErrorText (.object ms) s

/-- What an object declares: the text of its error, or its own message where that has none. -/
inductive Declares (ms : Members) : String → Prop where
  | error {e : Json} {s : String} (has : Members.find? "error" ms = some e) (text : ErrorText e s) :
    Declares ms s
  | message {s : String}
    (noText : ∀ e s, Members.find? "error" ms = some e → ¬ErrorText e s)
    (has : Members.find? "message" ms = some (.string s)) : Declares ms s

/-- The message of a body: what it declares if it is an object, and else its text. -/
inductive Tells (body : String) : String → Prop where
  | declared {ms : Members} {s : String} (object : Json.parse (Text.bytesOf body) = .ok (.object ms))
    (declares : Declares ms s) : Tells body s
  | plain (nothing : ∀ ms s, Json.parse (Text.bytesOf body) = .ok (.object ms) → ¬Declares ms s) :
    Tells body (Text.trim body)

/-- The text under the key of an error, as it is looked for. -/
def errorText? (e : Json) : Option String :=
  ((e.member? "message").getD e).string?

/-- The text of an error is the error itself or its message. -/
theorem errorText?_eq_some_iff {e : Json} {s : String} :
    errorText? e = some s ↔ ErrorText e s := by
  unfold errorText?
  rw [Json.string?_eq_some_iff]
  constructor
  · intro found
    cases e with
    -- without a message of its own an object is no text
    | object ms =>
      cases has : Json.member? "message" (.object ms) with
      | none =>
        rw [has] at found
        cases found
      | some v =>
        rw [has] at found
        cases found
        exact .message has
    | string t =>
      cases found
      exact .text s
    | _ => cases found
  · intro text
    cases text with
    | text => rfl
    | @message ms s has =>
      have found : Json.member? "message" (.object ms) = some (.string s) := has
      rw [found]
      rfl

/-- The error is looked for first, and the message of the whole only without one. -/
theorem jsonErrorMessage?_eq (body : Json) :
    jsonErrorMessage? body
      = ((body.member? "error").bind errorText?).or ((body.member? "message").bind Json.string?) := by
  unfold jsonErrorMessage? errorText?
  dsimp only [bind]
  cases (body.member? "error").bind fun e => ((e.member? "message").getD e).string? <;> rfl

/-- The message of a JSON value is what it declares as an object. -/
theorem jsonErrorMessage?_eq_some_iff {body : Json} {s : String} :
    jsonErrorMessage? body = some s ↔ ∃ ms, body = .object ms ∧ Declares ms s := by
  simp only [jsonErrorMessage?_eq, Option.or_eq_some_iff, Option.bind_eq_some_iff,
    Option.bind_eq_none_iff, Json.member?_eq_some_iff, Json.string?_eq_some_iff,
    errorText?_eq_some_iff]
  constructor
  · rintro (⟨e, ⟨ms, rfl, has⟩, text⟩ | ⟨nothing, _, ⟨ms, rfl, has⟩, rfl⟩)
    · exact ⟨ms, rfl, .error has text⟩
    -- the message of the whole counts only if there is no error with a text
    · refine ⟨ms, rfl, .message (fun e t found text => ?_) has⟩
      have none := nothing e ⟨ms, rfl, found⟩
      rw [errorText?_eq_some_iff.mpr text] at none
      cases none
  · rintro ⟨ms, rfl, declares⟩
    cases declares with
    | error has text => exact .inl ⟨_, ⟨ms, rfl, has⟩, text⟩
    | message noText has =>
      refine .inr ⟨?_, _, ⟨ms, rfl, has⟩, rfl⟩
      rintro e ⟨_, ⟨⟩, found⟩
      exact Option.eq_none_iff_forall_ne_some.mpr fun t text =>
        noText e t found (errorText?_eq_some_iff.mp text)

/-- An object that declares a message has it, whatever else the body holds. -/
theorem errorMessage_of_declares {body : String} {ms : Members} {s : String}
    (object : Json.parse (Text.bytesOf body) = .ok (.object ms)) (declares : Declares ms s) :
    errorMessage body = s := by
  have found := jsonErrorMessage?_eq_some_iff.mpr ⟨ms, rfl, declares⟩
  unfold errorMessage
  rw [object]
  show (jsonErrorMessage? (.object ms)).getD _ = s
  rw [found]
  rfl

/-- A body that declares nothing stands for itself, without outer blanks. -/
theorem errorMessage_of_nothing {body : String}
    (nothing : ∀ ms s, Json.parse (Text.bytesOf body) = .ok (.object ms) → ¬Declares ms s) :
    errorMessage body = Text.trim body := by
  unfold errorMessage
  cases parsed : Json.parse (Text.bytesOf body) with
  | error e => rfl
  | ok json =>
    have none : jsonErrorMessage? json = none :=
      Option.eq_none_iff_forall_ne_some.mpr fun s found => by
        obtain ⟨ms, rfl, declares⟩ := jsonErrorMessage?_eq_some_iff.mp found
        exact nothing ms s parsed declares
    show (jsonErrorMessage? json).getD _ = _
    rw [none]
    rfl

/-- Every body tells one message, which is the one that is taken. -/
theorem tells_iff {body m : String} : Tells body m ↔ m = errorMessage body := by
  constructor
  · intro tells
    cases tells with
    | declared object declares => exact (errorMessage_of_declares object declares).symm
    | plain nothing => exact (errorMessage_of_nothing nothing).symm
  · rintro rfl
    by_cases declared : ∃ ms s, Json.parse (Text.bytesOf body) = .ok (.object ms) ∧ Declares ms s
    · obtain ⟨ms, s, object, declares⟩ := declared
      rw [errorMessage_of_declares object declares]
      exact .declared object declares
    · have nothing : ∀ ms s, Json.parse (Text.bytesOf body) = .ok (.object ms) → ¬Declares ms s :=
        fun ms s object declares => declared ⟨ms, s, object, declares⟩
      rw [errorMessage_of_nothing nothing]
      exact .plain nothing

/-! ## Places for a cut -/

/-- A text can be cut at a number of bytes: no character is cut in two. -/
def Boundary (s : String) (i : Nat) : Prop :=
  ∃ front rest, s = front ++ rest ∧ front.utf8ByteSize = i

/-- A place is valid if the text can be cut there. -/
theorem isValid_iff {s : String} {i : Nat} :
    String.Pos.Raw.isValid s ⟨i⟩ = true ↔ Boundary s i := by
  rw [String.Pos.Raw.isValid_eq_true_iff, String.Pos.Raw.isValid_iff_exists_append]
  refine exists_congr fun front => exists_congr fun rest => and_congr_right fun _ => ?_
  rw [String.Pos.Raw.ext_iff]
  exact eq_comm

theorem boundary_zero (s : String) : Boundary s 0 :=
  ⟨"", s, by simp, rfl⟩

/-- The search stops at the first place that it comes to. -/
theorem boundaryFrom_eq_some_iff {s : String} {i stop : Nat} :
    boundaryFrom s i = some stop
      ↔ stop ≤ i ∧ Boundary s stop ∧ ∀ j, stop < j → j ≤ i → ¬Boundary s j := by
  induction i with
  | zero =>
    rw [boundaryFrom, if_pos (isValid_iff.mpr (boundary_zero s)), Option.some.injEq]
    constructor
    · rintro rfl
      exact ⟨Nat.le_refl 0, boundary_zero s, fun j past le => absurd past (by omega)⟩
    · rintro ⟨le, -⟩
      exact (Nat.le_zero.mp le).symm
  | succ i ih =>
    rw [boundaryFrom]
    -- either this is the place, or the search goes one byte back
    by_cases here : Boundary s (i + 1)
    · rw [if_pos (isValid_iff.mpr here), Option.some.injEq]
      constructor
      · rintro rfl
        exact ⟨Nat.le_refl _, here, fun j past le => absurd past (by omega)⟩
      · rintro ⟨le, -, none⟩
        by_contra other
        exact none (i + 1) (by omega) (Nat.le_refl _) here
    · rw [if_neg (here ∘ isValid_iff.mp), ih]
      constructor
      · rintro ⟨le, found, none⟩
        refine ⟨by omega, found, fun j past le => ?_⟩
        by_cases last : j = i + 1
        · exact last ▸ here
        · exact none j past (by omega)
      · rintro ⟨le, found, none⟩
        have before : stop ≠ i + 1 := by
          rintro rfl
          exact here found
        exact ⟨by omega, found, fun j past le => none j past (by omega)⟩

theorem utf8ByteSize_ofList_cons (c : Char) (cs : List Char) :
    (String.ofList (c :: cs)).utf8ByteSize = c.utf8Size + (String.ofList cs).utf8ByteSize := by
  rw [String.ofList_cons, String.utf8ByteSize_append, String.utf8ByteSize_singleton]

/-- Characters have at most four bytes, so of four places in a row within a text one is free. -/
theorem exists_boundary {s : String} {i : Nat} (within : i ≤ s.utf8ByteSize) :
    ∃ j, j ≤ i ∧ i ≤ j + 3 ∧ Boundary s j := by
  obtain ⟨cs, rfl⟩ : ∃ cs, s = String.ofList cs := ⟨s.toList, by simp⟩
  induction cs generalizing i with
  | nil => exact ⟨0, Nat.zero_le i, by simp at within; omega, boundary_zero _⟩
  | cons c rest ih =>
    have size := utf8ByteSize_ofList_cons c rest
    -- The place is within the first character, of which the start is near, or behind it.
    by_cases inside : i < c.utf8Size
    · have small := c.utf8Size_le_four
      exact ⟨0, Nat.zero_le i, by omega, boundary_zero _⟩
    · obtain ⟨j, le, near, front, behind, eq, length⟩ := ih (i := i - c.utf8Size) (by omega)
      refine ⟨c.utf8Size + j, by omega, by omega, String.singleton c ++ front, behind, ?_, ?_⟩
      · rw [String.ofList_cons, eq, String.append_assoc]
      · rw [String.utf8ByteSize_append, String.utf8ByteSize_singleton, length]

/-- The search always ends: a text can be cut at its start. -/
theorem exists_boundaryFrom (s : String) (i : Nat) : ∃ stop, boundaryFrom s i = some stop := by
  induction i with
  | zero => exact ⟨0, if_pos (isValid_iff.mpr (boundary_zero s))⟩
  | succ i ih =>
    rw [boundaryFrom]
    split
    · exact ⟨i + 1, rfl⟩
    · exact ih

/-- Within a text the search is over after three steps at most. -/
theorem le_of_boundaryFrom {s : String} {i stop : Nat} (within : i ≤ s.utf8ByteSize)
    (h : boundaryFrom s i = some stop) : i ≤ stop + 3 := by
  obtain ⟨-, -, none⟩ := boundaryFrom_eq_some_iff.mp h
  obtain ⟨j, le, near, boundary⟩ := exists_boundary within
  by_contra far
  exact none j (by omega) le boundary

example : boundaryFrom "aé" 2 = some 1 := by decide

/-! ## What is kept -/

/-- The longest front of a text that has room: no front that is made of whole characters and has room
is longer. -/
structure LongestFront (room : Nat) (s kept : String) : Prop where
  front : ∃ rest, s = kept ++ rest
  fits : kept.utf8ByteSize ≤ room
  longest : ∀ other rest, s = other ++ rest → other.utf8ByteSize ≤ room →
    other.utf8ByteSize ≤ kept.utf8ByteSize

theorem extract_append (front rest : String) :
    String.Pos.Raw.extract (front ++ rest) 0 ⟨front.utf8ByteSize⟩ = front := by
  have extracted := String.extract_of_valid [] front.toList rest.toList
  simpa [String.utf8Len_toList] using extracted

theorem snippet_of_short {s : String} (short : s.utf8ByteSize ≤ snippetBytes) : snippet s = s :=
  if_pos short

/-- A text that is too long is cut where the search stops. -/
theorem boundaryFrom_of_long {s : String} (long : snippetBytes < s.utf8ByteSize) :
    boundaryFrom s snippetBytes = some (snippet s).utf8ByteSize ∧ ∃ rest, s = snippet s ++ rest := by
  obtain ⟨stop, found⟩ := exists_boundaryFrom s snippetBytes
  obtain ⟨-, ⟨front, rest, eq, size⟩, -⟩ := boundaryFrom_eq_some_iff.mp found
  have kept : snippet s = front := by
    unfold snippet
    rw [if_neg (Nat.not_le_of_lt long), found, Option.getD_some, ← size, eq, extract_append]
  rw [kept, size]
  exact ⟨found, rest, eq⟩

/-- What is kept of a text is the most that has room. -/
theorem longestFront_snippet (s : String) : LongestFront snippetBytes s (snippet s) := by
  by_cases short : s.utf8ByteSize ≤ snippetBytes
  · rw [snippet_of_short short]
    refine ⟨⟨"", by simp⟩, short, ?_⟩
    rintro other rest rfl -
    rw [String.utf8ByteSize_append]
    exact Nat.le_add_right _ _
  · obtain ⟨found, front⟩ := boundaryFrom_of_long (Nat.lt_of_not_le short)
    obtain ⟨fits, -, none⟩ := boundaryFrom_eq_some_iff.mp found
    refine ⟨front, fits, fun other rest eq room => ?_⟩
    by_contra longer
    exact none other.utf8ByteSize (Nat.lt_of_not_le longer) room ⟨other, rest, eq, rfl⟩

/-- What is kept of a message: all of it if that is short, and else the most that has room, as the
search for the place to cut finds it. -/
structure Keeps (m kept : String) : Prop where
  whole : m.utf8ByteSize ≤ snippetBytes → kept = m
  most : LongestFront snippetBytes m kept
  found : snippetBytes < m.utf8ByteSize → boundaryFrom m snippetBytes = some kept.utf8ByteSize
  near : snippetBytes < m.utf8ByteSize → 1021 ≤ kept.utf8ByteSize
  /-- Nothing is lost if it is cut once more. -/
  again : snippet kept = kept

/-- What is kept of a message is the longest front that fits. -/
theorem keeps_snippet (m : String) : Keeps m (snippet m) where
  whole := snippet_of_short
  most := longestFront_snippet m
  found long := (boundaryFrom_of_long long).1
  near long := by
    have near := le_of_boundaryFrom (Nat.le_of_lt long) (boundaryFrom_of_long long).1
    unfold snippetBytes at near
    omega
  again := snippet_of_short (longestFront_snippet m).fits

/--
The snippet of a refusal. Its body tells one message, and of this the longest front of whole
characters is kept that has no more than 1024 bytes, which is all of a message that is no longer, and
at least 1021 bytes of any other. The search for the place to cut finds one before it comes to the
start, and to cut a second time changes nothing.
-/
theorem ProviderError.keeps_longest_front (p : Provider) (status : Nat) (body : String) :
    ∃ m, (∀ told, Tells body told ↔ told = m)
      ∧ ∃ kept, ProviderError.ofRefusal p status body = .refused p status kept ∧ Keeps m kept :=
  ⟨errorMessage body, fun _ => tells_iff, _, rfl, keeps_snippet _⟩

end InferenceGateway
