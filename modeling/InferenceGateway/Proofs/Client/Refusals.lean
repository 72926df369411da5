import Mathlib
import InferenceGateway.Proofs.Client.Upshots
import InferenceGateway.Proofs.Text.Utf8

/-!
# What is read of a refusal

A reply that is no success is a refusal, whatever becomes of its body. The body only tells more about
it, and so it is read piece by piece until it ends, breaks off, is long enough or takes too long.
What has arrived by then counts as one sequence of bytes: where one piece ended and the next one began
does not show, not even within a character.

* `lastMoment`: when reading is given up.
* `Gathers`: what is gathered of a body, with a way to stop for each of the four reasons.
* `Untied`: no piece falls due at the moment when reading is given up. Such a piece may be taken or
  left; without one there is only one way to gather (`Gathers.eq`).
* `partialBody_of_small`: a small body that is there in time is gathered whole.
* `refusals_stay_refusals`: what every refusal ends as, and when.
-/

namespace InferenceGateway.Client

open Http (Fault Reply)

/-! ## Gathering -/

/-- When reading the body of a refusal is given up: `limit` after it began, or at an earlier deadline
of the whole exchange. -/
def lastMoment (limit : Nat) (deadline : Option Nat) (began : Nat) : Nat :=
  min (began + limit) (deadline.getD (began + limit))

/-- All of some pieces are there by a moment. -/
def InTime (began stop : Nat) (arrivals : List (Nat × List UInt8)) : Prop :=
  arrivals ≠ [] → began + duration arrivals ≤ stop

/--
What is gathered of a body from `began` on, until `stop` and as long as there is room. Whether
something that falls due at `stop` itself is taken is left open.
-/
inductive Gathers (stop room began : Nat) : List (Stream.Event Fault) → List UInt8 → Prop where
  | ended (arrivals : List (Nat × List UInt8)) (inTime : InTime began stop arrivals)
    (space : (content arrivals).length < room) :
    Gathers stop room began (pieces arrivals) (content arrivals)
  | broken (arrivals : List (Nat × List UInt8)) {e : Stream.Event Fault} {fault : Fault}
    (rest : List (Stream.Event Fault)) (inTime : InTime began stop arrivals)
    (space : (content arrivals).length < room) (breaks : e.occurrence = .failure fault) :
    Gathers stop room began (pieces arrivals ++ e :: rest) (content arrivals)
  | late (arrivals : List (Nat × List UInt8)) {e : Stream.Event Fault}
    (rest : List (Stream.Event Fault)) (inTime : InTime began stop arrivals)
    (space : (content arrivals).length < room)
    (overdue : stop ≤ began + duration arrivals + e.delay ∨ e.occurrence = .never) :
    Gathers stop room began (pieces arrivals ++ e :: rest) (content arrivals)
  /-- The piece that leaves no room is still taken whole. -/
  | full (arrivals : List (Nat × List UInt8)) {delay : Nat} {last : List UInt8}
    (rest : List (Stream.Event Fault)) (inTime : began + duration arrivals + delay ≤ stop)
    (space : (content arrivals).length < room)
    (filled : room ≤ (content arrivals).length + last.length) :
    Gathers stop room began (pieces arrivals ++ ⟨delay, .chunk last⟩ :: rest)
      (content arrivals ++ last)

/-- No piece of a body falls due at a moment. -/
def Untied (stop began : Nat) (body : List (Stream.Event Fault)) : Prop :=
  ∀ (arrivals : List (Nat × List UInt8)) (delay : Nat) (bytes : List UInt8)
    (rest : List (Stream.Event Fault)), body = pieces arrivals ++ ⟨delay, .chunk bytes⟩ :: rest →
      began + duration arrivals + delay ≠ stop

section

variable {stop room began delay : Nat} {bytes gathered : List UInt8}
  {body rest : List (Stream.Event Fault)} {arrivals : List (Nat × List UInt8)}

/-- A piece that arrives in time comes in front of what is gathered of the rest. -/
theorem Gathers.chunk (inTime : began + delay ≤ stop) (space : bytes.length < room)
    (h : Gathers stop (room - bytes.length) (began + delay) body gathered) :
    Gathers stop room began (⟨delay, .chunk bytes⟩ :: body) (bytes ++ gathered) := by
  have later {arrivals : List (Nat × List UInt8)} (h : InTime (began + delay) stop arrivals) :
      InTime began stop ((delay, bytes) :: arrivals) := by
    intro _
    rw [duration_cons]
    by_cases none : arrivals = []
    · subst none
      exact inTime
    · have last := h none
      show began + (delay + duration arrivals) ≤ stop
      omega
  have longer (arrivals : List (Nat × List UInt8)) :
      duration ((delay, bytes) :: arrivals) = delay + duration arrivals := duration_cons _ _
  have larger (arrivals : List (Nat × List UInt8)) :
      (content ((delay, bytes) :: arrivals)).length = bytes.length + (content arrivals).length := by
    rw [content_cons, List.length_append]
  -- a piece in front leaves the end of the rest as it is, but for the times and the sizes
  cases h with
  | ended arrivals within space' =>
    exact .ended ((delay, bytes) :: arrivals) (later within) (by rw [larger]; omega)
  | @broken arrivals e fault rest within space' breaks =>
    exact .broken ((delay, bytes) :: arrivals) rest (later within)
      (by rw [larger]; omega) breaks
  | @late arrivals e rest within space' overdue =>
    refine .late ((delay, bytes) :: arrivals) rest (later within)
      (by rw [larger]; omega) (overdue.imp_left fun past => ?_)
    rw [longer]
    omega
  | @full arrivals pause last rest within space' filled =>
    rw [← List.append_assoc]
    exact .full ((delay, bytes) :: arrivals) rest (by rw [longer]; omega)
      (by rw [larger]; omega) (by rw [larger]; omega)

/-- A piece that arrives in time takes its room, even if that is more than there is. -/
theorem partialBody_chunk (space : 0 < room) (inTime : began + delay ≤ stop) (bytes : List UInt8)
    (rest : List (Stream.Event Fault)) :
    (Http.partialBody stop room began (⟨delay, .chunk bytes⟩ :: rest)).1
      = bytes ++ (Http.partialBody stop (room - bytes.length) (began + delay) rest).1 := by
  rw [Http.partialBody, if_neg (Nat.ne_of_gt space), if_neg (Nat.not_lt.mpr inTime)]

theorem partialBody_of_full (body : List (Stream.Event Fault)) :
    Http.partialBody stop 0 began body = ([], began) := by
  cases body with
  | nil => rfl
  | cons e rest => rw [Http.partialBody, if_pos rfl]

/-- What is read of a body is gathered of it. -/
theorem gathers_partialBody (stop : Nat) {room : Nat} (space : 0 < room) (began : Nat)
    (body : List (Stream.Event Fault)) :
    Gathers stop room began body (Http.partialBody stop room began body).1 := by
  -- each piece takes room and time from the rest
  induction body generalizing room began with
  | nil => exact .ended [] (fun some => absurd rfl some) space
  | cons e rest ih =>
    have nothing : InTime began stop [] := fun some => absurd rfl some
    obtain ⟨delay, occurrence⟩ := e
    by_cases overdue : stop < began + delay
    · rw [Http.partialBody, if_neg (Nat.ne_of_gt space), if_pos overdue]
      exact .late [] rest nothing space (.inl (Nat.le_of_lt overdue))
    · cases occurrence with
      | never =>
        rw [Http.partialBody, if_neg (Nat.ne_of_gt space), if_neg overdue]
        exact .late [] rest nothing space (.inr rfl)
      | failure fault =>
        rw [Http.partialBody, if_neg (Nat.ne_of_gt space), if_neg overdue]
        exact .broken [] rest nothing space rfl
      | chunk bytes =>
        have inTime := Nat.le_of_not_lt overdue
        rw [partialBody_chunk space inTime]
        by_cases filled : room ≤ bytes.length
        · rw [Nat.sub_eq_zero_of_le filled, partialBody_of_full, List.append_nil]
          exact .full [] rest inTime space (by simpa [content] using filled)
        · exact (ih (by omega) _).chunk inTime (by omega)

/-- Pieces that arrive in time are read as long as there is room. -/
theorem partialBody_pieces (inTime : InTime began stop arrivals)
    (space : (content arrivals).length < room) (rest : List (Stream.Event Fault)) :
    (Http.partialBody stop room began (pieces arrivals ++ rest)).1
      = content arrivals ++ (Http.partialBody stop (room - (content arrivals).length)
          (began + duration arrivals) rest).1 := by
  induction arrivals generalizing room began with
  | nil => rfl
  | cons a arrivals ih =>
    have all := inTime (List.cons_ne_nil _ _)
    rw [duration_cons] at all
    rw [content_cons, List.length_append] at space
    have first := partialBody_chunk (show 0 < room by omega) (show began + a.1 ≤ stop by omega) a.2
      (pieces arrivals ++ rest)
    refine first.trans ?_
    rw [ih (fun _ => by omega) (by omega), content_cons, duration_cons, List.length_append,
      List.append_assoc, Nat.sub_sub, Nat.add_assoc]

/-- Where nothing falls due at the last moment, there is one way to gather. -/
theorem Gathers.eq (h : Gathers stop room began body gathered) (untied : Untied stop began body) :
    gathered = (Http.partialBody stop room began body).1 := by
  cases h with
  | ended arrivals inTime space =>
    have read := partialBody_pieces inTime space []
    rw [List.append_nil, Http.partialBody, List.append_nil] at read
    exact read.symm
  | @broken arrivals e fault rest inTime space breaks =>
    rw [partialBody_pieces inTime space, Http.partialBody, if_neg (by omega), breaks]
    split <;> simp
  | @late arrivals e rest inTime space overdue =>
    rw [partialBody_pieces inTime space, Http.partialBody, if_neg (by omega)]
    obtain ⟨delay, occurrence⟩ := e
    split
    · simp
    · next soon =>
      cases occurrence with
      | never => simp
      | failure fault => simp
      | chunk bytes =>
        -- a piece that is neither early nor late falls due at the last moment
        have tie : stop ≤ began + duration arrivals + delay := overdue.resolve_right nofun
        exact absurd (Nat.le_antisymm (Nat.le_of_not_lt soon) tie) (untied _ _ _ _ rfl)
  | @full arrivals delay last rest inTime space filled =>
    have within : InTime began stop arrivals := fun _ => by omega
    rw [partialBody_pieces within space, partialBody_chunk (by omega) inTime,
      Nat.sub_sub, Nat.sub_eq_zero_of_le filled, partialBody_of_full, List.append_nil]

/-- A small body that is there in time is read whole. -/
theorem partialBody_of_small (inTime : InTime began stop arrivals)
    (small : (content arrivals).length ≤ room) :
    (Http.partialBody stop room began (pieces arrivals)).1 = content arrivals := by
  induction arrivals generalizing room began with
  | nil => rfl
  | cons a arrivals ih =>
    have all := inTime (List.cons_ne_nil _ _)
    rw [duration_cons] at all
    by_cases full : room = 0
    · -- what is left of the body are pieces without bytes
      subst full
      rw [partialBody_of_full, List.eq_nil_of_length_eq_zero (Nat.le_zero.mp small)]
    · have first := partialBody_chunk (Nat.pos_of_ne_zero full) (show began + a.1 ≤ stop by omega)
        a.2 (pieces arrivals)
      rw [content_cons, List.length_append] at small
      rw [content_cons]
      refine first.trans ?_
      rw [ih (fun _ => by omega) (by omega)]

/-- Reading is over at the last moment. -/
theorem time_partialBody_le (stop room began : Nat) (body : List (Stream.Event Fault)) :
    (Http.partialBody stop room began body).2 ≤ max began stop := by
  induction body generalizing room began with
  | nil => exact Nat.le_max_left _ _
  | cons e rest ih =>
    obtain ⟨delay, occurrence⟩ := e
    by_cases full : room = 0
    · rw [Http.partialBody, if_pos full]
      exact Nat.le_max_left _ _
    by_cases overdue : stop < began + delay
    · rw [Http.partialBody, if_neg full, if_pos overdue]
      exact Nat.le_max_right _ _
    have soon : began + delay ≤ stop := Nat.le_of_not_lt overdue
    rw [Http.partialBody, if_neg full, if_neg overdue]
    cases occurrence with
    | never => exact Nat.le_max_right _ _
    | failure fault => exact Nat.le_trans soon (Nat.le_max_right _ _)
    | chunk bytes =>
      have later := ih (room - bytes.length) (began + delay)
      rw [Nat.max_eq_right soon] at later
      exact Nat.le_trans later (Nat.le_max_right _ _)

end

/-! ## Refusals -/

section

variable (p : Provider) (limit : Nat) (deadline : Option Nat) (began : Nat) {r : Reply}

/-- The error that a refusal with some bytes of its body ends as. -/
def refusedWith (p : Provider) (status : Nat) (bytes : List UInt8) : ProviderError :=
  .refused p status (snippet (errorMessage (Text.decodeLossy bytes)))

theorem success_eq_of_refusal (refusal : Http.isSuccess r.status = false) :
    success p limit deadline began r
      = (.error (refusedWith p r.status
          (Http.partialBody (lastMoment limit deadline began) refusalBytes began r.body).1),
        (Http.partialBody (lastMoment limit deadline began) refusalBytes began r.body).2) := by
  unfold success
  rw [if_neg (ne_true_of_eq_false refusal)]
  rfl

/--
What a refusal ends as. However its body arrives, it is an error with the status of the reply and a
snippet of the text of all bytes that are gathered of the body, and it is known at most `limit` after
the reply began. The text of a small body that is there in time is that of its bytes, whatever pieces
they came in, and so it is the text that was sent if they are well formed as a whole.
-/
theorem refusals_stay_refusals (refusal : Http.isSuccess r.status = false) :
    (∃ bytes, Gathers (lastMoment limit deadline began) refusalBytes began r.body bytes
        ∧ (Untied (lastMoment limit deadline began) began r.body → ∀ other,
          Gathers (lastMoment limit deadline began) refusalBytes began r.body other → other = bytes)
        ∧ (success p limit deadline began r).1 = .error (.refused p r.status
          (snippet (errorMessage (Text.decodeLossy bytes)))))
      ∧ (success p limit deadline began r).2 ≤ began + limit
      ∧ ∀ arrivals, r.body = pieces arrivals → (content arrivals).length ≤ refusalBytes →
        began + duration arrivals < lastMoment limit deadline began →
        (success p limit deadline began r).1 = .error (.refused p r.status
            (snippet (errorMessage (Text.decodeLossy (content arrivals)))))
          ∧ ∀ s, content arrivals = Text.bytesOf s → (success p limit deadline began r).1
            = .error (.refused p r.status (snippet (errorMessage s))) := by
  rw [success_eq_of_refusal p limit deadline began refusal]
  have gathers := gathers_partialBody (lastMoment limit deadline began)
    (show 0 < refusalBytes by decide) began r.body
  refine ⟨⟨_, gathers, fun untied other h => h.eq untied, rfl⟩, ?_, fun arrivals body small soon => ?_⟩
  · have known := time_partialBody_le (lastMoment limit deadline began) refusalBytes began r.body
    have last : lastMoment limit deadline began ≤ began + limit := Nat.min_le_left _ _
    exact Nat.le_trans known (Nat.max_le.mpr ⟨Nat.le_add_right _ _, last⟩)
  · have whole := partialBody_of_small (fun _ => Nat.le_of_lt soon) small
    rw [body, whole]
    refine ⟨rfl, fun s bytes => ?_⟩
    rw [bytes, refusedWith, Text.decodeLossy_bytesOf]

end

/-- A refusal with an `é` whose two bytes arrive apart. -/
def splitRefusal : Reply where
  status := 503
  body := pieces [(1, [0xC3]), (2, [0xA9])]

theorem refusal_of_splitRefusal :
    (success .jan 10 none 2 splitRefusal).1 = .error (.refused .jan 503 "é") := by
  obtain ⟨-, -, whole⟩ := refusals_stay_refusals .jan 10 none 2 (r := splitRefusal) (by decide)
  have sent : content [(1, [0xC3]), (2, [0xA9])] = Text.bytesOf "é" := by
    rw [Text.bytesOf_eq]
    decide
  have text : snippet (errorMessage "é") = "é" := by cbv
  rw [(whole _ rfl (by decide) (by decide)).2 "é" sent, text]
  rfl

end InferenceGateway.Client
