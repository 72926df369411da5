import Mathlib
import InferenceGateway.Proofs.Registry.Rounds

/-!
# Waiting for all listings at once

All listings of a round are waited for at the same time, each on its own and no longer than a limit.
Who looks whether a wait is over finds the answer first and only then that the time is over. The
waits may be looked at in any order; what they come to, and when the last one is over, does not
depend on it.

* `ListingAnswer.took`: how long one answer is waited for; `ListingAnswer.Settles` says what the
  wait comes to, and `ListingAnswer.Lists` when these are models.
* `Longest`: the longest of several times.
* `Waits`, `Waits.Steps`: the waits of a round, and what may happen to them.
* `Waits.Kept`: the invariant of a round; `Steps.kept` says that it holds at all times.
* `Waits.Ends`: how a round ends; `Steps.ends` says that every one does so.
-/

namespace InferenceGateway

/-! ## One wait -/

/-- How long an answer is waited for: until it is there, and no longer than the limit. -/
def ListingAnswer.took (limit : Nat) (a : ListingAnswer) : Nat :=
  match a.delay with
  | some d => min d limit
  | none => limit

/-- What waiting for an answer comes to. -/
inductive ListingAnswer.Settles (limit : Nat) : ListingAnswer → Listing → Prop where
  | listed {d : Nat} (models : List ModelInfo) (inTime : d ≤ limit) :
    Settles limit ⟨some d, .ok models⟩ (.ok models)
  | failed {d : Nat} (e : ProviderError) (inTime : d ≤ limit) :
    Settles limit ⟨some d, .error e⟩ (.error e.message)
  | late {a : ListingAnswer} (overdue : ∀ d, a.delay = some d → limit < d) :
    Settles limit a (.error (listingTimeout limit))

/-- An answer that brings models, and in time. -/
def ListingAnswer.Lists (limit : Nat) (a : ListingAnswer) : Prop :=
  ∃ d models, a.delay = some d ∧ d ≤ limit ∧ a.result = .ok models

namespace ListingAnswer

/-- Who waits within a limit waits as long as the answer takes, or the limit. -/
theorem within_fst (limit : Nat) (a : ListingAnswer) : (a.within limit).1 = a.took limit := by
  obtain ⟨_ | d, result⟩ := a
  · rfl
  · unfold within took
    dsimp only
    split
    · next inTime => exact (Nat.min_eq_left inTime).symm
    · next late => exact (Nat.min_eq_right (Nat.le_of_not_le late)).symm

/-- Of what waiting may come to there is one for each answer. -/
theorem settles_iff {limit : Nat} {a : ListingAnswer} {l : Listing} :
    a.Settles limit l ↔ (a.within limit).2 = l := by
  constructor
  · intro h
    -- an answer with a delay beyond the limit is as late as one without
    cases h with
    | listed models inTime => simp [within, inTime, Except.mapError]
    | failed e inTime => simp [within, inTime, Except.mapError]
    | late overdue =>
      obtain ⟨_ | d, result⟩ := a
      · rfl
      · simp [within, Nat.not_le.mpr (overdue d rfl)]
  · rintro rfl
    obtain ⟨_ | d, result⟩ := a
    · exact .late nofun
    · by_cases inTime : d ≤ limit
      · cases result with
        | ok models => simpa [within, inTime, Except.mapError] using Settles.listed models inTime
        | error e => simpa [within, inTime, Except.mapError] using Settles.failed e inTime
      · have late : Settles limit ⟨some d, result⟩ (.error (listingTimeout limit)) :=
          .late fun d' same => Option.some.inj same ▸ Nat.lt_of_not_le inTime
        simpa [within, inTime] using late

theorem Settles.unique {limit : Nat} {a : ListingAnswer} {l l' : Listing}
    (h : a.Settles limit l) (h' : a.Settles limit l') : l = l' :=
  (settles_iff.mp h).symm.trans (settles_iff.mp h')

/-- A wait comes to models exactly if the answer brings them in time. -/
theorem lists_iff {limit : Nat} {a : ListingAnswer} :
    a.Lists limit ↔ ∃ models, (a.within limit).2 = .ok models := by
  constructor
  · rintro ⟨d, models, delay, inTime, result⟩
    refine ⟨models, settles_iff.mp ?_⟩
    obtain ⟨_, _⟩ := a
    cases delay
    cases result
    exact .listed models inTime
  · rintro ⟨models, eq⟩
    cases settles_iff.mpr eq with
    | @listed d _ inTime => exact ⟨d, models, rfl, inTime, rfl⟩

/-- What one who waits since `start` finds: the answer if it is there, else whether the time is
over. -/
def look (limit start now : Nat) (a : ListingAnswer) : Option Listing :=
  if a.delay.any (start + · ≤ now) then some (a.result.mapError ProviderError.message)
  else if start + limit ≤ now then some (.error (listingTimeout limit))
  else none

variable {limit start now : Nat} {a : ListingAnswer} {l : Listing}

/-- Once a wait may be at its end, looking at it ends it. -/
theorem exists_look (due : start + a.took limit ≤ now) : ∃ l, a.look limit start now = some l := by
  unfold look
  split
  · exact ⟨_, rfl⟩
  · next missing =>
    refine ⟨_, if_pos ?_⟩
    unfold took at due
    split at due
    · next d delay =>
      rw [delay] at missing
      have missing : ¬start + d ≤ now := by simpa using missing
      omega
    · exact due

/-- What is found no later than a wait may be at its end is what it comes to. -/
theorem settles_of_look (found : a.look limit start now = some l)
    (soon : now ≤ start + a.took limit) : a.Settles limit l ∧ now = start + a.took limit := by
  obtain ⟨delay, result⟩ := a
  unfold look at found
  split at found
  · next there =>
    -- the answer is there, and not after the limit
    cases found
    cases delay with
    | none => cases there
    | some d =>
      have arrived : start + d ≤ now := by simpa using there
      have soon : now ≤ start + min d limit := soon
      refine ⟨?_, show now = start + min d limit by omega⟩
      have inTime : d ≤ limit := by omega
      cases result with
      | ok models => exact .listed models inTime
      | error e => exact .failed e inTime
  · next missing =>
    split at found
    · next timeOver =>
      cases found
      cases delay with
      | none => exact ⟨.late nofun, Nat.le_antisymm soon timeOver⟩
      | some d =>
        have missing : ¬start + d ≤ now := by simpa using missing
        have soon : now ≤ start + min d limit := soon
        refine ⟨.late fun d' same => ?_, show now = start + min d limit by omega⟩
        cases same
        omega
    · cases found

end ListingAnswer

/-! ## The longest wait -/

/-- The longest of several times; none are over at once. -/
structure Longest (times : List Nat) (longest : Nat) : Prop where
  le : ∀ t ∈ times, t ≤ longest
  attained : times = [] ∧ longest = 0 ∨ longest ∈ times

/-- The longest of some times can be computed, one after the other. -/
theorem longest_foldl_max (times : List Nat) : Longest times (times.foldl max 0) := by
  -- from the end, where the fold takes the maximum last
  induction times using List.reverseRecOn with
  | nil => exact ⟨List.forall_mem_nil _, .inl ⟨rfl, rfl⟩⟩
  | append_singleton earlier t ih =>
    rw [List.foldl_append]
    show Longest (earlier ++ [t]) (max (earlier.foldl max 0) t)
    constructor
    · intro u mem
      rcases List.mem_append.mp mem with mem | mem
      · exact Nat.le_trans (ih.le u mem) (Nat.le_max_left _ _)
      · exact List.mem_singleton.mp mem ▸ Nat.le_max_right _ _
    · right
      rw [List.mem_append, List.mem_singleton]
      by_cases longer : earlier.foldl max 0 ≤ t
      · exact .inr (Nat.max_eq_right longer)
      · rw [Nat.max_eq_left (Nat.le_of_not_le longer)]
        refine .inl (ih.attained.resolve_left fun none => ?_)
        rw [none.2] at longer
        exact longer (Nat.zero_le t)

theorem Longest.unique {times : List Nat} {m n : Nat} (hm : Longest times m)
    (hn : Longest times n) : m = n := by
  have half : ∀ {m n}, Longest times m → Longest times n → m ≤ n := by
    intro m n hm hn
    rcases hm.attained with ⟨-, rfl⟩ | mem
    · exact Nat.zero_le n
    · exact hn.le m mem
  exact Nat.le_antisymm (half hm hn) (half hn hm)

/-- A round ends with its longest wait. -/
theorem longest_roundEnd (limit start : Nat) (answers : List ListingAnswer) :
    ∃ longest, Longest (answers.map (·.took limit)) longest
      ∧ roundEnd limit start answers = start + longest := by
  refine ⟨_, longest_foldl_max _, ?_⟩
  unfold roundEnd
  rw [show (fun a : ListingAnswer => (a.within limit).1) = (·.took limit) from
    funext fun a => a.within_fst limit]

/-! ## All waits of a round -/

/-- The waits of a round at a time, each with what it has come to if it is over. -/
structure Waits where
  now : Nat
  outcomes : List (Option Listing)

namespace Waits

variable {limit start : Nat} {answers : List ListingAnswer} {w w' : Waits}

/-- All waits begin at once. -/
def begin (start : Nat) (answers : List ListingAnswer) : Waits where
  now := start
  outcomes := answers.map fun _ => none

/-- A wait that is not over. -/
def Open (answers : List ListingAnswer) (w : Waits) (place : Nat) (a : ListingAnswer) : Prop :=
  answers[place]? = some a ∧ w.outcomes[place]? = some none

/-- One thing that may happen to the waits of a round. -/
inductive Step (limit start : Nat) (answers : List ListingAnswer) : Waits → Waits → Prop where
  /-- One of the waits is looked at, and it is over. -/
  | settle {w : Waits} {place : Nat} {a : ListingAnswer} {l : Listing}
    (isOpen : w.Open answers place a) (found : a.look limit start w.now = some l) :
    Step limit start answers w { w with outcomes := w.outcomes.set place (some l) }
  /-- Time passes, at most until the first of the waits may be at its end. -/
  | pass {w : Waits} (time : Nat) (later : w.now < time)
    (idle : ∀ place a, w.Open answers place a → time ≤ start + a.took limit)
    (waiting : ∃ place a, w.Open answers place a) :
    Step limit start answers w { w with now := time }

/-- Any number of such things. -/
inductive Steps (limit start : Nat) (answers : List ListingAnswer) : Waits → Waits → Prop where
  | refl (w : Waits) : Steps limit start answers w w
  | tail {w w' w'' : Waits} (h : Steps limit start answers w w')
    (s : Step limit start answers w' w'') : Steps limit start answers w w''

/-- No wait is open. -/
def Done (w : Waits) : Prop :=
  none ∉ w.outcomes

/-- What is known of the waits at any time. -/
structure Kept (limit start : Nat) (answers : List ListingAnswer) (w : Waits) : Prop where
  length : w.outcomes.length = answers.length
  /-- A wait that is over has come to what it had to, and not before its time. -/
  settled : ∀ (place : Nat) (a : ListingAnswer) (l : Listing), answers[place]? = some a →
    w.outcomes[place]? = some (some l) → a.Settles limit l ∧ start + a.took limit ≤ w.now
  /-- The time of an open wait has not passed. -/
  waiting : ∀ place a, w.Open answers place a → w.now ≤ start + a.took limit
  begun : start ≤ w.now
  /-- Time has passed for the sake of a wait, if at all. -/
  reason : w.now = start ∨ ∃ a ∈ answers, w.now ≤ start + a.took limit

theorem kept_begin (limit start : Nat) (answers : List ListingAnswer) :
    Kept limit start answers (begin start answers) where
  length := List.length_map ..
  settled place a l asked known := by
    have mem : some l ∈ answers.map fun _ => none := List.mem_of_getElem? known
    simp at mem
  waiting place a isOpen := Nat.le_add_right _ _
  begun := Nat.le_refl _
  reason := .inl rfl

/-- A wait that is looked at concerns no other wait. -/
theorem getElem?_settle (w : Waits) {place : Nat} (present : w.outcomes[place]? = some none)
    (l : Listing) (i : Nat) :
    (w.outcomes.set place (some l))[i]? = if i = place then some (some l) else w.outcomes[i]? := by
  have within : place < w.outcomes.length := (List.getElem?_eq_some_iff.mp present).1
  rw [List.getElem?_set]
  by_cases same : i = place
  · rw [if_pos same.symm, if_pos same, if_pos within]
  · rw [if_neg (Ne.symm same), if_neg same]

/-- Looking at a wait keeps the others, and time passes for open waits alone. -/
theorem Step.kept (s : Step limit start answers w w') (h : Kept limit start answers w) :
    Kept limit start answers w' := by
  cases s with
  | @settle place a l isOpen found =>
    obtain ⟨settles, ended⟩ := ListingAnswer.settles_of_look found (h.waiting place a isOpen)
    refine ⟨(List.length_set ..).trans h.length, ?_, ?_, h.begun, h.reason⟩
    · intro i b m asked known
      dsimp only at known
      rw [getElem?_settle w isOpen.2 l i] at known
      split at known
      -- the wait that is looked at is over just now; all others are as they were
      · next here =>
        subst here
        cases known
        cases asked.symm.trans isOpen.1
        exact ⟨settles, Nat.le_of_eq ended.symm⟩
      · exact h.settled i b m asked known
    · rintro i b ⟨asked, unknown⟩
      dsimp only at unknown
      rw [getElem?_settle w isOpen.2 l i] at unknown
      split at unknown
      · cases unknown
      · exact h.waiting i b ⟨asked, unknown⟩
  | pass time later idle waiting =>
    obtain ⟨place, a, isOpen⟩ := waiting
    have after : w.now ≤ time := Nat.le_of_lt later
    refine ⟨h.length, ?_, idle, Nat.le_trans h.begun after, ?_⟩
    · intro i b m asked known
      obtain ⟨settles, ended⟩ := h.settled i b m asked known
      exact ⟨settles, Nat.le_trans ended after⟩
    · exact .inr ⟨a, List.mem_of_getElem? isOpen.1, idle place a isOpen⟩

theorem Steps.trans {w'' : Waits} (h : Steps limit start answers w w')
    (k : Steps limit start answers w' w'') : Steps limit start answers w w'' := by
  induction k with
  | refl => exact h
  | tail _ s ih => exact ih.tail s

/-- However the waits are looked at, what holds at the beginning of a round is kept. -/
theorem Steps.kept (run : Steps limit start answers w w') (h : Kept limit start answers w) :
    Kept limit start answers w' := by
  induction run with
  | refl => exact h
  | tail _ s ih => exact s.kept ih

/-! ## The end of a round -/

/-- Once no wait is open, each has come to what it had to. -/
theorem Kept.forall₂ (h : Kept limit start answers w) (done : w.Done) :
    List.Forall₂ (fun a o => ∃ l, o = some l ∧ ListingAnswer.Settles limit a l) answers
      w.outcomes := by
  refine List.forall₂_iff_get.mpr ⟨h.length.symm, fun i asked known => ?_⟩
  have there := List.getElem?_eq_getElem known
  cases outcome : w.outcomes[i] with
  | none => exact absurd (outcome ▸ List.getElem_mem known) done
  | some l =>
    rw [outcome] at there
    have settled := h.settled i answers[i] l (List.getElem?_eq_getElem asked) there
    exact ⟨l, outcome, settled.1⟩

/-- No more time passes than the longest wait takes. -/
theorem Kept.now_le (h : Kept limit start answers w) {longest : Nat}
    (most : Longest (answers.map (·.took limit)) longest) : w.now ≤ start + longest := by
  rcases h.reason with now | ⟨a, mem, within⟩
  · exact now ▸ Nat.le_add_right _ _
  · exact Nat.le_trans within (Nat.add_le_add_left (most.le _ (List.mem_map_of_mem mem)) start)

/-- Once no wait is open, the longest has passed. -/
theorem Kept.now_eq (h : Kept limit start answers w) (done : w.Done) {longest : Nat}
    (most : Longest (answers.map (·.took limit)) longest) : w.now = start + longest := by
  refine Nat.le_antisymm (h.now_le most) ?_
  rcases most.attained with ⟨-, rfl⟩ | mem
  · exact h.begun
  · obtain ⟨a, asked, rfl⟩ := List.mem_map.mp mem
    obtain ⟨i, within, rfl⟩ := List.getElem_of_mem asked
    obtain ⟨l, known, -⟩ := (List.forall₂_iff_get.mp (h.forall₂ done)).2 i within
      (h.length ▸ within)
    have there : w.outcomes[i]? = some (some l) := List.getElem?_eq_some_iff.mpr ⟨_, known⟩
    exact (h.settled i answers[i] l (List.getElem?_eq_getElem within) there).2

/-! ## Rounds do end -/

/-- As long as a wait is open, there is one whose time comes first. -/
theorem exists_first (length : w.outcomes.length = answers.length) (undone : ¬w.Done) :
    ∃ place a, w.Open answers place a
      ∧ ∀ i b, w.Open answers i b → a.took limit ≤ b.took limit := by
  have some_open : ∃ time place a, w.Open answers place a ∧ a.took limit = time := by
    obtain ⟨i, within, known⟩ := List.getElem_of_mem (not_not.mp undone)
    have asked : i < answers.length := length ▸ within
    exact ⟨_, i, answers[i], ⟨List.getElem?_eq_getElem asked,
      List.getElem?_eq_some_iff.mpr ⟨within, known⟩⟩, rfl⟩
  classical
  obtain ⟨place, a, isOpen, soonest⟩ := Nat.find_spec some_open
  refine ⟨place, a, isOpen, fun i b other => ?_⟩
  rw [soonest]
  exact Nat.find_min' some_open ⟨i, b, other, rfl⟩

/-- How many waits are open. -/
def openCount (w : Waits) : Nat :=
  w.outcomes.countP Option.isNone

/-- A wait that is over is no longer open. -/
theorem openCount_settle {place : Nat} (present : w.outcomes[place]? = some none) (l : Listing) :
    openCount { w with outcomes := w.outcomes.set place (some l) } < w.openCount := by
  obtain ⟨within, known⟩ := List.getElem?_eq_some_iff.mp present
  have positive : 0 < w.openCount :=
    List.countP_pos_iff.mpr ⟨none, List.mem_of_getElem? present, rfl⟩
  unfold openCount at positive ⊢
  rw [List.countP_set within, known]
  exact Nat.sub_lt positive Nat.one_pos

/-- As long as a wait is open, the first whose time comes can be waited for. -/
theorem Kept.exists_settled (h : Kept limit start answers w) (undone : ¬w.Done) :
    ∃ w', Steps limit start answers w w' ∧ w'.openCount < w.openCount := by
  obtain ⟨place, a, isOpen, first⟩ := exists_first h.length undone
  -- the clock goes to the end of this wait, which may be now
  obtain ⟨w₁, onward, outcomes, due⟩ : ∃ w₁, Steps limit start answers w w₁
      ∧ w₁.outcomes = w.outcomes ∧ w₁.now = start + a.took limit := by
    by_cases now : w.now = start + a.took limit
    · exact ⟨w, .refl w, rfl, now⟩
    · have later : w.now < start + a.took limit :=
        Nat.lt_of_le_of_ne (h.waiting place a isOpen) now
      refine ⟨_, (Steps.refl w).tail (.pass _ later (fun i b other => ?_) ⟨place, a, isOpen⟩),
        rfl, rfl⟩
      exact Nat.add_le_add_left (first i b other) start
  obtain ⟨l, found⟩ := ListingAnswer.exists_look (Nat.le_of_eq due.symm)
  have still : w₁.Open answers place a := ⟨isOpen.1, outcomes ▸ isOpen.2⟩
  refine ⟨_, onward.tail (.settle still found), ?_⟩
  have less := openCount_settle still.2 l
  rwa [show w₁.openCount = w.openCount from congrArg (List.countP Option.isNone) outcomes]
    at less

/-- Whatever has happened so far, a round can come to its end. -/
theorem Kept.exists_done (h : Kept limit start answers w) :
    ∃ w', Steps limit start answers w w' ∧ w'.Done := by
  generalize count : w.openCount = n
  induction n using Nat.strong_induction_on generalizing w with
  | _ n ih =>
    by_cases done : w.Done
    · exact ⟨w, .refl w, done⟩
    · obtain ⟨w₁, first, less⟩ := h.exists_settled done
      obtain ⟨w₂, rest, done⟩ := ih _ (count ▸ less) (first.kept h) rfl
      exact ⟨w₂, first.trans rest, done⟩

/-- What is known of a round whose longest wait takes so long, at any time. -/
structure Ends (limit start : Nat) (answers : List ListingAnswer) (longest : Nat) (w : Waits) :
    Prop where
  early : w.now ≤ start + longest
  possible : ∃ last, Steps limit start answers w last ∧ last.Done
  done : w.Done → w.now = start + longest
    ∧ List.Forall₂ (fun a o => ∃ l, o = some l ∧ ListingAnswer.Settles limit a l) answers
      w.outcomes

/--
However the waits of a round are looked at, no more time passes than the longest wait takes, and the
round can come to its end. There just this time has passed, and each wait has come to what its own
answer has to.
-/
theorem Steps.ends {longest : Nat} (run : Steps limit start answers (begin start answers) w)
    (most : Longest (answers.map (·.took limit)) longest) : Ends limit start answers longest w := by
  have kept := run.kept (kept_begin limit start answers)
  exact ⟨kept.now_le most, kept.exists_done,
    fun done => ⟨kept.now_eq done most, kept.forall₂ done⟩⟩

end Waits

end InferenceGateway
