/-!
# Streams of bytes

A stream is looked at: it has an item ready, or it says when looking again may help. Times are
milliseconds of one clock.

* `Look`: what looking at a stream gives.
* `Source`: a stream that follows a script. The delay of an event begins when the stream is first
  looked at for it.
* `Arrivals`: a stream that is told by its items, each with a delay, the end included.
* `await`, `turns`: waiting for an item, and for one item after the other with pauses.
-/

namespace InferenceGateway.Stream

/-- An item of a stream. -/
inductive Item (ε : Type) where
  | chunk (bytes : List UInt8)
  | failure (e : ε)
  /-- There is nothing more. -/
  | finished
  deriving DecidableEq, Repr

/-- What looking at a stream gives. -/
inductive Look (ε : Type) where
  | ready (item : Item ε)
  /-- Nothing is ready, and nothing will be before `wake`. -/
  | pending (wake : Option Nat)
  /-- Looking fails, and what was there to hand out is lost. -/
  | crash
  deriving DecidableEq, Repr

/-- The earlier of two times, of which each may be never. -/
def earlier : Option Nat → Option Nat → Option Nat
  | some a, some b => some (min a b)
  | some a, none => some a
  | none, b => b

/-! ## Scripts -/

/-- What a script says will happen. -/
inductive Occurrence (ε : Type) where
  | chunk (bytes : List UInt8)
  | failure (e : ε)
  /-- The stream stays silent from here on. -/
  | never
  deriving DecidableEq, Repr

/-- A scripted event. -/
structure Event (ε : Type) where
  delay : Nat := 0
  occurrence : Occurrence ε
  deriving DecidableEq, Repr

/-- A stream that follows a script and finishes at its end. -/
structure Source (ε : Type) where
  script : List (Event ε)
  /-- When the next event falls due, once the stream has been looked at for it. -/
  due : Option Nat := none
  deriving DecidableEq, Repr

/-- When the next event falls due if it is looked for now. -/
def Source.dueAt (s : Source ε) (now : Nat) (e : Event ε) : Nat :=
  s.due.getD (now + e.delay)

/-- Looks at a script. -/
def Source.look (now : Nat) (s : Source ε) : Look ε × Source ε :=
  match s.script with
  | [] => (.ready .finished, s)
  | e :: rest =>
    let due := s.dueAt now e
    let waiting : Source ε := { s with due := some due }
    match e.occurrence with
    | .never => (.pending none, waiting)
    | .chunk bytes =>
      if due ≤ now then (.ready (.chunk bytes), { script := rest })
      else (.pending (some due), waiting)
    | .failure error =>
      if due ≤ now then (.ready (.failure error), { script := rest })
      else (.pending (some due), waiting)

/-! ## Arrivals -/

/-- What a stream will do next: give an item after a delay, or stay silent from here on. -/
structure Arrival (ε : Type) where
  delay : Nat := 0
  item : Option (Item ε)
  deriving DecidableEq, Repr

/-- A stream that is told by its arrivals. After all of them there is the end, at once. -/
structure Arrivals (ε : Type) where
  coming : List (Arrival ε)
  /-- When the next arrival falls due, once the stream has been looked at for it. -/
  due : Option Nat := none
  deriving DecidableEq, Repr

/-- Looks at a stream that is told by its arrivals. -/
def Arrivals.look (now : Nat) (s : Arrivals ε) : Look ε × Arrivals ε :=
  match s.coming with
  | [] => (.ready .finished, s)
  | a :: rest =>
    let due := s.due.getD (now + a.delay)
    let waiting : Arrivals ε := { s with due := some due }
    match a.item with
    | none => (.pending none, waiting)
    | some item =>
      if due ≤ now then (.ready item, { coming := rest }) else (.pending (some due), waiting)

/-- The item that an event comes to, if it ever comes. -/
def Event.item? (e : Event ε) : Option (Item ε) :=
  match e.occurrence with
  | .chunk bytes => some (.chunk bytes)
  | .failure error => some (.failure error)
  | .never => none

/-- An event as an arrival. -/
def Event.arrival (e : Event ε) : Arrival ε where
  delay := e.delay
  item := e.item?

/-- A stream that follows a script, told by its arrivals. -/
def Source.arrivals (s : Source ε) : Arrivals ε where
  coming := s.script.map Event.arrival
  due := s.due

/-! ## Waiting -/

/-- How waiting for an item ends. -/
inductive Ending (ε : Type) where
  | item (item : Item ε)
  | givenUp
  /-- Looking at the stream has failed. -/
  | crash
  deriving DecidableEq, Repr

/-- When waiting ended, and how. -/
abbrev Outcome (ε : Type) := Nat × Ending ε

/-- Looks again and again until an item is ready, at the latest at `limit`. -/
def await (look : Nat → σ → Look ε × σ) (limit now : Nat) (s : σ) : Outcome ε × σ :=
  match look now s with
  | (.ready item, s) => ((now, .item item), s)
  | (.crash, s) => ((now, .crash), s)
  | (.pending wake, s) =>
    match wake with
    | some t =>
      if now < t ∧ t ≤ limit then await look limit t s else ((max now limit, .givenUp), s)
    | none => ((max now limit, .givenUp), s)
termination_by limit - now

/-- Whether looking at the stream has failed; it is not looked at again then. -/
def Ending.isCrash : Ending ε → Bool
  | .crash => true
  | _ => false

/-- Waits once for each pause in the list, and pauses after each time. -/
def turns (look : Nat → σ → Look ε × σ) (patience : Nat) :
    List Nat → Nat → σ → List (Outcome ε)
  | [], _, _ => []
  | pause :: pauses, now, s =>
    let (outcome, s) := await look (now + patience) now s
    outcome ::
      if outcome.2.isCrash then [] else turns look patience pauses (outcome.1 + pause) s

end InferenceGateway.Stream
