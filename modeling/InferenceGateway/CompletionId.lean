import InferenceGateway.Provider.Basic

/-!
# Ids of completions

An id is the name of a provider and a number. Numbers are nanoseconds of the clock, but always
past the last one drawn, which is kept in a cell of 64 bits that all calls share.

* `CompletionId.draw`: the number for a clock reading and a last number.
* `CompletionId.Step`: what calls do one after the other, for any interleaving of calls. A call
  reads the clock, reads the cell, and puts its number into the cell if the cell has not changed;
  else it starts over from what the cell now holds.
-/

namespace InferenceGateway.CompletionId

/-- The text of an id. -/
def text (p : Provider) (n : UInt64) : String :=
  p.id ++ "-" ++ toString n.toNat

/-- The number at a clock reading, after `last`. -/
def draw (clock last : UInt64) : UInt64 :=
  max clock (last + 1)

/-- The numbers for a sequence of clock readings, after `last`, without interference. -/
def series : List UInt64 → UInt64 → List UInt64
  | [], _ => []
  | clock :: clocks, last => draw clock last :: series clocks (draw clock last)

/-- How far a call for a number has come. -/
inductive Progress where
  /-- Nothing has been done. -/
  | idle
  /-- The clock has been read. -/
  | timed (clock : UInt64)
  /-- The cell has been read: it held `seen`. -/
  | loaded (clock seen : UInt64)
  /-- The number is in the cell and returned. -/
  | returned (n : UInt64)
  deriving DecidableEq, Repr

/-- The cell and all calls. -/
structure Board where
  last : UInt64 := 0
  calls : Nat → Progress := fun _ => .idle

/-- The board after one call has come further. -/
def Board.advance (b : Board) (i : Nat) (progress : Progress) : Board :=
  { b with calls := fun j => if j = i then progress else b.calls j }

/-- One step of one call. -/
inductive Step : Board → Board → Prop where
  | readClock {b i} (clock : UInt64) (h : b.calls i = .idle) : Step b (b.advance i (.timed clock))
  | load {b i clock} (h : b.calls i = .timed clock) : Step b (b.advance i (.loaded clock b.last))
  | exchange {b i clock} (h : b.calls i = .loaded clock b.last) :
    Step b ({ b with last := draw clock b.last }.advance i (.returned (draw clock b.last)))
  /-- The exchange fails, perhaps without a reason, and the cell is read again. -/
  | retry {b i clock seen} (h : b.calls i = .loaded clock seen) :
    Step b (b.advance i (.loaded clock b.last))

end InferenceGateway.CompletionId
