/-!
# Circuits

A circuit is closed, open or half open.  Calls pass a closed circuit, and an open one
keeps them away.  A half-open circuit lets a single call pass as a trial.

What a circuit has to remember depends on its state, and so it is kept with the
state: the failures in a row are counted while the circuit is closed, and the last
opening is known from then on until the circuit closes again.

Whenever a circuit changes its state, the new state is published.  A watcher looks at
times: it learns the latest state, and whether anything has been published since it
looked before.  What was published in between is not kept.
-/

namespace Gatehouse

/-- The state of a circuit. -/
inductive Phase where
  | closed
  | opened
  | halfOpen
  deriving DecidableEq, Repr

/-- The word for a state. -/
def Phase.word : Phase → String
  | closed => "closed"
  | opened => "open"
  | halfOpen => "half_open"

/-- The word for a state in a summary. -/
def Phase.title : Phase → String
  | closed => "Closed"
  | opened => "Open"
  | halfOpen => "HalfOpen"

/-- An opening of a circuit. -/
structure Opening where
  /-- The instant, in nanoseconds. -/
  since : Nat
  /-- The wait until the first trial, in milliseconds. -/
  coolDown : Nat
  /-- This is so many openings since the circuit was closed. -/
  count : Nat
  deriving DecidableEq, Repr

/-- So many nanoseconds make a millisecond. -/
def millisecond : Nat := 1000000

/-- What is left of the wait at an instant, in nanoseconds. -/
def Opening.waitLeft (opening : Opening) (now : Nat) : Nat :=
  opening.since + opening.coolDown * millisecond - now

/-- A circuit. -/
inductive Circuit where
  /-- With so many failures in a row. -/
  | closed (failures : Nat)
  | opened (last : Opening)
  /-- Perhaps with a trial that has not ended yet. -/
  | halfOpen (last : Opening) (onTrial : Bool)
  deriving DecidableEq, Repr

namespace Circuit

/-- The state of the circuit. -/
def phase : Circuit → Phase
  | closed _ => .closed
  | opened _ => .opened
  | halfOpen _ _ => .halfOpen

/-- The failures in a row while the circuit is closed. -/
def failures : Circuit → Nat
  | closed n => n
  | _ => 0

/-- The last opening, until the circuit closes. -/
def lastOpening? : Circuit → Option Opening
  | closed _ => none
  | opened last => some last
  | halfOpen last _ => some last

/-- The openings since the circuit was closed. -/
def openings (c : Circuit) : Nat :=
  match c.lastOpening? with
  | none => 0
  | some last => last.count

/-- A trial has begun and not ended. -/
def isOnTrial : Circuit → Bool
  | halfOpen _ onTrial => onTrial
  | _ => false

end Circuit

/-! ## Watching a circuit -/

/-- The latest published state. -/
structure Watch where
  /-- So many states have been published. -/
  count : Nat
  latest : Phase
  deriving DecidableEq, Repr

/-- Somebody who looks at times. -/
structure Watcher where
  /-- So many states had been published at the last look. -/
  seen : Nat
  deriving DecidableEq, Repr

namespace Watch

/-- Nothing has been published yet. -/
def start : Watch := ⟨0, .closed⟩

/-- Publish a state. -/
def publish (w : Watch) (phase : Phase) : Watch := ⟨w.count + 1, phase⟩

/-- A watcher who knows what has been published so far. -/
def subscribe (w : Watch) : Watcher := ⟨w.count⟩

/-- Look: has there been anything new, and what is the latest? -/
def look (w : Watch) (watcher : Watcher) : (Bool × Phase) × Watcher :=
  ((watcher.seen != w.count, w.latest), w.subscribe)

end Watch

end Gatehouse
