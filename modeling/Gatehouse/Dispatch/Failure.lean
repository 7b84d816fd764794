/-!
# Failures of calls

A failure has a kind, which is a short word, and a message.  Breakers count failures
by kind, and failures are dropped by kind, so that nobody has to know what can go
wrong with a particular operation.

A call through a breaker can also fail without the operation having been run at all.
That is a kind of its own, and it comes with the time after which another call may pass.

*Durations.*  A duration is a number of nanoseconds.  It is written in the largest unit that
it reaches, with a fraction as long as is needed to be exact.
-/

namespace Gatehouse

namespace Text

/-! ## Durations -/

/-- The digits of a number without the zeros at its end. -/
def withoutTrailingZeros (cs : List Char) : List Char :=
  (cs.reverse.dropWhile (· == '0')).reverse

/-- The digits of a number, filled up with zeros in front. -/
def paddedDigits (width n : Nat) : List Char :=
  let digits := Nat.toDigits 10 n
  List.replicate (width - digits.length) '0' ++ digits

/-- A number of parts, of which `10 ^ places` make one unit. -/
def inUnit (places : Nat) (unit : String) (parts : Nat) : String :=
  let fraction := withoutTrailingZeros (paddedDigits places (parts % Nat.pow 10 places))
  String.ofList (Nat.toDigits 10 (parts / Nat.pow 10 places) ++
    if fraction = [] then [] else '.' :: fraction) ++ unit

/-- The text of a duration. -/
def duration (nanoseconds : Nat) : String :=
  if 1000000000 ≤ nanoseconds then inUnit 9 "s" nanoseconds
  else if 1000000 ≤ nanoseconds then inUnit 6 "ms" nanoseconds
  else if 1000 ≤ nanoseconds then inUnit 3 "µs" nanoseconds
  else inUnit 0 "ns" nanoseconds

end Text

/-! ## Failures -/

/-- What goes wrong with input and output. -/
inductive IoFault where
  | connectionRefused
  | connectionReset
  | connectionAborted
  | notConnected
  | brokenPipe
  | timedOut
  /-- Anything else. -/
  | other
  deriving DecidableEq, Repr

/-- The kind of failure that it is. -/
def IoFault.kind : IoFault → String
  | connectionRefused | connectionReset | connectionAborted | notConnected | brokenPipe =>
    "connection"
  | timedOut => "timeout"
  | other => "io"

/-- An operation has failed. -/
structure Failure where
  kind : String
  message : String
  deriving DecidableEq, Repr

/-- Why a call through a breaker has no result. -/
inductive CallError where
  /-- The breaker has kept the call away.  After so many nanoseconds it may let one
  pass. -/
  | circuitOpen (breaker : String) (retryAfter : Nat)
  | operation (failure : Failure)
  deriving DecidableEq, Repr

namespace CallError

/-- The kind of an error. -/
def kind : CallError → String
  | circuitOpen _ _ => "circuit_open"
  | operation failure => failure.kind

/-- The wording of an error. -/
def message : CallError → String
  | circuitOpen breaker retryAfter =>
    "Circuit breaker '" ++ breaker ++ "' is open - rejecting call (retry after " ++
      Text.duration retryAfter ++ ")"
  | operation failure => failure.message

/-- The operation has not been run. -/
def isCircuitOpen : CallError → Bool
  | circuitOpen _ _ => true
  | operation _ => false

/-- The failure of the operation, if it has been run. -/
def failure? : CallError → Option Failure
  | circuitOpen _ _ => none
  | operation failure => some failure

end CallError

/-! ## Doing without a result -/

/-- The result is an error of one of these kinds. -/
def isSuppressed {α : Type u} (kinds : List String) : Except CallError α → Bool
  | .ok _ => false
  | .error e => kinds.contains e.kind

/-- Take another value in place of an error of one of these kinds. -/
def recover {α : Type u} (kinds : List String) (fallback : α) (result : Except CallError α) :
    Except CallError α :=
  if isSuppressed kinds result then .ok fallback else result

theorem recover_error {α : Type u} (kinds : List String) (fallback : α) (e : CallError) :
    recover kinds fallback (.error e) =
      if kinds.contains e.kind then .ok fallback else .error e := rfl

end Gatehouse
