import Gatehouse.Proofs.Breaker.Moves
import Mathlib.Data.List.DropRight

/-!
# The history of a run

What a breaker counts it counts over its past: the failures since the last success, or the
openings since the circuit closed.  `history` keeps that past as a list of moments, each of
them an event with the traffic before and after it.  `countSince` reads such a sentence off
the list: it looks back from the end as far as the moment at which the count starts over, and
counts on the way.  `lastOpened?` finds the moment at which the circuit opened last.

The breaker itself looks at no history.  That its memory agrees with one is shown along the
run, one move at a time (`history_preserves`), and all that has to be known about looking back
is what one more moment makes of it (`countSince_concat`, `lastOpened?_concat`).
-/

namespace Gatehouse.Traffic

/-- One event of a run, with the traffic that it met and the traffic that it left. -/
structure Moment where
  before : Traffic
  event : Event
  after : Traffic

/-- What happens at an event. -/
def moment (t : Traffic) (event : Event) : Moment := ⟨t, event, (t.step event).2⟩

namespace Moment

/-- A call that was under way has ended in this way. -/
def settles (m : Moment) (ending : Ending) : Bool :=
  match m.event with
  | .finish ticket how => (m.before.inFlight.get? ticket).isSome && how == ending
  | _ => false

/-- The circuit has closed. -/
def closes (m : Moment) : Bool :=
  m.before.breaker.phase != .closed && m.after.breaker.phase == .closed

/-- The circuit has opened. -/
def opens (m : Moment) : Bool :=
  m.before.breaker.phase != .opened && m.after.breaker.phase == .opened

theorem settles_of_running {t : Traffic} {ticket : Nat} {permit : Permit}
    (running : t.inFlight.get? ticket = some permit) (how : Ending) (after : Traffic)
    (ending : Ending) : settles ⟨t, .finish ticket how, after⟩ ending = (how == ending) := by
  simp [settles, running]

theorem settles_of_notRunning {t : Traffic} {ticket : Nat}
    (unknown : t.inFlight.get? ticket = none) (how : Ending) (after : Traffic)
    (ending : Ending) : settles ⟨t, .finish ticket how, after⟩ ending = false := by
  simp [settles, unknown]

end Moment

/-- The moments of a run in order. -/
def history (t : Traffic) : List Event → List Moment
  | [] => []
  | event :: events => t.moment event :: (t.step event).2.history events

theorem history_concat (t : Traffic) (events : List Event) (event : Event) :
    t.history (events ++ [event]) = t.history events ++ [(t.run events).2.moment event] := by
  induction events generalizing t with
  | nil => rfl
  | cons first events ih => exact congrArg _ (ih (t.step first).2)

/-- **Facts about the past hold along runs**, if every move carries them on. -/
theorem history_preserves {P : List Moment → Traffic → Prop}
    (keeps : ∀ {past : List Moment} {t next : Traffic} {event : Event} {reply : Reply},
      P past t → t.Moves event reply next → P (past ++ [⟨t, event, next⟩]) next)
    {t : Traffic} (initial : P [] t) (events : List Event) :
    P (t.history events) (t.run events).2 := by
  induction events using List.reverseRecOn with
  | nil => exact initial
  | append_singleton events event ih =>
    rw [history_concat, run_append]
    exact keeps ih (moves_step _ event)

/-- How many moments count, since the last one at which the count starts over. -/
def countSince (startsOver counts : Moment → Bool) (past : List Moment) : Nat :=
  (past.rtakeWhile fun m => !startsOver m).countP counts

theorem countSince_concat (startsOver counts : Moment → Bool) (past : List Moment) (m : Moment) :
    countSince startsOver counts (past ++ [m]) =
      if startsOver m then 0
      else countSince startsOver counts past + if counts m then 1 else 0 := by
  unfold countSince
  rw [List.rtakeWhile_concat]
  cases startsOver m with
  | true => rfl
  | false => simp

/-- The moment at which the circuit opened last. -/
def lastOpened? (past : List Moment) : Option Moment := (past.filter (·.opens)).getLast?

theorem lastOpened?_concat (past : List Moment) (m : Moment) :
    lastOpened? (past ++ [m]) = if m.opens then some m else lastOpened? past := by
  unfold lastOpened?
  rw [List.filter_append]
  cases opens : m.opens <;> simp [opens]

end Gatehouse.Traffic
