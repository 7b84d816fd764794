import Gatehouse.Proofs.Breaker.History
import Gatehouse.Proofs.Breaker.TrialSlot

/-!
# What a breaker remembers

A circuit that opens again and again waits longer each time.  What it remembers for this is its
last opening, until it closes: when that was, how long it waits, and which one it is in a row.
Here these three, the state and the published state are shown to belong together at all times,
and to be those of the moment at which the circuit opened last.

Of all that can happen only three things matter (`Breaker.Changes`): the circuit opens, an open
circuit becomes half open, and a half-open one closes.  Everything else leaves the state and the
last opening alone.  So the circuit goes one way round (`Phase.Goes`), and each fact about the
memory has four cases and not fifteen.

### What is load-bearing

The end of a trial is obeyed in any state, so `Changes` would be wrong without the accounts of
the trial slot: a trial that ends finds the circuit half open.  An open circuit that opened once
more would lose the beginning of its wait, and `Changes.opens` says that none does.

The wait of an opening is computed from the openings before it, and stored beside a number that
counts it in.  This is the `- 1` in `Remembers.coolDown`.
-/

namespace Gatehouse

/-- **The ways of a circuit** from one state to another one. -/
inductive Phase.Goes : Phase → Phase → Prop where
  /-- There have been too many failures in a row. -/
  | opens : Goes .closed .opened
  /-- The wait is over. -/
  | tries : Goes .opened .halfOpen
  /-- The trial has failed. -/
  | relapses : Goes .halfOpen .opened
  /-- The trial has succeeded. -/
  | recovers : Goes .halfOpen .closed

namespace Breaker

/-- **What matters to the memory of a breaker.** -/
inductive Changes (b : Breaker) (now : Nat) : Breaker → Prop where
  /-- The state and the last opening stay as they are. -/
  | stays {circuit : Circuit} (phase : circuit.phase = b.phase)
      (last : circuit.lastOpening? = b.circuit.lastOpening?) : Changes b now { b with circuit }
  | opens (wasNot : b.phase ≠ .opened) : Changes b now (b.trip now)
  | tries {last : Opening} (circuit : b.circuit = .opened last) :
      Changes b now (b.enter (.halfOpen last true))
  | recovers (was : b.phase = .halfOpen) : Changes b now b.close

variable {b c : Breaker} {now : Nat}

theorem Changes.same (b : Breaker) (now : Nat) : b.Changes now b := .stays rfl rfl

theorem Admits.changes {permit : Permit} (admits : b.Admits now permit c) : b.Changes now c := by
  cases admits with
  | disabled off => exact .same b now
  | closed on circuit => exact .same b now
  | opened on circuit ended => exact .tries circuit
  | halfOpen on circuit => exact .stays (phase_of_halfOpen circuit).symm (by rw [circuit]; rfl)

theorem changes_endTrial (b : Breaker) (now : Nat) : b.Changes now b.endTrial := by
  have same : b.endTrial = { b with circuit := b.endTrial.circuit } := by
    unfold endTrial
    split <;> rfl
  rw [same]
  exact .stays b.phase_endTrial b.lastOpening?_endTrial

theorem Settles.changes_of_ordinary {ending : Ending}
    (settles : b.Settles now .ordinary ending c) : b.Changes now c := by
  cases settles with
  | disabled off => exact .same b now
  | cleared on circuit => exact .stays (phase_of_circuit circuit).symm (by rw [circuit]; rfl)
  | tripped on circuit enough => exact .opens (by rw [phase_of_circuit circuit]; decide)
  | counted on circuit few => exact .stays (phase_of_circuit circuit).symm (by rw [circuit]; rfl)
  | uncounted on circuit neutral => exact .same b now
  | late on away => exact .same b now

/-- A trial that ends finds the circuit half open. -/
theorem Settles.changes_of_trial {ending : Ending}
    (settles : b.Settles now .trial ending c) (was : b.phase = .halfOpen) :
    b.Changes now c := by
  cases settles with
  | disabled off => exact .same b now
  | recovered on => exact .recovers was
  | relapsed on => exact .opens (by rw [was]; decide)
  | undecided on neutral => exact b.changes_endTrial now

namespace Changes

theorem config (changes : b.Changes now c) : c.config = b.config := by
  cases changes <;> rfl

/-- **The circuit goes its way**, or stays where it is. -/
theorem goes (changes : b.Changes now c) : c.phase = b.phase ∨ b.phase.Goes c.phase := by
  cases changes with
  | stays phase last => exact Or.inl phase
  | opens wasNot =>
    have opened : (b.trip now).phase = .opened := rfl
    rw [opened]
    cases was : b.phase with
    | closed => exact Or.inr .opens
    | opened => exact absurd was wasNot
    | halfOpen => exact Or.inr .relapses
  | tries circuit =>
    have was : b.phase = .opened := phase_of_opened circuit
    rw [was]
    exact Or.inr .tries
  | recovers was =>
    rw [was]
    exact Or.inr .recovers

/-- **What is published is the state.** -/
theorem latest (changes : b.Changes now c) (published : b.watch.latest = b.phase) :
    c.watch.latest = c.phase := by
  cases changes with
  | stays phase last => exact published.trans phase.symm
  | _ => rfl

/-- Openings are counted, and forgotten when the circuit closes. -/
theorem openings (changes : b.Changes now c) :
    c.openings =
      if b.phase != .closed && c.phase == .closed then 0
      else b.openings + if b.phase != .opened && c.phase == .opened then 1 else 0 := by
  cases changes with
  | @stays circuit phase last =>
    have same : { b with circuit }.openings = b.openings := by
      unfold Breaker.openings Circuit.openings
      rw [last]
    have stands : { b with circuit }.phase = b.phase := phase
    rw [same, stands]
    cases b.phase <;> rfl
  | opens wasNot =>
    have opened : (b.trip now).phase = .opened := rfl
    rw [opened]
    cases was : b.phase with
    | opened => exact absurd was wasNot
    | _ => rfl
  | @tries last circuit =>
    have was : b.phase = .opened := phase_of_opened circuit
    have count : b.openings = last.count := congrArg Circuit.openings circuit
    rw [was, count]
    rfl
  | recovers was =>
    rw [was]
    rfl

/-- **The last opening is the one from before**, unless the circuit has just opened.  Then it
is a new one, which begins now, waits for as long as those before it make it, and counts them. -/
theorem lastOpening? (changes : b.Changes now c) {last : Opening}
    (h : c.circuit.lastOpening? = some last) :
    if b.phase != .opened && c.phase == .opened then
      c.circuit = .opened last ∧
        last = ⟨now, b.config.coolDownFor b.openings, b.openings + 1⟩
    else b.circuit.lastOpening? = some last := by
  cases changes with
  | @stays circuit phase same =>
    have stands : { b with circuit }.phase = b.phase := phase
    have before : b.circuit.lastOpening? = some last := same.symm.trans h
    rw [stands]
    cases b.phase <;> exact before
  | opens wasNot =>
    have opened : (b.trip now).phase = .opened := rfl
    have opens : (b.phase != .opened && (b.trip now).phase == .opened) = true := by
      simp [opened, wasNot]
    rw [if_pos opens]
    cases h
    exact ⟨rfl, rfl⟩
  | @tries opening circuit =>
    have halfOpen : ((b.enter (.halfOpen opening true)).phase == .opened) = false := rfl
    rw [halfOpen, Bool.and_false]
    cases h
    exact congrArg Circuit.lastOpening? circuit
  | recovers was => cases h

end Changes

/-- No opening is remembered exactly while the circuit is closed. -/
theorem lastOpening?_eq_none_iff : b.circuit.lastOpening? = none ↔ b.phase = .closed := by
  unfold phase
  cases b.circuit <;> simp [Circuit.lastOpening?, Circuit.phase]

theorem openings_of_lastOpening? {last : Opening} (h : b.circuit.lastOpening? = some last) :
    b.openings = last.count := by
  unfold openings Circuit.openings
  rw [h]

theorem coolDown_of_lastOpening? {last : Opening} (h : b.circuit.lastOpening? = some last) :
    b.coolDown = last.coolDown := by
  unfold coolDown
  rw [h]

end Breaker

namespace Traffic

/-- **Whatever happens is one of the changes.** -/
theorem Accounted.changes {t next : Traffic} {event : Event} {reply : Reply}
    (accounted : t.Accounted) (move : t.Moves event reply next) :
    t.breaker.Changes t.now next.breaker := by
  cases move with
  | admitted admits => exact admits.changes
  | @settled ticket permit ending breaker running settles =>
    cases permit with
    | ordinary => exact settles.changes_of_ordinary
    | trial => exact settles.changes_of_trial (accounted.halfOpen_of_trial running)
  | _ => exact .same t.breaker t.now

/-! ## The openings in a row -/

/-- **The openings in a row**, as the past has them: all since the circuit last closed. -/
def openingsInARow (past : List Moment) : Nat := countSince (·.closes) (·.opens) past

theorem openingsInARow_concat (past : List Moment) (m : Moment) :
    openingsInARow (past ++ [m]) =
      if m.closes then 0 else openingsInARow past + if m.opens then 1 else 0 :=
  countSince_concat _ _ past m

/-! ## The invariant -/

/-- At this moment of a breaker with these settings the circuit opened, and this is the
opening. -/
structure Moment.Opened (m : Moment) (config : BreakerConfig) (last : Opening) : Prop where
  circuit : m.after.breaker.circuit = .opened last
  since : last.since = m.before.now
  /-- The wait grows with the openings before this one. -/
  coolDown : last.coolDown = config.coolDownFor m.before.breaker.openings
  count : last.count = m.before.breaker.openings + 1

/-- **What the breaker remembers is what the past has.** -/
structure Remembers (past : List Moment) (t : Traffic) : Prop where
  accounted : t.Accounted
  openings : t.breaker.openings = openingsInARow past
  /-- The opening that is remembered is the last one there was. -/
  opened : ∀ last, t.breaker.circuit.lastOpening? = some last →
    ∃ m, lastOpened? past = some m ∧ m.Opened t.breaker.config last
  since : ∀ last, t.breaker.circuit.lastOpening? = some last → last.since ≤ t.now
  latest : t.breaker.watch.latest = t.breaker.phase

namespace Remembers

variable {past : List Moment} {t : Traffic}

/-- An opening is in a row with itself. -/
theorem count_pos (remembers : t.Remembers past) {last : Opening}
    (h : t.breaker.circuit.lastOpening? = some last) : 1 ≤ last.count := by
  obtain ⟨m, -, opened⟩ := remembers.opened last h
  rw [opened.count]
  exact Nat.le_add_left 1 _

/-- The wait is the one after all openings but the last. -/
theorem coolDown (remembers : t.Remembers past) {last : Opening}
    (h : t.breaker.circuit.lastOpening? = some last) :
    last.coolDown = t.breaker.config.coolDownFor (last.count - 1) := by
  obtain ⟨m, -, opened⟩ := remembers.opened last h
  rw [opened.coolDown, opened.count, Nat.add_sub_cancel]

theorem moves (remembers : t.Remembers past) {next : Traffic} {event : Event} {reply : Reply}
    (move : t.Moves event reply next) : next.Remembers (past ++ [⟨t, event, next⟩]) := by
  have changes : t.breaker.Changes t.now next.breaker := remembers.accounted.changes move
  refine ⟨remembers.accounted.moves move, ?_, fun last h => ?_, fun last h => ?_,
    changes.latest remembers.latest⟩
  · rw [openingsInARow_concat, ← remembers.openings]
    exact changes.openings
  · have opening := changes.lastOpening? h
    rw [lastOpened?_concat, changes.config]
    split at opening
    · rename_i opens
      obtain ⟨circuit, rfl⟩ := opening
      exact ⟨_, if_pos opens, circuit, rfl, rfl, rfl⟩
    · rename_i quiet
      obtain ⟨m, found, opened⟩ := remembers.opened last opening
      exact ⟨m, (if_neg quiet).trans found, opened⟩
  · have opening := changes.lastOpening? h
    have later : t.now ≤ next.now := now_le_of_moves move
    split at opening
    · obtain ⟨-, rfl⟩ := opening
      exact later
    · exact Nat.le_trans (remembers.since last opening) later

end Remembers

theorem remembers_run (name : String) (config : BreakerConfig) (events : List Event) :
    ((ofBreaker (.make name config)).run events).2.Remembers
      ((ofBreaker (.make name config)).history events) :=
  history_preserves (fun remembers move => remembers.moves move)
    { accounted := accounted_ofBreaker name config
      openings := rfl
      opened := fun last h => by cases h
      since := fun last h => by cases h
      latest := rfl } events

end Traffic

end Gatehouse
