import Gatehouse.Proofs.Breaker.Openings

/-!
# Calls that come to nothing

A call that fails in a way that does not count, or is given up, should be to a breaker as if it
had never been.  It is, as far as calls can tell: whoever calls later is admitted or rejected as
in the run without it, with the same wait, and all that the breaker counts is the same.  Only the
state can look different, since the call may have made an open circuit half open.

The two runs are compared event by event.  The run with the call gives out one ticket more, so
that the tickets from `own` on are one higher there (`Traffic.beside`).

### What is load-bearing

The circuits of the two runs differ in three ways at most, and `Circuit.Spares` lists them along
with the permit that the call has at the time.  While the call is the trial, the circuit is half
open and on trial, and without the call it is half open and idle, or open with its wait over.
After the call the first of these two differences is gone.  The second one stays, but any next
call is the trial on either side, and makes the circuits equal for good.

No end of an older call can drive the circuits apart.  It would have to be the end of a trial,
and there is none beside the call and none in an idle circuit, by the accounts of the trial slot.
-/

namespace Gatehouse

/-! ## Circuits with and without a call -/

/-- A wait that is over remains over. -/
theorem Opening.waitLeft_eq_zero_mono {last : Opening} {now later : Nat} (le : now ≤ later)
    (ended : last.waitLeft now = 0) : last.waitLeft later = 0 := by
  unfold waitLeft at ended ⊢
  omega

/-- **What a call makes of a circuit** as long as it has no result: the circuit with the call,
and the circuit without it.  The call has a permit while it is under way. -/
inductive Circuit.Spares (now : Nat) : Option Permit → Circuit → Circuit → Prop where
  | same {permit : Option Permit} (ordinary : permit ≠ some .trial) (circuit : Circuit) :
      Spares now permit circuit circuit
  /-- The call is the first trial after the wait. -/
  | trying {last : Opening} (ended : last.waitLeft now = 0) :
      Spares now (some .trial) (.halfOpen last true) (.opened last)
  /-- The call is the trial after one without a result. -/
  | tryingAgain {last : Opening} :
      Spares now (some .trial) (.halfOpen last true) (.halfOpen last false)
  /-- The call was the first trial after the wait. -/
  | tried {last : Opening} (ended : last.waitLeft now = 0) :
      Spares now none (.halfOpen last false) (.opened last)

namespace Circuit.Spares

variable {now : Nat} {permit : Option Permit} {c d : Circuit}

theorem later {afterwards : Nat} (spares : Spares now permit c d) (le : now ≤ afterwards) :
    Spares afterwards permit c d := by
  cases spares with
  | same ordinary => exact .same ordinary c
  | trying ended => exact .trying (Opening.waitLeft_eq_zero_mono le ended)
  | tryingAgain => exact .tryingAgain
  | tried ended => exact .tried (Opening.waitLeft_eq_zero_mono le ended)

theorem failures (spares : Spares now permit c d) : c.failures = d.failures := by
  cases spares <;> rfl

theorem lastOpening? (spares : Spares now permit c d) : c.lastOpening? = d.lastOpening? := by
  cases spares <;> rfl

theorem phase (spares : Spares now permit c d) :
    c.phase = d.phase ∨
      c.phase = .halfOpen ∧ ∃ last, d = .opened last ∧ last.waitLeft now = 0 := by
  cases spares with
  | same ordinary => exact Or.inl rfl
  | trying ended => exact Or.inr ⟨rfl, _, rfl, ended⟩
  | tryingAgain => exact Or.inl rfl
  | tried ended => exact Or.inr ⟨rfl, _, rfl, ended⟩

/-- **Circuits that are not the same are not closed**, and nobody but the call can be on
trial. -/
theorem eq_or_away (spares : Spares now permit c d) :
    c = d ∧ permit ≠ some .trial ∨
      (permit = some .trial ∨ c.isOnTrial = false) ∧ c.phase ≠ .closed ∧ d.phase ≠ .closed := by
  cases spares with
  | same ordinary => exact Or.inl ⟨rfl, ordinary⟩
  | trying ended => exact Or.inr ⟨Or.inl rfl, nofun, nofun⟩
  | tryingAgain => exact Or.inr ⟨Or.inl rfl, nofun, nofun⟩
  | tried ended => exact Or.inr ⟨Or.inr rfl, nofun, nofun⟩

/-- **After the call** the circuits are the same, or only the one that has seen it is half
open. -/
theorem finished (spares : Spares now none c d) :
    c = d ∨ ∃ last, c = .halfOpen last false ∧ d = .opened last ∧ last.waitLeft now = 0 := by
  cases spares with
  | same ordinary => exact Or.inl rfl
  | tried ended => exact Or.inr ⟨_, rfl, rfl, ended⟩

/-- **During the call** the circuits are the same, or the one that has seen it is on trial. -/
theorem underWay {given : Permit} (spares : Spares now (some given) c d) :
    given = .ordinary ∧ c = d ∨
      given = .trial ∧ ∃ last, c = .halfOpen last true ∧
        (d = .halfOpen last false ∨ d = .opened last ∧ last.waitLeft now = 0) := by
  cases spares with
  | same ordinary =>
    cases given with
    | ordinary => exact Or.inl ⟨rfl, rfl⟩
    | trial => exact absurd rfl ordinary
  | trying ended => exact Or.inr ⟨rfl, _, rfl, Or.inr ⟨rfl, ended⟩⟩
  | tryingAgain => exact Or.inr ⟨rfl, _, rfl, Or.inl rfl⟩

end Circuit.Spares

namespace Breaker

/-! ## Breakers that decide alike -/

section Alike

variable {b c d : Breaker} (config : c.config = b.config) (circuit : c.circuit = b.circuit)

include circuit in
theorem circuit_endTrial_congr : c.endTrial.circuit = b.endTrial.circuit := by
  unfold endTrial
  rw [circuit]
  cases stands : b.circuit <;> simp [circuit, stands]

include config circuit

theorem circuit_trip_congr (now : Nat) : (c.trip now).circuit = (b.trip now).circuit := by
  simp only [trip, enter, openings, config, circuit]

theorem circuit_settleTrial_congr (now : Nat) (ending : Ending) :
    (c.settleTrial now ending).circuit = (b.settleTrial now ending).circuit := by
  cases ending with
  | success => rfl
  | countedFailure => exact circuit_trip_congr config circuit now
  | otherFailure => exact circuit_endTrial_congr circuit
  | abandoned => exact circuit_endTrial_congr circuit

theorem circuit_settleOrdinary_congr (now failures : Nat) (ending : Ending) :
    (c.settleOrdinary now failures ending).circuit =
      (b.settleOrdinary now failures ending).circuit := by
  cases ending with
  | success => rfl
  | countedFailure =>
    unfold settleOrdinary
    rw [config]
    dsimp only
    split
    · exact circuit_trip_congr config circuit now
    · rfl
  | otherFailure => exact circuit
  | abandoned => exact circuit

/-- **The end of a call means the same to breakers with the same settings and circuit.** -/
theorem circuit_settle_congr (now : Nat) (permit : Permit) (ending : Ending) :
    (c.settle now permit ending).circuit = (b.settle now permit ending).circuit := by
  unfold settle
  rw [config, circuit]
  split
  · split
    · exact circuit_settleTrial_congr config circuit now ending
    · exact circuit_settleOrdinary_congr config circuit now _ ending
    · exact circuit
  · exact circuit

/-- **They admit a call alike.** -/
theorem Admits.congr {now : Nat} {permit : Permit} (admits : b.Admits now permit d) :
    ∃ e, c.Admits now permit e ∧ e.circuit = d.circuit := by
  cases admits with
  | disabled off => exact ⟨c, .disabled (config ▸ off), circuit⟩
  | closed on stands => exact ⟨c, .closed (config ▸ on) (circuit.trans stands), circuit⟩
  | opened on stands ended =>
    exact ⟨_, .opened (config ▸ on) (circuit.trans stands) ended, rfl⟩
  | halfOpen on stands => exact ⟨_, .halfOpen (config ▸ on) (circuit.trans stands), rfl⟩

/-- **They reject a call alike.** -/
theorem Rejects.congr {now wait : Nat} (rejects : b.Rejects now wait) : c.Rejects now wait := by
  cases rejects with
  | opened on stands waiting => exact .opened (config ▸ on) (circuit.trans stands) waiting
  | halfOpen on stands => exact .halfOpen (config ▸ on) (circuit.trans stands)

end Alike

/-- The end of an ordinary call does nothing to a circuit that is not closed. -/
theorem circuit_settle_of_away {b : Breaker} (away : b.phase ≠ .closed) (now : Nat)
    (ending : Ending) : (b.settle now .ordinary ending).circuit = b.circuit := by
  rw [(b.settles_settle now .ordinary ending).eq_of_away away]

/-- The end of a trial without a result. -/
theorem circuit_settle_trial {b : Breaker} (on : b.config.enabled = true) {last : Opening}
    {onTrial : Bool} (circuit : b.circuit = .halfOpen last onTrial) (now : Nat) {ending : Ending}
    (neutral : ending = .otherFailure ∨ ending = .abandoned) :
    (b.settle now .trial ending).circuit = .halfOpen last false := by
  have idle : b.endTrial.circuit = .halfOpen last false := by
    unfold endTrial
    rw [circuit]
  unfold settle
  rw [if_pos on]
  rcases neutral with rfl | rfl
  · exact idle
  · exact idle

/-- The end of an ordinary call without a result. -/
theorem settle_ordinary_of_neutral (b : Breaker) (now : Nat) {ending : Ending}
    (neutral : ending = .otherFailure ∨ ending = .abandoned) :
    b.settle now .ordinary ending = b := by
  unfold settle
  split
  · split
    · contradiction
    · rcases neutral with rfl | rfl
      · rfl
      · rfl
    · rfl
  · rfl

/-- **What tells two breakers apart is their state at most**: the first is half open where the
second is open with its wait over. -/
structure DiffersInPhase (now : Nat) (b c : Breaker) : Prop where
  failures : b.failures = c.failures
  openings : b.openings = c.openings
  coolDown : b.coolDown = c.coolDown
  phase : b.phase = c.phase ∨
    b.phase = .halfOpen ∧ ∃ last, c.circuit = .opened last ∧ last.waitLeft now = 0

theorem differsInPhase_of_spares {b c : Breaker} {now : Nat} {permit : Option Permit}
    (config : c.config = b.config) (spares : b.circuit.Spares now permit c.circuit) :
    b.DiffersInPhase now c where
  failures := spares.failures
  openings := by simp only [openings, Circuit.openings, spares.lastOpening?]
  coolDown := by simp only [coolDown, config, spares.lastOpening?]
  phase := spares.phase

end Breaker

namespace Traffic

/-! ## Tickets beside one more -/

/-- **The ticket of another call**, where the call with the ticket `own` is in the run as
well. -/
def beside (own ticket : Nat) : Nat := if ticket < own then ticket else ticket + 1

/-- The same event, where the call with the ticket `own` is in the run as well. -/
def Event.beside (own : Nat) : Event → Event
  | .finish ticket ending => .finish (Traffic.beside own ticket) ending
  | event => event

/-- The same reply, where the call with the ticket `own` is in the run as well. -/
def Reply.beside (own : Nat) : Reply → Reply
  | .admitted ticket => .admitted (Traffic.beside own ticket)
  | reply => reply

theorem beside_ne (own ticket : Nat) : beside own ticket ≠ own := by
  unfold beside
  split <;> omega

theorem beside_inj {own ticket other : Nat} : beside own ticket = beside own other ↔
    ticket = other := by
  unfold beside
  split <;> split <;> omega

/-- Two calls are never on trial at a time. -/
theorem Accounted.trial_unique {t : Traffic} (accounted : t.Accounted) {i j : Nat}
    (hi : t.inFlight.get? i = some .trial) (hj : t.inFlight.get? j = some .trial) : i = j := by
  obtain ⟨holder, -, permits⟩ := accounted.holder
  exact Option.some.inj (((permits i).mp hi).symm.trans ((permits j).mp hj))

theorem step_finish_of_running {t : Traffic} {ticket : Nat} {permit : Permit}
    (running : t.inFlight.get? ticket = some permit) (ending : Ending) :
    t.step (.finish ticket ending) = (.settled, { t with
      breaker := t.breaker.settle t.now permit ending, inFlight := t.inFlight.erase ticket }) := by
  simp [step, finish?, running]

theorem step_finish_of_notRunning {t : Traffic} {ticket : Nat}
    (unknown : t.inFlight.get? ticket = none) (ending : Ending) :
    t.step (.finish ticket ending) = (.notRunning, t) := by
  simp [step, finish?, unknown]

/-! ## One run with the call, one without -/

/-- **The traffic with a call, and the traffic without it.**  The call has had its ticket, and
it may be under way or over. -/
structure Spares (own : Nat) (t u : Traffic) : Prop where
  accounted : t.Accounted
  now : u.now = t.now
  name : u.breaker.name = t.breaker.name
  config : u.breaker.config = t.breaker.config
  circuit : t.breaker.circuit.Spares t.now (t.inFlight.get? own) u.breaker.circuit
  /-- The call has its ticket, and no other call has one that is missing on the other side. -/
  given : own ≤ u.issued
  issued : t.issued = u.issued + 1
  others : ∀ ticket, t.inFlight.get? (beside own ticket) = u.inFlight.get? ticket

namespace Spares

variable {own : Nat} {t u : Traffic}

theorem beside_issued (spares : Spares own t u) : beside own u.issued = t.issued := by
  have given := spares.given
  have issued := spares.issued
  unfold beside
  split <;> omega

/-- Where the circuits differ, another call is an ordinary one. -/
theorem ordinary (spares : Spares own t u) {ticket : Nat} {permit : Permit}
    (running : t.inFlight.get? (beside own ticket) = some permit)
    (alone : t.inFlight.get? own = some .trial ∨ t.breaker.circuit.isOnTrial = false) :
    permit = .ordinary := by
  cases permit with
  | ordinary => rfl
  | trial =>
    exfalso
    rcases alone with trial | idle
    · exact beside_ne own ticket (spares.accounted.trial_unique running trial)
    · exact spares.accounted.no_trial idle _ running

/-- **The end of another call keeps what there is between the two circuits.** -/
theorem settle (spares : Spares own t u) {ticket : Nat} {permit : Permit}
    (running : t.inFlight.get? (beside own ticket) = some permit) (ending : Ending) :
    (t.breaker.settle t.now permit ending).circuit.Spares t.now (t.inFlight.get? own)
      (u.breaker.settle u.now permit ending).circuit := by
  rw [spares.now]
  rcases spares.circuit.eq_or_away with ⟨same, notTrial⟩ | ⟨alone, away, awayWithout⟩
  · rw [Breaker.circuit_settle_congr spares.config same.symm]
    exact .same notTrial _
  · obtain rfl := spares.ordinary running alone
    rw [Breaker.circuit_settle_of_away away, Breaker.circuit_settle_of_away awayWithout]
    exact spares.circuit

/-- **Two steps match**, one on the side with the call and one on the other side. -/
structure Matches (own : Nat) (t u : Traffic) (called spared : Reply × Traffic) : Prop where
  reply : called.1 = spared.1.beside own
  spares : Spares own called.2 spared.2
  permit : called.2.inFlight.get? own = t.inFlight.get? own
  /-- Circuits that are the same remain so, and become so when a call is admitted. -/
  circuit : (t.breaker.circuit = u.breaker.circuit ∨ ∃ ticket, spared.1 = .admitted ticket) →
    called.2.breaker.circuit = spared.2.breaker.circuit

/-- Another call ends on both sides, or is not under way on either. -/
theorem finish (spares : Spares own t u) (ticket : Nat) (ending : Ending) :
    Matches own t u (t.step (.finish (beside own ticket) ending))
      (u.step (.finish ticket ending)) := by
  have accounted := spares.accounted.moves (t.moves_step (.finish (beside own ticket) ending))
  have others := spares.others ticket
  cases running : u.inFlight.get? ticket with
  | none =>
    rw [running] at others
    rw [step_finish_of_notRunning running, step_finish_of_notRunning others]
    refine ⟨rfl, spares, rfl, ?_⟩
    rintro (same | ⟨ticket, admitted⟩)
    · exact same
    · cases admitted
  | some permit =>
    rw [running] at others
    rw [step_finish_of_running others] at accounted ⊢
    rw [step_finish_of_running running]
    have kept : (t.inFlight.erase (beside own ticket)).get? own = t.inFlight.get? own := by
      rw [Ledger.get?_erase, if_neg (beside_ne own ticket)]
    refine ⟨rfl, ⟨accounted, spares.now, ?_, ?_, ?_, spares.given, spares.issued, fun other => ?_⟩,
      kept, ?_⟩
    · exact (u.breaker.settles_settle u.now permit ending).frame.2.trans
        (spares.name.trans (t.breaker.settles_settle t.now permit ending).frame.2.symm)
    · exact (u.breaker.config_settle ..).trans
        (spares.config.trans (t.breaker.config_settle ..).symm)
    · dsimp only
      rw [kept]
      exact spares.settle others ending
    · dsimp only
      rw [Ledger.get?_erase, Ledger.get?_erase, spares.others]
      simp only [beside_inj]
    · rintro (same | ⟨ticket, admitted⟩)
      · dsimp only
        rw [spares.now]
        exact (Breaker.circuit_settle_congr spares.config same.symm ..).symm
      · cases admitted

theorem pass (spares : Spares own t u) (nanoseconds : Nat) :
    Matches own t u (t.step (.pass nanoseconds)) (u.step (.pass nanoseconds)) := by
  have accounted := spares.accounted.moves (t.moves_step (.pass nanoseconds))
  refine ⟨rfl, ⟨accounted, ?_, spares.name, spares.config, ?_, spares.given, spares.issued,
    spares.others⟩, rfl, ?_⟩
  · exact congrArg (· + nanoseconds) spares.now
  · exact spares.circuit.later (Nat.le_add_right t.now nanoseconds)
  · rintro (same | ⟨ticket, admitted⟩)
    · exact same
    · cases admitted

/-- Another call is admitted with the same permit on both sides. -/
theorem admitted (spares : Spares own t u) {permit : Permit} {b c : Breaker}
    (admits : t.breaker.Admits t.now permit b) (admits' : u.breaker.Admits u.now permit c)
    (gone : t.inFlight.get? own = none) (same : b.circuit = c.circuit) :
    Matches own t u (t.step .start) (u.step .start) := by
  have accounted := spares.accounted.moves (t.moves_step .start)
  have next : beside own u.issued = t.issued := spares.beside_issued
  have own_ne : t.issued ≠ own := next ▸ beside_ne own u.issued
  rw [step_start_of_admits admits] at accounted ⊢
  rw [step_start_of_admits admits']
  have kept : (t.inFlight.set t.issued permit).get? own = t.inFlight.get? own := by
    rw [Ledger.get?_set, if_neg own_ne]
  refine ⟨?_, ⟨accounted, spares.now, ?_, ?_, ?_, ?_, ?_, fun ticket => ?_⟩, kept, fun _ => same⟩
  · rw [Reply.beside, next]
  · exact admits'.frame.2.trans (spares.name.trans admits.frame.2.symm)
  · exact admits'.frame.1.trans (spares.config.trans admits.frame.1.symm)
  · dsimp only
    rw [kept, gone, same]
    exact .same (by decide) c.circuit
  · exact Nat.le_succ_of_le spares.given
  · exact congrArg (· + 1) spares.issued
  · dsimp only
    rw [Ledger.get?_set, Ledger.get?_set, spares.others, ← next]
    simp only [beside_inj]

/-- Another call is rejected with the same wait on both sides. -/
theorem rejected (spares : Spares own t u) {wait : Nat} (rejects : t.breaker.Rejects t.now wait)
    (rejects' : u.breaker.Rejects u.now wait) :
    Matches own t u (t.step .start) (u.step .start) := by
  rw [step_start_of_rejects rejects, step_start_of_rejects rejects']
  have same : t.rejection wait = u.rejection wait := by
    rw [rejection, rejection, spares.name]
  refine ⟨congrArg Reply.rejected same, spares, rfl, ?_⟩
  · rintro (same | ⟨ticket, admitted⟩)
    · exact same
    · cases admitted

/-- **After the call** the next one is admitted or rejected alike on both sides. -/
theorem start (spares : Spares own t u) (gone : t.inFlight.get? own = none) :
    Matches own t u (t.step .start) (u.step .start) := by
  have alike : t.breaker.circuit.Spares t.now none u.breaker.circuit := gone ▸ spares.circuit
  rcases alike.finished with same | ⟨last, idle, opened, waited⟩
  · cases asked : t.breaker.admission t.now with
    | ok granted =>
      have admits := Breaker.admission_eq_ok_iff.mp asked
      obtain ⟨c, admits', same'⟩ := admits.congr spares.config same.symm
      rw [← spares.now] at admits'
      exact spares.admitted admits admits' gone same'.symm
    | error wait =>
      have rejects := Breaker.admission_eq_error_iff.mp asked
      have rejects' := rejects.congr spares.config same.symm
      rw [← spares.now] at rejects'
      exact spares.rejected rejects rejects'
  · have away : t.breaker.phase ≠ .closed := by
      rw [Breaker.phase_of_halfOpen idle]
      decide
    have on : t.breaker.config.enabled = true := spares.accounted.enabled_of_phase away
    have on' : u.breaker.config.enabled = true := spares.config ▸ on
    rw [← spares.now] at waited
    exact spares.admitted (.halfOpen on idle) (.opened on' opened waited) gone rfl

/-- **Whatever happens to other calls happens on both sides**, if none starts during the call. -/
theorem step (spares : Spares own t u) (event : Event)
    (quiet : event = .start → t.inFlight.get? own = none) :
    Matches own t u (t.step (event.beside own)) (u.step event) := by
  cases event with
  | start => exact spares.start (quiet rfl)
  | finish ticket ending => exact spares.finish ticket ending
  | pass nanoseconds => exact spares.pass nanoseconds

/-- The replies of a whole run, its end, and what is left of the call. -/
theorem run (spares : Spares own t u) (events : List Event)
    (quiet : .start ∈ events → t.inFlight.get? own = none) :
    let called := t.run (events.map (·.beside own))
    let spared := u.run events
    called.1 = spared.1.map (·.beside own) ∧ Spares own called.2 spared.2 ∧
      called.2.inFlight.get? own = t.inFlight.get? own ∧
      ((t.breaker.circuit = u.breaker.circuit ∨ ∃ ticket, .admitted ticket ∈ spared.1) →
        called.2.breaker.circuit = spared.2.breaker.circuit) := by
  induction events generalizing t u with
  | nil =>
    refine ⟨rfl, spares, rfl, ?_⟩
    rintro (same | ⟨ticket, mem⟩)
    · exact same
    · cases mem
  | cons event events ih =>
    have first := spares.step event fun starts => quiet (by simp [starts])
    have later : .start ∈ events → (t.step (event.beside own)).2.inFlight.get? own = none :=
      fun mem => first.permit.trans (quiet (List.mem_cons_of_mem _ mem))
    obtain ⟨replies, rest, permit, circuits⟩ := ih first.spares later
    rw [List.map_cons, run_cons, run_cons]
    refine ⟨?_, rest, permit.trans first.permit, ?_⟩
    · rw [List.map_cons, first.reply, replies]
    · rintro (same | ⟨ticket, mem⟩)
      · exact circuits (Or.inl (first.circuit (Or.inl same)))
      · rcases List.mem_cons.mp mem with now | afterwards
        · exact circuits (Or.inl (first.circuit (Or.inr ⟨ticket, now.symm⟩)))
        · exact circuits (Or.inr ⟨ticket, afterwards⟩)

end Spares

/-! ## The call itself -/

/-- Nobody has a ticket that has not been given out. -/
theorem Accounted.get?_of_le {t : Traffic} (accounted : t.Accounted) {ticket : Nat}
    (le : t.issued ≤ ticket) : t.inFlight.get? ticket = none := by
  cases running : t.inFlight.get? ticket with
  | none => rfl
  | some permit => exact absurd (accounted.issued ticket permit running) (Nat.not_lt.mpr le)

/-- **A call that is admitted** makes a difference from then on. -/
theorem Accounted.spares_start {t : Traffic} (accounted : t.Accounted) {permit : Permit}
    {b : Breaker} (admits : t.breaker.Admits t.now permit b) :
    Spares t.issued (t.step .start).2 t := by
  have next := accounted.moves (t.moves_step .start)
  rw [step_start_of_admits admits] at next ⊢
  refine ⟨next, rfl, admits.frame.2.symm, admits.frame.1.symm, ?_, Nat.le_refl _, rfl,
    fun ticket => ?_⟩
  · dsimp only
    rw [Ledger.get?_set, if_pos rfl]
    cases admits with
    | disabled off => exact .same (by decide) _
    | closed on circuit => exact .same (by decide) _
    | opened on circuit ended =>
      rw [circuit]
      exact .trying ended
    | halfOpen on circuit =>
      rw [circuit]
      exact .tryingAgain
  · dsimp only
    rw [Ledger.get?_set, if_neg (beside_ne t.issued ticket).symm]
    unfold beside
    split
    · rfl
    · rename_i later
      rw [accounted.get?_of_le (Nat.le_succ_of_le (Nat.not_lt.mp later)),
        accounted.get?_of_le (Nat.not_lt.mp later)]

/-- **A call that ends without a result** leaves at most an idle half-open circuit behind. -/
theorem Spares.conclude {own : Nat} {t u : Traffic} (spares : Spares own t u) {permit : Permit}
    (running : t.inFlight.get? own = some permit) {ending : Ending}
    (neutral : ending = .otherFailure ∨ ending = .abandoned) :
    Spares own (t.step (.finish own ending)).2 u := by
  have accounted := spares.accounted.moves (t.moves_step (.finish own ending))
  have settles := t.breaker.settles_settle t.now permit ending
  have alike := spares.circuit
  rw [step_finish_of_running running] at accounted ⊢
  refine ⟨accounted, spares.now, spares.name.trans settles.frame.2.symm,
    spares.config.trans settles.frame.1.symm, ?_, spares.given, spares.issued, fun ticket => ?_⟩
  · dsimp only
    rw [Ledger.get?_erase, if_pos rfl]
    rw [running] at alike
    rcases alike.underWay with ⟨rfl, same⟩ | ⟨rfl, last, trying, without⟩
    · rw [t.breaker.settle_ordinary_of_neutral t.now neutral, same]
      exact .same (by decide) u.breaker.circuit
    · have away : t.breaker.phase ≠ .closed := by
        rw [spares.accounted.halfOpen_of_trial running]
        decide
      have on : t.breaker.config.enabled = true := spares.accounted.enabled_of_phase away
      rw [Breaker.circuit_settle_trial on trying t.now neutral]
      rcases without with idle | ⟨opened, ended⟩
      · rw [idle]
        exact .same (by decide) _
      · rw [opened]
        exact .tried ended
  · dsimp only
    rw [Ledger.get?_erase, if_neg (beside_ne own ticket).symm]
    exact spares.others ticket

/-- A failure of a kind that is not tracked does not count, and nothing else ends so. -/
theorem endingOf_eq_otherFailure_iff {α : Type u} {t : Traffic} {result : Except Failure α} :
    t.endingOf result = .otherFailure ↔
      ∃ failure, result = .error failure ∧ failure.kind ∉ t.breaker.config.tracked := by
  cases result with
  | ok value => simp [endingOf]
  | error failure => simp [endingOf, BreakerConfig.tracks]

/-- **A call that comes to nothing leaves no trace.**  Take a breaker after any events, and admit
a call.  While the call is under way other calls may end and time may pass, but no call starts.
Then it fails in a way that does not count, or is given up.  After that anything may happen.

Compare the run in which there is no such call.  Calls are admitted and rejected as in this run,
with the same waits, and the replies to all events are the same.  The failures in a row, the
openings in a row and the wait are the same as well, during the call and after every event that
follows.  The state is the same too, unless the circuit is half open here and open there with its
wait over, and this cannot be so once another call has been admitted.  No event concerns the call
itself any more. -/
theorem fruitless_call_leaves_no_trace (name : String) (config : BreakerConfig)
    (past during : List Event) (ending : Ending) (rest : List Event) :
    let t := ((ofBreaker (.make name config)).run past).2
    let own := t.issued
    let begun := t.step .start
    let spared := t.run during
    let called := begun.2.run (during.map (·.beside own))
    let ended := called.2.step (.finish own ending)
    let later := ended.2.run (rest.map (·.beside own))
    let without := spared.2.run rest
    (∀ (α : Type) (result : Except Failure α), called.2.endingOf result = .otherFailure ↔
      ∃ failure, result = .error failure ∧ failure.kind ∉ config.tracked) ∧
    (begun.1 = .admitted own → .start ∉ during → ending = .otherFailure ∨ ending = .abandoned →
      (called.1 = spared.1.map (·.beside own) ∧
        called.2.breaker.DiffersInPhase called.2.now spared.2.breaker) ∧
      ended.1 = .settled ∧
      later.1 = without.1.map (·.beside own) ∧
      later.2.breaker.DiffersInPhase later.2.now without.2.breaker ∧
      ((∃ ticket, .admitted ticket ∈ without.1) →
        later.2.breaker.phase = without.2.breaker.phase) ∧
      ∀ how, later.2.step (.finish own how) = (.notRunning, later.2)) := by
  intro t own begun spared called ended later without
  have same : called.2.breaker.config = config := by
    have first : begun.2.breaker.config = t.breaker.config := (frame_run t [.start]).1
    rw [(frame_run begun.2 _).1, first]
    exact (frame_run _ past).1
  refine ⟨fun α result => ?_, fun admitted quiet neutral => ?_⟩
  · rw [endingOf_eq_otherFailure_iff, same]
  have accounted : t.Accounted := accounted_run name config past
  obtain ⟨permit, breaker, admits⟩ : ∃ permit breaker, t.breaker.Admits t.now permit breaker := by
    cases asked : t.breaker.admission t.now with
    | ok granted => exact ⟨_, _, Breaker.admission_eq_ok_iff.mp asked⟩
    | error wait =>
      have rejected := step_start_of_rejects (Breaker.admission_eq_error_iff.mp asked)
      cases admitted.symm.trans (congrArg Prod.fst rejected)
  have given : begun.2.inFlight.get? own = some permit := by
    show (t.step .start).2.inFlight.get? own = some permit
    rw [step_start_of_admits admits]
    dsimp only
    rw [Ledger.get?_set, if_pos rfl]
  obtain ⟨replies, meanwhile, kept, -⟩ :=
    (accounted.spares_start admits).run during fun starts => absurd starts quiet
  have running : called.2.inFlight.get? own = some permit := kept.trans given
  have settled : ended = _ := step_finish_of_running running ending
  have erased : ended.2.inFlight.get? own = none := by
    rw [settled]
    dsimp only
    rw [Ledger.get?_erase, if_pos rfl]
  obtain ⟨replies', afterwards, gone, reunited⟩ :=
    (meanwhile.conclude running neutral).run rest fun _ => erased
  refine ⟨⟨replies, Breaker.differsInPhase_of_spares meanwhile.config meanwhile.circuit⟩,
    congrArg Prod.fst settled, replies',
    Breaker.differsInPhase_of_spares afterwards.config afterwards.circuit, fun another => ?_,
    step_finish_of_notRunning (gone.trans erased)⟩
  exact congrArg Circuit.phase (reunited (Or.inr another))

/-- Two calls run side by side, and one of them opens the circuit.  After the wait a third call is
the trial.  The other one of the two ends meanwhile, and the trial is given up.  Of the next two
calls the first is the trial and the second is rejected, as if the third one had never been. -/
theorem abandoned_trial_leaves_no_trace :
    let config : BreakerConfig :=
      { BreakerConfig.standard with failureThreshold := 1, coolDown := 0 }
    let past : List Event := [.start, .start, .finish 0 .countedFailure]
    let during : List Event := [.finish 1 .success]
    let rest : List Event := [.start, .start]
    let t := ((ofBreaker (.make "broker" config)).run past).2
    let own := t.issued
    let called := ((t.step .start).2.run (during.map (·.beside own))).2
    let ended := (called.step (.finish own .abandoned)).2
    let later := ended.run (rest.map (·.beside own))
    let spared := (t.run during).2
    let without := spared.run rest
    own = 2 ∧ (t.step .start).1 = .admitted own ∧ called.breaker.phase = .halfOpen ∧
      spared.breaker.phase = .opened ∧
      without.1 = [.admitted 2, .rejected (.circuitOpen "broker" 0)] ∧
      later.1 = [.admitted 3, .rejected (.circuitOpen "broker" 0)] := by
  intro config past during rest t own called ended later spared without
  have two : own = 2 := by decide
  have admitted : (t.step .start).1 = .admitted own := by decide
  have replies : without.1 = [.admitted 2, .rejected (.circuitOpen "broker" 0)] := by decide
  obtain ⟨-, noTrace⟩ := fruitless_call_leaves_no_trace "broker" config past during .abandoned rest
  obtain ⟨-, -, alike, -⟩ := noTrace admitted (by decide) (Or.inr rfl)
  refine ⟨two, admitted, by decide, by decide, replies, ?_⟩
  calc later.1
      = without.1.map (·.beside own) := alike
    _ = [.admitted 3, .rejected (.circuitOpen "broker" 0)] := by
      rw [replies, two]
      decide

end Traffic

end Gatehouse
