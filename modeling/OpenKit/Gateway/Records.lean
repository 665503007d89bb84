import Mathlib.Tactic.Linarith
import OpenKit.Gateway.Execution

namespace OpenKit
namespace Gateway

open Foundation GatewayEvent

/-!
# The record of a run

`AdmittedStart` is what the start of an attempt may rely on: nothing before it
committed or was left uncertain, and the member, the retry and the time are the
plan's.  `Sound` ties the control state of the executor to its log.  The clock,
the caller and the timer disturb the state without touching what it records.
-/

variable {ρ τ : Type} {plan : GatewayPlan ρ}

/-! ## What is promised -/

/-- No attempt may start after such an event. -/
def GatewayEvent.isFinal : GatewayEvent -> Bool
  | .started _ => false
  | .ended (.failed failure) _ => !failure.settled
  | _ => true

def GatewayEvent.isStart : GatewayEvent -> Bool
  | .started _ => true
  | _ => false

def GatewayEvent.isEnd : GatewayEvent -> Bool
  | .ended _ _ => true
  | _ => false

def Happening.isLate : Happening ρ τ -> Bool
  | .late => true
  | _ => false

/-- An attempt of the member other than the quota recovery. -/
def GatewayEvent.isTryAt (position : Nat) : GatewayEvent -> Bool
  | .started start => start.position = position && !start.recovery
  | _ => false

def GatewayEvent.isRecovery : GatewayEvent -> Bool
  | .started start => start.recovery
  | _ => false

/-- The end of the latest attempt. -/
def lastEnd : List GatewayEvent -> Option (AttemptEnd × Millis)
  | [] => none
  | .ended result time :: _ => some (result, time)
  | _ :: rest => lastEnd rest

variable (reading : RetryAfterReading)

/-- The time until which a failed attempt asks to wait.  A text of digits that
is too large for a number asks to wait for ever. -/
def requestedUntil (failure : PiAiFailure) (endedAt : Millis) : Option (WithTop Millis) :=
  match failure.retryAfter with
  | none => none
  | some text =>
    if isDelaySeconds text then
      match reading.number text with
      | some span => some ((endedAt + span : Millis) : WithTop Millis)
      | none => some ⊤
    else
      match reading.date text with
      | some date => some ((date : Millis) : WithTop Millis)
      | none => none

/-- The runtime has a finite number for the seconds of the failure, if it has any. -/
def FiniteDelay (failure : PiAiFailure) : Prop :=
  ∀ text, failure.retryAfter = some text -> isDelaySeconds text -> reading.number text ≠ none

/-- The attempts before a start, the plan and the time admit it. -/
structure AdmittedStart (plan : GatewayPlan ρ) (deadline : Millis) (start : AttemptStart)
    (before : List GatewayEvent) : Prop where
  unfinished : ∀ event ∈ before, event.isFinal = false
  sequential : before.countP isStart = before.countP isEnd
  inTime : start.time < deadline
  recoveryLast : ∀ earlier, .started earlier ∈ before -> earlier.recovery = false
  authoredOrder : start.recovery = false -> ∀ earlier, .started earlier ∈ before ->
    earlier.position <= start.position
  advances : start.recovery = false -> ∀ earlier, .started earlier ∈ before ->
    earlier.position ≠ start.position -> plan.autoFailover /\
      ∀ failure time, .ended (.failed failure) time ∈ before ->
        (gatewayFailureDecision failure.kind plan.autoFailover).advance
  retries : start.recovery = false ->
    before.countP (isTryAt start.position) = start.retryIndex /\ start.retryIndex <= 3
  recovers : start.recovery -> start.retryIndex = 0 /\ plan.recoverSettledQuota

/-- A retry follows a failed attempt, and not before the time that it asked for. -/
def WaitObserved (log : List GatewayEvent) (time : Millis) : Prop :=
  ∃ failure endedAt, lastEnd log = some (.failed failure, endedAt) /\
    (FiniteDelay reading failure ->
      ∀ deadline, requestedUntil reading failure endedAt = some deadline -> deadline <= time)

/-! ## The record of a run -/

/-- An event after which the executor may go on. -/
def GatewayEvent.Continues (plan : GatewayPlan ρ) : GatewayEvent -> Prop
  | .committed => False
  | .prepared => False
  | .late => False
  | .ended (.failed failure) _ => failure.settled /\ (plan.autoFailover ->
      (gatewayFailureDecision failure.kind plan.autoFailover).advance)
  | .ended _ _ => False
  | _ => True

/-- The log of an executor that runs no attempt and may go on. -/
structure Calm (plan : GatewayPlan ρ) (state : GatewayState ρ τ) : Prop where
  continues : ∀ event ∈ state.log, event.Continues plan
  balanced : state.log.countP isStart = state.log.countP isEnd
  remembered : ∀ start, .started start ∈ state.log -> state.lastFailure ≠ none

/-- The attempts so far, seen from a member that was tried `tries` times. -/
structure Placed (plan : GatewayPlan ρ) (position tries : Nat) (state : GatewayState ρ τ) : Prop where
  authored : state.resetRetry = false -> ∀ start, .started start ∈ state.log ->
    start.recovery = false /\ start.position <= position /\
      (start.position ≠ position -> plan.autoFailover)
  counted : state.resetRetry = false ->
    state.log.countP (isTryAt position) = tries
  first : state.resetRetry -> tries = 0 -> ∀ start, .started start ∈ state.log ->
    start.recovery = false

/-- The plan has no member left. -/
def Exhausted (plan : GatewayPlan ρ) (state : GatewayState ρ τ) (index : Nat) : Prop :=
  (plan.autoFailover = false /\ state.lastFailure ≠ none) \/ state.selections.length <= index

/-- A member of the plan, or the recovery after its end. -/
structure Carried (plan : GatewayPlan ρ) (state : GatewayState ρ τ) (current : Try ρ) : Prop where
  planned : state.resetRetry = false ->
    state.attemptedRecovery = false /\ current.position = current.index
  recovery : state.resetRetry -> state.attemptedRecovery /\
    Exhausted plan state current.index /\ current.retryIndex = 0 /\ plan.recoverSettledQuota
  bounded : current.retryIndex <= 3

structure Between (plan : GatewayPlan ρ) (state : GatewayState ρ τ) (index : Nat) : Prop where
  calm : Calm plan state
  planned : state.resetRetry = false -> state.attemptedRecovery = false /\
    ∀ start, .started start ∈ state.log -> start.recovery = false /\ start.position < index
  recovery : state.resetRetry -> state.attemptedRecovery /\ Exhausted plan state index

structure Recovering (plan : GatewayPlan ρ) (state : GatewayState ρ τ) (index : Nat) : Prop where
  calm : Calm plan state
  attempted : state.attemptedRecovery
  unspent : state.resetRetry = false
  first : ∀ start, .started start ∈ state.log -> start.recovery = false
  exhausted : Exhausted plan state index
  hook : plan.recoverSettledQuota

structure Trying (plan : GatewayPlan ρ) (state : GatewayState ρ τ) (current : Try ρ) : Prop where
  calm : Calm plan state
  placed : Placed plan current.position current.retryIndex state
  carried : Carried plan state current
  waited : 0 < current.retryIndex -> WaitObserved plan.reading state.log state.now

structure Attempting (plan : GatewayPlan ρ) (state : GatewayState ρ τ) (current : Try ρ) : Prop where
  active : state.active
  continues : ∀ event ∈ state.log, event.Continues plan \/
    (state.committed /\ (event = .committed \/ event = .prepared))
  balanced : state.log.countP isStart = state.log.countP isEnd + 1
  placed : Placed plan current.position (current.retryIndex + 1) state
  carried : Carried plan state current

structure Failing (plan : GatewayPlan ρ) (state : GatewayState ρ τ) (current : Try ρ)
    (failure : PiAiFailure) : Prop where
  calm : Calm plan state
  placed : Placed plan current.position (current.retryIndex + 1) state
  carried : Carried plan state current
  failed : state.lastFailure = some failure
  ended : ∃ endedAt, lastEnd state.log = some (.failed failure, endedAt) /\ endedAt <= state.now

/-- A failing member that is retried once the wait is over. -/
structure Retrying (plan : GatewayPlan ρ) (state : GatewayState ρ τ) (current : Try ρ)
    (endsAt : Millis) : Prop where
  calm : Calm plan state
  placed : Placed plan current.position (current.retryIndex + 1) state
  carried : Carried plan state current
  planned : state.resetRetry = false
  bounded : current.retryIndex < 3
  observed : WaitObserved plan.reading state.log endsAt

/-- What the log shows at a place of the executor. -/
def Records (plan : GatewayPlan ρ) (state : GatewayState ρ τ) : Control ρ τ -> Prop
  | .planning => Between plan state 0 /\ state.resetRetry = false
  | .planned _ => Between plan state 0 /\ state.resetRetry = false
  | .member index => Between plan state index
  | .recovering index => Recovering plan state index
  | .recovered index _ => Recovering plan state index
  | .trying current => Trying plan state current
  | .attempting current _ _ => Attempting plan state current
  | .attempted current _ settledAt => Attempting plan state current /\ settledAt <= state.now
  | .failed current failure _ => Failing plan state current failure
  | .checking current failure _ => Failing plan state current failure
  | .checked current failure _ _ => Failing plan state current failure
  | .deciding current failure _ => Failing plan state current failure
  | .delaying current failure delay => Failing plan state current failure /\
      Retrying plan state current (state.now + delay)
  | .advancing current failure => Failing plan state current failure
  | .waiting current endsAt => Retrying plan state current endsAt
  | .waited current cancelled => cancelled = false -> Retrying plan state current state.now
  | .leaving index => Between plan state (index + 1)
  | .finished _ => True

/-- What holds of the executor after every sequence of happenings. -/
structure Sound (plan : GatewayPlan ρ) (deadline : Millis) (state : GatewayState ρ τ) : Prop where
  sameDeadline : state.deadline = deadline
  admitted : ∀ start before, .started start :: before <:+ state.log ->
    AdmittedStart plan deadline start before /\
      (0 < start.retryIndex -> WaitObserved plan.reading before start.time)
  expiredSeen : .deadlineFired ∈ state.log -> state.expired
  abortedSeen : .aborted ∈ state.log -> state.aborted
  records : Records plan state state.control

/-! ## Events from outside -/

/-- The state changed by the clock, the caller or the timer alone. -/
structure Disturbed (before after : GatewayState ρ τ) : Prop where
  later : before.now <= after.now
  selections : after.selections = before.selections
  lastFailure : after.lastFailure = before.lastFailure
  resetRetry : after.resetRetry = before.resetRetry
  attemptedRecovery : after.attemptedRecovery = before.attemptedRecovery
  active : after.active = before.active
  committed : before.active -> before.committed -> after.committed
  log : after.log = before.log \/ after.log = .aborted :: before.log \/
    after.log = .deadlineFired :: before.log

section Disturbance

variable {before after : GatewayState ρ τ} {current : Try ρ} {index position tries : Nat}

variable (upset : Disturbed before after)

include upset

theorem Disturbed.started {start : AttemptStart} (mem : .started start ∈ after.log) :
    .started start ∈ before.log := by
  rcases upset.log with same | same | same <;> rw [same] at mem <;> simpa using mem

theorem Disturbed.countP {test : GatewayEvent -> Bool} (noAbort : test .aborted = false)
    (noDeadline : test .deadlineFired = false) :
    after.log.countP test = before.log.countP test := by
  rcases upset.log with same | same | same <;> rw [same] <;> simp [noAbort, noDeadline]

theorem Disturbed.lastEnd : lastEnd after.log = lastEnd before.log := by
  rcases upset.log with same | same | same <;> rw [same] <;> rfl

theorem Disturbed.event {event : GatewayEvent} (mem : event ∈ after.log) :
    event ∈ before.log \/ event = .aborted \/ event = .deadlineFired := by
  rcases upset.log with same | same | same <;> rw [same] at mem
  · exact .inl mem
  · rcases List.mem_cons.mp mem with rfl | old
    · exact .inr (.inl rfl)
    · exact .inl old
  · rcases List.mem_cons.mp mem with rfl | old
    · exact .inr (.inr rfl)
    · exact .inl old

theorem Calm.disturbed (calm : Calm plan before) : Calm plan after where
  continues := by
    intro event mem
    rcases upset.event mem with old | rfl | rfl
    · exact calm.continues event old
    · trivial
    · trivial
  balanced := by
    rw [upset.countP rfl rfl, upset.countP rfl rfl, calm.balanced]
  remembered := by
    intro start mem
    rw [upset.lastFailure]
    exact calm.remembered start (upset.started mem)

theorem Placed.disturbed (placed : Placed plan position tries before) :
    Placed plan position tries after where
  authored := fun planned start mem =>
    placed.authored (upset.resetRetry ▸ planned) start (upset.started mem)
  counted := by
    intro planned
    rw [upset.countP rfl rfl]
    exact placed.counted (upset.resetRetry ▸ planned)
  first := fun recovery untried start mem =>
    placed.first (upset.resetRetry ▸ recovery) untried start (upset.started mem)

theorem Exhausted.disturbed (exhausted : Exhausted plan before index) :
    Exhausted plan after index := by
  unfold Exhausted
  rw [upset.lastFailure, upset.selections]
  exact exhausted

theorem Carried.disturbed (carried : Carried plan before current) : Carried plan after current where
  planned := by
    intro planned
    rw [upset.attemptedRecovery]
    exact carried.planned (upset.resetRetry ▸ planned)
  recovery := by
    intro recovery
    rcases carried.recovery (upset.resetRetry ▸ recovery) with ⟨attempted, exhausted, rest⟩
    rw [upset.attemptedRecovery]
    exact ⟨attempted, exhausted.disturbed upset, rest⟩
  bounded := carried.bounded

theorem WaitObserved.disturbed {time later : Millis}
    (observed : WaitObserved plan.reading before.log time) (passes : time <= later) :
    WaitObserved plan.reading after.log later := by
  rcases observed with ⟨failure, endedAt, ended, enough⟩
  refine ⟨failure, endedAt, upset.lastEnd.trans ended, ?_⟩
  intro finite deadline requested
  exact le_trans (enough finite deadline requested) (WithTop.coe_le_coe.mpr passes)

theorem Between.disturbed (between : Between plan before index) : Between plan after index where
  calm := between.calm.disturbed upset
  planned := by
    intro planned
    rcases between.planned (upset.resetRetry ▸ planned) with ⟨attempted, starts⟩
    rw [upset.attemptedRecovery]
    exact ⟨attempted, fun start mem => starts start (upset.started mem)⟩
  recovery := by
    intro recovery
    rcases between.recovery (upset.resetRetry ▸ recovery) with ⟨attempted, exhausted⟩
    rw [upset.attemptedRecovery]
    exact ⟨attempted, exhausted.disturbed upset⟩

theorem Recovering.disturbed (recovering : Recovering plan before index) :
    Recovering plan after index where
  calm := recovering.calm.disturbed upset
  attempted := upset.attemptedRecovery.trans recovering.attempted
  unspent := upset.resetRetry.trans recovering.unspent
  first := fun start mem => recovering.first start (upset.started mem)
  exhausted := recovering.exhausted.disturbed upset
  hook := recovering.hook

theorem Trying.disturbed (trying : Trying plan before current) : Trying plan after current where
  calm := trying.calm.disturbed upset
  placed := trying.placed.disturbed upset
  carried := trying.carried.disturbed upset
  waited := fun retried => (trying.waited retried).disturbed upset upset.later

theorem Attempting.disturbed (attempting : Attempting plan before current) :
    Attempting plan after current where
  active := upset.active.trans attempting.active
  continues := by
    intro event mem
    rcases upset.event mem with old | rfl | rfl
    · rcases attempting.continues event old with continues | ⟨committed, which⟩
      · exact .inl continues
      · exact .inr ⟨upset.committed attempting.active committed, which⟩
    · exact .inl trivial
    · exact .inl trivial
  balanced := by
    rw [upset.countP rfl rfl, upset.countP rfl rfl, attempting.balanced]
  placed := attempting.placed.disturbed upset
  carried := attempting.carried.disturbed upset

theorem Failing.disturbed {failure : PiAiFailure} (failing : Failing plan before current failure) :
    Failing plan after current failure where
  calm := failing.calm.disturbed upset
  placed := failing.placed.disturbed upset
  carried := failing.carried.disturbed upset
  failed := upset.lastFailure.trans failing.failed
  ended := by
    rcases failing.ended with ⟨endedAt, ended, past⟩
    exact ⟨endedAt, upset.lastEnd.trans ended, le_trans past upset.later⟩

theorem Retrying.disturbed {endsAt later : Millis} (retrying : Retrying plan before current endsAt)
    (passes : endsAt <= later) : Retrying plan after current later where
  calm := retrying.calm.disturbed upset
  placed := retrying.placed.disturbed upset
  carried := retrying.carried.disturbed upset
  planned := upset.resetRetry.trans retrying.planned
  bounded := retrying.bounded
  observed := retrying.observed.disturbed upset passes

/-- Nothing from outside makes the record of a place false. -/
theorem Records.disturbed {control : Control ρ τ} (records : Records plan before control) :
    Records plan after control := by
  cases control with
  | planning | planned =>
    exact ⟨records.1.disturbed upset, upset.resetRetry.trans records.2⟩
  | member | leaving => exact Between.disturbed upset records
  | recovering | recovered => exact Recovering.disturbed upset records
  | trying => exact Trying.disturbed upset records
  | attempting => exact Attempting.disturbed upset records
  | attempted =>
    exact ⟨records.1.disturbed upset, le_trans records.2 upset.later⟩
  | failed | checking | checked | deciding | advancing =>
    exact Failing.disturbed upset records
  | delaying current failure delay =>
    have passes : before.now + delay <= after.now + delay := by
      have later := upset.later
      linarith
    exact ⟨records.1.disturbed upset, records.2.disturbed upset passes⟩
  | waiting => exact Retrying.disturbed upset records (le_refl _)
  | waited =>
    exact fun elapsed => (records elapsed).disturbed upset upset.later
  | finished => trivial

end Disturbance

/-- Another place with the same record. -/
theorem disturbed_control (state : GatewayState ρ τ) (control : Control ρ τ) :
    Disturbed state { state with control := control } :=
  ⟨le_refl _, rfl, rfl, rfl, rfl, rfl, fun _ kept => kept, .inl rfl⟩

end Gateway
end OpenKit
