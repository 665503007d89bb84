import OpenKit.Policy.Mediation

namespace OpenKit
namespace Policy

open Foundation List

/-!
# Overlapping invocations of one binding

All invocations of a binding share one circuit.  An invocation reads it and calls
its participant without an await in between, and settles the answer in the same
way, so an interleaving is a sequence of arrivals, answers, and waits.

The probing flag keeps a second probe out, and every answer lowers it, also that
of an invocation from before the circuit opened.  Answers that come within the
recovery time are never that late.
-/

/-- An invocation that waits for its participant. -/
structure PendingInvocation where
  input : InterceptionInput
  points : OperationPoints
  dispatchedAt : Nat
  probe : Bool

/-- The circuit of one binding and the invocations that it let through. -/
structure CircuitTraffic where
  circuit : Circuit
  now : Nat
  waiting : List PendingInvocation

def CircuitTraffic.initial (now : Nat) : CircuitTraffic := ⟨⟨0, 0, false⟩, now, []⟩

def CircuitTraffic.probes (traffic : CircuitTraffic) : List PendingInvocation :=
  traffic.waiting.filter PendingInvocation.probe

inductive TrafficEvent where
  | arrives (input : InterceptionInput) (moment : Moment)
  | answered (index : Nat) (answer : ParticipantAnswer) (after : Moment)
  | elapses (milliseconds : Nat)

section Steps

variable (env : InterceptionEnvironment) (binding : PolicyBinding)

/-- The invocation is admitted, its circuit lets it through, and its participant is there. -/
def dispatches (input : InterceptionInput) (moment : Moment) (circuit : Circuit) (now : Int) : Bool :=
  (admitInvocation env input binding moment).1 = .admitted &&
    !(circuit.probing || circuit.retryAt > now) && participantMatches env binding

/-- The call of a participant: it is a probe when the circuit has opened. -/
def CircuitTraffic.dispatch (traffic : CircuitTraffic) (input : InterceptionInput)
    (points : OperationPoints) : CircuitTraffic :=
  let probe := decide (traffic.circuit.retryAt > 0)
  { traffic with
    circuit := { traffic.circuit with probing := probe }
    waiting := traffic.waiting ++ [⟨input, points, traffic.now, probe⟩] }

/-- The answer of a participant, a timeout included. -/
def CircuitTraffic.settle (traffic : CircuitTraffic) (index : Nat) (invocation : PendingInvocation)
    (answer : ParticipantAnswer) (after : Moment) : CircuitTraffic :=
  let outcome := (settleAnswer env invocation.input invocation.points binding after answer).1
  { traffic with
    circuit := settleCircuit binding outcome traffic.circuit traffic.now
    waiting := traffic.waiting.eraseIdx index }

def trafficStep (event : TrafficEvent) (traffic : CircuitTraffic) : CircuitTraffic :=
  match event with
  | .arrives input moment =>
    match policyOperationDefinition env.toPolicyEnvironment input.proposal.operation with
    | .error _ => traffic
    | .ok definition =>
      if participates input definition.points binding &&
          dispatches env binding input moment traffic.circuit traffic.now then
        traffic.dispatch input definition.points
      else traffic
  | .answered index answer after =>
    match traffic.waiting[index]? with
    | none => traffic
    | some invocation => traffic.settle env binding index invocation answer after
  | .elapses milliseconds => { traffic with now := traffic.now + milliseconds }

/-- An attempt on its own leaves the circuit of its dispatch and its answer. -/
theorem attempt_circuit (input : InterceptionInput) (points : OperationPoints)
    (world : InvocationWorld) : (attempt env input points binding world).circuit =
      if dispatches env binding input world.before world.circuit world.dispatchedAt then
        settleCircuit binding (settleAnswer env input points binding world.after world.answer).1
          world.settlingCircuit world.settledAt else world.circuit := by
  unfold attempt dispatches
  rcases admitInvocation env input binding world.before with ⟨admission, agent⟩
  cases admission with
  | authorityError => rfl
  | stale => rfl
  | unauthorized => rfl
  | admitted =>
    by_cases blocked : world.circuit.probing \/ world.circuit.retryAt > world.dispatchedAt
    · have refused : (world.circuit.probing ||
          world.circuit.retryAt > world.dispatchedAt) := by simpa using blocked
      simp [blocked, refused]
    · have passed : (world.circuit.probing ||
          world.circuit.retryAt > world.dispatchedAt) = false := by simpa using blocked
      cases participantMatches env binding <;> simp [blocked, passed]

end Steps

/-! ## One probe at a time -/

/-- Every invocation that waits was dispatched less than the recovery time ago. -/
def waitsBriefly (binding : PolicyBinding) (_ : TrafficEvent) (traffic : CircuitTraffic) : Bool :=
  traffic.waiting.all fun invocation =>
    traffic.now < invocation.dispatchedAt + binding.circuit.recoveryAfterMs

/-- What holds at every point of a run whose invocations wait briefly. -/
structure Orderly (binding : PolicyBinding) (traffic : CircuitTraffic) : Prop where
  past : ∀ invocation ∈ traffic.waiting, invocation.dispatchedAt <= traffic.now
  /-- An open circuit retries when the invocations from before have waited their time. -/
  retry : ∀ invocation ∈ traffic.waiting, invocation.probe = false -> 0 < traffic.circuit.retryAt ->
    (invocation.dispatchedAt : Int) + binding.circuit.recoveryAfterMs <= traffic.circuit.retryAt
  alone : ∀ invocation ∈ traffic.waiting, invocation.probe ->
    traffic.circuit.probing /\ traffic.waiting = [invocation]

section Runs

variable {env : InterceptionEnvironment} {binding : PolicyBinding} {traffic : CircuitTraffic}

variable (orderly : Orderly binding traffic)

theorem Orderly.initial (start : Nat) : Orderly binding (.initial start) where
  past := forall_mem_nil _
  retry := forall_mem_nil _
  alone := forall_mem_nil _

include orderly

theorem Orderly.dispatch (brief : ∀ call ∈ traffic.waiting,
      traffic.now < call.dispatchedAt + binding.circuit.recoveryAfterMs)
    (idle : traffic.circuit.probing = false) (due : traffic.circuit.retryAt <= traffic.now)
    (input : InterceptionInput) (points : OperationPoints) :
    Orderly binding (traffic.dispatch input points) := by
  have ordinary : ∀ call ∈ traffic.waiting, call.probe = false := by
    intro call mem
    by_contra probe
    have raised := (orderly.alone call mem (eq_true_of_ne_false probe)).1
    rw [idle] at raised
    cases raised
  have past : ∀ call ∈ traffic.waiting ++ [⟨input, points, traffic.now,
      decide (traffic.circuit.retryAt > 0)⟩], call.dispatchedAt <= traffic.now :=
    forall_mem_concat orderly.past (Nat.le_refl _)
  by_cases opened : 0 < traffic.circuit.retryAt
  · -- whatever was dispatched before the circuit opened has been answered
    have none : traffic.waiting = [] := by
      refine eq_nil_iff_forall_not_mem.mpr (fun call mem => ?_)
      have waited := orderly.retry call mem (ordinary call mem) opened
      have recent := brief call mem
      omega
    have probe : (traffic.dispatch input points).waiting = [⟨input, points, traffic.now, true⟩] := by
      simp [CircuitTraffic.dispatch, none, opened]
    refine ⟨past, ?_, ?_⟩
    · intro call mem isOrdinary
      rw [probe, mem_singleton] at mem
      rw [mem] at isOrdinary
      cases isOrdinary
    · intro call mem _
      rw [probe, mem_singleton] at mem
      rw [mem]
      exact ⟨decide_eq_true opened, probe⟩
  · refine ⟨past, fun _ _ _ isOpen => absurd isOpen opened, ?_⟩
    refine forall_mem_concat (fun call old isProbe => ?_) (fun isProbe => ?_)
    · rw [ordinary call old] at isProbe
      cases isProbe
    · exact absurd (of_decide_eq_true isProbe) opened

theorem Orderly.settle {index : Nat} {call : PendingInvocation}
    (found : traffic.waiting[index]? = some call) (answer : ParticipantAnswer)
    (after : Moment) :
    Orderly binding (traffic.settle env binding index call answer after) := by
  have kept : ∀ other ∈ traffic.waiting.eraseIdx index, other ∈ traffic.waiting :=
    fun other mem => (eraseIdx_sublist traffic.waiting index).subset mem
  refine ⟨fun other mem => orderly.past other (kept other mem), ?_, ?_⟩
  · intro other mem isOrdinary isOpen
    have before := orderly.past other (kept other mem)
    unfold CircuitTraffic.settle settleCircuit at isOpen ⊢
    dsimp only at isOpen ⊢
    split at isOpen
    · cases isOpen
    rename_i failed
    rw [if_neg failed]
    dsimp only at isOpen ⊢
    split at isOpen
    next opens =>
      rw [if_pos opens]
      omega
    next stays =>
      rw [if_neg stays]
      exact orderly.retry other (kept other mem) isOrdinary isOpen
  · intro other mem isProbe
    -- the only invocation was the one that has been answered
    have only := (orderly.alone other (kept other mem) isProbe).2
    rw [only] at found
    change other ∈ traffic.waiting.eraseIdx index at mem
    cases index with
    | zero => simp [only] at mem
    | succ => simp at found

theorem Orderly.step (event : TrafficEvent) (brief : waitsBriefly binding event traffic) :
    Orderly binding (trafficStep env binding event traffic) := by
  unfold trafficStep
  cases event with
  | arrives input =>
    dsimp only
    split
    · exact orderly
    split
    next admitted =>
      simp only [dispatches, Bool.and_eq_true, Bool.not_eq_true', Bool.or_eq_false_iff,
        decide_eq_false_iff_not, not_lt] at admitted
      refine orderly.dispatch ?_ admitted.2.1.2.1 admitted.2.1.2.2 input _
      intro call mem
      exact of_decide_eq_true (all_eq_true.mp brief call mem)
    · exact orderly
  | answered index answer after =>
    dsimp only
    split
    · exact orderly
    next found =>
      exact orderly.settle found answer after
  | elapses =>
    exact ⟨fun call mem => (orderly.past call mem).trans (Nat.le_add_right _ _),
      orderly.retry, orderly.alone⟩

theorem Orderly.single : traffic.probes.length <= 1 := by
  unfold CircuitTraffic.probes
  cases listed : traffic.waiting.filter PendingInvocation.probe with
  | nil => exact Nat.zero_le 1
  | cons call =>
    have mem : call ∈ traffic.waiting.filter PendingInvocation.probe := by simp [listed]
    rcases mem_filter.mp mem with ⟨waits, isProbe⟩
    rw [<- listed, (orderly.alone call waits isProbe).2]
    exact length_filter_le _ _

end Runs

/-- However the invocations of a binding overlap, at most one probe is in flight
when each is answered within the recovery time. -/
theorem at_most_one_probe (env : InterceptionEnvironment) (binding : PolicyBinding) (start : Nat)
    (events : List TrafficEvent)
    (brief : everyStep (trafficStep env binding) (waitsBriefly binding) events (.initial start)) :
    (runCalls (trafficStep env binding) events (.initial start)).probes.length <= 1 := by
  have orderly : Orderly binding (runCalls (trafficStep env binding) events (.initial start)) := by
    refine runCalls_invariant_of_everyStep (Orderly binding) ?_ brief (.initial start)
    intro event traffic met orderly
    exact orderly.step event met
  exact orderly.single

/-- The guard opens its circuit at the first failure and retries after one millisecond. -/
def hastyGate : PolicyBinding := { guardGate with circuit := ⟨1, 1⟩ }

/-- Two calls overlap; the first fails, a probe starts, the second fails, and a
further call arrives. -/
def overlappingCalls : List TrafficEvent :=
  [.arrives guardedInput calmMoment, .arrives guardedInput calmMoment,
    .answered 0 .rejected calmMoment, .elapses 2, .arrives guardedInput calmMoment,
    .answered 0 .rejected calmMoment, .elapses 2, .arrives guardedInput calmMoment]

/-- The second call fails while the probe waits, and after the recovery time a second probe
starts beside the first. -/
theorem late_failure_admits_second_probe :
    let traffic := runCalls (trafficStep guardedEnvironment hastyGate) overlappingCalls (.initial 0)
    traffic.probes.length = 2 /\ 0 < traffic.circuit.retryAt /\
      traffic.waiting.all (traffic.now < ·.dispatchedAt + hastyGate.timeoutMs) := by
  decide +kernel

/-- A failure, the recovery time, and a probe, with a further call beside it. -/
theorem recovering_guard_has_one_probe :
    (runCalls (trafficStep guardedEnvironment { guardGate with circuit := ⟨1, 1000⟩ })
      [.arrives guardedInput calmMoment, .answered 0 .rejected calmMoment, .elapses 1001,
        .arrives guardedInput calmMoment, .arrives guardedInput calmMoment]
      (.initial 0)).probes.length <= 1 :=
  at_most_one_probe guardedEnvironment _ 0 _ (by decide +kernel)

/-! ## Calls that do not overlap -/

/-- An invocation that is answered before the next one comes. -/
structure SoloCall where
  input : InterceptionInput
  points : OperationPoints
  world : InvocationWorld
  (waits idles : Nat)

def soloCall (env : InterceptionEnvironment) (binding : PolicyBinding) (call : SoloCall)
    (state : Circuit × Nat) : Circuit × Nat :=
  ((attempt env call.input call.points binding { call.world with
      circuit := state.1, dispatchedAt := state.2
      settlingCircuit := { state.1 with probing := state.1.retryAt > 0 }
      settledAt := state.2 + call.waits }).circuit, state.2 + call.waits + call.idles)

/-- Failures beyond the limit are a recovery time apart. -/
structure Paced (binding : PolicyBinding) (start : Nat) (state : Circuit × Nat) : Prop where
  calm : state.1.probing = false
  since : start + (state.1.failures - max 1 binding.circuit.failures) *
    binding.circuit.recoveryAfterMs <= state.2
  retry : max 1 binding.circuit.failures <= state.1.failures ->
    start + (state.1.failures - max 1 binding.circuit.failures + 1 : Nat) *
      (binding.circuit.recoveryAfterMs : Int) <= state.1.retryAt

theorem Paced.step {env : InterceptionEnvironment} {binding : PolicyBinding} {start : Nat}
    {state : Circuit × Nat} (paced : Paced binding start state) (call : SoloCall) :
    Paced binding start (soloCall env binding call state) := by
  rcases state with ⟨circuit, now⟩
  rcases paced with ⟨calm, since, retry⟩
  unfold soloCall
  rw [attempt_circuit]
  dsimp only at calm since retry ⊢
  split
  next sent =>
    have due : circuit.retryAt <= now := by
      simp only [dispatches, Bool.and_eq_true, Bool.not_eq_true', Bool.or_eq_false_iff,
        decide_eq_false_iff_not, not_lt] at sent
      exact sent.1.2.2
    unfold settleCircuit
    split
    · exact ⟨rfl, by simp; omega, by simp⟩
    -- a failure beyond the limit came after the retry time of the one before
    have spent : start + (circuit.failures + 1 - max 1 binding.circuit.failures : Nat) *
        (binding.circuit.recoveryAfterMs : Int) <= now := by
      by_cases beyond : max 1 binding.circuit.failures <= circuit.failures
      · rw [Nat.sub_add_comm beyond]
        exact (retry beyond).trans due
      · rw [Nat.sub_eq_zero_of_le (by omega)]
        omega
    refine ⟨rfl, by dsimp only; omega, ?_⟩
    intro reached
    dsimp only at reached ⊢
    rw [if_pos (by omega)]
    push_cast
    rw [Int.add_mul]
    omega
  · exact ⟨calm, by dsimp only; omega, retry⟩

/-- When the calls of a binding do not overlap, a participant that fails is asked
at most as often as the limit says and then once in each recovery time, and no
call is left probing. -/
theorem failing_participant_asked_rarely (env : InterceptionEnvironment) (binding : PolicyBinding)
    (calls : List SoloCall) (start : Nat) :
    let final := runCalls (soloCall env binding) calls (⟨0, 0, false⟩, start)
    final.1.probing = false /\ (final.1.failures - max 1 binding.circuit.failures) *
      binding.circuit.recoveryAfterMs <= final.2 - start := by
  have paced : Paced binding start
      (runCalls (soloCall env binding) calls (⟨0, 0, false⟩, start)) := by
    refine runCalls_invariant _ (fun call _ state paced => paced.step call) ⟨rfl, by simp, ?_⟩
    intro reached
    simp at reached
  exact ⟨paced.calm, Nat.le_sub_of_add_le' paced.since⟩

end Policy
end OpenKit
