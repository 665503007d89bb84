import Mathlib.Algebra.Order.Field.Rat
import OpenKit.Foundation.Text
import OpenKit.Foundation.Transactions

namespace OpenKit
namespace Gateway

open Foundation

/-!
# Executing a gateway plan

`executeGatewayPlan` of `gateway-execution.ts` tries the members of a plan in
order, retries a member after a wait, and may spend one quota recovery at the
end.  It shares its flags with a deadline timer and with the callbacks of the
running attempt.

The function is modelled as a machine.  A control state stands for each place
where it reads the clock or awaits a promise; `resume` runs it from one such
place to the next.  Everything else that can happen is a `Happening`: time
passes at any place, and the caller, the timer, the attempt and the callbacks that
a settled attempt still holds act while a promise is awaited.  The log of a state,
newest first, is what the run did so far and is read by no step.
-/

/-! ## Failures and waits -/

inductive PiAiFailureKind where
  | authRejected | quotaExhausted | rateLimited | providerUnavailable | contextOverflow
  | unsupported | outputLimit | refused | invalidRequest | cancelled | unknown
  deriving DecidableEq, Repr

/-- The parts of `PiAiFailure` that the executor reads. -/
structure PiAiFailure where
  kind : PiAiFailureKind
  settled : Bool
  retryAfter : Option String := none
  deriving DecidableEq, Repr

structure FailureDecision where
  (retry advance : Bool)
  deriving DecidableEq, Repr

def gatewayFailureDecision (kind : PiAiFailureKind) (autoFailover : Bool) : FailureDecision where
  retry := kind = .rateLimited || kind = .providerUnavailable
  advance := autoFailover &&
    [.authRejected, .quotaExhausted, .rateLimited, .providerUnavailable].contains kind

/-- Milliseconds, as a time or as a span. -/
abbrev Millis := Rat

def gatewayRetryDelaysMs : List Millis := [1000, 2000, 4000]
def gatewayRetryAfterCeilingMs : Millis := 10000
def gatewayPrecommitDeadlineMs : Millis := 120000

/-- How the runtime reads a `Retry-After` text. -/
structure RetryAfterReading where
  /-- `Number(text) * 1000` of a text of digits, when it is finite. -/
  number : String -> Option Millis
  /-- `Date.parse(text)`, when it is finite. -/
  date : String -> Option Millis

/-- `/^\s*\d+(?:\.\d+)?\s*$/`. -/
def isDelaySeconds (text : String) : Bool :=
  let trimmed := ((text.toList.dropWhile isWhiteSpace).reverse.dropWhile isWhiteSpace).reverse
  let whole := trimmed.takeWhile Char.isDigit
  let rest := trimmed.dropWhile Char.isDigit
  !whole.isEmpty &&
    match rest with
    | [] => true
    | '.' :: fraction => !fraction.isEmpty && fraction.all Char.isDigit
    | _ => false

/-- The wait before the next attempt of a member, none if it is not permitted. -/
def retryDelay (reading : RetryAfterReading) (failure : PiAiFailure) (retryIndex : Nat)
    (now : Millis) : Option Millis :=
  match failure.retryAfter with
  | none => gatewayRetryDelaysMs[retryIndex]?
  | some text =>
    let numeric := if isDelaySeconds text then reading.number text else none
    let delay := match numeric with
      | some span => some span
      | none =>
        match reading.date text with
        | some date => some (max 0 (date - now))
        | none => gatewayRetryDelaysMs[retryIndex]?
    delay.filter (· <= gatewayRetryAfterCeilingMs)

/-! ## The machine -/

variable {ρ τ : Type}

structure GatewaySelection (ρ : Type) where
  route : ρ
  selected : Bool
  reason : String
  deriving DecidableEq, Repr

/-- The input of the executor.  `selections` is none when they come from an
awaited function; the two hooks are optional. -/
structure GatewayPlan (ρ : Type) where
  selections : Option (List (GatewaySelection ρ))
  (autoFailover quotaRecoveryEligible recoverSettledQuota : Bool)
  reading : RetryAfterReading

/-- A thrown value: whether it is the reason of the caller's signal, its failure
facts, and whether it is a `GatewayAttemptFailure` from before the dispatch. -/
structure Thrown where
  isReason : Bool := false
  failure : Option PiAiFailure := none
  beforeDispatch : Bool := false
  deriving DecidableEq, Repr

inductive AttemptResult (τ : Type) where
  | returned (value : τ)
  | threw (error : Thrown)
  deriving DecidableEq, Repr

/-- How the executor ends. -/
inductive GatewayOutcome (τ : Type) where
  | returned (value : τ)
  /-- `GatewayAttemptFailure` with these facts. -/
  | attemptFailure (failure : PiAiFailure)
  /-- An error of another owner passes through. -/
  | passed (error : Thrown)
  /-- `LogicalModelRoutesExhaustedError`. -/
  | exhausted (cause : Option PiAiFailureKind)
  deriving DecidableEq, Repr

/-- One round of the inner loop: the index of the outer loop, the member and the
number of its retry. -/
structure Try (ρ : Type) where
  (index position : Nat)
  selection : GatewaySelection ρ
  retryIndex : Nat
  deriving DecidableEq, Repr

/-- The places of the executor. -/
inductive Control (ρ τ : Type) where
  /-- Awaits `input.selections`. -/
  | planning
  | planned (result : Except Thrown (List (GatewaySelection ρ)))
  /-- The head of the outer loop. -/
  | member (index : Nat)
  /-- Awaits `recoverSettledQuota`. -/
  | recovering (index : Nat)
  | recovered (index : Nat) (result : Except Thrown Bool)
  /-- The head of the inner loop. -/
  | trying (current : Try ρ)
  /-- Awaits `input.attempt`. -/
  | attempting (current : Try ρ) (outputBegan streamPrepared : Bool)
  | attempted (current : Try ρ) (result : AttemptResult τ) (settledAt : Millis)
  /-- The failure may be followed by another attempt. -/
  | failed (current : Try ρ) (failure : PiAiFailure) (beforeDispatch : Bool)
  /-- Awaits `quotaRecoveryEligible`. -/
  | checking (current : Try ρ) (failure : PiAiFailure) (beforeDispatch : Bool)
  | checked (current : Try ρ) (failure : PiAiFailure) (beforeDispatch : Bool)
      (result : Except Thrown Bool)
  | deciding (current : Try ρ) (failure : PiAiFailure) (beforeDispatch : Bool)
  /-- A delay is known and is compared with the deadline. -/
  | delaying (current : Try ρ) (failure : PiAiFailure) (delay : Millis)
  /-- No retry: the next member, if the failure allows it. -/
  | advancing (current : Try ρ) (failure : PiAiFailure)
  /-- Awaits the delay or the cancellation. -/
  | waiting (current : Try ρ) (endsAt : Millis)
  | waited (current : Try ρ) (cancelled : Bool)
  /-- After the inner loop. -/
  | leaving (index : Nat)
  | finished (outcome : GatewayOutcome τ)

/-- A promise is pending or its continuation has not run. -/
def Control.awaits : Control ρ τ -> Bool
  | .planning => true
  | .planned _ => true
  | .recovering _ => true
  | .recovered _ _ => true
  | .attempting _ _ _ => true
  | .attempted _ _ _ => true
  | .checking _ _ _ => true
  | .checked _ _ _ _ => true
  | .waiting _ _ => true
  | .waited _ _ => true
  | _ => false

structure AttemptStart where
  (position retryIndex attemptOrder : Nat)
  selectionReason : String
  /-- The attempt spends the quota recovery. -/
  recovery : Bool
  time : Millis
  deriving DecidableEq, Repr

inductive AttemptEnd where
  | returned
  | failed (failure : PiAiFailure)
  /-- An error without failure facts. -/
  | threw
  deriving DecidableEq, Repr

inductive GatewayEvent where
  | started (start : AttemptStart)
  /-- The running attempt called `commit`. -/
  | committed
  /-- `prepareStream` of the running attempt resolved. -/
  | prepared
  /-- A `commit` or `prepareStream` of a settled attempt took effect. -/
  | late
  | ended (result : AttemptEnd) (time : Millis)
  | deadlineFired | aborted
  deriving DecidableEq, Repr

def AttemptResult.toEnd : AttemptResult τ -> AttemptEnd
  | .returned _ => .returned
  | .threw error =>
    match error.failure with
    | some failure => .failed failure
    | none => .threw

structure GatewayState (ρ τ : Type) where
  (now deadline : Millis)
  selections : List (GatewaySelection ρ)
  aborted : Bool
  committed : Bool := false
  expired : Bool := false
  order : Nat := 0
  lastFailure : Option PiAiFailure := none
  /-- The member whose quota may be recovered, with its place in the plan. -/
  quotaSelection : Option (Nat × GatewaySelection ρ) := none
  resetRetry : Bool := false
  active : Bool := false
  attemptedRecovery : Bool := false
  control : Control ρ τ
  log : List GatewayEvent

/-- The call at a time, with a signal that may already be aborted. -/
def GatewayState.initial (plan : GatewayPlan ρ) (now : Millis) (aborted : Bool) :
    GatewayState ρ τ where
  now := now
  deadline := now + gatewayPrecommitDeadlineMs
  selections := plan.selections.getD []
  aborted := aborted
  control := if plan.selections.isSome then .member 0 else .planning
  log := if aborted then [.aborted] else []

namespace GatewayState

def finish (outcome : GatewayOutcome τ) (state : GatewayState ρ τ) : GatewayState ρ τ :=
  { state with active := false, control := .finished outcome }

variable (plan : GatewayPlan ρ) (state : GatewayState ρ τ)

/-- The signal's reason is thrown. -/
def cancel : GatewayState ρ τ :=
  state.finish (.attemptFailure { kind := .cancelled, settled := false })

/-- The outer `catch`. -/
def rethrow (error : Thrown) (state : GatewayState ρ τ) : GatewayState ρ τ :=
  if state.aborted && error.isReason then state.cancel else state.finish (.passed error)

/-- The end of the plan. -/
def exhaust : GatewayState ρ τ :=
  match state.lastFailure with
  | some failure =>
    if plan.autoFailover then state.finish (.exhausted (some failure.kind))
    else state.finish (.attemptFailure failure)
  | none => state.finish (.exhausted none)

def isPastDeadline : Bool :=
  state.expired || state.deadline <= state.now

/-- `!input.autoFailover && lastFailure ? undefined : selections[index]`. -/
def nextSelection (index : Nat) : Option (GatewaySelection ρ) :=
  if !plan.autoFailover && state.lastFailure.isSome then none else state.selections[index]?

/-- The head of the outer loop. -/
def nextMember (index : Nat) : GatewayState ρ τ :=
  match state.nextSelection plan index with
  | some selection =>
    if selection.selected then { state with control := .trying ⟨index, index, selection, 0⟩ }
    else { state with control := .member (index + 1) }
  | none =>
    if state.attemptedRecovery || state.quotaSelection.isNone || !plan.recoverSettledQuota ||
        state.committed || state.expired || state.aborted || state.deadline <= state.now then
      state.exhaust plan
    else { state with attemptedRecovery := true, control := .recovering index }

/-- After `recoverSettledQuota`. -/
def afterRecovery (index : Nat) (recovered : Bool) : GatewayState ρ τ :=
  if state.aborted then state.cancel
  else if !recovered || state.committed || state.isPastDeadline then state.exhaust plan
  else
    match state.quotaSelection with
    | none => state.exhaust plan
    | some (position, selection) =>
      let next := { state with resetRetry := true }
      if selection.selected then { next with control := .trying ⟨index, position, selection, 0⟩ }
      else { next with control := .member (index + 1) }

variable (current : Try ρ) (failure : PiAiFailure)

/-- The head of the inner loop, up to the call of the attempt. -/
def startAttempt : GatewayState ρ τ :=
  if state.aborted then state.cancel
  else if state.isPastDeadline then { state with control := .leaving current.index }
  else
    { state with
      order := state.order + 1, active := true, control := .attempting current false false
      log := .started ⟨current.position, current.retryIndex, state.order, current.selection.reason,
        state.resetRetry, state.now⟩ :: state.log }

/-- The failures after which the executor may go on. -/
def mayContinue (kind : PiAiFailureKind) : Bool :=
  (gatewayFailureDecision kind plan.autoFailover).retry ||
    (gatewayFailureDecision kind plan.autoFailover).advance || kind = .quotaExhausted

/-- After `input.attempt`. -/
def afterAttempt (result : AttemptResult τ) (settledAt : Millis) : GatewayState ρ τ :=
  let state := { state with log := .ended result.toEnd settledAt :: state.log }
  match result with
  | .returned value => { state with committed := true }.finish (.returned value)
  | .threw error =>
    if state.aborted && error.isReason then state.cancel
    else
      match error.failure with
      | none => state.finish (.passed error)
      | some failure =>
        let state := { state with lastFailure := some failure }
        if state.aborted || state.committed || !failure.settled ||
            !mayContinue plan failure.kind then
          state.finish (.attemptFailure failure)
        else if state.isPastDeadline then state.finish (.attemptFailure failure)
        else { state with control := .failed current failure error.beforeDispatch }

/-- Whether a quota failure is kept for the recovery. -/
def keepQuota (beforeDispatch : Bool) : GatewayState ρ τ :=
  if failure.kind = .quotaExhausted && plan.recoverSettledQuota then
    if plan.quotaRecoveryEligible then
      { state with control := .checking current failure beforeDispatch }
    else
      { state with
        quotaSelection := some (current.position, current.selection)
        control := .deciding current failure beforeDispatch }
  else { state with control := .deciding current failure beforeDispatch }

/-- A same-member retry or not. -/
def decideRetry (beforeDispatch : Bool) : GatewayState ρ τ :=
  if !state.resetRetry && (gatewayFailureDecision failure.kind plan.autoFailover).retry &&
      !beforeDispatch && current.retryIndex < gatewayRetryDelaysMs.length then
    match retryDelay plan.reading failure current.retryIndex state.now with
    | some delay => { state with control := .delaying current failure delay }
    | none => { state with control := .advancing current failure }
  else { state with control := .advancing current failure }

/-- Wait when the whole delay fits before the deadline. -/
def beginWait (delay : Millis) : GatewayState ρ τ :=
  if delay < state.deadline - state.now then
    if state.aborted then state.cancel
    else { state with active := false, control := .waiting current (state.now + delay) }
  else { state with control := .advancing current failure }

def leaveMember : GatewayState ρ τ :=
  if !(gatewayFailureDecision failure.kind plan.autoFailover).advance &&
      !decide (failure.kind = .quotaExhausted) then
    state.finish (.attemptFailure failure)
  else { state with active := false, control := .leaving current.index }

/-- Run the executor to its next place; nothing happens while it awaits. -/
def resume : GatewayState ρ τ :=
  match state.control with
  | .planned (.error error) => state.rethrow error
  | .planned (.ok selections) =>
    if state.aborted then state.cancel
    else { state with selections := selections, control := .member 0 }
  | .member index => state.nextMember plan index
  | .recovered _ (.error error) => state.rethrow error
  | .recovered index (.ok recovered) => state.afterRecovery plan index recovered
  | .trying current => state.startAttempt current
  | .attempted current result settledAt => state.afterAttempt plan current result settledAt
  | .failed current failure beforeDispatch => state.keepQuota plan current failure beforeDispatch
  | .checked _ _ _ (.error error) => state.rethrow error
  | .checked current failure beforeDispatch (.ok eligible) =>
    { state with
      quotaSelection :=
        if eligible then some (current.position, current.selection) else state.quotaSelection
      control := .deciding current failure beforeDispatch }
  | .deciding current failure beforeDispatch => state.decideRetry plan current failure beforeDispatch
  | .delaying current failure delay => state.beginWait current failure delay
  | .advancing current failure => state.leaveMember plan current failure
  | .waited current cancelled =>
    if cancelled then state.cancel
    else { state with control := .trying { current with retryIndex := current.retryIndex + 1 } }
  | .leaving index =>
    if state.isPastDeadline then state.exhaust plan
    else { state with control := .member (index + 1) }
  | _ => state

end GatewayState

/-- What happens from outside, or a run of the executor to its next place. -/
inductive Happening (ρ τ : Type) where
  | resume
  | pass (time : Millis)
  | abort | deadlineTimer | commit | prepareStream
  /-- A callback of an attempt that has settled. -/
  | late
  | plan (result : Except Thrown (List (GatewaySelection ρ)))
  | settle (result : AttemptResult τ)
  | eligible (result : Except Thrown Bool)
  | recover (result : Except Thrown Bool)
  | elapse

/-- The caller aborts while a promise is awaited; a wait is rejected at once. -/
def GatewayState.abort (state : GatewayState ρ τ) : GatewayState ρ τ :=
  if state.control.awaits && !state.aborted then
    { state with
      aborted := true
      control := match state.control with
        | .waiting current _ => .waited current true
        | other => other
      log := .aborted :: state.log }
  else state

/-- The callback of the deadline timer. -/
def GatewayState.fireDeadline (state : GatewayState ρ τ) : GatewayState ρ τ :=
  if state.control.awaits && !state.expired then
    { state with expired := true, committed := state.active, log := .deadlineFired :: state.log }
  else state

/-- The number of attempts that have settled. -/
def GatewayState.settledAttempts (state : GatewayState ρ τ) : Nat :=
  match state.control with
  | .attempting _ _ _ => state.order - 1
  | _ => state.order

/-- The closures of a settled attempt set the flag that the attempts share. -/
def GatewayState.commitLate (state : GatewayState ρ τ) : GatewayState ρ τ :=
  if state.control.awaits && 0 < state.settledAttempts then
    { state with committed := true, log := .late :: state.log }
  else state

/-- One happening; one that is not possible in the state changes nothing. -/
def GatewayState.take (plan : GatewayPlan ρ) (happening : Happening ρ τ)
    (state : GatewayState ρ τ) : GatewayState ρ τ :=
  match happening, state.control with
  | .resume, _ => state.resume plan
  | .pass time, _ => if state.now <= time then { state with now := time } else state
  | .abort, _ => state.abort
  | .deadlineTimer, _ => state.fireDeadline
  | .late, _ => state.commitLate
  | .commit, .attempting current outputBegan streamPrepared =>
    { state with
      committed := true
      control := .attempting current (outputBegan || !streamPrepared) streamPrepared
      log := .committed :: state.log }
  | .prepareStream, .attempting current outputBegan _ =>
    { state with
      committed := true, control := .attempting current outputBegan true
      log := .prepared :: state.log }
  | .plan result, .planning => { state with control := .planned result }
  | .settle result, .attempting current _ _ =>
    { state with control := .attempted current result state.now }
  | .eligible result, .checking current failure beforeDispatch =>
    { state with control := .checked current failure beforeDispatch result }
  | .recover result, .recovering index => { state with control := .recovered index result }
  | .elapse, .waiting current endsAt =>
    if endsAt <= state.now then { state with control := .waited current false } else state
  | _, _ => state

/-- The state after a sequence of happenings. -/
def executeGatewayPlan (plan : GatewayPlan ρ) (now : Millis) (aborted : Bool)
    (happenings : List (Happening ρ τ)) : GatewayState ρ τ :=
  runCalls (GatewayState.take plan) happenings (.initial plan now aborted)

end Gateway
end OpenKit
