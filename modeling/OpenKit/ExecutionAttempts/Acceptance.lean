import OpenKit.ExecutionAttempts.Progress

namespace OpenKit
namespace ExecutionAttempts

open Foundation Writes

/-!
# Accepted effects and the fence

An attempt records its operations one after another in the same columns.  An
observation cannot take back an acceptance, but the next operation can: it
resets the disposition to `unknown`, and a close without effects looks at the
disposition alone.  An attempt with an accepted effect can then be closed
without a fence, and its entry goes back to the queue.

The fence is needed again in every run that records no operation over an
accepted one, and in every run that closes without effects only attempts
without an operation.
-/

namespace Advance

variable {act : AttemptAct} {before later : SchedulerExecutionAttempt}

variable (advance : Advance act before later)

include advance

theorem fence_or_release (closed : later.phase = .closed) : act = .fence \/ act = .release := by
  have live := advance.live
  cases advance with
  | bound | finalized | operated | observed => exact absurd closed live
  | closing => cases closed
  | released => exact .inr rfl
  | fenced => exact .inl rfl

/-- Every statement but a new operation keeps an acceptance, and no release finds one. -/
theorem accepted (isAccepted : before.disposition = .accepted) (notOperated : act ≠ .operate) :
    later.disposition = .accepted /\ act ≠ .release := by
  cases advance with
  | bound | finalized | closing | fenced => exact ⟨isAccepted, by decide⟩
  | operated => exact absurd rfl notOperated
  | observed _ _ _ _ _ _ _ definite => exact ⟨definite isAccepted, by decide⟩
  | released _ _ _ _ unaccepted => exact absurd isAccepted unaccepted

/-- An operation is never forgotten, only replaced. -/
theorem operation_kept (operated : before.operationId ≠ none) : later.operationId ≠ none := by
  cases advance with
  | operated => exact Option.some_ne_none _
  | bound | finalized | observed | closing | released | fenced => exact operated

end Advance

variable {call : SchedulerCall} {db after : SchedulerDb} {key : String}
  {property : SchedulerExecutionAttempt -> Prop} {before : SchedulerExecutionAttempt}

theorem kept_of_steps (kept : ∀ act row later, call.actOn key = some act -> Advance act row later ->
      property row -> property later) (steps : SchedulerSteps call db after)
    (found : db.attempt? key = some before) (holds : property before) :
    ∃ later, after.attempt? key = some later /\ property later := by
  induction steps with
  | refl => exact ⟨before, found, holds⟩
  | tail _ stepped ih =>
    rcases ih with ⟨middle, foundMiddle, middleHolds⟩
    rcases stepped.attempt foundMiddle with same | ⟨act, later, acts, advance, foundLater⟩
    · exact ⟨middle, same, middleHolds⟩
    · exact ⟨later, foundLater, kept act middle later acts advance middleHolds⟩

/-- A call that keeps a property of an attempt and never releases it closes the
attempt with its fence or not at all. -/
theorem fence_of_steps
    (kept : ∀ act row later, call.actOn key = some act -> Advance act row later ->
      property row -> property later /\ act ≠ .release) (steps : SchedulerSteps call db after)
    (found : db.attempt? key = some before) (holds : property before)
    (live : before.phase ≠ .closed) :
    ∃ later, after.attempt? key = some later /\ property later /\
      (later.phase = .closed -> call.actOn key = some .fence) := by
  refine kept_of_steps ?_ steps found ⟨holds, fun closed => absurd closed live⟩
  rintro act row later acts advance ⟨rowHolds, _⟩
  rcases kept act row later acts advance rowHolds with ⟨laterHolds, notReleased⟩
  refine ⟨laterHolds, ?_⟩
  intro closed
  rw [acts, (advance.fence_or_release closed).resolve_right notReleased]

def AttemptAct.IsCall (attemptId : String) (call : SchedulerCall) : AttemptAct -> Prop
  | .operate => ∃ input, call = .recordOperation input /\ input.attemptId = attemptId
  | .release => ∃ input, call = .closeWithoutEffects input /\ input.attemptId = attemptId
  | .fence => ∃ input, call = .closeWithFence input /\ input.correlation.attemptId = attemptId
  | _ => True

theorem isCall_of_actOn {act : AttemptAct} (acts : call.actOn key = some act) :
    act.IsCall key call := by
  cases call with
  | recordOperation input | closeWithoutEffects input | closeWithFence input =>
    rw [SchedulerCall.actOn] at acts
    split at acts
    next named =>
      cases acts
      exact ⟨input, rfl, named⟩
    · cases acts
  | acceptObservation observation =>
    cases observation with
    | none => cases acts
    | some =>
      rw [SchedulerCall.actOn] at acts
      split at acts <;> cases acts
      trivial
  | bind | finalize | markClosing =>
    rw [SchedulerCall.actOn] at acts
    split at acts <;> cases acts
    trivial
  | markForTerminalTurn =>
    cases acts
    trivial
  | createEntry | deny | retryDenied | cancel | create => cases acts

/-! ## Runs that respect an acceptance -/

/-- No operation of the attempt is recorded over an accepted one. -/
def keepsAcceptance (attemptId : String) (event : SchedulerEvent) (db : SchedulerDb) : Bool :=
  match event.call with
  | .recordOperation input =>
    input.attemptId ≠ attemptId ||
      (db.attempt? attemptId).all (·.disposition ≠ .accepted)
  | _ => true

/-- The attempt is closed without effects only if it has no operation. -/
def releasesUntouched (attemptId : String) (event : SchedulerEvent) (db : SchedulerDb) : Bool :=
  match event.call with
  | .closeWithoutEffects input =>
    input.attemptId ≠ attemptId ||
      (db.attempt? attemptId).all (·.operationId = none)
  | _ => true

section Runs

variable {platform : SchedulerPlatform} {event : SchedulerEvent} {db : SchedulerDb}
  {key : String} {attempt : SchedulerExecutionAttempt}

theorem not_operate (keeps : keepsAcceptance key event db)
    (found : db.attempt? key = some attempt) (accepted : attempt.disposition = .accepted) :
    event.call.actOn key ≠ some .operate := by
  intro acts
  rcases isCall_of_actOn acts with ⟨input, called, named⟩
  unfold keepsAcceptance at keeps
  simp [called, named, found, accepted] at keeps

/-- A property of the attempt holds in a state. -/
def AttemptHas (attemptId : String) (property : SchedulerExecutionAttempt -> Prop)
    (db : SchedulerDb) : Prop :=
  ∃ attempt, db.attempt? attemptId = some attempt /\ property attempt

/-- A call that records nothing over an acceptance keeps it. -/
theorem accepted_applyCall (keeps : keepsAcceptance key event db)
    (accepted : AttemptHas key (·.disposition = .accepted) db) :
    AttemptHas key (·.disposition = .accepted) (applyCall platform event db) := by
  rcases accepted with ⟨attempt, found, isAccepted⟩
  refine kept_of_steps ?_ (applyCall_steps platform event db) found isAccepted
  intro act row later acts advance rowAccepted
  refine (advance.accepted rowAccepted ?_).1
  intro operates
  exact not_operate keeps found isAccepted (operates ▸ acts)

theorem operated_applyCall (operated : AttemptHas key (·.operationId ≠ none) db) :
    AttemptHas key (·.operationId ≠ none) (applyCall platform event db) := by
  rcases operated with ⟨attempt, found, isOperated⟩
  exact kept_of_steps (fun _ _ _ _ advance => advance.operation_kept)
    (applyCall_steps platform event db) found isOperated

end Runs

/-- What new attempts have and every statement keeps, all attempts have. -/
theorem SchedulerStep.every_attempt (initial : ∀ entry input, property (newAttempt entry input))
    (kept : ∀ act before later, Advance act before later -> property before -> property later)
    (stepped : SchedulerStep call db after)
    (holds : ∀ key attempt, db.attempt? key = some attempt -> property attempt) :
    ∀ key attempt, after.attempt? key = some attempt -> property attempt := by
  intro key attempt foundAfter
  cases found : db.attempt? key with
  | some before =>
    rcases stepped.attempt found with same | ⟨act, later, _, advance, foundLater⟩
    · rw [foundAfter] at same
      cases same
      exact holds key attempt found
    · rw [foundAfter] at foundLater
      cases foundLater
      exact kept act before attempt advance (holds key before found)
  | none =>
    cases stepped with
    | enqueued entry fresh entries attempts | restated entry later wrote idle sameTurn attempts =>
      unfold SchedulerDb.attempt? at found foundAfter
      rw [attempts, found] at foundAfter
      cases foundAfter
    | admitted entry input wrote fresh attempts =>
      rw [attempts, found] at foundAfter
      split at foundAfter
      · cases foundAfter
        exact initial entry input
      · cases foundAfter
    | advanced _ _ _ _ _ wrote | requeued _ _ _ _ _ wrote =>
      rcases Owned.before_of_written wrote key attempt foundAfter with ⟨_, hit⟩
      rw [found] at hit
      cases hit

/-- In every run, a disposition other than `not_accepted` is one of an operation. -/
theorem operation_of_disposition_after (platform : SchedulerPlatform) (events : List SchedulerEvent) :
    ∀ key attempt, (schedulerAfter platform events).attempt? key = some attempt ->
      attempt.disposition ≠ .notAccepted -> attempt.operationId ≠ none := by
  apply runCalls_invariant (fun db : SchedulerDb => ∀ key attempt,
    db.attempt? key = some attempt -> attempt.disposition ≠ .notAccepted ->
      attempt.operationId ≠ none)
  · intro event _ db sound
    refine (applyCall_steps platform event db).rec sound (fun _ stepped ih => ?_)
    refine stepped.every_attempt ?_ ?_ ih
    · intro entry input decided
      exact absurd rfl decided
    · intro act before later advance kept
      cases advance with
      | operated => exact fun _ => Option.some_ne_none _
      | observed _ _ _ _ _ _ operated => exact fun _ => operated
      | released => exact fun decided => absurd rfl decided
      | bound | finalized | closing | fenced => exact kept
  · intro key attempt found
    cases found

/-- In every run that records no operation of an attempt over an accepted one, or
closes it without effects only while it has no operation, an attempt that was
observed accepted becomes closed by a fence alone. -/
theorem accepted_closes_with_fence (platform : SchedulerPlatform) (attemptId : String)
    (earlier later : List SchedulerEvent) (next : SchedulerEvent) (respected :
      everyStep (applyCall platform) (keepsAcceptance attemptId) (earlier ++ later ++ [next])
          .empty \/
        everyStep (applyCall platform) (releasesUntouched attemptId) (earlier ++ later ++ [next])
          .empty)
    (accepted : ((schedulerAfter platform earlier).attempt? attemptId).map (·.disposition) =
      some .accepted)
    (live : ((schedulerAfter platform (earlier ++ later)).attempt? attemptId).map (·.phase) ≠
      some .closed)
    (closed : ((schedulerAfter platform (earlier ++ later ++ [next])).attempt? attemptId).map
      (·.phase) = some .closed) :
    ∃ input, next.call = .closeWithFence input /\ input.correlation.attemptId = attemptId := by
  rcases Option.map_eq_some_iff.mp accepted with ⟨first, foundFirst, isAccepted⟩
  rcases Option.map_eq_some_iff.mp closed with ⟨last, foundLast, isClosed⟩
  rw [schedulerAfter_append] at foundLast
  -- Both conditions give a property of the attempt that no release can meet.
  have reached : ∃ property : SchedulerExecutionAttempt -> Prop,
      AttemptHas attemptId property (schedulerAfter platform (earlier ++ later)) /\
      ∀ act row after, next.call.actOn attemptId = some act -> Advance act row after ->
        property row -> property after /\ act ≠ .release := by
    rcases respected with keeps | untouched
    · rw [everyStep_append, everyStep_append, Bool.and_eq_true, Bool.and_eq_true] at keeps
      have arrived := runCalls_invariant_of_everyStep
        (AttemptHas attemptId (·.disposition = .accepted))
        (fun _ _ => accepted_applyCall) keeps.1.2 ⟨first, foundFirst, isAccepted⟩
      rw [<- schedulerAfter, <- schedulerAfter_append] at arrived
      refine ⟨(·.disposition = .accepted), arrived, ?_⟩
      intro act row after acts advance rowAccepted
      have notOperated : act ≠ .operate := by
        intro operates
        rcases arrived with ⟨current, found, currentAccepted⟩
        refine not_operate ?_ found currentAccepted (operates ▸ acts)
        simpa [everyStep, schedulerAfter] using keeps.2
      exact advance.accepted rowAccepted notOperated
    · rw [everyStep_append, Bool.and_eq_true] at untouched
      have operated : first.operationId ≠ none :=
        operation_of_disposition_after platform earlier attemptId first foundFirst
          (by rw [isAccepted]; decide)
      have arrived : AttemptHas attemptId (·.operationId ≠ none)
          (schedulerAfter platform (earlier ++ later)) := by
        rw [schedulerAfter_append]
        apply runCalls_invariant (AttemptHas attemptId (·.operationId ≠ none))
        · intro event _ current
          exact operated_applyCall
        · exact ⟨first, foundFirst, operated⟩
      refine ⟨(·.operationId ≠ none), arrived, ?_⟩
      intro act row after acts advance rowOperated
      refine ⟨advance.operation_kept rowOperated, ?_⟩
      intro releases
      rcases arrived with ⟨current, found, currentOperated⟩
      rcases isCall_of_actOn (releases ▸ acts) with ⟨input, called, named⟩
      have releasing : releasesUntouched attemptId next
          (schedulerAfter platform (earlier ++ later)) := by
        simpa [everyStep, schedulerAfter] using untouched.2
      simp [releasesUntouched, called, named, found, currentOperated] at releasing
  rcases reached with ⟨property, ⟨before, found, holds⟩, kept⟩
  have beforeLive : before.phase ≠ .closed := by
    intro isClosed
    rw [found, Option.map_some, isClosed] at live
    exact live rfl
  rcases fence_of_steps kept (applyCall_steps platform next _) found holds beforeLive with
    ⟨after, foundAfter, _, fenced⟩
  rw [show runCalls (applyCall platform) [next] (schedulerAfter platform (earlier ++ later)) =
    applyCall platform next (schedulerAfter platform (earlier ++ later)) from rfl,
    foundAfter] at foundLast
  cases foundLast
  exact isCall_of_actOn (fenced isClosed)

/-! ## Entries that stay admitted -/

/-- The call closes a live attempt of the entry without effects. -/
def releasesEntry (platform : SchedulerPlatform) (queueEntryId : String) (event : SchedulerEvent)
    (db : SchedulerDb) : Bool :=
  match event.call with
  | .closeWithoutEffects input => (db.attempt? input.attemptId).any fun attempt =>
      attempt.phase ≠ .closed && attempt.queueEntryId = queueEntryId &&
        ((applyCall platform event db).attempt? input.attemptId).any (·.phase = .closed)
  | _ => false

def IsAdmitted (queueEntryId : String) (db : SchedulerDb) : Prop :=
  ∃ entry, db.admission? queueEntryId = some entry /\ entry.status = .admitted

theorem SchedulerStep.admitted_or_released (stepped : SchedulerStep call db after)
    (admitted : IsAdmitted key db) : IsAdmitted key after \/
      ∃ before later, call.actOn before.attemptId = some .release /\ before.queueEntryId = key /\
        Advance .release before later /\ AttemptWritten db after before later := by
  rcases admitted with ⟨entry, found, isAdmitted⟩
  have written : ∀ {row later}, EntryWritten db after row later ->
      (row = entry -> later.status = .admitted) -> IsAdmitted key after := by
    intro row later written kept
    by_cases here : key = row.queueEntryId
    · exact ⟨later, by rw [written.entries, if_pos here], kept (written.eq_of_found here found)⟩
    · exact ⟨entry, by rw [written.entries, if_neg here, found], isAdmitted⟩
  cases stepped with
  | enqueued row fresh entries =>
    refine .inl ⟨entry, ?_, isAdmitted⟩
    rw [entries, if_neg, found]
    rintro rfl
    rw [fresh] at found
    cases found
  | restated row later restates idle =>
    exact .inl (written restates (fun same => absurd (same ▸ isAdmitted) idle))
  | admitted row input admits => exact .inl (written admits (fun _ => rfl))
  | advanced _ _ _ _ _ _ entries =>
    exact .inl ⟨entry, (SchedulerDb.admission?_congr entries key).trans found, isAdmitted⟩
  | requeued row later owner acts advance closes named returned =>
    by_cases here : key = owner.queueEntryId
    · exact .inr ⟨row, later, acts, by rw [here, named], advance, closes⟩
    · exact .inl ⟨entry, by rw [returned.entries, if_neg here, found], isAdmitted⟩

/-- An entry that a dispatch has admitted stays admitted, whatever is called, until a
live attempt of it is closed without effects. -/
theorem admitted_until_released (platform : SchedulerPlatform) (events later : List SchedulerEvent)
    (queueEntryId : String) (admitted : IsAdmitted queueEntryId (schedulerAfter platform events))
    (kept : everyStep (applyCall platform)
      (fun event db => !releasesEntry platform queueEntryId event db) later
      (schedulerAfter platform events)) :
    IsAdmitted queueEntryId (schedulerAfter platform (events ++ later)) := by
  rw [schedulerAfter_append]
  refine runCalls_invariant_of_everyStep (IsAdmitted queueEntryId) ?_ kept admitted
  intro event db unreleased isAdmitted
  by_cases closes : ∃ input, event.call = .closeWithoutEffects input
  · -- the close is one step, so the attempt that it releases was there before the call
    rcases closes with ⟨input, called⟩
    have closing : applyCall platform event db =
        final (closeSchedulerExecutionAttemptWithoutEffects platform input) db := by
      rw [applyCall, called]
    have stepped := @closeWithoutEffects_step db platform input
    rw [<- closing] at stepped
    rcases (Relation.reflGen_iff ..).mp stepped with same | stepped
    · rwa [same]
    · refine (stepped.admitted_or_released isAdmitted).resolve_right ?_
      rintro ⟨before, later, acts, rfl, advance, wrote⟩
      rcases isCall_of_actOn acts with ⟨_, ⟨⟩, named⟩
      simp [releasesEntry, called, named, wrote.found, wrote.attempts, advance.live,
        advance.closes] at unreleased
  · refine (applyCall_steps platform event db).rec isAdmitted ?_
    intro _ _ _ stepped still
    refine (stepped.admitted_or_released still).resolve_right ?_
    rintro ⟨before, _, acts, _⟩
    rcases isCall_of_actOn acts with ⟨input, called, _⟩
    exact closes ⟨input, called⟩

/-- A platform that reads every row. -/
def samplePlatform : SchedulerPlatform where
  readsAttempt := fun _ => true
  readsEntry := fun _ => true
  afterBudget := some
  commandInputHash := fun correlation => correlation.attemptId ++ correlation.operationId

def sampleEvent (call : SchedulerCall) : SchedulerEvent :=
  ⟨⟨fun _ => true, fun _ => []⟩, call⟩

def sampleCorrelation (operationId : String) : ExecutionBackendCorrelation :=
  ⟨"a", "b", none, none, operationId⟩

def sampleOperation (operationId : String) : SchedulerEvent :=
  sampleEvent (.recordOperation ⟨"a", operationId, false, "n"⟩)

/-- An entry is dispatched, and the first operation of its attempt is accepted. -/
def acceptedOperation : List SchedulerEvent :=
  [sampleEvent (.createEntry ⟨"b", "q", "h", "w", "t", "u", "c", "n"⟩),
    sampleEvent (.create ⟨"q", "b", "a", "p", "n"⟩), sampleOperation "x",
    sampleEvent (.acceptObservation
      (some ⟨sampleCorrelation "x", some .accepted, true, none, none, "n"⟩))]

def sampleRelease : SchedulerEvent :=
  sampleEvent (.closeWithoutEffects ⟨"a", true, "d", true, "n"⟩)

def sampleFence : SchedulerEvent :=
  sampleEvent (.closeWithFence
    ⟨sampleCorrelation "x", ⟨true, true, true, true, true, true⟩, "f", "n"⟩)

/-- After a second operation the attempt of an accepted one is closed without a
fence, and its entry is queued again. -/
theorem superseded_acceptance_is_requeued :
    ((schedulerAfter samplePlatform acceptedOperation).attempt? "a").map (·.disposition) =
        some .accepted /\
      ((schedulerAfter samplePlatform (acceptedOperation ++ [sampleOperation "y"])).attempt? "a").map
        (·.phase) = some .opened /\ ((schedulerAfter samplePlatform
        (acceptedOperation ++ [sampleOperation "y"] ++ [sampleRelease])).attempt? "a").map (·.phase) =
        some .closed /\ ((schedulerAfter samplePlatform
        (acceptedOperation ++ [sampleOperation "y"] ++ [sampleRelease])).admission? "q").map (·.status) =
        some .queued := by
  decide +kernel

theorem accepted_operation_is_fenced : ((schedulerAfter samplePlatform (acceptedOperation ++
        [sampleEvent (.markClosing ⟨"a", "d", none, "n"⟩)] ++ [sampleFence])).attempt? "a").map
        (·.phase) = some .closed /\
      ∃ input, sampleFence.call = .closeWithFence input /\ input.correlation.attemptId = "a" :=
  have closed : ((schedulerAfter samplePlatform (acceptedOperation ++
      [sampleEvent (.markClosing ⟨"a", "d", none, "n"⟩)] ++ [sampleFence])).attempt? "a").map
      (·.phase) = some .closed := by decide +kernel
  ⟨closed, accepted_closes_with_fence samplePlatform "a" acceptedOperation
    [sampleEvent (.markClosing ⟨"a", "d", none, "n"⟩)] sampleFence (.inl (by decide +kernel))
    (by decide +kernel) (by decide +kernel) closed⟩

theorem fenced_entry_stays_admitted : IsAdmitted "q" (schedulerAfter samplePlatform
    (acceptedOperation ++
      [sampleEvent (.markClosing ⟨"a", "d", none, "n"⟩), sampleFence, sampleRelease])) :=
  admitted_until_released samplePlatform acceptedOperation _ "q"
    ⟨⟨"q", "b", "h", "w", "t", "u", "c", "n", .admitted, none⟩, by decide +kernel⟩ (by decide +kernel)

end ExecutionAttempts
end OpenKit
