import OpenKit.Automations.Model

namespace OpenKit
namespace Automations

open Foundation

/-!
# What the operations write

Every lemma here takes a successful operation apart once: which rows it found,
what it checked and which rows it wrote.
-/

variable {db after : AutomationDb} {schedule updated : AutomationRecord}
  {slot : RecurringOccurrence} {now : Int}

theorem nominal_ok {α : Type} {calculation : Except CadenceError α} {value : α}
    (ok : nominal calculation = .ok value) : calculation = .ok value := by
  cases calculation with
  | error => cases ok
  | ok =>
    cases ok
    rfl

namespace AutomationDb

variable {id : String}

theorem requireAutomationDefinition_ok (ok : db.requireAutomationDefinition id = .ok schedule) :
    db.schedules.find? id = some schedule := by
  unfold requireAutomationDefinition at ok
  split at ok
  next found =>
    cases ok
    exact found
  · cases ok

theorem requireSchedule_ok (ok : db.requireSchedule id = .ok schedule) :
    db.schedules.find? id = some schedule := by
  unfold requireSchedule at ok
  split at ok
  next found =>
    cases ok
    exact found
  · cases ok

theorem requireRecurringOccurrence_ok {id : OccurrenceId}
    (ok : db.requireRecurringOccurrence id = .ok slot) :
    db.occurrences.find? id = some slot := by
  unfold requireRecurringOccurrence at ok
  split at ok
  next found =>
    cases ok
    exact found
  · cases ok

theorem requireOccurrence_ok {id : OccurrenceId} (ok : db.requireOccurrence id = .ok slot) :
    db.occurrences.find? id = some slot := by
  unfold requireOccurrence at ok
  split at ok
  next found =>
    cases ok
    exact found
  · cases ok

/-! ## Single rows -/

variable {state : OccurrenceState}

theorem writeRecurringSchedule_update (ok : db.writeRecurringSchedule schedule false = .ok after) :
    (∃ old, db.schedules.find? schedule.id = some old) /\
      after = { db with schedules := db.schedules.replace schedule } := by
  rcases bind_inv ok with ⟨_, _, ok⟩
  rw [if_neg (by simp)] at ok
  rcases bind_inv ok with ⟨old, found, ok⟩
  cases ok
  exact ⟨⟨old, requireAutomationDefinition_ok found⟩, rfl⟩

theorem writeRecurringSchedule_insert (ok : db.writeRecurringSchedule schedule true = .ok after) :
    db.schedules.find? schedule.id = none /\
      after = { db with schedules := db.schedules.insert schedule } := by
  rcases bind_inv ok with ⟨_, _, ok⟩
  rw [if_pos rfl] at ok
  split at ok
  · cases ok
  rename_i free
  cases ok
  exact ⟨free, rfl⟩

/-- The attempts of an occurrence are numbered from one and at most three. -/
structure IsNumbered (occurrence : RecurringOccurrence) : Prop where
  bound : occurrence.attempts.length <= 3
  numbers : occurrence.attempts.map (·.number) = List.range' 1 occurrence.attempts.length

theorem readRecurringOccurrence_ok {result : Unit}
    (ok : readRecurringOccurrence slot = .ok result) : IsNumbered slot := by
  rcases bind_inv ok with ⟨_, bounded, ok⟩
  rcases bind_inv ok with ⟨_, _, ok⟩
  rw [refuse_eq_ok_iff] at bounded ok
  exact ⟨by simpa using bounded, by simpa using ok⟩

theorem writeRecurringOccurrence_update
    (ok : db.writeRecurringOccurrence slot false = .ok after) :
    IsNumbered slot /\ (∃ old, db.occurrences.find? slot.id = some old) /\
      after = { db with occurrences := db.occurrences.replace slot } := by
  rcases bind_inv ok with ⟨_, read, ok⟩
  rcases bind_inv ok with ⟨_, _, ok⟩
  rw [if_neg (by simp)] at ok
  rcases bind_inv ok with ⟨old, found, ok⟩
  cases ok
  exact ⟨readRecurringOccurrence_ok read, ⟨old, requireRecurringOccurrence_ok found⟩, rfl⟩

theorem writeRecurringOccurrence_insert
    (ok : db.writeRecurringOccurrence slot true = .ok after) :
    db.occurrences.find? slot.id = none /\
      after = { db with occurrences := db.occurrences.insert slot } := by
  rcases bind_inv ok with ⟨_, _, ok⟩
  rcases bind_inv ok with ⟨_, _, ok⟩
  rw [if_pos rfl] at ok
  split at ok
  · cases ok
  rename_i free
  cases ok
  exact ⟨free, rfl⟩

def finished (occurrence : RecurringOccurrence) (state : OccurrenceState) (timestamp : Int) :
    RecurringOccurrence :=
  { occurrence with state := state, terminalAt := some timestamp }

theorem finishRecurringOccurrence_update {result : RecurringOccurrence}
    (ok : db.finishRecurringOccurrence slot state now false = .ok (result, after)) :
    IsNumbered slot /\ (∃ old, db.occurrences.find? slot.id = some old) /\
      after = { db with
        occurrences := db.occurrences.replace (finished slot state now) } := by
  rcases bind_inv ok with ⟨written, wrote, ok⟩
  cases ok
  rcases writeRecurringOccurrence_update wrote with ⟨⟨bound, numbers⟩, present, same⟩
  exact ⟨⟨bound, numbers⟩, present, same⟩

theorem finishRecurringOccurrence_insert {result : RecurringOccurrence}
    (ok : db.finishRecurringOccurrence slot state now true = .ok (result, after)) :
    db.occurrences.find? (finished slot state now).id = none /\ after = { db with
        occurrences := db.occurrences.insert (finished slot state now) } := by
  rcases bind_inv ok with ⟨written, wrote, ok⟩
  cases ok
  exact writeRecurringOccurrence_insert wrote

/-! ## Single steps of the loops -/

theorem cancelPending_ok (ok : cancelPending now db slot = .ok after) :
    after = { db with
      occurrences := db.occurrences.replace (finished slot .cancelled now) } := by
  rcases bind_inv ok with ⟨_, finishes, ok⟩
  cases ok
  exact (finishRecurringOccurrence_update finishes).2.2

theorem expireStale_ok {id : OccurrenceId} (ok : expireStale now db id = .ok after) :
    ∃ slot, db.occurrences.find? id = some slot /\ after = { db with
      occurrences := db.occurrences.replace (finished slot .expired now) } := by
  rcases bind_inv ok with ⟨slot, required, ok⟩
  rcases bind_inv ok with ⟨_, finishes, ok⟩
  cases ok
  exact ⟨slot, requireOccurrence_ok required, (finishRecurringOccurrence_update finishes).2.2⟩

theorem createAutomationDefinition_ok {userId : String} {input : CreateAutomationRequest}
    (ok : db.createAutomationDefinition userId id input now = .ok (schedule, after)) :
    schedule.status = .paused /\ schedule.nextScheduledAt = none /\
      schedule.greatestAccountedScheduledAt = none /\ db.schedules.find? schedule.id = none /\
      after = { db with schedules := db.schedules.insert schedule } := by
  rcases bind_inv ok with ⟨_, _, ok⟩
  rcases bind_inv ok with ⟨wrote, writes, ok⟩
  cases ok
  rcases writeRecurringSchedule_insert writes with ⟨free, rfl⟩
  exact ⟨rfl, rfl, rfl, free, rfl⟩

/-! ## The cursor -/

/-- A schedule whose cursor went past an instant. -/
def passed (schedule : AutomationRecord) (last : Int) (next : Option Int) : AutomationRecord :=
  { schedule with greatestAccountedScheduledAt := some last, nextScheduledAt := next }

theorem advanceRecurringSchedule_ok {at_ : Int}
    (ok : db.advanceRecurringSchedule schedule at_ = .ok (updated, after)) :
    ∃ next, nextRecurringNominal schedule.cadence at_ = .ok next /\
      updated = passed schedule at_ next /\
      after = { db with schedules := db.schedules.replace updated } := by
  rcases bind_inv ok with ⟨next, advanced, ok⟩
  rcases bind_inv ok with ⟨written, wrote, ok⟩
  cases ok
  exact ⟨next, nominal_ok advanced, rfl, (writeRecurringSchedule_update wrote).2⟩

def expiredRange (schedule : AutomationRecord) (first : Int) (coverage : RecurringNominalPrefix)
    (timestamp : Int) : ExpiredOccurrenceRange where
  scheduleId := schedule.id
  workspaceId := schedule.workspaceId
  definitionRevision := schedule.revision
  cadence := schedule.cadence
  firstScheduledAt := first
  lastScheduledAt := coverage.last
  count := coverage.count
  snapshot := snapshot schedule
  terminalAt := timestamp

/-- What an accounting of the expired prefix did: nothing, because the cursor is
still live, or one range up to the last expired instant. -/
inductive Accounting (db : AutomationDb) (schedule : AutomationRecord) (timestamp : Int) :
    AutomationRecord -> AutomationDb -> Prop
  | live (cursor : ∀ first, schedule.nextScheduledAt = some first ->
        timestamp - recurringDeadlineMs < first \/
          recurringPrefixThrough schedule.cadence first (timestamp - recurringDeadlineMs) = .ok none) :
      Accounting db schedule timestamp schedule db
  | expired (first : Int) (coverage : RecurringNominalPrefix) (next : Option Int)
      (standing : schedule.nextScheduledAt = some first)
      (due : first <= timestamp - recurringDeadlineMs)
      (covers : recurringPrefixThrough schedule.cadence first (timestamp - recurringDeadlineMs) =
        .ok (some coverage))
      (advances : nextRecurringNominal schedule.cadence coverage.last = .ok next) :
      Accounting db schedule timestamp (passed schedule coverage.last next)
        { db with
          ranges := db.ranges ++ [expiredRange schedule first coverage timestamp]
          schedules := db.schedules.replace (passed schedule coverage.last next) }

theorem accountRecurringExpiredPrefix_ok
    (ok : db.accountRecurringExpiredPrefix schedule now = .ok (updated, after)) :
    Accounting db schedule now updated after := by
  unfold accountRecurringExpiredPrefix at ok
  cases standing : schedule.nextScheduledAt with
  | none =>
    rw [standing] at ok
    cases ok
    exact .live (by rw [standing]; nofun)
  | some first =>
    rw [standing] at ok
    dsimp only at ok
    split at ok
    next live =>
      cases ok
      refine .live ?_
      intro other same
      rw [standing] at same
      cases same
      exact .inl live
    next due =>
      rcases bind_inv ok with ⟨coverage, covers, ok⟩
      cases coverage with
      | none =>
        cases ok
        refine .live ?_
        intro other same
        rw [standing] at same
        cases same
        exact .inr (nominal_ok covers)
      | some coverage =>
        rcases bind_inv ok with ⟨ranged, inserted, ok⟩
        unfold insertRange at inserted
        split at inserted
        · cases inserted
        cases inserted
        rcases advanceRecurringSchedule_ok ok with ⟨next, advances, rfl, rfl⟩
        exact .expired first coverage next standing (not_lt.mp due) (nominal_ok covers) advances

/-- The terminal tombstone of a sealed schedule. -/
def tombstone (schedule : AutomationRecord) (timestamp : Int) : AutomationRecord :=
  { schedule with
    status := .deleted, revision := schedule.revision + 1, updatedAt := timestamp
    deletedAt := some timestamp }

/-! ## Attempts -/

variable {result : Option RecurringOccurrence} {input : AttemptInput}

/-- A pending occurrence whose schedule is active at the revision of the
occurrence, at a time inside the window. -/
structure IsAdmissible (db : AutomationDb) (occurrence : RecurringOccurrence) (timestamp : Int) :
    Prop where
  found : db.occurrences.find? occurrence.id = some occurrence
  pending : occurrence.state = .pending
  schedule : ∃ schedule, db.schedules.find? occurrence.scheduleId = some schedule /\
    schedule.status = .active /\ schedule.revision = occurrence.definitionRevision
  started : occurrence.scheduledAt <= timestamp
  unexpired : timestamp < occurrence.deadline

/-- An entry with the three identities of an occurrence. -/
structure IsEntryOf (occurrence : RecurringOccurrence) (entry : SchedulerAdmissionEntry) : Prop where
  queueEntryId : entry.queueEntryId = occurrence.requestId
  requestId : entry.input.requestId = some occurrence.requestId
  turnId : entry.input.turnId = recurringTurnId occurrence.scheduleId occurrence.scheduledAt

/-- A payload that was resolved stays. -/
def KeepsPayload (occurrence : RecurringOccurrence) (resolved : Option RecurringAdmissionPayload) :
    Prop :=
  ∀ payload, occurrence.resolvedPayload = some payload -> resolved = some payload

/-- What a delivered attempt may do. -/
inductive AttemptEffect (db : AutomationDb) (timestamp : Int) : AutomationDb -> Prop
  | unchanged : AttemptEffect db timestamp db
  /-- The occurrence is refused or closed without an entry. -/
  | refused (occurrence updated : RecurringOccurrence)
      (found : db.occurrences.find? occurrence.id = some occurrence)
      (pending : occurrence.state = .pending)
      (same : updated = { occurrence with
        state := updated.state, attempts := updated.attempts, terminalAt := updated.terminalAt,
        resolvedPayload := updated.resolvedPayload })
      (state : updated.state ≠ .admissionAccepted)
      (payload : KeepsPayload occurrence updated.resolvedPayload) (numbered : IsNumbered updated) :
      AttemptEffect db timestamp { db with occurrences := db.occurrences.replace updated }
  /-- An entry with the identities of the occurrence was found. -/
  | replayed (occurrence updated : RecurringOccurrence) (entry : SchedulerAdmissionEntry)
      (admissible : IsAdmissible db occurrence timestamp)
      (own : db.ownQueues occurrence = [entry]) (isEntry : IsEntryOf occurrence entry)
      (same : updated = { occurrence with
        state := .admissionAccepted, terminalAt := some timestamp,
        queueEntryId := some entry.queueEntryId, turnId := some entry.input.turnId,
        resolvedPayload := updated.resolvedPayload })
      (payload : KeepsPayload occurrence updated.resolvedPayload) (numbered : IsNumbered updated) :
      AttemptEffect db timestamp { db with occurrences := db.occurrences.replace updated }
  /-- A new entry was enqueued. -/
  | admitted (occurrence updated : RecurringOccurrence) (entry : SchedulerAdmissionEntry)
      (admissible : IsAdmissible db occurrence timestamp)
      (own : db.ownQueues occurrence = []) (alone : db.isWaiting occurrence = false)
      (isEntry : IsEntryOf occurrence entry) (queued : entry.status = .queued)
      (same : updated = { occurrence with
        state := .admissionAccepted, terminalAt := some timestamp, attempts := updated.attempts,
        queueEntryId := some entry.queueEntryId, turnId := some entry.input.turnId,
        resolvedPayload := updated.resolvedPayload })
      (payload : KeepsPayload occurrence updated.resolvedPayload) (numbered : IsNumbered updated) :
      AttemptEffect db timestamp
        { db with
          entries := db.entries.insert entry, occurrences := db.occurrences.replace updated }

theorem ownQueues_eq_nil (own : db.ownQueues slot = []) (entry : SchedulerAdmissionEntry)
    (mem : entry ∈ db.entries.rows) :
    entry.queueEntryId ≠ slot.requestId /\ entry.input.requestId ≠ some slot.requestId /\
      entry.input.turnId ≠ recurringTurnId slot.scheduleId slot.scheduledAt := by
  have absent := List.filter_eq_nil_iff.mp own entry mem
  simpa [not_or, and_assoc] using absent

theorem createSchedulerAdmissionEntry_new {payload : RecurringAdmissionPayload}
    {entry : SchedulerAdmissionEntry} (own : db.ownQueues slot = [])
    (ok : db.createSchedulerAdmissionEntry
      (recurringSchedulerAdmissionInput slot payload now) = .ok (entry, after)) :
    IsEntryOf slot entry /\ entry.status = .queued /\
      after = { db with entries := db.entries.insert entry } := by
  unfold createSchedulerAdmissionEntry at ok
  split at ok
  · cases ok
  split at ok
  next existing found =>
    have absent := ownQueues_eq_nil own existing (List.mem_of_find?_eq_some found)
    have hit := List.find?_some found
    simp only [Bool.or_eq_true, decide_eq_true_eq] at hit
    rcases hit with sameQueue | sameTurn
    · exact absurd sameQueue absent.1
    · exact absurd sameTurn absent.2.2
  · split at ok
    · cases ok
    · cases ok
      exact ⟨⟨rfl, rfl, rfl⟩, rfl, rfl⟩

theorem finish_refused {final : RecurringOccurrence}
    (found : db.occurrences.find? slot.id = some slot)
    (pending : slot.state = .pending) (same : final = { slot with
      attempts := final.attempts, resolvedPayload := final.resolvedPayload })
    (payload : KeepsPayload slot final.resolvedPayload) (other : state ≠ .admissionAccepted)
    (ok : (do
      let (updated, db) <- db.finishRecurringOccurrence final state now false
      return (some updated, db)) = Except.ok (result, after)) :
    AttemptEffect db now after := by
  rcases bind_inv ok with ⟨⟨updated, wrote⟩, finishes, ok⟩
  cases ok
  rcases finishRecurringOccurrence_update finishes with ⟨⟨bound, numbers⟩, _, rfl⟩
  refine .refused slot (finished final state now) found pending ?_ other payload
    ⟨bound, numbers⟩
  rw [same]
  rfl

theorem decideAttempt_ok {resolved : Option RecurringAdmissionPayload}
    (legal : IsAdmissible db slot input.timestamp)
    (payload : KeepsPayload slot resolved)
    (ok : db.decideAttempt slot resolved input = .ok (result, after)) :
    AttemptEffect db input.timestamp after := by
  have closes := fun {state : OccurrenceState} (other : state ≠ .admissionAccepted) (ok : (do
        let (updated, db) <- db.finishRecurringOccurrence slot state input.timestamp false
        return (some updated, db)) = Except.ok (result, after)) =>
    finish_refused legal.found legal.pending rfl (fun _ known => known) other ok
  unfold decideAttempt at ok
  dsimp only at ok
  split at ok
  · exact closes (by nofun) ok
  next existing own =>
    split at ok
    · exact closes (by nofun) ok
    rename_i requestIs
    split at ok
    · exact closes (by nofun) ok
    rename_i matched
    simp only [not_or, not_not] at matched
    rcases Option.map_eq_some_iff.mp requestIs with ⟨chosen, _, rfl⟩
    rcases bind_inv ok with ⟨⟨updated, wrote⟩, finishes, ok⟩
    cases ok
    rcases finishRecurringOccurrence_update finishes with ⟨⟨bound, numbers⟩, _, rfl⟩
    refine .replayed slot _ existing legal own ⟨matched.1, ?_, ?_⟩ rfl payload
      ⟨bound, numbers⟩
    · rw [matched.2.2]
      rfl
    · rw [matched.2.2]
      rfl
  next own =>
    have refuses : ∀ code, (if (attempted slot resolved input.timestamp (some code)).attempts.length = 3
        then (do
          let (updated, db) <- db.finishRecurringOccurrence
            (attempted slot resolved input.timestamp (some code)) .admissionFailed
            input.timestamp false
          return (some updated, db))
        else (do
          let db <- db.writeRecurringOccurrence
            (attempted slot resolved input.timestamp (some code)) false
          return (some (attempted slot resolved input.timestamp (some code)), db))) =
        Except.ok (result, after) -> AttemptEffect db input.timestamp after := by
      intro code ok
      split at ok
      · exact finish_refused legal.found legal.pending rfl payload (by nofun) ok
      rcases bind_inv ok with ⟨wrote, writes, ok⟩
      cases ok
      rcases writeRecurringOccurrence_update writes with ⟨numbered, _, rfl⟩
      refine .refused slot _ legal.found legal.pending rfl ?_ payload numbered
      change slot.state ≠ _
      rw [legal.pending]
      nofun
    split at ok
    · exact closes (by nofun) ok
    · exact refuses _ ok
    · split at ok
      · exact refuses _ ok
      next entry enqueued admits =>
        unfold admitReady at admits
        split at admits
        · cases admits
        rename_i alone
        split at admits
        · cases admits
        rename_i requestIs
        rcases Option.map_eq_some_iff.mp requestIs with ⟨chosen, _, rfl⟩
        rcases createSchedulerAdmissionEntry_new own admits with ⟨isEntry, queued, rfl⟩
        rcases bind_inv ok with ⟨⟨updated, wrote⟩, finishes, ok⟩
        cases ok
        rcases finishRecurringOccurrence_update finishes with ⟨⟨bound, numbers⟩, _, rfl⟩
        exact .admitted slot _ entry legal own (by simpa using alone) isEntry queued
          rfl payload ⟨bound, numbers⟩

theorem applyNativeRecurringAttempt_ok
    (ok : db.applyNativeRecurringAttempt input = .ok (result, after)) :
    AttemptEffect db input.timestamp after := by
  rcases bind_inv ok with ⟨slot, required, ok⟩
  have found := Table.find?_keyOf (requireRecurringOccurrence_ok required)
  split at ok
  · cases ok
    exact .unchanged
  rename_i pending
  rw [ne_eq, not_not] at pending
  rcases bind_inv ok with ⟨schedule, scheduled, ok⟩
  split at ok
  · cases ok
    exact .unchanged
  rename_i current
  simp only [ne_eq, not_or, not_not] at current
  split at ok
  · cases ok
    exact .unchanged
  rename_i started
  split at ok
  · exact finish_refused found pending rfl (fun _ known => known) (by nofun) ok
  rename_i unexpired
  dsimp only at ok
  split at ok
  · exact finish_refused found pending rfl (fun _ known => known) (by nofun) ok
  refine decideAttempt_ok ⟨found, pending, ?_, by omega, by omega⟩ ?_ ok
  · exact ⟨schedule, requireAutomationDefinition_ok scheduled, current.1,
      current.2.1.trans current.2.2.symm⟩
  · intro payload known
    rw [known]
    rfl

end AutomationDb

end Automations
end OpenKit
