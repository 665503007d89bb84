import OpenKit.Automations.Cadence
import OpenKit.Foundation.OrderedMap
import OpenKit.Foundation.Table
import OpenKit.Foundation.Text
import OpenKit.Foundation.Transactions
import Mathlib.Data.List.Sort

namespace OpenKit
namespace Automations

open Foundation

/-!
# Recurring schedules

A schedule carries one cursor.  Its instants become individual occurrences,
published by a scan that many schedules compete for, or parts of an expired
range, recorded when their deadline is over.  A pause or deletion seals what is
due.  An occurrence is then admitted to the scheduler queue by attempts that
were prepared outside the transaction.

Every operation runs in one transaction: an error leaves the database as it was.
Identities derived by digests are values of their own here, so that different
inputs have different identities.
-/

/-! ## Records -/

inductive AutomationStatus where
  | paused | active | deleted
deriving DecidableEq

structure AutomationActor where
  (id responsibleUserId : String)
deriving DecidableEq

structure AutomationSelections where
  (agentId profileId modelId : Option String)
deriving DecidableEq

/-- A row of `recurring_schedules`. -/
structure AutomationRecord where
  (id workspaceId name threadId prompt : String)
  cadence : AutomationCadence
  selections : AutomationSelections
  responsibleUserId : String
  status : AutomationStatus
  revision : Nat
  (nextScheduledAt greatestAccountedScheduledAt : Option Int)
  (createdAt updatedAt : Int)
  deletedAt : Option Int
deriving DecidableEq

def AutomationRecord.actor (schedule : AutomationRecord) : AutomationActor where
  id := schedule.id
  responsibleUserId := schedule.responsibleUserId

/-- Immutable authored request of occurrences and expired ranges. -/
structure DefinitionSnapshot where
  threadId : String
  actor : AutomationActor
  prompt : String
  selections : AutomationSelections
  monthlyUtc : Option MonthlyUtcSchedule
deriving DecidableEq

def snapshot (schedule : AutomationRecord) : DefinitionSnapshot where
  threadId := schedule.threadId
  actor := schedule.actor
  prompt := schedule.prompt
  selections := schedule.selections
  monthlyUtc := schedule.cadence.monthly?

/-- A queue, request or Turn identity.  The recurring ones are derived from the
schedule and the instant. -/
inductive Identity where
  | recurring (scheduleId : String) (scheduledAt : Int)
  | other (text : String)
deriving DecidableEq

/-- Stable request identity of a schedule and an instant. -/
def recurringRequestId (scheduleId : String) (scheduledAt : Int) : Identity :=
  .recurring scheduleId scheduledAt

/-- Stable Turn identity of a schedule and an instant. -/
def recurringTurnId (scheduleId : String) (scheduledAt : Int) : Identity :=
  .recurring scheduleId scheduledAt

inductive OccurrenceState where
  | pending | admissionAccepted | admissionFailed | expired | cancelled | recoveryRequired
deriving DecidableEq

/-- Closed trigger outcome codes other than the accepted one. -/
inductive RefusalCode where
  | authorityDenied | workspaceMissing | threadMissing | identityInactive | selectionUnavailable
  | invalidInput | preparationFailed | schedulerUnavailable | queueBacklogFull | queueFull
  | admissionFailed
deriving DecidableEq

def RefusalCode.text : RefusalCode -> String
  | .authorityDenied => "authority_denied"
  | .workspaceMissing => "workspace_missing"
  | .threadMissing => "thread_missing"
  | .identityInactive => "identity_inactive"
  | .selectionUnavailable => "selection_unavailable"
  | .invalidInput => "invalid_input"
  | .preparationFailed => "preparation_failed"
  | .schedulerUnavailable => "scheduler_unavailable"
  | .queueBacklogFull => "queue_backlog_full"
  | .queueFull => "queue_full"
  | .admissionFailed => "admission_failed"

/-- An attempt, with no refusal code if it was accepted. -/
structure RecurringAttempt where
  number : Nat
  at_ : Int
  refusal : Option RefusalCode
  summary : String
deriving DecidableEq

/-- Frozen scheduler request, including complete root selection. -/
structure RecurringAdmissionPayload where
  (backendId requestedAgentId : String)
  profileRef : Option String
  modelId : String
  workspaceCwd : Option String
  workspaceRoots : List String
  reasoningEffort : Option String
deriving DecidableEq

/-- The derived identity of an occurrence. -/
structure OccurrenceId where
  scheduleId : String
  scheduledAt : Int
deriving DecidableEq

/-- A row of `recurring_occurrences`. -/
structure RecurringOccurrence where
  id : OccurrenceId
  workspaceId : String
  definitionRevision : Nat
  snapshot : DefinitionSnapshot
  state : OccurrenceState
  attempts : List RecurringAttempt
  (queueEntryId turnId : Option Identity)
  createdAt : Int
  terminalAt : Option Int
  resolvedPayload : Option RecurringAdmissionPayload
deriving DecidableEq

/-- Fixed admission deadline measured from the nominal instant. -/
def recurringDeadlineMs : Int := 600000

namespace RecurringOccurrence

variable (occurrence : RecurringOccurrence)

def scheduleId : String := occurrence.id.scheduleId

def scheduledAt : Int := occurrence.id.scheduledAt

def deadline : Int := occurrence.scheduledAt + recurringDeadlineMs

def requestId : Identity :=
  recurringRequestId occurrence.scheduleId occurrence.scheduledAt

end RecurringOccurrence

/-- A row of `recurring_expired_ranges`. -/
structure ExpiredOccurrenceRange where
  (scheduleId workspaceId : String)
  definitionRevision : Nat
  cadence : AutomationCadence
  (firstScheduledAt lastScheduledAt count : Int)
  snapshot : DefinitionSnapshot
  terminalAt : Int
deriving DecidableEq

inductive AdmissionStatus where
  | queued | admitted | denied | cancelled | expired
deriving DecidableEq

/-- The immutable input of an admission, which its hash stands for. -/
structure AdmissionInput where
  backendId : String
  requestId : Option Identity
  (workspaceId threadId : String)
  turnId : Identity
  turnInput : String
  workerStorageChoice : Option String
  requestedAgentId : String
  (profileRef modelId reasoningEffort : Option String)
  triggerActor : String × String
  (serverAdminTokenId workspaceCwd : Option String)
  workspaceRoots : List String
deriving DecidableEq

/-- A row of `scheduler_admission_entries`. -/
structure SchedulerAdmissionEntry where
  queueEntryId : Identity
  (input inputHash : AdmissionInput)
  enqueuedAt : Int
  status : AdmissionStatus
deriving DecidableEq

/-! ## The database -/

structure AutomationDb where
  schedules : Table AutomationRecord String AutomationRecord.id
  occurrences : Table RecurringOccurrence OccurrenceId RecurringOccurrence.id
  ranges : List ExpiredOccurrenceRange
  entries : Table SchedulerAdmissionEntry Identity SchedulerAdmissionEntry.queueEntryId

def AutomationDb.empty : AutomationDb where
  schedules := .empty
  occurrences := .empty
  ranges := []
  entries := .empty

inductive AutomationError where
  /-- `AutomationRecordNotFoundError`. -/
  | notFound (message : String)
  /-- `AutomationMutationError`. -/
  | mutation (message : String)
  | cadence (error : CadenceError)
  /-- A stored record contradicts its contract. -/
  | invalid (message : String)
  /-- `ControlProductPreconditionError`. -/
  | precondition | uniqueConstraint
deriving DecidableEq

/-- A calculation of the cadence inside an operation. -/
def nominal {α : Type} (calculation : Except CadenceError α) : Except AutomationError α :=
  calculation.mapError .cadence

namespace AutomationDb

/-- Refuses a monthly cursor that contradicts its rule. -/
def readRecurringSchedule (record : AutomationRecord) : Except AutomationError Unit :=
  match record.cadence, record.nextScheduledAt with
  | .monthlyUtc monthly, some next => do
      let fits <- nominal (recurringNominalMatches (.monthlyUtc monthly) next)
      refuse (!fits) (.invalid "RecurringSchedule has contradictory automation identity.")
  | _, _ => .ok ()

variable (db : AutomationDb) (schedule : AutomationRecord)

def requireAutomationDefinition (id : String) : Except AutomationError AutomationRecord :=
  match db.schedules.find? id with
  | some record => .ok record
  | none => .error (.notFound ("Automation not found: " ++ id))

/-- Writes one definition and the indexed cursor. -/
def writeRecurringSchedule (record : AutomationRecord) (insert : Bool) :
    Except AutomationError AutomationDb := do
  readRecurringSchedule record
  if insert then
    match db.schedules.find? record.id with
    | some _ => .error .uniqueConstraint
    | none => .ok { db with schedules := db.schedules.insert record }
  else do
    let _ <- db.requireAutomationDefinition record.id
    return { db with schedules := db.schedules.replace record }

def occurrenceContradiction : AutomationError :=
  .invalid "RecurringOccurrence violates its durable identity or attempt contract."

variable (record : RecurringOccurrence)

/-- The instant of an occurrence fits the monthly rule of its snapshot. -/
def requireMonthlyInstant : Except AutomationError Unit :=
  match record.snapshot.monthlyUtc with
  | none => .ok ()
  | some monthly => do
      let fits <- nominal (recurringNominalMatches (.monthlyUtc monthly) record.scheduledAt)
      refuse (!fits) occurrenceContradiction

/-- Enforces the monthly rule and the attempt bounds of an occurrence. -/
def readRecurringOccurrence : Except AutomationError Unit := do
  refuse (decide (3 < record.attempts.length)) occurrenceContradiction
  requireMonthlyInstant record
  refuse (decide (record.attempts.map (·.number) ≠ List.range' 1 record.attempts.length))
    occurrenceContradiction

def requireRecurringOccurrence (id : OccurrenceId) : Except AutomationError RecurringOccurrence :=
  match db.occurrences.find? id with
  | some record => .ok record
  | none => .error (.notFound "Recurring occurrence not found.")

/-- `queue_entry_id TEXT UNIQUE`. -/
def queueEntryTaken : Bool :=
  record.queueEntryId.isSome && db.occurrences.rows.any (fun other =>
      other.id ≠ record.id && other.queueEntryId = record.queueEntryId)

def writeRecurringOccurrence (insert : Bool) : Except AutomationError AutomationDb := do
  readRecurringOccurrence record
  refuse (db.queueEntryTaken record) .uniqueConstraint
  if insert then
    match db.occurrences.find? record.id with
    | some _ => .error .uniqueConstraint
    | none => .ok { db with occurrences := db.occurrences.insert record }
  else do
    let _ <- db.requireRecurringOccurrence record.id
    return { db with occurrences := db.occurrences.replace record }

def finishRecurringOccurrence (occurrence : RecurringOccurrence)
    (state : OccurrenceState) (timestamp : Int) (insert : Bool) :
    Except AutomationError (RecurringOccurrence × AutomationDb) := do
  let updated := { occurrence with state := state, terminalAt := some timestamp }
  let db <- db.writeRecurringOccurrence updated insert
  return (updated, db)

/-! ## The cursor -/

/-- Advances the exact nominal cadence, retaining its final instant when the
calendar ends. -/
def advanceRecurringSchedule (at_ : Int) :
    Except AutomationError (AutomationRecord × AutomationDb) := do
  let next <- nominal (nextRecurringNominal schedule.cadence at_)
  let updated :=
    { schedule with greatestAccountedScheduledAt := some at_, nextScheduledAt := next }
  let db <- db.writeRecurringSchedule updated false
  return (updated, db)

/-- `UNIQUE(schedule_id, first_scheduled_at)`. -/
def insertRange (range : ExpiredOccurrenceRange) : Except AutomationError AutomationDb :=
  if db.ranges.any (fun other => other.scheduleId = range.scheduleId &&
      other.firstScheduledAt = range.firstScheduledAt) then .error .uniqueConstraint
  else .ok { db with ranges := db.ranges ++ [range] }

variable (timestamp : Int)

/-- Records one exact old prefix and moves the same definition cursor. -/
def accountRecurringExpiredPrefix : Except AutomationError (AutomationRecord × AutomationDb) :=
  match schedule.nextScheduledAt with
  | none => .ok (schedule, db)
  | some first =>
    if first > timestamp - recurringDeadlineMs then .ok (schedule, db)
    else do
      let coverage <- nominal
        (recurringPrefixThrough schedule.cadence first (timestamp - recurringDeadlineMs))
      match coverage with
      | none => return (schedule, db)
      | some coverage =>
        let db <- db.insertRange
          { scheduleId := schedule.id
            workspaceId := schedule.workspaceId, definitionRevision := schedule.revision
            cadence := schedule.cadence, firstScheduledAt := first, lastScheduledAt := coverage.last
            count := coverage.count, snapshot := snapshot schedule, terminalAt := timestamp }
        db.advanceRecurringSchedule schedule coverage.last

/-- Captures immutable authored inputs before any bounded preparation starts. -/
def newRecurringOccurrence (at_ timestamp : Int) : RecurringOccurrence where
  id := ⟨schedule.id, at_⟩
  workspaceId := schedule.workspaceId
  definitionRevision := schedule.revision
  snapshot := snapshot schedule
  state := .pending
  attempts := []
  queueEntryId := none
  turnId := none
  createdAt := timestamp
  terminalAt := none
  resolvedPayload := none

/-- Cancels every due instant from the cursor on.  The instants increase, so
the fuel that `sealRecurringSchedule` gives is enough. -/
def sealInstants (timestamp : Int) : Nat -> Option Int -> AutomationRecord -> AutomationDb ->
    Except AutomationError (AutomationRecord × AutomationDb)
  | 0, _, schedule, db => .ok (schedule, db)
  | _ + 1, none, schedule, db => .ok (schedule, db)
  | fuel + 1, some at_, schedule, db =>
    if at_ <= timestamp then do
      let occurrence := newRecurringOccurrence schedule at_ timestamp
      let (_, db) <- db.finishRecurringOccurrence occurrence .cancelled timestamp true
      let (schedule, db) <- db.advanceRecurringSchedule schedule at_
      let next <- nominal (nextRecurringNominal schedule.cadence at_)
      sealInstants timestamp fuel next schedule db
    else .ok (schedule, db)

def cancelPending (db : AutomationDb) (occurrence : RecurringOccurrence) :
    Except AutomationError AutomationDb := do
  let (_, db) <- db.finishRecurringOccurrence occurrence .cancelled timestamp false
  return db

/-- Accounts every instant of an active schedule that is due. -/
def sealDue : Except AutomationError (AutomationRecord × AutomationDb) :=
  if schedule.status = .active /\ schedule.nextScheduledAt.isSome then do
    let (schedule, db) <- db.accountRecurringExpiredPrefix schedule timestamp
    let fuel := match schedule.nextScheduledAt with
      | none => 0
      | some first => (timestamp + 1 - first).toNat
    sealInstants timestamp fuel schedule.nextScheduledAt schedule db
  else .ok (schedule, db)

/-- Seals all instants through the mutation time before a pause, edit or
deletion. -/
def sealRecurringSchedule : Except AutomationError (AutomationRecord × AutomationDb) := do
  let (schedule, db) <- db.sealDue schedule timestamp
  let pending := db.occurrences.rows.filter (fun row =>
    row.scheduleId = schedule.id && row.state = .pending)
  let db <- pending.foldlM (cancelPending timestamp) db
  return ({ schedule with status := .paused, nextScheduledAt := none }, db)

end AutomationDb

/-! ## Definitions -/

structure CreateAutomationRequest where
  (workspaceId name threadId prompt : String)
  cadence : AutomationCadence
  selections : AutomationSelections
deriving DecidableEq

/-- An authored timestamp, cut to milliseconds, and whether its finer digits are
not all zero. -/
structure AuthoredInstant where
  instant : Int
  finer : Bool
deriving DecidableEq

/-- The fraction of the authored second is not zero. -/
def AuthoredInstant.hasFraction (authored : AuthoredInstant) : Bool :=
  authored.finer || authored.instant % 1000 ≠ 0

/-- Authored edits.  A selection is kept, cleared or replaced. -/
structure AutomationEdits where
  (name threadId prompt : Option String)
  cadence : Option AutomationCadence
  (agentId profileId modelId : Option (Option String))
deriving DecidableEq

def AutomationEdits.none : AutomationEdits where
  name := .none
  threadId := .none
  prompt := .none
  cadence := .none
  agentId := .none
  profileId := .none
  modelId := .none

def AutomationEdits.apply (edits : AutomationEdits) (schedule : AutomationRecord) :
    AutomationRecord :=
  { schedule with
    name := edits.name.getD schedule.name, threadId := edits.threadId.getD schedule.threadId
    prompt := edits.prompt.getD schedule.prompt, cadence := edits.cadence.getD schedule.cadence
    selections :=
      { agentId := edits.agentId.getD schedule.selections.agentId
        profileId := edits.profileId.getD schedule.selections.profileId
        modelId := edits.modelId.getD schedule.selections.modelId } }

inductive RequestedStatus where
  | paused | active
deriving DecidableEq

/-- Revision-checked edit, pause or resume. -/
structure UpdateAutomationRequest where
  expectedRevision : Nat
  status : Option RequestedStatus
  scheduledAt : Option AuthoredInstant
  edits : AutomationEdits
deriving DecidableEq

/-- Refuses new cadence authority when its anchor has no valid successor. -/
def requireRecurringSuccessor (cadence : AutomationCadence) (at_ : Int) :
    Except AutomationError Unit := do
  let next <- nominal (nextRecurringNominal cadence at_)
  refuse next.isNone (.mutation "Recurring cadence has no representable UTC successor.")

namespace AutomationDb

/-- A fixed interval needs a successor of its anchor. -/
def requireIntervalSuccessor (cadence : AutomationCadence) (at_ : Int) :
    Except AutomationError Unit :=
  match cadence with
  | .intervalSeconds interval => requireRecurringSuccessor (.intervalSeconds interval) at_
  | .monthlyUtc _ => .ok ()

variable (db : AutomationDb)

def createAutomationDefinition (userId id : String)
    (input : CreateAutomationRequest) (timestamp : Int) :
    Except AutomationError (AutomationRecord × AutomationDb) := do
  requireIntervalSuccessor input.cadence timestamp
  let record : AutomationRecord :=
    { input with
      id := id, responsibleUserId := userId, status := .paused, revision := 1
      nextScheduledAt := none, greatestAccountedScheduledAt := none, createdAt := timestamp
      updatedAt := timestamp, deletedAt := none }
  let db <- db.writeRecurringSchedule record true
  return (record, db)

def resumeRefusal : AutomationError :=
  .mutation "Resume requires a new current-or-future nominal instant."

variable (schedule : AutomationRecord)

def resumed (scheduledAt : Option AuthoredInstant) (timestamp : Int) :
    Except AutomationError AutomationRecord := do
  refuse (decide (schedule.status ≠ .paused)) resumeRefusal
  match scheduledAt with
  | none => .error resumeRefusal
  | some authored => do
      let fits <- nominal (recurringNominalMatches schedule.cadence authored.instant)
      refuse (!fits || (schedule.cadence.monthly?.isSome && authored.hasFraction) ||
        authored.instant < timestamp || schedule.greatestAccountedScheduledAt.any (fun greatest =>
          authored.instant <= greatest)) resumeRefusal
      requireRecurringSuccessor schedule.cadence authored.instant
      return { schedule with status := .active, nextScheduledAt := some authored.instant }

def sealIfPaused (status : Option RequestedStatus)
    (timestamp : Int) : Except AutomationError (AutomationRecord × AutomationDb) :=
  if status = some .paused then db.sealRecurringSchedule schedule timestamp
  else .ok (schedule, db)

/-- An edited interval needs a successor of the mutation time. -/
def requireEditedSuccessor (edits : AutomationEdits) (timestamp : Int) :
    Except AutomationError Unit :=
  match edits.cadence with
  | none => .ok ()
  | some cadence => requireIntervalSuccessor cadence timestamp

def pausedOrEdited (input : UpdateAutomationRequest) (timestamp : Int) :
    Except AutomationError (AutomationRecord × AutomationDb) := do
  refuse input.scheduledAt.isSome (.mutation "A nominal instant is accepted only on resume.")
  let (schedule, db) <- db.sealIfPaused schedule input.status timestamp
  readRecurringSchedule (input.edits.apply schedule)
  requireEditedSuccessor input.edits timestamp
  return (input.edits.apply schedule, db)

/-- The schedule after a mutation. -/
def mutated (input : UpdateAutomationRequest)
    (timestamp : Int) : Except AutomationError (AutomationRecord × AutomationDb) :=
  if input.status = some .active then
    (resumed schedule input.scheduledAt timestamp).map (fun schedule => (schedule, db))
  else db.pausedOrEdited schedule input timestamp

/-- Revalidates the revision and seals only the original cadence. -/
def updateAutomationDefinition (automationId : String)
    (input : UpdateAutomationRequest) (timestamp : Int) :
    Except AutomationError (AutomationRecord × AutomationDb) := do
  let schedule <- db.requireAutomationDefinition automationId
  refuse (schedule.status = .deleted || schedule.revision ≠ input.expectedRevision)
    (.mutation "Recurring schedule revision or lifecycle conflicts.")
  let editing := decide (input.edits ≠ .none)
  refuse (!editing && input.status.isNone)
    (.mutation "A recurring schedule mutation is required.")
  refuse (editing && (schedule.status ≠ .paused || input.status = some .active))
    (.mutation "Edit requires a paused recurring schedule.")
  let (schedule, db) <- db.mutated schedule input timestamp
  let updated := { schedule with revision := schedule.revision + 1, updatedAt := timestamp }
  let db <- db.writeRecurringSchedule updated false
  return (updated, db)

/-- Retains the exact terminal tombstone without cancelling accepted work. -/
def deleteAutomationDefinition (automationId : String) (timestamp : Int) :
    Except AutomationError AutomationDb := do
  let schedule <- db.requireAutomationDefinition automationId
  if schedule.status = .deleted then return db
  else do
    let (schedule, db) <- db.sealRecurringSchedule schedule timestamp
    db.writeRecurringSchedule
      { schedule with
        status := .deleted, revision := schedule.revision + 1, updatedAt := timestamp
        deletedAt := some timestamp } false

end AutomationDb

/-! ## Scans -/

/-- The bound on every list of a scan. -/
def scanLimit : Nat := 128

/-- The first rows in an order. -/
def limited {α : Type} (before : α -> α -> Bool) (rows : List α) : List α :=
  (rows.insertionSort (fun left right => before left right)).take scanLimit

/-- The order by a number and then by an id, as the database compares it. -/
def orderedBy {α : Type} (number : α -> Int) (id : α -> String) (left right : α) : Bool :=
  number left < number right || (number left = number right && !decide (id right < id left))

/-- The rows that a scan selects.  A row stands for its digest. -/
structure AutomationScanPlan where
  pending : List RecurringOccurrence
  due : List AutomationRecord
  stale : List RecurringOccurrence
  (expired pendingSchedules : List AutomationRecord)
deriving DecidableEq

/-- The next instant of a schedule whose deadline is not over. -/
def recurringLiveFrontier (schedule : AutomationRecord) (first through : Int) :
    Except CadenceError (Option Int) := do
  let coverage <- recurringPrefixThrough schedule.cadence first through
  return match coverage with
    | some coverage => coverage.next
    | none => some first

/-- The text of a derived occurrence id, which orders rows of one deadline. -/
abbrev OccurrenceText := OccurrenceId -> String

/-- A schedule has an instant up to a time. -/
def AutomationRecord.isDue (schedule : AutomationRecord) (through : Int) : Bool :=
  schedule.status = .active && schedule.nextScheduledAt.any (· <= through)

namespace AutomationDb

/-- Selects the bounded read set. -/
def readScanPlan (db : AutomationDb) (text : OccurrenceText) (timestamp : Int) :
    Except AutomationError AutomationScanPlan := do
  let byDeadline : RecurringOccurrence -> RecurringOccurrence -> Bool :=
    orderedBy (·.deadline) (text ·.id)
  let pending := limited byDeadline (db.occurrences.rows.filter fun occurrence =>
    occurrence.state = .pending && occurrence.deadline > timestamp &&
      occurrence.scheduledAt <= timestamp &&
      (db.schedules.find? occurrence.scheduleId).any (·.status = .active))
  let dueRows := db.schedules.rows.filter (·.isDue timestamp)
  let frontiers <- dueRows.mapM fun schedule => do
    let frontier <- nominal (recurringLiveFrontier schedule (schedule.nextScheduledAt.getD 0)
      (timestamp - recurringDeadlineMs))
    return (schedule, frontier)
  let byFrontier : AutomationRecord × Option Int -> AutomationRecord × Option Int -> Bool :=
    fun left right =>
      match left.2, right.2 with
      | none, none => !decide (right.1.id < left.1.id)
      | none, some _ => true
      | some _, none => false
      | some first, some second =>
        first < second || (first = second && !decide (right.1.id < left.1.id))
  let due := (limited byFrontier frontiers).map (·.1)
  let stale := limited byDeadline (db.occurrences.rows.filter fun occurrence =>
    occurrence.state = .pending && occurrence.deadline <= timestamp)
  let expired := limited (orderedBy (·.nextScheduledAt.getD 0) (·.id))
    (db.schedules.rows.filter (·.isDue (timestamp - recurringDeadlineMs)))
  let pendingSchedules <- (pending.map (·.scheduleId)).dedup.mapM fun id =>
    match db.schedules.find? id with
    | some schedule => .ok schedule
    | none => .error .precondition
  return ⟨pending, due, stale, expired, pendingSchedules⟩

end AutomationDb

/-- An instant that a scan may publish, or a pending occurrence. -/
structure ScanCandidate where
  scheduleId : String
  at_ : Int
  occurrenceId : Option OccurrenceId
deriving DecidableEq

structure ScanSelection where
  selected : List ScanCandidate
  stale : List OccurrenceId
  expired : List String
deriving DecidableEq

/-- The instants from a cursor up to the time of the scan. -/
def liveInstants (cadence : AutomationCadence) (timestamp : Int) :
    Nat -> Option Int -> Except CadenceError (List Int)
  | 0, _ => .ok []
  | _ + 1, none => .ok []
  | fuel + 1, some at_ =>
    if at_ <= timestamp then do
      let next <- nextRecurringNominal cadence at_
      let rest <- liveInstants cadence timestamp fuel next
      return at_ :: rest
    else .ok []

def dueCandidates (timestamp : Int) (schedule : AutomationRecord) :
    Except CadenceError (List ScanCandidate) := do
  let next := schedule.nextScheduledAt.getD 0
  let frontier <- recurringLiveFrontier schedule next (timestamp - recurringDeadlineMs)
  let instants <- liveInstants schedule.cadence timestamp scanLimit frontier
  return instants.map (fun at_ => ⟨schedule.id, at_, none⟩)

/-- Earlier candidates first, then by schedule. -/
def candidateLe (left right : ScanCandidate) : Bool :=
  left.at_ < right.at_ || (left.at_ = right.at_ && codeUnitsLe left.scheduleId right.scheduleId)

/-- The cursor after the expired prefix, without a range. -/
def accountCursor (timestamp : Int) (schedule : AutomationRecord) :
    Except CadenceError AutomationRecord :=
  match schedule.nextScheduledAt with
  | none => .ok schedule
  | some first =>
    if first > timestamp - recurringDeadlineMs then .ok schedule
    else do
      let coverage <- recurringPrefixThrough schedule.cadence first
        (timestamp - recurringDeadlineMs)
      match coverage with
      | none => return schedule
      | some coverage =>
        let next <- nextRecurringNominal schedule.cadence coverage.last
        return { schedule with nextScheduledAt := next }

/-- The cursors during a scan and the number of ranges that its publications
record. -/
structure ScanProgress where
  schedules : OrderedMap String AutomationRecord
  expiredRangeCount : Nat

def ScanProgress.publish (timestamp : Int) (progress : ScanProgress) (candidate : ScanCandidate) :
    Except AutomationError ScanProgress :=
  match candidate.occurrenceId with
  | some _ => .ok progress
  | none =>
    match progress.schedules.get? candidate.scheduleId with
    | none => .error .precondition
    | some schedule => do
        let counted := schedule.nextScheduledAt.any
          (· <= timestamp - recurringDeadlineMs)
        let accounted <- nominal (accountCursor timestamp schedule)
        let next <- nominal (nextRecurringNominal accounted.cadence candidate.at_)
        return {
          schedules := progress.schedules.set schedule.id { accounted with nextScheduledAt := next }
          expiredRangeCount := progress.expiredRangeCount + counted.toNat }

/-- Replays only scheduling arithmetic. -/
def selectAutomationScan (plan : AutomationScanPlan) (timestamp : Int)
    (workspaceIds : List String) : Except AutomationError ScanSelection := do
  let pending := (plan.pending.filter (workspaceIds.contains ·.workspaceId)).map fun occurrence =>
      (⟨occurrence.scheduleId, occurrence.scheduledAt, some occurrence.id⟩ : ScanCandidate)
  let due <- nominal ((plan.due.filter (fun schedule =>
    workspaceIds.contains schedule.workspaceId)).mapM (dueCandidates timestamp))
  let candidates := (pending ++ due.flatten).insertionSort
    (fun left right => candidateLe left right)
  let selected := candidates.take scanLimit
  let progress <- selected.foldlM (ScanProgress.publish timestamp)
    { schedules := .ofPairs ((plan.pendingSchedules ++ plan.due ++ plan.expired).map
        (fun schedule => (schedule.id, schedule)))
      expiredRangeCount := 0 }
  let expired := (((plan.expired.filterMap (progress.schedules.get? ·.id)).filter
      (fun schedule => schedule.nextScheduledAt.any
        (· <= timestamp - recurringDeadlineMs))).insertionSort
      (fun left right =>
        decide (left.nextScheduledAt.getD 0 < right.nextScheduledAt.getD 0) \/
          (left.nextScheduledAt = right.nextScheduledAt /\ codeUnitsLe left.id right.id))).take
      (scanLimit - progress.expiredRangeCount)
  return {
    selected := selected
    stale := (plan.stale.filter (workspaceIds.contains ·.workspaceId)).map (·.id)
    expired := (expired.filter (workspaceIds.contains ·.workspaceId)).map (·.id) }

namespace AutomationDb

/-- The schedule of a scan, which must exist. -/
def requireSchedule (db : AutomationDb) (id : String) : Except AutomationError AutomationRecord :=
  match db.schedules.find? id with
  | some schedule => .ok schedule
  | none => .error .precondition

def requireOccurrence (db : AutomationDb) (id : OccurrenceId) :
    Except AutomationError RecurringOccurrence :=
  match db.occurrences.find? id with
  | some occurrence => .ok occurrence
  | none => .error .precondition

def publishCandidate (timestamp : Int) (db : AutomationDb) (candidate : ScanCandidate) :
    Except AutomationError AutomationDb :=
  match candidate.occurrenceId with
  | some id => do
      let _ <- db.requireOccurrence id
      return db
  | none => do
      let schedule <- db.requireSchedule candidate.scheduleId
      let (schedule, db) <- db.accountRecurringExpiredPrefix schedule timestamp
      let occurrence := newRecurringOccurrence schedule candidate.at_ timestamp
      let db <- db.writeRecurringOccurrence occurrence true
      let (_, db) <- db.advanceRecurringSchedule schedule candidate.at_
      return db

def expireStale (timestamp : Int) (db : AutomationDb) (id : OccurrenceId) :
    Except AutomationError AutomationDb := do
  let occurrence <- db.requireOccurrence id
  let (_, db) <- db.finishRecurringOccurrence occurrence .expired timestamp false
  return db

def accountExpired (timestamp : Int) (db : AutomationDb) (id : String) :
    Except AutomationError AutomationDb := do
  let schedule <- db.requireSchedule id
  let (_, db) <- db.accountRecurringExpiredPrefix schedule timestamp
  return db

/-- Revalidates the selected rows before the one publication. -/
def applyAutomationScanner (db : AutomationDb) (text : OccurrenceText) (timestamp : Int)
    (expected : AutomationScanPlan) (workspaceIds : List String) :
    Except AutomationError AutomationDb := do
  let current <- db.readScanPlan text timestamp
  refuse (decide (current ≠ expected)) .precondition
  let known := current.pending.map (·.workspaceId) ++ current.due.map (·.workspaceId) ++
    current.stale.map (·.workspaceId) ++ current.expired.map (·.workspaceId)
  refuse (workspaceIds.any (!known.contains ·) || !decide workspaceIds.Nodup) .precondition
  let selection <- selectAutomationScan current timestamp workspaceIds
  let db <- selection.selected.foldlM (publishCandidate timestamp) db
  let db <- selection.stale.foldlM (expireStale timestamp) db
  selection.expired.foldlM (accountExpired timestamp) db

end AutomationDb

/-! ## Attempts -/

/-- Bounded pre-admission result. -/
inductive RecurringPreparation where
  | ready (payload : RecurringAdmissionPayload)
  | failure (code : RefusalCode) (payload : Option RecurringAdmissionPayload)
  | recoveryRequired
deriving DecidableEq

def RecurringPreparation.payload? : RecurringPreparation -> Option RecurringAdmissionPayload
  | .ready payload => some payload
  | .failure _ payload => payload
  | .recoveryRequired => none

/-- An attempt as it is delivered.  `authorized` is the current authority of the
actor to run a Turn and launch a runtime in the Workspace. -/
structure AttemptInput where
  occurrenceId : OccurrenceId
  definitionRevision : Nat
  preparation : RecurringPreparation
  current : Option RecurringPreparation
  authorized : Bool
  timestamp : Int
deriving DecidableEq

/-- The exact queue input of an occurrence. -/
structure CreateSchedulerAdmissionEntryInput where
  queueEntryId : Identity
  input : AdmissionInput
  timestamp : Int
deriving DecidableEq

/-- Builds the one exact queue primitive input. -/
def recurringSchedulerAdmissionInput (occurrence : RecurringOccurrence)
    (payload : RecurringAdmissionPayload) (timestamp : Int) : CreateSchedulerAdmissionEntryInput where
  queueEntryId := occurrence.requestId
  input :=
    { payload with
      requestId := some occurrence.requestId, workspaceId := occurrence.workspaceId
      threadId := occurrence.snapshot.threadId
      turnId := recurringTurnId occurrence.scheduleId occurrence.scheduledAt
      turnInput := occurrence.snapshot.prompt, workerStorageChoice := none
      modelId := some payload.modelId
      triggerActor := (occurrence.snapshot.actor.id, occurrence.snapshot.actor.responsibleUserId)
      serverAdminTokenId := none }
  timestamp := timestamp

/-- The internal bound on queued entries. -/
def queueBound : Nat := 20

namespace AutomationDb

variable (db : AutomationDb) (occurrence : RecurringOccurrence)

def createSchedulerAdmissionEntry (request : CreateSchedulerAdmissionEntryInput) :
    Except RefusalCode (SchedulerAdmissionEntry × AutomationDb) :=
  if request.input.backendId = "" then .error .admissionFailed
  else
    match db.entries.rows.find? (fun entry => entry.queueEntryId = request.queueEntryId ||
        entry.input.turnId = request.input.turnId) with
    | some existing =>
      if existing.queueEntryId ≠ request.queueEntryId \/ existing.inputHash ≠ request.input then
        .error .admissionFailed
      else .ok (existing, db)
    | none =>
      if queueBound <= db.entries.rows.countP (·.status = .queued) then
        .error .queueFull
      else
        let entry : SchedulerAdmissionEntry :=
          { queueEntryId := request.queueEntryId
            input := request.input, inputHash := request.input, enqueuedAt := request.timestamp
            status := .queued }
        .ok (entry, { db with entries := db.entries.insert entry })

def ownQueues : List SchedulerAdmissionEntry :=
  db.entries.rows.filter fun entry =>
    entry.queueEntryId = occurrence.requestId ||
      entry.input.requestId = some occurrence.requestId ||
      entry.input.turnId = recurringTurnId occurrence.scheduleId occurrence.scheduledAt

/-- Another accepted occurrence of the schedule is still queued. -/
def isWaiting : Bool :=
  db.occurrences.rows.any fun other =>
    other.scheduleId = occurrence.scheduleId && other.id ≠ occurrence.id &&
      other.state = .admissionAccepted &&
      (other.queueEntryId.bind db.entries.find?).any (·.status = .queued)

/-- The outcome of a preparation that the current authority allows. -/
def currentPreparation (input : AttemptInput) : RecurringPreparation :=
  match input.preparation with
  -- a later authority refusal cannot prove that an unknown preparation had no effects
  | .recoveryRequired => .recoveryRequired
  | preparation =>
    match input.current with
    | none => preparation
    | some .recoveryRequired => .recoveryRequired
    | some current => if input.authorized then current else .failure .authorityDenied none

/-- The queue admission of a ready attempt: a refusal or the accepted entry. -/
def admitReady (request : Option CreateSchedulerAdmissionEntryInput) :
    Except RefusalCode (SchedulerAdmissionEntry × AutomationDb) :=
  if db.isWaiting occurrence then .error .queueBacklogFull
  else
    match request with
    | none => .error .selectionUnavailable
    | some request => db.createSchedulerAdmissionEntry request

def attempted (resolved : Option RecurringAdmissionPayload)
    (timestamp : Int) (refusal : Option RefusalCode) : RecurringOccurrence :=
  { occurrence with
    resolvedPayload := resolved
    attempts := occurrence.attempts ++
      [{ number := occurrence.attempts.length + 1
         at_ := timestamp, refusal := refusal
         summary := match refusal with
          | none => "Scheduler admission accepted."
          | some code => "Admission refused: " ++ code.text ++ "." }] }

/-- The attempt of a pending occurrence inside its window, with its payload. -/
def decideAttempt (resolved : Option RecurringAdmissionPayload) (input : AttemptInput) :
    Except AutomationError (Option RecurringOccurrence × AutomationDb) := do
  let timestamp := input.timestamp
  let finish (db : AutomationDb) (occurrence : RecurringOccurrence) (state : OccurrenceState) :
      Except AutomationError (Option RecurringOccurrence × AutomationDb) := do
    let (updated, db) <- db.finishRecurringOccurrence occurrence state timestamp false
    return (some updated, db)
  let request := resolved.map (recurringSchedulerAdmissionInput occurrence · timestamp)
  match db.ownQueues occurrence with
  | _ :: _ :: _ => finish db occurrence .recoveryRequired
  | [existing] =>
    match request with
    | none => finish db occurrence .recoveryRequired
    | some request =>
      if existing.queueEntryId ≠ request.queueEntryId \/ existing.inputHash ≠ request.input \/
          existing.input ≠ request.input then
        finish db occurrence .recoveryRequired
      else
        finish db
          { occurrence with
            resolvedPayload := resolved, queueEntryId := some existing.queueEntryId
            turnId := some existing.input.turnId }
          .admissionAccepted
  | [] =>
    let refused (code : RefusalCode) :
        Except AutomationError (Option RecurringOccurrence × AutomationDb) := do
      let occurrence := attempted occurrence resolved timestamp (some code)
      if occurrence.attempts.length = 3 then finish db occurrence .admissionFailed
      else do
        let db <- db.writeRecurringOccurrence occurrence false
        return (some occurrence, db)
    match currentPreparation input with
    | .recoveryRequired => finish db occurrence .recoveryRequired
    | .failure code _ => refused code
    | .ready _ =>
      match db.admitReady occurrence request with
      | .error code => refused code
      | .ok (entry, db) =>
        finish db
          (attempted
            { occurrence with
              queueEntryId := some entry.queueEntryId
              turnId := some entry.input.turnId } resolved timestamp none)
          .admissionAccepted

/-- One complete recurring attempt. -/
def applyNativeRecurringAttempt (input : AttemptInput) :
    Except AutomationError (Option RecurringOccurrence × AutomationDb) := do
  let occurrence <- db.requireRecurringOccurrence input.occurrenceId
  if occurrence.state ≠ .pending then return (some occurrence, db)
  else do
    let schedule <- db.requireAutomationDefinition occurrence.scheduleId
    if schedule.status ≠ .active \/ schedule.revision ≠ input.definitionRevision \/
        occurrence.definitionRevision ≠ input.definitionRevision then
      return (none, db)
    else if input.timestamp < occurrence.scheduledAt then return (some occurrence, db)
    else if occurrence.deadline <= input.timestamp then do
      let (updated, db) <-
        db.finishRecurringOccurrence occurrence .expired input.timestamp false
      return (some updated, db)
    else
      let payload := input.preparation.payload?
      if occurrence.resolvedPayload.isSome /\ payload.isSome /\ payload ≠ occurrence.resolvedPayload then do
        let (updated, db) <-
          db.finishRecurringOccurrence occurrence .recoveryRequired input.timestamp false
        return (some updated, db)
      else db.decideAttempt occurrence (occurrence.resolvedPayload.or payload) input

end AutomationDb

/-! ## Histories -/

/-- What the rest of the scheduler does to the queue: it moves entries between
states and enqueues requests with identities of their own. -/
inductive QueueChange where
  | move (queueEntryId : Identity) (status : AdmissionStatus)
  | enqueue (queueEntryId turnId : String) (requestId : Option String) (input : AdmissionInput)
      (enqueuedAt : Int)
deriving DecidableEq

def AutomationDb.changeQueue (db : AutomationDb) : QueueChange -> AutomationDb
  | .move queueEntryId status =>
    { db with
      entries := db.entries.updateWhere (·.queueEntryId = queueEntryId)
        (fun entry => { entry with status := status }) (fun _ => rfl) }
  | .enqueue queueEntryId turnId requestId input enqueuedAt =>
    let foreign := { input with turnId := .other turnId, requestId := requestId.map .other }
    { db with
      entries := db.entries.insert
        { queueEntryId := .other queueEntryId
          input := foreign, inputHash := foreign, enqueuedAt := enqueuedAt, status := .queued } }

inductive AutomationCall where
  | create (userId id : String) (input : CreateAutomationRequest) (timestamp : Int)
  | update (id : String) (input : UpdateAutomationRequest) (timestamp : Int)
  | delete (id : String) (timestamp : Int)
  | publish (timestamp : Int) (expected : AutomationScanPlan) (workspaceIds : List String)
  | attempt (input : AttemptInput)
  | queue (change : QueueChange)
deriving DecidableEq

def AutomationDb.transact (text : OccurrenceText) (call : AutomationCall) (db : AutomationDb) :
    Except AutomationError AutomationDb :=
  match call with
  | .create userId id input timestamp =>
    (db.createAutomationDefinition userId id input timestamp).map (·.2)
  | .update id input timestamp => (db.updateAutomationDefinition id input timestamp).map (·.2)
  | .delete id timestamp => db.deleteAutomationDefinition id timestamp
  | .publish timestamp expected workspaceIds =>
    db.applyAutomationScanner text timestamp expected workspaceIds
  | .attempt input => (db.applyNativeRecurringAttempt input).map (·.2)
  | .queue change => .ok (db.changeQueue change)

/-- A call that throws changes nothing. -/
def AutomationDb.apply (text : OccurrenceText) (call : AutomationCall) (db : AutomationDb) :
    AutomationDb :=
  match db.transact text call with
  | .ok after => after
  | .error _ => db

end Automations
end OpenKit
