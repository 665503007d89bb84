import OpenKit.Foundation.Table
import OpenKit.Foundation.Transactions

namespace OpenKit
namespace ExecutionAttempts

open Foundation

/-!
# Admission entries and execution attempts

The scheduler queues admission entries, and each dispatch of an entry acquires
an execution attempt.  Both tables are written by single statements under
compare-and-set guards.  Only three operations run in a transaction; the others
keep what they wrote when reading the row back throws, so every operation is a
`Writes` computation and a run continues from the state that it leaves.

The unique indexes are part of the database value: a statement that would break
one throws.
-/

/-! ## Rows -/

inductive AdmissionStatus where
  | queued | admitted | denied | cancelled | expired
deriving DecidableEq

inductive AdmissionDenialReason where
  | queueFull | authorityDenied | invalidRequest
deriving DecidableEq

/-- A row of `scheduler_admission_entries`.  `command` holds the captured actor,
storage choice and Turn input. -/
structure SchedulerAdmissionEntry where
  (queueEntryId backendId inputHash workspaceId threadId turnId command enqueuedAt : String)
  status : AdmissionStatus
  denialReason : Option AdmissionDenialReason
deriving DecidableEq

inductive ExecutionPhase where
  | opened | closing | closed
deriving DecidableEq

/-- Truthful acceptance of the exact operation. -/
inductive ExecutionOperationDisposition where
  | notAccepted | accepted | unknown
deriving DecidableEq

/-- A row of `scheduler_execution_attempts`. -/
structure SchedulerExecutionAttempt where
  (attemptId queueEntryId backendId workspaceId threadId turnId : String)
  agentSessionId : Option String
  preparationInputJson : String
  (inputRef bindingRef : Option String)
  phase : ExecutionPhase
  disposition : ExecutionOperationDisposition
  (operationId deadline terminalCause outcomeRef fenceRef : Option String)
  (createdAt updatedAt : String)
deriving DecidableEq

def SchedulerExecutionAttempt.isLive (attempt : SchedulerExecutionAttempt) : Bool :=
  attempt.phase ≠ .closed

def SchedulerAdmissionEntry.isNonTerminal (entry : SchedulerAdmissionEntry) : Bool :=
  entry.status = .queued || entry.status = .admitted

/-- A JavaScript string that is present and not empty. -/
def truthy (value : Option String) : Bool :=
  value.any (· ≠ "")

/-- Exact durable correlation shared by every execution backend operation. -/
structure ExecutionBackendCorrelation where
  (attemptId backendId : String)
  (bindingRef inputRef : Option String)
  operationId : String
deriving DecidableEq

/-- The formats and hashes that the records rely on. -/
structure SchedulerPlatform where
  /-- `SchedulerExecutionAttemptSchema` on a stored row. -/
  readsAttempt : SchedulerExecutionAttempt -> Bool
  /-- The reader of a stored admission entry. -/
  readsEntry : SchedulerAdmissionEntry -> Bool
  /-- `EXECUTION_ATTEMPT_BUDGET_MS` after a timestamp, if that is a date. -/
  afterBudget : String -> Option String
  commandInputHash : ExecutionBackendCorrelation -> String

/-- What an operation reads from other tables. -/
structure SchedulerWorld where
  /-- Current `runtime.launch` authority of the actor of an entry. -/
  launchAuthority : SchedulerAdmissionEntry -> Bool
  /-- The entries of the other waiting occurrences of a recurring schedule. -/
  seriesEntries : SchedulerAdmissionEntry -> List String

inductive SchedulerError where
  /-- `ExecutionAttemptRefusal`. -/
  | refusal (message : String)
  /-- `SchedulerAdmissionTransitionError`. -/
  | transition (message : String) (code : Option String)
  | plain (message : String)
  | invalidRow | invalidDate | uniqueConstraint
deriving DecidableEq

/-! ## The database -/

/-- The unique indexes on live attempts. -/
structure LiveIndexes (rows : List SchedulerExecutionAttempt) : Prop where
  turn : ((rows.filter (·.isLive)).map (·.turnId)).Nodup
  thread : ((rows.filter (·.isLive)).map (fun row => (row.workspaceId, row.threadId))).Nodup
  session : ((rows.filter (·.isLive)).filterMap (·.agentSessionId)).Nodup

instance (rows : List SchedulerExecutionAttempt) : Decidable (LiveIndexes rows) :=
  decidable_of_iff
    (((rows.filter (·.isLive)).map (·.turnId)).Nodup /\
      ((rows.filter (·.isLive)).map (fun row => (row.workspaceId, row.threadId))).Nodup /\
      ((rows.filter (·.isLive)).filterMap (·.agentSessionId)).Nodup)
    ⟨fun ⟨turn, thread, session⟩ => ⟨turn, thread, session⟩,
      fun indexes => ⟨indexes.turn, indexes.thread, indexes.session⟩⟩

structure SchedulerDb where
  entries : Table SchedulerAdmissionEntry String SchedulerAdmissionEntry.queueEntryId
  attempts : Table SchedulerExecutionAttempt String SchedulerExecutionAttempt.attemptId
  /-- `scheduler_admission_entries_non_terminal_turn_idx`. -/
  entryTurns : ((entries.rows.filter (·.isNonTerminal)).map (·.turnId)).Nodup
  liveIndexes : LiveIndexes attempts.rows

namespace SchedulerDb

def empty : SchedulerDb where
  entries := .empty
  attempts := .empty
  entryTurns := List.nodup_nil
  liveIndexes := ⟨List.nodup_nil, List.nodup_nil, List.nodup_nil⟩

variable (db : SchedulerDb)

def admission? (queueEntryId : String) : Option SchedulerAdmissionEntry :=
  db.entries.find? queueEntryId

def attempt? (attemptId : String) : Option SchedulerExecutionAttempt :=
  db.attempts.find? attemptId

/-- Replaces the attempts if the live indexes allow it. -/
def putAttempts
    (attempts : Table SchedulerExecutionAttempt String SchedulerExecutionAttempt.attemptId) :
    Except SchedulerError SchedulerDb :=
  if indexed : LiveIndexes attempts.rows then
    .ok { db with attempts := attempts, liveIndexes := indexed }
  else .error .uniqueConstraint

/-- Replaces the entries if their index allows it. -/
def putEntries
    (entries : Table SchedulerAdmissionEntry String SchedulerAdmissionEntry.queueEntryId) :
    Except SchedulerError SchedulerDb :=
  if indexed : ((entries.rows.filter (·.isNonTerminal)).map (·.turnId)).Nodup then
    .ok { db with entries := entries, entryTurns := indexed }
  else .error .uniqueConstraint

def insertAttempt (attempt : SchedulerExecutionAttempt) :
    Except SchedulerError (Unit × SchedulerDb) :=
  match db.attempt? attempt.attemptId with
  | some _ => .error .uniqueConstraint
  | none => (db.putAttempts (db.attempts.insert attempt)).map (fun after => ((), after))

def insertEntry (entry : SchedulerAdmissionEntry) : Except SchedulerError (Unit × SchedulerDb) :=
  match db.admission? entry.queueEntryId with
  | some _ => .error .uniqueConstraint
  | none => (db.putEntries (db.entries.insert entry)).map (fun after => ((), after))

/-- `UPDATE scheduler_execution_attempts … WHERE attempt_id = ? AND guard`, with
whether it changed a row. -/
def updateAttempt (attemptId : String) (guard : SchedulerExecutionAttempt -> Bool)
    (write : SchedulerExecutionAttempt -> SchedulerExecutionAttempt)
    (keeps : ∀ row, (write row).attemptId = row.attemptId) (db : SchedulerDb) :
    Except SchedulerError (Bool × SchedulerDb) :=
  if (db.attempt? attemptId).any guard then
    (db.putAttempts (db.attempts.updateWhere (·.attemptId = attemptId) write keeps)).map
      (fun after => (true, after))
  else .ok (false, db)

/-- `UPDATE scheduler_admission_entries … WHERE queue_entry_id = ? AND guard`. -/
def updateEntry (queueEntryId : String) (guard : SchedulerAdmissionEntry -> Bool)
    (write : SchedulerAdmissionEntry -> SchedulerAdmissionEntry)
    (keeps : ∀ row, (write row).queueEntryId = row.queueEntryId) (db : SchedulerDb) :
    Except SchedulerError (Bool × SchedulerDb) :=
  if (db.admission? queueEntryId).any guard then
    (db.putEntries (db.entries.updateWhere (·.queueEntryId = queueEntryId) write
      keeps)).map (fun after => (true, after))
  else .ok (false, db)

variable (platform : SchedulerPlatform)

/-- Loads an attempt and refuses unknown core values. -/
def readAttempt (attemptId : String) (db : SchedulerDb) :
    Except SchedulerError SchedulerExecutionAttempt :=
  match db.attempt? attemptId with
  | none => .error .invalidRow
  | some row => if platform.readsAttempt row then .ok row else .error .invalidRow

/-- Loads an entry, of one Workspace if that is given. -/
def readEntry (queueEntryId : String) (ownership : Option String)
    (db : SchedulerDb) : Except SchedulerError SchedulerAdmissionEntry :=
  match (db.admission? queueEntryId).filter
      (fun row => ownership.all (row.workspaceId = ·)) with
  | none => .error (.transition ("Scheduler admission entry not found: " ++ queueEntryId) none)
  | some row => if platform.readsEntry row then .ok row else .error .invalidRow

/-- Exact Turn attempts in creation order. -/
def readAttemptsForTurn (workspaceId threadId turnId : String)
    (db : SchedulerDb) : Except SchedulerError (List SchedulerExecutionAttempt) :=
  let rows := db.attempts.rows.filter fun row =>
    row.workspaceId = workspaceId && row.threadId = threadId && row.turnId = turnId
  if rows.all platform.readsAttempt then .ok rows else .error .invalidRow

end SchedulerDb

open Writes

/-- An operation on the scheduler tables. -/
abbrev SchedulerWrites := Writes SchedulerDb SchedulerError

def requireSchedulerExecutionAttempt (platform : SchedulerPlatform) (attemptId : String) :
    SchedulerWrites SchedulerExecutionAttempt :=
  query (SchedulerDb.readAttempt platform attemptId)

def requireSchedulerAdmissionEntry (platform : SchedulerPlatform) (queueEntryId : String)
    (ownership : Option String) : SchedulerWrites SchedulerAdmissionEntry :=
  query (SchedulerDb.readEntry platform queueEntryId ownership)

/-! ## Scheduler operations -/

structure CreateSchedulerAdmissionEntryInput where
  (backendId queueEntryId inputHash workspaceId threadId turnId command timestamp : String)

def CreateSchedulerAdmissionEntryInput.entry (input : CreateSchedulerAdmissionEntryInput) :
    SchedulerAdmissionEntry :=
  { input with
    enqueuedAt := input.timestamp, status := .queued, denialReason := none }

/-- The internal bound on queued entries. -/
def queueBound : Nat := 20

namespace SchedulerDb

def queuedCount (db : SchedulerDb) : Nat :=
  db.entries.rows.countP (·.status = .queued)

/-- The first entry of a queue identity or a Turn. -/
def existingAdmission? (db : SchedulerDb) (queueEntryId turnId : String) :
    Option SchedulerAdmissionEntry :=
  db.entries.rows.find? fun row =>
    row.queueEntryId = queueEntryId || row.turnId = turnId

/-- The retained entry of a replay, or none if the entry is new. -/
def replayedEntry (platform : SchedulerPlatform) (input : CreateSchedulerAdmissionEntryInput)
    (db : SchedulerDb) : Except SchedulerError (Option SchedulerAdmissionEntry) :=
  match db.existingAdmission? input.queueEntryId input.turnId with
  | some entry =>
    if platform.readsEntry entry then
      if entry.queueEntryId ≠ input.queueEntryId \/ entry.inputHash ≠ input.inputHash then
        .error (.transition "Scheduler admission request conflicts with its retained input." none)
      else .ok (some entry)
    else .error .invalidRow
  | none =>
    if queueBound <= db.queuedCount then
      .error (.transition "Scheduler admission queue is full." (some "queue-full"))
    else .ok none

end SchedulerDb

variable (platform : SchedulerPlatform) (world : SchedulerWorld)

def createSchedulerAdmissionEntry
    (input : CreateSchedulerAdmissionEntryInput) : SchedulerWrites SchedulerAdmissionEntry := do
  throwIf (input.backendId = "")
    (.transition "Configured backend identity is required." none)
  atomically do
    let existing <- query (SchedulerDb.replayedEntry platform input)
    match existing with
    | some entry => return entry
    | none =>
      statement (·.insertEntry input.entry)
      requireSchedulerAdmissionEntry platform input.queueEntryId none

/-- Denies one queued scheduler admission entry.  The statement has no guard of
its own. -/
def denySchedulerAdmissionEntry (queueEntryId : String)
    (denialReason : AdmissionDenialReason) : SchedulerWrites SchedulerAdmissionEntry := do
  let entry <- requireSchedulerAdmissionEntry platform queueEntryId none
  throwIf (entry.status ≠ .queued)
    (.plain ("Scheduler admission entry " ++ queueEntryId ++ " is not queued."))
  let _ <- statement (SchedulerDb.updateEntry queueEntryId (fun _ => true)
    (fun row => { row with status := .denied, denialReason := some denialReason }) (fun _ => rfl))
  requireSchedulerAdmissionEntry platform queueEntryId none

/-- Whether another occurrence of the series of an entry is queued. -/
def SchedulerDb.seriesWaiting (entry : SchedulerAdmissionEntry) (db : SchedulerDb) : Bool :=
  (world.seriesEntries entry).any fun queueEntryId =>
    (db.admission? queueEntryId).any fun waiting =>
      waiting.workspaceId = entry.workspaceId && waiting.status = .queued

/-- Requeues one denied scheduler admission entry for explicit human retry. -/
def retryDeniedSchedulerAdmissionEntry
    (queueEntryId workspaceId : String) : SchedulerWrites SchedulerAdmissionEntry :=
  atomically do
    let entry <- requireSchedulerAdmissionEntry platform queueEntryId (some workspaceId)
    throwIf (entry.status ≠ .denied)
      (.transition ("Scheduler admission entry " ++ queueEntryId ++ " is not denied.") none)
    query fun db =>
      if db.seriesWaiting world entry then
        .error (.transition "The recurring schedule already has a queued occurrence."
          (some "queue-full"))
      else if queueBound <= db.queuedCount then
        .error (.transition "Scheduler admission queue is full." (some "queue-full"))
      else .ok ()
    let updated <- statement (SchedulerDb.updateEntry queueEntryId
      (fun row => row.workspaceId = entry.workspaceId && row.status = .denied)
      (fun row => { row with status := .queued, denialReason := none }) (fun _ => rfl))
    throwIf (updated = false)
      (.transition ("Scheduler admission entry could not be retried: " ++ queueEntryId) none)
    requireSchedulerAdmissionEntry platform queueEntryId (some workspaceId)

def cancelSchedulerAdmissionEntry (queueEntryId workspaceId : String) :
    SchedulerWrites SchedulerAdmissionEntry := do
  let entry <- requireSchedulerAdmissionEntry platform queueEntryId (some workspaceId)
  throwIf (entry.status ≠ .queued /\ entry.status ≠ .denied)
    (.transition ("Scheduler admission entry " ++ queueEntryId ++ " cannot be cancelled.") none)
  let updated <- statement (SchedulerDb.updateEntry queueEntryId
    (fun row => row.workspaceId = entry.workspaceId && row.status = entry.status)
    (fun row => { row with status := .cancelled, denialReason := none }) (fun _ => rfl))
  throwIf (updated = false)
    (.transition ("Scheduler admission entry could not be cancelled: " ++ queueEntryId) none)
  requireSchedulerAdmissionEntry platform queueEntryId (some workspaceId)

/-! ## Attempt operations -/

structure CreateSchedulerExecutionAttemptInput where
  (queueEntryId backendId attemptId preparationInputJson timestamp : String)

def newAttempt (entry : SchedulerAdmissionEntry) (input : CreateSchedulerExecutionAttemptInput) :
    SchedulerExecutionAttempt :=
  { entry with
    attemptId := input.attemptId, agentSessionId := none
    preparationInputJson := input.preparationInputJson, inputRef := none, bindingRef := none
    phase := .opened, disposition := .notAccepted, operationId := none, deadline := none
    terminalCause := none, outcomeRef := none, fenceRef := none, createdAt := input.timestamp
    updatedAt := input.timestamp }

/-- Acquires only the selected entry's product boundaries. -/
def createSchedulerExecutionAttempt
    (input : CreateSchedulerExecutionAttemptInput) : SchedulerWrites SchedulerExecutionAttempt :=
  atomically do
    let entry <- requireSchedulerAdmissionEntry platform input.queueEntryId none
    throwIf (entry.status ≠ .queued \/ entry.backendId ≠ input.backendId \/
        world.launchAuthority entry = false)
      (.refusal "The exact queued admission is no longer dispatchable.")
    statement (·.insertAttempt (newAttempt entry input))
    let acquired <- statement (SchedulerDb.updateEntry entry.queueEntryId
      (·.status = .queued)
      (fun row => { row with status := .admitted }) (fun _ => rfl))
    throwIf (acquired = false) (.refusal "Admission ownership changed before preparation.")
    requireSchedulerExecutionAttempt platform input.attemptId

structure BindSchedulerExecutionAttemptSessionInput where
  (attemptId agentSessionId timestamp : String)

/-- Binds the selected AgentSession under its unique live-attempt constraint. -/
def bindSchedulerExecutionAttemptSession (input : BindSchedulerExecutionAttemptSessionInput) :
    SchedulerWrites SchedulerExecutionAttempt := do
  let attempt <- requireSchedulerExecutionAttempt platform input.attemptId
  throwIf (attempt.phase ≠ .opened \/ (attempt.agentSessionId ≠ none /\
      attempt.agentSessionId ≠ some input.agentSessionId))
    (.refusal "Attempt AgentSession ownership changed.")
  let updated <- statement (SchedulerDb.updateAttempt attempt.attemptId
    (fun row => row.phase = .opened && row.agentSessionId = attempt.agentSessionId)
    (fun row => { row with agentSessionId := some input.agentSessionId, updatedAt := input.timestamp })
    (fun _ => rfl))
  throwIf (updated = false) (.refusal "Attempt lost its AgentSession binding race.")
  requireSchedulerExecutionAttempt platform attempt.attemptId

structure FinalizeSchedulerExecutionAttemptInput where
  (attemptId inputRef bindingRef timestamp : String)

/-- Publishes the immutable finalized package and compatible binding. -/
def finalizeSchedulerExecutionAttemptInput (input : FinalizeSchedulerExecutionAttemptInput) :
    SchedulerWrites SchedulerExecutionAttempt := do
  let attempt <- requireSchedulerExecutionAttempt platform input.attemptId
  throwIf (attempt.phase ≠ .opened \/ truthy attempt.agentSessionId = false \/
      (truthy attempt.inputRef /\ attempt.inputRef ≠ some input.inputRef) \/
      (truthy attempt.bindingRef /\ attempt.bindingRef ≠ some input.bindingRef))
    (.refusal "Finalized attempt input contradicts its owner.")
  let updated <- statement (SchedulerDb.updateAttempt attempt.attemptId
    (fun row => row.phase = .opened && row.inputRef = attempt.inputRef &&
      row.bindingRef = attempt.bindingRef)
    (fun row => { row with
      inputRef := some input.inputRef, bindingRef := some input.bindingRef
      updatedAt := input.timestamp })
    (fun _ => rfl))
  throwIf (updated = false) (.refusal "Finalized input lost its attempt ownership race.")
  requireSchedulerExecutionAttempt platform attempt.attemptId

structure RecordSchedulerExecutionOperationInput where
  (attemptId operationId : String)
  submission : Bool
  timestamp : String

variable (attempt : SchedulerExecutionAttempt)

variable (input : RecordSchedulerExecutionOperationInput)

/-- The deadline after an operation; a submission fixes it. -/
def operationDeadline : Except SchedulerError (Option String) :=
  if input.submission then
    match platform.afterBudget input.timestamp with
    | some deadline => .ok (some deadline)
    | none => .error .invalidDate
  else .ok attempt.deadline

/-- Records exact possible acceptance before an operation can affect the backend. -/
def recordSchedulerExecutionOperation : SchedulerWrites SchedulerExecutionAttempt := do
  throwIf (input.operationId = "")
    (.refusal "Backend operation identity is required before an effect.")
  let attempt <- requireSchedulerExecutionAttempt platform input.attemptId
  let entry <- requireSchedulerAdmissionEntry platform attempt.queueEntryId none
  throwIf (attempt.phase ≠ .opened \/ world.launchAuthority entry = false)
    (.refusal "Execution authority was revoked before the operation.")
  throwIf (input.submission /\ (truthy attempt.agentSessionId = false \/
      truthy attempt.inputRef = false \/ truthy attempt.bindingRef = false))
    (.refusal "Submission has no finalized package or assigned binding.")
  throwIf (attempt.disposition = .unknown)
    (.refusal "An unknown operation must be inspected or fenced before another effect.")
  throwIf (input.submission /\ attempt.deadline ≠ none)
    (.refusal "This attempt already owns a possible submission.")
  let deadline <- query (fun _ => operationDeadline platform attempt input)
  let updated <- statement (SchedulerDb.updateAttempt attempt.attemptId
    (fun row => row.phase = .opened && row.operationId = attempt.operationId &&
      row.deadline = attempt.deadline)
    (fun row => { row with
      operationId := some input.operationId, disposition := .unknown, deadline := deadline
      updatedAt := input.timestamp })
    (fun _ => rfl))
  throwIf (updated = false) (.refusal "Operation intent lost its attempt ownership race.")
  requireSchedulerExecutionAttempt platform attempt.attemptId

/-- Returns the original operation identity without replay. -/
def schedulerExecutionCorrelation : Except SchedulerError ExecutionBackendCorrelation :=
  match attempt.operationId.filter (· ≠ "") with
  | none => .error (.refusal "Attempt has no outstanding operation identity.")
  | some operationId =>
    .ok ⟨attempt.attemptId, attempt.backendId, attempt.bindingRef, attempt.inputRef, operationId⟩

/-- A correlated observation.  Texts outside the vocabularies read as `none`. -/
structure ExecutionBackendObservation where
  correlation : ExecutionBackendCorrelation
  disposition : Option ExecutionOperationDisposition
  /-- Whether `execution` is one of its four texts. -/
  executionKnown : Bool
  (outcomeRef fenceRef : Option String)
  observedAt : String

/-- The disposition that a matching observation leaves; none if the observation
is missing a part, stale or contradictory. -/
def observedDisposition
    (observation : ExecutionBackendObservation) : Option ExecutionOperationDisposition :=
  match observation.disposition with
  | none => none
  | some observed =>
    if attempt.backendId ≠ observation.correlation.backendId \/
        attempt.bindingRef ≠ observation.correlation.bindingRef \/
        attempt.inputRef ≠ observation.correlation.inputRef \/
        attempt.operationId ≠ some observation.correlation.operationId \/
        observation.executionKnown = false \/
        observation.outcomeRef = some "" \/ observation.fenceRef = some "" \/
        (attempt.outcomeRef ≠ none /\ observation.outcomeRef ≠ none /\
          attempt.outcomeRef ≠ observation.outcomeRef) \/
        (attempt.fenceRef ≠ none /\ observation.fenceRef ≠ none /\
          attempt.fenceRef ≠ observation.fenceRef) then none
    else
      -- Uncertainty cannot erase definite acceptance.
      let disposition :=
        if attempt.disposition = .accepted /\ observed = .unknown then
          ExecutionOperationDisposition.accepted
        else observed
      if attempt.disposition = .accepted /\ disposition = .notAccepted then none
      else some disposition

/-- Loads the attempt of an observation, if there is one. -/
def SchedulerDb.observedAttempt (attemptId : String)
    (db : SchedulerDb) : Except SchedulerError (Option SchedulerExecutionAttempt) :=
  match db.attempt? attemptId with
  | none => .ok none
  | some row => if platform.readsAttempt row then .ok (some row) else .error .invalidRow

/-- Takes over a correlated observation. -/
def takeObservation (observation : ExecutionBackendObservation) :
    SchedulerWrites (Option SchedulerExecutionAttempt) := do
  let found <- query (SchedulerDb.observedAttempt platform observation.correlation.attemptId)
  match found with
  | none => return none
  | some attempt =>
    match observedDisposition attempt observation with
    | none => return none
    | some disposition =>
      if attempt.phase = .closed then return some attempt
      else
        let _ <- statement (SchedulerDb.updateAttempt attempt.attemptId
          (fun row => row.phase = attempt.phase && row.operationId.isSome &&
            row.operationId = attempt.operationId)
          (fun row => { row with
            disposition := disposition, outcomeRef := row.outcomeRef.or observation.outcomeRef
            fenceRef := row.fenceRef.or observation.fenceRef, updatedAt := observation.observedAt })
          (fun _ => rfl))
        let current <- requireSchedulerExecutionAttempt platform attempt.attemptId
        return some current

/-- Rejects missing, stale, or contradictory observations without changing held exclusion. -/
def acceptSchedulerExecutionObservation :
    Option ExecutionBackendObservation -> SchedulerWrites (Option SchedulerExecutionAttempt)
  | none => return none
  | some observation => takeObservation platform observation

structure MarkSchedulerExecutionAttemptClosingInput where
  (attemptId cause : String)
  outcomeRef : Option String
  timestamp : String

/-- Revokes new authority before cancellation or terminal handoff; the first
cause survives late facts. -/
def markSchedulerExecutionAttemptClosing (input : MarkSchedulerExecutionAttemptClosingInput) :
    SchedulerWrites SchedulerExecutionAttempt := do
  let _ <- requireSchedulerExecutionAttempt platform input.attemptId
  let _ <- statement (SchedulerDb.updateAttempt input.attemptId (·.isLive)
    (fun row => { row with
      phase := .closing, terminalCause := row.terminalCause.or (some input.cause)
      outcomeRef := row.outcomeRef.or input.outcomeRef, updatedAt := input.timestamp })
    (fun _ => rfl))
  requireSchedulerExecutionAttempt platform input.attemptId

structure CloseSchedulerExecutionAttemptWithoutEffectsInput where
  attemptId : String
  noOutstandingEffects : Bool
  cause : String
  requeue : Bool
  timestamp : String

/-- Returns the entry of a closed attempt to the queue. -/
def requeueEntry (queueEntryId : String) (requeue : Bool) : SchedulerWrites Bool :=
  if requeue then
    statement (SchedulerDb.updateEntry queueEntryId (·.status = .admitted)
      (fun row => { row with status := .queued }) (fun _ => rfl))
  else return false

/-- The entry that a requeue must find. -/
def requireRequeuedEntry (queueEntryId : String) (requeue : Bool) : SchedulerWrites Unit :=
  query fun db =>
    if requeue then (db.readEntry platform queueEntryId none).map (fun _ => ()) else .ok ()

/-- Closes only the entire attempt's definite no-effect refusal. -/
def closeSchedulerExecutionAttemptWithoutEffects
    (input : CloseSchedulerExecutionAttemptWithoutEffectsInput) :
    SchedulerWrites SchedulerExecutionAttempt :=
  atomically do
    let attempt <- requireSchedulerExecutionAttempt platform input.attemptId
    throwIf (input.noOutstandingEffects = false)
      (.refusal "Attempt closure requires definite whole-attempt no-effect proof.")
    if attempt.phase = .closed then return attempt
    else
      throwIf (attempt.disposition = .accepted)
        (.refusal "Accepted effects require the proved release fence.")
      requireRequeuedEntry platform attempt.queueEntryId input.requeue
      let _ <- statement (SchedulerDb.updateAttempt attempt.attemptId (·.isLive)
        (fun row => { row with
          phase := .closed, disposition := .notAccepted
          terminalCause := row.terminalCause.or (some input.cause), updatedAt := input.timestamp })
        (fun _ => rfl))
      let _ <- requeueEntry attempt.queueEntryId input.requeue
      requireSchedulerExecutionAttempt platform attempt.attemptId

/-- The handoffs that must settle before release. -/
structure ExecutionReleaseProof where
  (terminalHandoff output evidence outsideWorkspaceCollection integrationDrain routesRevoked : Bool)

def ExecutionReleaseProof.complete (proof : ExecutionReleaseProof) : Bool :=
  proof.terminalHandoff && proof.output && proof.evidence && proof.outsideWorkspaceCollection &&
    proof.integrationDrain && proof.routesRevoked

structure CloseSchedulerExecutionAttemptWithFenceInput where
  correlation : ExecutionBackendCorrelation
  proof : ExecutionReleaseProof
  (fenceRef timestamp : String)

/-- Releases exclusion only after complete Core barriers and the exact backend fence. -/
def closeSchedulerExecutionAttemptWithFence (input : CloseSchedulerExecutionAttemptWithFenceInput) :
    SchedulerWrites SchedulerExecutionAttempt := do
  let attempt <- requireSchedulerExecutionAttempt platform input.correlation.attemptId
  let correlation <- query (fun _ => schedulerExecutionCorrelation attempt)
  throwIf (platform.commandInputHash correlation ≠ platform.commandInputHash input.correlation \/
      input.fenceRef = "" \/
      (attempt.fenceRef ≠ none /\ attempt.fenceRef ≠ some input.fenceRef) \/
      input.proof.complete = false)
    (.refusal "Attempt release has unresolved handoff or fencing proof.")
  if attempt.phase = .closed then return attempt
  else
    throwIf (attempt.phase ≠ .closing) (.refusal "Attempt release has no revoked owner.")
    let updated <- statement (SchedulerDb.updateAttempt attempt.attemptId
      (fun row => row.phase = .closing && row.operationId.isSome &&
        row.operationId = attempt.operationId)
      (fun row => { row with
        phase := .closed, fenceRef := some input.fenceRef, updatedAt := input.timestamp })
      (fun _ => rfl))
    throwIf (updated = false) (.refusal "Release proof lost its attempt ownership race.")
    requireSchedulerExecutionAttempt platform attempt.attemptId

structure TerminalTurn where
  (id workspaceId threadId status timestamp : String)

/-- The statuses that end a Turn. -/
def terminalStatuses : List String :=
  ["completed", "interrupted", "cancelled", "failed"]

def markEach (platform : SchedulerPlatform) (turn : TerminalTurn) :
    List SchedulerExecutionAttempt -> SchedulerWrites Unit
  | [] => return ()
  | attempt :: rest =>
    if attempt.phase = .closed then markEach platform turn rest
    else do
      let _ <- markSchedulerExecutionAttemptClosing platform
        ⟨attempt.attemptId, "turn-" ++ turn.status,
          some ("turn:" ++ turn.id ++ ":" ++ turn.status), turn.timestamp⟩
      markEach platform turn rest

/-- Terminal product publication revokes authority; only the backend's complete
release proof closes it. -/
def markSchedulerAttemptForTerminalTurn (turn : TerminalTurn) : SchedulerWrites Unit :=
  if turn.status ∈ terminalStatuses then do
    let attempts <- query (SchedulerDb.readAttemptsForTurn platform turn.workspaceId turn.threadId
      turn.id)
    markEach platform turn attempts
  else return ()

/-! ## Calls -/

inductive SchedulerCall where
  | createEntry (input : CreateSchedulerAdmissionEntryInput)
  | deny (queueEntryId : String) (denialReason : AdmissionDenialReason)
  | retryDenied (queueEntryId workspaceId : String)
  | cancel (queueEntryId workspaceId : String)
  | create (input : CreateSchedulerExecutionAttemptInput)
  | bind (input : BindSchedulerExecutionAttemptSessionInput)
  | finalize (input : FinalizeSchedulerExecutionAttemptInput)
  | recordOperation (input : RecordSchedulerExecutionOperationInput)
  | acceptObservation (observation : Option ExecutionBackendObservation)
  | markClosing (input : MarkSchedulerExecutionAttemptClosingInput)
  | closeWithoutEffects (input : CloseSchedulerExecutionAttemptWithoutEffectsInput)
  | closeWithFence (input : CloseSchedulerExecutionAttemptWithFenceInput)
  | markForTerminalTurn (turn : TerminalTurn)

/-- A call and the other tables at its time. -/
structure SchedulerEvent where
  world : SchedulerWorld
  call : SchedulerCall

/-- The tables that a call leaves, whether or not it throws. -/
def applyCall (event : SchedulerEvent) (db : SchedulerDb) : SchedulerDb :=
  match event.call with
  | .createEntry input => final (createSchedulerAdmissionEntry platform input) db
  | .deny queueEntryId denialReason =>
    final (denySchedulerAdmissionEntry platform queueEntryId denialReason) db
  | .retryDenied queueEntryId workspaceId =>
    final (retryDeniedSchedulerAdmissionEntry platform event.world queueEntryId workspaceId) db
  | .cancel queueEntryId workspaceId =>
    final (cancelSchedulerAdmissionEntry platform queueEntryId workspaceId) db
  | .create input => final (createSchedulerExecutionAttempt platform event.world input) db
  | .bind input => final (bindSchedulerExecutionAttemptSession platform input) db
  | .finalize input => final (finalizeSchedulerExecutionAttemptInput platform input) db
  | .recordOperation input =>
    final (recordSchedulerExecutionOperation platform event.world input) db
  | .acceptObservation observation =>
    final (acceptSchedulerExecutionObservation platform observation) db
  | .markClosing input => final (markSchedulerExecutionAttemptClosing platform input) db
  | .closeWithoutEffects input =>
    final (closeSchedulerExecutionAttemptWithoutEffects platform input) db
  | .closeWithFence input => final (closeSchedulerExecutionAttemptWithFence platform input) db
  | .markForTerminalTurn turn => final (markSchedulerAttemptForTerminalTurn platform turn) db

def schedulerAfter (events : List SchedulerEvent) : SchedulerDb :=
  runCalls (applyCall platform) events .empty

end ExecutionAttempts
end OpenKit
