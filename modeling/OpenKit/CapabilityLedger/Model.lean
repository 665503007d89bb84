import Mathlib.Data.List.Dedup
import Mathlib.Data.List.Sort
import OpenKit.Foundation.Fallible
import OpenKit.Foundation.Table
import OpenKit.Foundation.Text
import OpenKit.Foundation.Transactions

namespace OpenKit
namespace CapabilityLedger

open Foundation

/-!
# The capability usage ledger

`usage-ledger.ts` keeps one row for every capability call of a database, the
usage that was measured for it, and the audit events of its admission and its
end.  The commands here are the functions that run inside of the database's
transaction: a thrown error rolls the whole command back, so a command is a
function that gives a new ledger or an error.

The database has one owner, so a row does not repeat it.  The formats of
identifiers and texts are one parameter; JSON columns are kept as their values.
-/

/-! ## Rows -/

inductive CapabilityCallFamily where
  | llm | mcp | knowledge | network | runtime | storage | workspace
  deriving DecidableEq, Repr

inductive TerminalStatus where
  | succeeded | failed | denied | aborted | timedOut | interrupted | unknown
  deriving DecidableEq, Repr

inductive CallStatus where
  | queued | running
  | ended (status : TerminalStatus)
  deriving DecidableEq, Repr

def TerminalStatus.text : TerminalStatus -> String
  | .succeeded => "succeeded"
  | .failed => "failed"
  | .denied => "denied"
  | .aborted => "aborted"
  | .timedOut => "timed-out"
  | .interrupted => "interrupted"
  | .unknown => "unknown"

inductive ActorRef where
  | user (id : String)
  | other (kind id : String) (responsibleUserId : Option String)
  deriving DecidableEq, Repr

def responsibleUserIdForActor : ActorRef -> Option String
  | .user id => some id
  | .other _ _ responsibleUserId => responsibleUserId

/-- Whose database it is. -/
inductive LedgerOwner where
  | server
  | workspace (id : String)
  deriving DecidableEq, Repr

/-- The attribution that a replay compares, apart from the schema snapshot. -/
structure CallAttribution where
  capabilityId : String
  (threadId turnId itemId agentId agentSessionId packageSnapshotId runtimeOriginRef : Option String)
  runtimeCacheLineageRef : Option String
  sourceIds : List String
  (providerRef serviceRef : Option String)
  redactionClass : String
  deriving DecidableEq, Repr

/-- A row of `capability_calls`. -/
structure CallRow where
  callId : String
  requestId : Option String
  family : CapabilityCallFamily
  operation : String
  attribution : CallAttribution
  (schemaSnapshotId summary : Option String)
  status : CallStatus
  errorCode : Option String
  startedAt : Nat
  completedAt : Option Nat
  /-- `openkit.knowledge/delivery` of the extensions. -/
  deliveredKnowledgeAnswer : Option String
  deriving DecidableEq, Repr

/-- A row of `usage_records`. -/
structure UsageRow where
  (usageId capabilityCallId : String)
  (requestId threadId turnId itemId agentId agentSessionId responsibleUserId : Option String)
  sourceIds : List String
  (category unit : String)
  quantity : Rat
  (modelId providerModel providerRef source : Option String)
  recordedAt : Nat
  deriving DecidableEq, Repr

inductive CapabilityAuditAction where
  | admitted | finish
  deriving DecidableEq, Repr

inductive AuditOutcome where
  | succeeded | denied | unknown | failed | cancelled
  deriving DecidableEq, Repr

inductive AuditSeverity where
  | info | warning | error
  deriving DecidableEq, Repr

/-- The audit events of the ledger's own commands. -/
structure AuditRow where
  action : CapabilityAuditAction
  capabilityCallId : String
  actor : Option ActorRef
  (authentication requestId : Option String)
  outcome : AuditOutcome
  severity : AuditSeverity
  errorCode : Option String
  (summary resource : String)
  occurredAt : Nat
  deriving DecidableEq, Repr

structure Ledger where
  owner : LedgerOwner
  calls : Table CallRow String CallRow.callId
  usages : List UsageRow
  audits : List AuditRow

inductive LedgerError where
  /-- Workspace LLM/MCP admission requires an authority actor. -/
  | actorRequired
  /-- A protocol schema refuses the input. -/
  | invalid
  /-- Capability call database owner mismatch. -/
  | ownerMismatch
  /-- Capability call was not stored. -/
  | notStored
  /-- Capability call attribution conflicts with the existing request. -/
  | attributionConflicts
  /-- `usage_record_failed`. -/
  | usageRecordFailed
  /-- Capability call schema snapshot conflicts. -/
  | schemaSnapshotConflicts
  deriving DecidableEq, Repr

/-! ## Inputs -/

/-- `StartCapabilityCallInput`; `allocatedId` is the id that is allocated when
the input has none. -/
structure StartInput where
  owner : LedgerOwner
  callId : Option String
  allocatedId : String
  requestId : Option String
  family : CapabilityCallFamily
  operation : String
  attribution : CallAttribution
  (schemaSnapshotId summary : Option String)
  authorityActor : Option ActorRef
  (authentication auditLineage : Option String)
  now : Nat
  deriving DecidableEq, Repr

/-- One measurement and the id that is allocated when it has none. -/
structure Measurement where
  usageId : Option String
  (allocatedId category unit : String)
  quantity : Rat
  (modelId providerModel providerRef source : Option String)
  deriving DecidableEq, Repr

/-- `RecordUsageInput`: the call as its start returned it. -/
structure UsageInput where
  owner : LedgerOwner
  callId : String
  requestId : Option String
  attribution : CallAttribution
  authorityActor : Option ActorRef
  records : List Measurement
  now : Nat
  deriving DecidableEq, Repr

structure FinishInput where
  callId : String
  status : TerminalStatus
  (errorCode deliveredKnowledgeAnswer auditLineage : Option String)
  now : Nat
  deriving DecidableEq, Repr

/-- The formats that the protocol schemas ask of an input.  The time and an
allocated id always have the right format. -/
structure LedgerFormats where
  start : StartInput -> Bool
  measurement : UsageInput -> Measurement -> Bool
  finish : FinishInput -> Bool
  start_stable : ∀ input allocatedId now,
    start { input with allocatedId := allocatedId, now := now } = start input
  measurement_stable : ∀ input record records allocatedId now,
    measurement { input with records := records, now := now }
      { record with allocatedId := allocatedId } = measurement input record

structure StartedCall where
  id : String
  inserted : Bool
  call : CallRow
  authorityActor : Option ActorRef
  deriving DecidableEq, Repr

/-! ## Reading -/

/-- Non-empty source ids without repetitions, sorted. -/
def normalizeSourceIds (sourceIds : List String) : List String :=
  (sourceIds.dedup.filter (· ≠ "")).insertionSort
    (fun left right => codeUnitsLe left right)

namespace Ledger

def empty (owner : LedgerOwner) : Ledger where
  owner := owner
  calls := .empty
  usages := []
  audits := []

def findCapabilityCallById (ledger : Ledger) (callId : String) : Option CallRow :=
  ledger.calls.find? callId

/-- The idempotency key of a call; the index makes it unique when there is a
request id. -/
def hasKey (requestId : Option String) (family : CapabilityCallFamily) (operation : String)
    (row : CallRow) : Bool :=
  row.requestId = requestId && row.family = family && row.operation = operation

def findCapabilityCallByIdOrIdempotency (ledger : Ledger) (input : StartInput) :
    Except LedgerError CallRow :=
  let byRequest :=
    if input.requestId.isSome then
      ledger.calls.rows.find? (hasKey input.requestId input.family input.operation)
    else none
  match byRequest with
  | some stored => .ok stored
  | none =>
    match ledger.findCapabilityCallById (input.callId.getD input.allocatedId) with
    | some stored =>
      if hasKey input.requestId input.family input.operation stored then .ok stored
      else .error .notStored
    | none => .error .notStored

def admission? (ledger : Ledger) (callId : String) : Option AuditRow :=
  ledger.audits.find? (fun event => event.action = .admitted && event.capabilityCallId = callId)

end Ledger

def matchesAttribution (stored incoming : CallRow) : Bool :=
  decide ({ stored.attribution with sourceIds := [] } =
      { incoming.attribution with sourceIds := [] }) &&
    stored.schemaSnapshotId = incoming.schemaSnapshotId &&
    decide (normalizeSourceIds (normalizeSourceIds stored.attribution.sourceIds) =
      normalizeSourceIds incoming.attribution.sourceIds)

/-! ## Commands -/

def protocolCall (input : StartInput) : CallRow where
  callId := input.callId.getD input.allocatedId
  requestId := input.requestId
  family := input.family
  operation := input.operation
  attribution :=
    { input.attribution with sourceIds := normalizeSourceIds input.attribution.sourceIds }
  schemaSnapshotId := input.schemaSnapshotId
  summary := input.summary
  status := .running
  errorCode := none
  startedAt := input.now
  completedAt := none
  deliveredKnowledgeAnswer := none

/-- The row that is written for a call: its source ids are normalized once more. -/
def storedCall (call : CallRow) : CallRow :=
  { call with attribution :=
      { call.attribution with sourceIds := normalizeSourceIds call.attribution.sourceIds } }

/-- The primary key or the idempotency index keeps a row out. -/
def collides (row new : CallRow) : Bool :=
  row.callId = new.callId ||
    (new.requestId.isSome && Ledger.hasKey new.requestId new.family new.operation row)

def admissionEvent (input : StartInput) (call : CallRow) : AuditRow where
  action := .admitted
  capabilityCallId := call.callId
  actor := input.authorityActor
  authentication := input.authentication
  requestId := call.requestId.or input.auditLineage
  outcome := .unknown
  severity := .info
  errorCode := none
  summary := "Capability call admitted; effect outcome is not yet known."
  resource := "capability:" ++ call.attribution.capabilityId
  occurredAt := input.now

namespace Ledger

/-- `INSERT OR IGNORE` with the admission event of an inserted call. -/
def insertOrIgnore (ledger : Ledger) (input : StartInput) : Ledger × Bool :=
  let call := storedCall (protocolCall input)
  if ledger.calls.rows.any (collides · call) then (ledger, false)
  else
    ({ ledger with
      calls := ledger.calls.insert call
      audits := ledger.audits ++
        (if input.authorityActor.isSome then [admissionEvent input call] else []) }, true)

def startCapabilityCall (formats : LedgerFormats) (input : StartInput) (ledger : Ledger) :
    Except LedgerError (StartedCall × Ledger) :=
  if ledger.owner ≠ .server /\ (input.family = .llm \/ input.family = .mcp) /\
      input.authorityActor = none then .error .actorRequired
  else if formats.start input = false then .error .invalid
  else if input.owner ≠ ledger.owner then .error .ownerMismatch
  else do
    let written := ledger.insertOrIgnore input
    let stored <- written.1.findCapabilityCallByIdOrIdempotency input
    if matchesAttribution stored (protocolCall input) then
      .ok (⟨stored.callId, written.2, stored, (written.1.admission? stored.callId).bind (·.actor)⟩,
        written.1)
    else .error .attributionConflicts

end Ledger

def usageRecord (input : UsageInput) (record : Measurement) : UsageRow :=
  { record with
    usageId := record.usageId.getD record.allocatedId, capabilityCallId := input.callId
    requestId := input.requestId, threadId := input.attribution.threadId
    turnId := input.attribution.turnId, itemId := input.attribution.itemId
    agentId := input.attribution.agentId, agentSessionId := input.attribution.agentSessionId
    responsibleUserId := input.authorityActor.bind responsibleUserIdForActor
    sourceIds := normalizeSourceIds (normalizeSourceIds input.attribution.sourceIds)
    providerRef := record.providerRef.or input.attribution.providerRef, recordedAt := input.now }

/-- The columns that `hasEquivalentUsageRecord` compares. -/
def isEquivalentUsage (stored usage : UsageRow) : Bool :=
  decide (stored.capabilityCallId = usage.capabilityCallId /\ stored.category = usage.category /\
    stored.unit = usage.unit /\ stored.quantity = usage.quantity /\ stored.modelId = usage.modelId /\
    stored.providerModel = usage.providerModel /\ stored.providerRef = usage.providerRef /\
    stored.source = usage.source /\ stored.sourceIds = usage.sourceIds)

namespace Ledger

def hasEquivalentUsageRecord (ledger : Ledger) (usage : UsageRow) : Option String :=
  (ledger.usages.find? (isEquivalentUsage · usage)).map UsageRow.usageId

variable (formats : LedgerFormats) (input : UsageInput)

/-- One measurement: an equivalent one is kept, a new one is inserted. -/
def recordMeasurement (record : Measurement)
    (ledger : Ledger) : Except LedgerError (String × Ledger) :=
  if formats.measurement input record = false then .error .usageRecordFailed
  else
    let usage := usageRecord input record
    match ledger.hasEquivalentUsageRecord usage with
    | some equivalent => .ok (equivalent, ledger)
    | none =>
      if ledger.usages.any (·.usageId = usage.usageId) then
        .error .usageRecordFailed
      else .ok (usage.usageId, { ledger with usages := ledger.usages ++ [usage] })

/-- The loop of `recordUsageInDb`.  What its `catch` block writes is rolled back
together with the command. -/
def recordMeasurements (formats : LedgerFormats) (input : UsageInput) :
    List Measurement -> Ledger -> Except LedgerError (List String × Ledger)
  | [], ledger => .ok ([], ledger)
  | record :: rest, ledger => do
      let first <- ledger.recordMeasurement formats input record
      let others <- recordMeasurements formats input rest first.2
      .ok (first.1 :: others.1, others.2)

def recordUsage (ledger : Ledger) : Except LedgerError (List String × Ledger) :=
  if input.owner ≠ ledger.owner then .error .ownerMismatch
  else recordMeasurements formats input input.records ledger

end Ledger

def capabilityAuditSeverity : TerminalStatus -> AuditSeverity
  | .succeeded => .info
  | .failed => .error
  | .timedOut => .error
  | _ => .warning

def capabilityAuditOutcome : TerminalStatus -> AuditOutcome
  | .succeeded => .succeeded
  | .denied => .denied
  | .unknown => .unknown
  | .failed => .failed
  | .timedOut => .failed
  | _ => .cancelled

def capabilityAuditSummary (status : TerminalStatus) (call : CallRow) (errorCode : Option String) :
    String :=
  match status with
  | .succeeded =>
    "Capability call succeeded: " ++ call.summary.getD call.attribution.capabilityId
  | status =>
    "Capability call " ++ status.text ++ ": " ++ errorCode.getD call.attribution.capabilityId

/-- The call after its end. -/
def finishedCall (input : FinishInput) (call : CallRow) : CallRow :=
  { call with
    status := .ended input.status, errorCode := input.errorCode, completedAt := some input.now
    deliveredKnowledgeAnswer := input.deliveredKnowledgeAnswer.or call.deliveredKnowledgeAnswer }

namespace Ledger

def finishEvent (ledger : Ledger) (input : FinishInput) (call : CallRow) : AuditRow :=
  let admitted := ledger.admission? call.callId
  { action := .finish
    capabilityCallId := call.callId, actor := admitted.bind (·.actor)
    authentication := admitted.bind (·.authentication)
    requestId := (call.requestId.or (admitted.bind (·.requestId))).or input.auditLineage
    outcome := capabilityAuditOutcome input.status, severity := capabilityAuditSeverity input.status
    errorCode := input.errorCode
    summary := capabilityAuditSummary input.status call input.errorCode
    resource := "capability:" ++ call.attribution.capabilityId, occurredAt := input.now }

/-- The terminal update of an open call with its event. -/
def endCall (ledger : Ledger) (input : FinishInput) (call : CallRow) : Ledger :=
  { ledger with
    calls := ledger.calls.updateWhere
      (fun row => row.callId = input.callId && row.completedAt.isNone)
      (finishedCall input) (fun _ => rfl)
    audits := ledger.audits ++ [ledger.finishEvent input call] }

/-- `finishCapabilityCallInDb`: an unknown or ended call is left alone. -/
def finishCapabilityCall (formats : LedgerFormats) (input : FinishInput) (ledger : Ledger) :
    Except LedgerError (Unit × Ledger) :=
  match ledger.findCapabilityCallById input.callId with
  | none => .ok ((), ledger)
  | some call =>
    if call.completedAt.isSome then .ok ((), ledger)
    else if formats.finish input = false \/ input.now < call.startedAt then .error .invalid
    else .ok ((), ledger.endCall input call)

def bindSchema (ledger : Ledger) (callId schemaSnapshotId : String) : Ledger :=
  { ledger with
    calls := ledger.calls.updateWhere
      (fun row => row.callId = callId && row.status = .running && row.schemaSnapshotId.isNone)
      (fun row => { row with schemaSnapshotId := some schemaSnapshotId }) (fun _ => rfl) }

def stampCapabilityCallSchemaSnapshot (callId schemaSnapshotId : String) (ledger : Ledger) :
    Except LedgerError (Unit × Ledger) :=
  if (ledger.findCapabilityCallById callId).bind (·.schemaSnapshotId) = some schemaSnapshotId then
    .ok ((), ledger)
  else
    let bound := ledger.bindSchema callId schemaSnapshotId
    if (bound.findCapabilityCallById callId).bind (·.schemaSnapshotId) = some schemaSnapshotId then
      .ok ((), bound)
    else .error .schemaSnapshotConflicts

def recoveryFinish (now : Nat) (callId : String) : FinishInput where
  callId := callId
  status := .unknown
  errorCode := some "capability_call_recovered_after_restart"
  deliveredKnowledgeAnswer := none
  auditLineage := none
  now := now

/-- Finish the listed calls one after another, up to the first refusal. -/
def recoverCalls (formats : LedgerFormats) (now : Nat) : List CallRow -> Ledger -> Ledger
  | [], ledger => ledger
  | call :: rest, ledger =>
    match ledger.finishCapabilityCall formats (recoveryFinish now call.callId) with
    | .ok (_, next) => recoverCalls formats now rest next
    | .error _ => ledger

def recoverRunningCapabilityCalls (formats : LedgerFormats) (now : Nat) (ledger : Ledger) : Ledger :=
  recoverCalls formats now (ledger.calls.rows.filter (·.status = .running)) ledger

end Ledger

/-! ## Histories -/

inductive LedgerCall where
  | start (input : StartInput)
  | stamp (callId schemaSnapshotId : String)
  | usage (input : UsageInput)
  | finish (input : FinishInput)
  | recover (now : Nat)

/-- The ledger after a command; a refused one changes nothing. -/
def Ledger.apply (formats : LedgerFormats) (call : LedgerCall) (ledger : Ledger) : Ledger :=
  let settle {α : Type} (result : Except LedgerError (α × Ledger)) : Ledger :=
    match result with
    | .ok (_, next) => next
    | .error _ => ledger
  match call with
  | .start input => settle (ledger.startCapabilityCall formats input)
  | .stamp callId schemaSnapshotId =>
    settle (ledger.stampCapabilityCallSchemaSnapshot callId schemaSnapshotId)
  | .usage input => settle (ledger.recordUsage formats input)
  | .finish input => settle (ledger.finishCapabilityCall formats input)
  | .recover now => ledger.recoverRunningCapabilityCalls formats now

def Ledger.run (formats : LedgerFormats) (calls : List LedgerCall) (ledger : Ledger) : Ledger :=
  runCalls (Ledger.apply formats) calls ledger

end CapabilityLedger
end OpenKit
