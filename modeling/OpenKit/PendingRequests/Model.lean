import OpenKit.Foundation.Table
import OpenKit.Foundation.Text

namespace OpenKit
namespace PendingRequests

open Foundation

/-!
# Pending requests

A pending request asks a human for an approval or for input while the agent
goes on.  One row carries its whole life: the decision, the claim of the
execution that a grant allows, the execution's disposition, and the delivery of
the outcome on a later Turn.  Every operation reads rows and runs guarded
`UPDATE` statements in one transaction.  The statements are listed once, as
`RecordUpdate`, each with its `WHERE` clause and what it sets; the operations
below choose among them as the source does.

Rows that do not parse are left out: every value that these operations write
parses.  JSON columns are kept as the texts or values that are compared.
-/

/-! ## Records -/

inductive PendingRequestKind where
  | approval | userInput
deriving DecidableEq

/-- Who asked, and which executor may receive the outcome. -/
inductive PendingRequesterKind where
  | worker | assistant | coordinator | person
deriving DecidableEq

inductive PendingRequestState where
  | pending | resolved | ended
deriving DecidableEq

inductive PendingRequestResolution where
  | granted | denied | answered
deriving DecidableEq

inductive PendingRequestEnding where
  | withdrawn | invalidated
deriving DecidableEq

inductive PendingRequestClaim where
  | unclaimed | claimed | finished
deriving DecidableEq

inductive PendingRequestDisposition where
  | approvedExecuted | deniedNotExecuted | executionError | outcomeUnknown
deriving DecidableEq

inductive PendingRequestDelivery where
  | undelivered | frozen | delivered | deliveryUnknown | closedOut
deriving DecidableEq

inductive PendingDeliveryCause where
  | outcome | carried
deriving DecidableEq

inductive PendingActorKind where
  | user | system
deriving DecidableEq

structure PendingRequestActor where
  kind : PendingActorKind
  id : String
deriving DecidableEq

/-- The exact intent of a governed command. -/
structure GovernedIntent where
  operation : String
  goalId : Option String
  /-- The canonical text of the remaining fields. -/
  details : String
deriving DecidableEq

/-- The captured call binding of an agent approval. -/
structure CapturedCall where
  (serverId catalogRevision schemaSnapshotId toolName canonicalArgumentsJson : String)
  argumentsDigest : String
deriving DecidableEq

structure PendingRequestRecord where
  (requestId workspaceId threadId raisingTurnId requestItemId : String)
  kind : PendingRequestKind
  requesterKind : PendingRequesterKind
  (agentId agentSessionId : Option String)
  responsibleUserId : String
  state : PendingRequestState
  resolution : Option PendingRequestResolution
  decidingActor : Option PendingRequestActor
  (decidingActorContext decidedAt : Option String)
  answerMap : Option (List (String × String))
  ending : Option PendingRequestEnding
  invalidatingEvent : Option String
  endingActor : Option PendingRequestActor
  (endedAt serverId catalogRevision schemaSnapshotId toolName canonicalArgumentsJson : Option String)
  argumentsDigest : Option String
  governedIntent : Option GovernedIntent
  assistantHandoff : Option String
  claim : PendingRequestClaim
  executionCallId : Option String
  disposition : Option PendingRequestDisposition
  (dispositionReason heldResult publicationTurnId invalidationTurnId : Option String)
  delivery : PendingRequestDelivery
  deliveryTurnId : Option String
  deliveryCause : Option PendingDeliveryCause
  (createdAt updatedAt : String)
deriving DecidableEq

abbrev PendingTable := Table PendingRequestRecord String PendingRequestRecord.requestId

namespace PendingRequestRecord

variable (record : PendingRequestRecord)

/-- Identifies captured command intent independently of who requested it. -/
def isCommandIntentApproval : Bool :=
  record.kind = .approval && record.serverId.isNone && record.governedIntent.isSome

/-- Whether the record has a final outcome: an ending, a denial, an answer, a
recorded agent grant, or a command-intent grant. -/
def isFinalOutcome : Bool :=
  match record.state, record.resolution with
  | .ended, _ => true
  | .pending, _ => false
  | .resolved, none => false
  | .resolved, some .denied => true
  | .resolved, some .answered => true
  | .resolved, some .granted => record.isCommandIntentApproval || record.disposition.isSome

/-- Whether delivery may freeze the outcome. -/
def isReadyOutcome : Bool :=
  record.delivery = .undelivered && record.isFinalOutcome

end PendingRequestRecord

/-- A closed failure raised before any record write. -/
structure PendingRequestCommandError where
  (code message : String)
  status : Nat
deriving DecidableEq

/-! ## The update statements -/

/-- The terminal dispositions of an execution that was claimed. -/
inductive ExecutionDisposition where
  | approvedExecuted | executionError | outcomeUnknown
deriving DecidableEq

def ExecutionDisposition.disposition : ExecutionDisposition -> PendingRequestDisposition
  | .approvedExecuted => .approvedExecuted
  | .executionError => .executionError
  | .outcomeUnknown => .outcomeUnknown

/-- The decision columns that a resolving statement sets. -/
structure Decision where
  actor : PendingRequestActor
  context : Option String
  now : String

/-- The `UPDATE pending_requests` statements, without the row they name. -/
inductive RecordUpdate where
  | deny (decision : Decision) (governsCall : Bool)
  | answer (decision : Decision) (answers : List (String × String))
  | endRequest (ending : PendingRequestEnding) (event : Option String) (actor : PendingRequestActor)
      (now : String)
  | refuseGrant (decision : Decision) (reason : String)
  | claimGrant (decision : Decision) (callId : String)
  | grantIntent (decision : Decision)
  | claimIntent (callId now : String)
  | refuseIntent (reason now : String)
  | finish (disposition : ExecutionDisposition) (reason heldResult : Option String) (now : String)
  | settle (now : String)
  | freeze (turnId : String) (cause : PendingDeliveryCause) (now : String)
  | release (turnId now : String)
  | moveFrozen (turnId : String) (proved : Bool) (now : String)
  | refuseOnCloseout (reason turnId now : String)
  | markInvalidation (turnId now : String)
  | closeOut (turnId now : String)

namespace RecordUpdate

variable (record : PendingRequestRecord)

def isOpen : Bool :=
  record.state = .pending && record.claim = .unclaimed

/-- `server_id IS NULL AND governed_intent_json IS NOT NULL`. -/
def isIntent : Bool :=
  record.serverId.isNone && record.governedIntent.isSome

/-- A recorded grant whose execution is neither claimed nor settled. -/
def isOpenGrant : Bool :=
  record.state = .resolved && record.resolution = some .granted &&
    record.claim = .unclaimed && record.disposition.isNone

/-- The `WHERE` clause. -/
def guard (update : RecordUpdate) (record : PendingRequestRecord) : Bool :=
  match update with
  | .deny .. | .endRequest .. | .refuseGrant .. | .claimGrant .. => isOpen record
  | .answer .. => isOpen record && record.kind = .userInput
  | .grantIntent _ => isOpen record && isIntent record
  | .claimIntent .. | .refuseIntent .. => isOpenGrant record && isIntent record
  | .finish .. | .settle _ => record.claim = .claimed && record.disposition.isNone
  | .freeze .. | .closeOut .. => record.delivery = .undelivered
  | .release turnId _ | .moveFrozen turnId _ _ =>
    record.delivery = .frozen && record.deliveryTurnId = some turnId
  | .refuseOnCloseout .. => record.claim = .unclaimed && record.disposition.isNone
  | .markInvalidation .. => record.invalidationTurnId.isNone

/-- Set the columns of a resolution. -/
def resolve (resolution : PendingRequestResolution) (decision : Decision) : PendingRequestRecord :=
  { record with
    state := .resolved, resolution := some resolution, decidingActor := some decision.actor
    decidingActorContext := decision.context, decidedAt := some decision.now
    updatedAt := decision.now }

/-- The `SET` clause. -/
def write (update : RecordUpdate) (record : PendingRequestRecord) : PendingRequestRecord :=
  match update with
  | .deny decision governsCall =>
    { resolve record .denied decision with
      claim := .unclaimed, disposition := if governsCall then some .deniedNotExecuted else none
      dispositionReason := if governsCall then some "denied" else none }
  | .answer decision answers =>
    { resolve record .answered decision with answerMap := some answers }
  | .endRequest ending event actor now =>
    { record with
      state := .ended, ending := some ending, invalidatingEvent := event, endingActor := some actor
      endedAt := some now, updatedAt := now }
  | .refuseGrant decision reason =>
    { resolve record .granted decision with
      claim := .unclaimed, disposition := some .deniedNotExecuted
      dispositionReason := some reason }
  | .claimGrant decision callId =>
    { resolve record .granted decision with
      claim := .claimed, executionCallId := some callId }
  | .grantIntent decision => resolve record .granted decision
  | .claimIntent callId now =>
    { record with claim := .claimed, executionCallId := some callId, updatedAt := now }
  | .refuseIntent reason now =>
    { record with
      disposition := some .deniedNotExecuted, dispositionReason := some reason, updatedAt := now }
  | .finish disposition reason heldResult now =>
    { record with
      claim := .finished, disposition := some disposition.disposition, dispositionReason := reason
      heldResult := heldResult, updatedAt := now }
  | .settle now =>
    { record with
      claim := .finished, disposition := some .outcomeUnknown, dispositionReason := some "restart"
      updatedAt := now }
  | .freeze turnId cause now =>
    { record with
      delivery := .frozen, deliveryTurnId := some turnId, deliveryCause := some cause
      publicationTurnId := record.publicationTurnId.or (some turnId), updatedAt := now }
  | .release _ now =>
    { record with
      delivery := .undelivered, deliveryTurnId := none, deliveryCause := none, updatedAt := now }
  | .moveFrozen _ proved now =>
    { record with
      delivery := if proved then .delivered else .deliveryUnknown
      heldResult := if proved then none else record.heldResult, updatedAt := now }
  | .refuseOnCloseout reason turnId now =>
    { record with
      disposition := some .deniedNotExecuted, dispositionReason := some reason
      invalidationTurnId := record.invalidationTurnId.or (some turnId), updatedAt := now }
  | .markInvalidation turnId now =>
    { record with invalidationTurnId := some turnId, updatedAt := now }
  | .closeOut turnId now =>
    { record with
      delivery := .closedOut, publicationTurnId := record.publicationTurnId.or (some turnId)
      updatedAt := now }

theorem requestId_write (update : RecordUpdate) (record : PendingRequestRecord) :
    (update.write record).requestId = record.requestId := by
  cases update <;> rfl

end RecordUpdate

namespace PendingTable

variable (table : PendingTable) (update : RecordUpdate)

variable (requestId : String)

/-- `SELECT … WHERE request_id = ?`. -/
def readPendingRequest : Option PendingRequestRecord :=
  table.find? requestId

/-- Run a statement on the rows that also satisfy `where`. -/
def runWhere (selects : PendingRequestRecord -> Bool) : PendingTable :=
  table.updateWhere (fun record => selects record && update.guard record) update.write
    update.requestId_write

/-- Run a statement on one row. -/
def run : PendingTable :=
  table.runWhere update (·.requestId = requestId)

/-- Whether a statement changes the row of this id. -/
def changes : Bool :=
  (table.readPendingRequest requestId).any update.guard

/-- Run a statement on one row and return the row if it was changed. -/
def compareAndSet : Option PendingRequestRecord × PendingTable :=
  let after := table.run update requestId
  (if table.changes update requestId then after.readPendingRequest requestId else none, after)

end PendingTable

/-! ## Raising -/

structure RaisePendingRequestInput where
  (requestId workspaceId threadId raisingTurnId requestItemId : String)
  kind : PendingRequestKind
  requesterKind : PendingRequesterKind
  (agentId agentSessionId : Option String)
  responsibleUserId : String
  call : Option CapturedCall
  governedIntent : Option GovernedIntent
  (assistantHandoff questionDigest : Option String)
  now : String

/-- Pending requests one Thread may hold at once. -/
def PENDING_REQUEST_BOUND : Nat :=
  16

def OUTCOME_DELIVERY_BOUND : Nat :=
  16

/-- What the operations read from the platform. -/
structure PendingEnvironment where
  sha256Hex : String -> String
  /-- The object that a JSON text denotes, in canonical form. -/
  parseObject : String -> Option String
  executionCallIdForRequest : String -> String

variable (env : PendingEnvironment)

variable (record : PendingRequestRecord)

/-- Compares complete captured arguments, each with its own byte proof. -/
def sameCapturedArguments (call : CapturedCall) : Bool :=
  match record.canonicalArgumentsJson with
  | none => false
  | some text =>
    text ≠ "" && record.argumentsDigest = some ("sha256:" ++ env.sha256Hex text) &&
      call.argumentsDigest = "sha256:" ++ env.sha256Hex call.canonicalArgumentsJson &&
      match env.parseObject text, env.parseObject call.canonicalArgumentsJson with
      | some retained, some incoming => retained = incoming
      | _, _ => false

variable (input : RaisePendingRequestInput)

/-- Whether a used request id was used for this very request. -/
def sameRaiseIdentity : Bool :=
  record.workspaceId = input.workspaceId && record.threadId = input.threadId &&
    record.raisingTurnId = input.raisingTurnId && record.kind = input.kind &&
    record.requesterKind = input.requesterKind &&
    record.responsibleUserId = input.responsibleUserId && record.agentId = input.agentId &&
    (match input.call with
      | some call => sameCapturedArguments env record call
      | none => record.argumentsDigest = input.questionDigest) &&
    record.governedIntent = input.governedIntent && record.assistantHandoff = input.assistantHandoff

/-- Whether a pending record already asks what the input asks. -/
def sameQualifiedBinding :
    Bool :=
  record.workspaceId = input.workspaceId && record.threadId = input.threadId &&
    record.kind = input.kind &&
    match input.kind, input.call with
    | .userInput, _ =>
      record.agentId = input.agentId && record.argumentsDigest.isSome &&
        record.argumentsDigest = input.questionDigest
    | .approval, none =>
      -- Command intents deduplicate only for the exact same requester and effect.
      record.serverId.isNone && record.governedIntent.isSome && input.governedIntent.isSome &&
        record.requesterKind = input.requesterKind && record.agentId = input.agentId &&
        record.responsibleUserId = input.responsibleUserId &&
        record.governedIntent = input.governedIntent
    | .approval, some call =>
      record.serverId = some call.serverId && call.serverId ≠ "" &&
        record.catalogRevision = some call.catalogRevision &&
        record.schemaSnapshotId = some call.schemaSnapshotId &&
        record.toolName = some call.toolName && sameCapturedArguments env record call &&
        record.agentId = input.agentId && record.responsibleUserId = input.responsibleUserId

/-- The row that a raise inserts. -/
def raisedRecord : PendingRequestRecord :=
  { input with
    state := .pending, resolution := none, decidingActor := none, decidingActorContext := none
    decidedAt := none, answerMap := none, ending := none, invalidatingEvent := none
    endingActor := none, endedAt := none, serverId := input.call.map CapturedCall.serverId
    catalogRevision := input.call.map CapturedCall.catalogRevision
    schemaSnapshotId := input.call.map CapturedCall.schemaSnapshotId
    toolName := input.call.map CapturedCall.toolName
    canonicalArgumentsJson := input.call.map CapturedCall.canonicalArgumentsJson
    argumentsDigest := (input.call.map CapturedCall.argumentsDigest).or input.questionDigest
    claim := .unclaimed, executionCallId := none, disposition := none, dispositionReason := none
    heldResult := none, publicationTurnId := none, invalidationTurnId := none
    delivery := .undelivered, deliveryTurnId := none, deliveryCause := none, createdAt := input.now
    updatedAt := input.now }

namespace PendingTable

variable (table : PendingTable) (requestId : String)

/-- One Thread's requests in creation order. -/
def listThreadPendingRequests (workspaceId threadId : String) : List PendingRequestRecord :=
  (table.rows.filter (fun record =>
    record.workspaceId = workspaceId && record.threadId = threadId)).mergeSort
      (fun left right => left.createdAt < right.createdAt ||
        (left.createdAt = right.createdAt && left.requestId <= right.requestId))

/-- Checks duplicates and the per-Thread bound before any write. -/
def preflightPendingRequest (input : RaisePendingRequestInput) :
    Except PendingRequestCommandError (Option PendingRequestRecord) :=
  if input.assistantHandoff.isSome /\
      (input.kind ≠ .userInput \/ input.requesterKind ≠ .assistant) then
    .error ⟨"invalid_request",
      "Only an Assistant user-input request can retain a handoff selection.", 400⟩
  else
    match table.readPendingRequest input.requestId with
    | some existing =>
      if sameRaiseIdentity env existing input then .ok (some existing)
      else .error ⟨"idempotency_key_conflict",
        "The request id was already used for a different pending request.", 409⟩
    | none =>
      let pending := (table.listThreadPendingRequests input.workspaceId input.threadId).filter
        (·.state = .pending)
      match pending.find? (sameQualifiedBinding env · input) with
      | some duplicate => .ok (some duplicate)
      | none =>
        if PENDING_REQUEST_BOUND <= pending.length then
          .error ⟨"request_limit_reached", "The Thread already has 16 pending requests.", 409⟩
        else .ok none

/-- Raises a request or returns the pending duplicate, and whether it is new. -/
def raisePendingRequest (input : RaisePendingRequestInput) :
    Except PendingRequestCommandError (PendingRequestRecord × Bool) × PendingTable :=
  match table.preflightPendingRequest env input with
  | .error thrown => (.error thrown, table)
  | .ok (some existing) => (.ok (existing, false), table)
  | .ok none => (.ok (raisedRecord input, true), table.insert (raisedRecord input))

/-! ## Deciding -/

/-- Records a denial and, when the approval governs a call, its non-execution. -/
def denyPendingRequest (decision : Decision) : Option PendingRequestRecord × PendingTable :=
  match table.readPendingRequest requestId with
  | none => (none, table)
  | some current =>
    if RecordUpdate.isOpen current then
      table.compareAndSet
        (.deny decision (current.kind = .approval && current.serverId.isSome)) requestId
    else (none, table)

def answerPendingRequest (decision : Decision)
    (answers : List (String × String)) : Option PendingRequestRecord × PendingTable :=
  table.compareAndSet (.answer decision answers) requestId

def endPendingRequest (ending : PendingRequestEnding)
    (event : Option String) (actor : PendingRequestActor) (now : String) :
    Option PendingRequestRecord × PendingTable :=
  table.compareAndSet (.endRequest ending event actor now) requestId

def withdrawPendingRequest
    (actor : PendingRequestActor) (now : String) : Option PendingRequestRecord × PendingTable :=
  table.endPendingRequest requestId .withdrawn none actor now

def invalidatePendingRequest (requestId event : String)
    (actor : PendingRequestActor) (now : String) : Option PendingRequestRecord × PendingTable :=
  table.endPendingRequest requestId .invalidated (some event) actor now

/-- Ends only pending requests of the named Goal. -/
def invalidateGoalPendingRequests (goalId reason : String)
    (actor : PendingRequestActor) (now : String) (plansOnly : Bool) : Nat × PendingTable :=
  let selected := table.rows.filter fun record =>
    record.state = .pending && record.isCommandIntentApproval &&
      record.governedIntent.bind GovernedIntent.goalId = some goalId && !(plansOnly &&
        record.governedIntent.map GovernedIntent.operation ≠ some "goal.plan.approve")
  selected.foldl (fun (count, current) record =>
    let (ended, after) := current.invalidatePendingRequest record.requestId reason actor now
    (if ended.isSome then count + 1 else count, after)) (0, table)

end PendingTable

/-! ## Claims -/

/-- Synchronous grant evaluation inside the claim transaction. -/
inductive GrantEvaluation where
  | claim
  | refuse (reason : String)
  | endRequest (event : String) (actor : PendingRequestActor)

inductive GrantStep where
  | claimed | refused | ended | lost
deriving DecidableEq

namespace PendingTable

variable (table : PendingTable)

/-- Records a grant together with its claim or its non-execution. -/
def claimOrRefuseGrant (requestId : String) (decision : Decision) (evaluation : GrantEvaluation) :
    Except PendingRequestCommandError (GrantStep × PendingRequestRecord) × PendingTable :=
  match table.readPendingRequest requestId with
  | none => (.error ⟨"recovery_required", "The pending request is missing.", 409⟩, table)
  | some current =>
    if RecordUpdate.isOpen current = false then (.ok (.lost, current), table)
    else
      let (update, applied) : RecordUpdate × GrantStep :=
        match evaluation with
        | .endRequest event actor =>
          (.endRequest .invalidated (some event) actor decision.now, .ended)
        | .refuse reason => (.refuseGrant decision reason, .refused)
        | .claim => (.claimGrant decision (env.executionCallIdForRequest requestId), .claimed)
      let after := table.run update requestId
      let record := (after.readPendingRequest requestId).getD current
      (.ok (if table.changes update requestId then applied else .lost, record), after)

/-- Records a command-intent grant with its claim left open. -/
def grantCommandIntentRequest (requestId : String) (decision : Decision) :
    Option PendingRequestRecord × PendingTable :=
  table.compareAndSet (.grantIntent decision) requestId

/-- Claims an unclaimed command-intent grant for the governed command. -/
def claimCommandIntentGrant (requestId now : String) : Option PendingRequestRecord × PendingTable :=
  table.compareAndSet (.claimIntent (env.executionCallIdForRequest requestId) now) requestId

/-- Records a refused unclaimed command intent without rewriting its grant. -/
def refuseCommandIntentGrant (requestId reason now : String) :
    Option PendingRequestRecord × PendingTable :=
  table.compareAndSet (.refuseIntent reason now) requestId

/-- Finishes a claimed execution. -/
def finishPendingExecution (requestId : String)
    (disposition : ExecutionDisposition) (reason heldResult : Option String) (now : String) :
    Option PendingRequestRecord × PendingTable :=
  table.compareAndSet (.finish disposition reason heldResult now) requestId

/-- Settles claimed unfinished executions; they are never executed again. -/
def settleUnfinishedClaims (now : String)
    (usable : PendingRequestRecord -> Bool) : Nat × PendingTable :=
  let selected := table.rows.filter fun record =>
    (RecordUpdate.settle now).guard record && usable record
  selected.foldl (fun (count, current) record =>
    (if current.changes (.settle now) record.requestId then count + 1 else count,
      current.run (.settle now) record.requestId)) (0, table)

end PendingTable

/-! ## Delivery -/

/-- When an outcome became ready. -/
def readyTime (record : PendingRequestRecord) : String :=
  (record.decidedAt.or record.endedAt).getD record.createdAt

/-- `compareReadiness(left, right) <= 0`. -/
def readinessLe (left right : PendingRequestRecord) : Bool :=
  if readyTime left = readyTime right then codeUnitsLe left.requestId right.requestId
  else codeUnitsLe (readyTime left) (readyTime right)

/-- The Turn that admits a delivery. -/
structure DeliveryInput where
  (workspaceId threadId turnId : String)
  executor : PendingRequesterKind
  agentId : Option String
  cause : PendingDeliveryCause
  responsibleUserId : Option String
  now : String
  usable : PendingRequestRecord -> Bool

/-- Selects one executor's ready batch. -/
def selectReadyOutcomes (records : List PendingRequestRecord) (input : DeliveryInput) :
    List PendingRequestRecord :=
  let principalBound := input.cause = .outcome &&
    input.executor ∈ [PendingRequesterKind.worker, .assistant]
  ((records.filter fun record =>
    record.requesterKind = input.executor &&
      (input.executor ≠ .worker || record.agentId = input.agentId) &&
      (!principalBound || some record.responsibleUserId = input.responsibleUserId) &&
      record.isReadyOutcome).mergeSort readinessLe).take OUTCOME_DELIVERY_BOUND

namespace PendingTable

variable (table : PendingTable)

/-- Freezes one selected ready batch into a Turn. -/
def freezeReadyOutcomes (input : DeliveryInput) : List PendingRequestRecord × PendingTable :=
  let selected := selectReadyOutcomes
    ((table.listThreadPendingRequests input.workspaceId input.threadId).filter input.usable) input
  let after := selected.foldl (fun current record =>
    current.run (.freeze input.turnId input.cause input.now) record.requestId) table
  (selected.map (fun record => (after.readPendingRequest record.requestId).getD record), after)

/-- The rows frozen into a Turn, before and after a statement on all of them. -/
def updateFrozen (update : RecordUpdate) : List PendingRequestRecord × PendingTable :=
  let records := table.rows.filter update.guard
  let after := table.runWhere update (fun _ => true)
  (records.map (fun record => (after.readPendingRequest record.requestId).getD record), after)

/-- Returns frozen outcomes to undelivered and keeps the publication Turn. -/
def releaseFrozenOutcomes (turnId now : String) : List PendingRequestRecord × PendingTable :=
  table.updateFrozen (.release turnId now)

/-- Proves delivery and clears the held result. -/
def proveFrozenDelivery (turnId now : String) : List PendingRequestRecord × PendingTable :=
  table.updateFrozen (.moveFrozen turnId true now)

/-- Records that the delivery is unknown; the outcome is not resubmitted. -/
def markFrozenDeliveryUnknown (turnId now : String) : List PendingRequestRecord × PendingTable :=
  table.updateFrozen (.moveFrozen turnId false now)

end PendingTable

/-! ## Closeout -/

structure CloseoutInput where
  (workspaceId threadId closeoutTurnId : String)
  actor : PendingRequestActor
  now : String
  usable : PendingRequestRecord -> Bool
  invalidatingEvent : PendingRequestRecord -> String

namespace PendingTable

/-- A command-intent grant that no execution will claim any more. -/
def isAbandonedGrant (record : PendingRequestRecord) : Bool :=
  record.isCommandIntentApproval && record.resolution = some .granted &&
    record.claim = .unclaimed && record.disposition.isNone

/-- A refused command-intent grant whose refusal no Turn has published. -/
def isOutstandingInvalidation (record : PendingRequestRecord) : Bool :=
  record.disposition = some .deniedNotExecuted && record.isCommandIntentApproval &&
    record.resolution = some .granted && record.invalidationTurnId.isNone

/-- Run a statement on one row if a test of the row, read before, holds. -/
def runIf (table : PendingTable) (test : Bool) (update : RecordUpdate) (requestId : String) :
    PendingTable :=
  if test then table.run update requestId else table

/-- The closeout of one listed record. -/
def closeoutRecord (table : PendingTable) (input : CloseoutInput) (record : PendingRequestRecord) :
    PendingTable :=
  let requestId := record.requestId
  let ended := table.runIf (RecordUpdate.isOpen record)
    (.endRequest .invalidated (some (input.invalidatingEvent record)) input.actor input.now) requestId
  let current := (ended.readPendingRequest requestId).getD record
  let refused := ended.runIf (isAbandonedGrant current)
    (.refuseOnCloseout (input.invalidatingEvent record) input.closeoutTurnId input.now) requestId
  let next := (refused.readPendingRequest requestId).getD current
  let marked := refused.runIf (isOutstandingInvalidation next)
    (.markInvalidation input.closeoutTurnId input.now) requestId
  marked.runIf (next.delivery = .undelivered &&
      ((marked.readPendingRequest requestId).getD next).isFinalOutcome)
    (.closeOut input.closeoutTurnId input.now) requestId

/-- Ends a Thread's pending requests and closes out every selected undelivered
outcome on one publication Turn. -/
def applyPendingCloseout (table : PendingTable) (input : CloseoutInput) :
    Except PendingRequestCommandError (List PendingRequestRecord) × PendingTable :=
  let records := (table.listThreadPendingRequests input.workspaceId input.threadId).filter
    input.usable
  if records.any (fun record => record.claim = .claimed && record.disposition.isNone) then
    (.error ⟨"request_executing", "A pending request execution is still claimed.", 409⟩, table)
  else
    let after := records.foldl (fun current record => current.closeoutRecord input record) table
    -- The source reads each row after its own closeout; the later ones leave it alone.
    let published := records.filterMap fun record =>
      (after.readPendingRequest record.requestId).filter fun stored =>
        stored.publicationTurnId = some input.closeoutTurnId ||
          stored.invalidationTurnId = some input.closeoutTurnId
    (.ok published, after)

end PendingTable

/-! ## Histories -/

/-- The record operations, each one transaction. -/
inductive PendingOperation where
  | raise (input : RaisePendingRequestInput)
  | deny (requestId : String) (decision : Decision)
  | answer (requestId : String) (decision : Decision) (answers : List (String × String))
  | withdraw (requestId : String) (actor : PendingRequestActor) (now : String)
  | invalidate (requestId event : String) (actor : PendingRequestActor) (now : String)
  | invalidateGoal (goalId reason : String) (actor : PendingRequestActor) (now : String)
      (plansOnly : Bool)
  | claimOrRefuseGrant (requestId : String) (decision : Decision) (evaluation : GrantEvaluation)
  | grantCommandIntent (requestId : String) (decision : Decision)
  | claimCommandIntentGrant (requestId now : String)
  | refuseCommandIntentGrant (requestId reason now : String)
  | finish (requestId : String) (disposition : ExecutionDisposition)
      (reason heldResult : Option String) (now : String)
  | settleUnfinishedClaims (now : String) (usable : PendingRequestRecord -> Bool)
  | freeze (input : DeliveryInput)
  | release (turnId now : String)
  | prove (turnId now : String)
  | markUnknown (turnId now : String)
  | closeout (input : CloseoutInput)

/-- The table after one operation; a thrown one leaves it as it was. -/
def applyOperation (operation : PendingOperation) (table : PendingTable) : PendingTable :=
  match operation with
  | .raise input => (table.raisePendingRequest env input).2
  | .deny requestId decision => (table.denyPendingRequest requestId decision).2
  | .answer requestId decision answers =>
    (table.answerPendingRequest requestId decision answers).2
  | .withdraw requestId actor now => (table.withdrawPendingRequest requestId actor now).2
  | .invalidate requestId event actor now =>
    (table.invalidatePendingRequest requestId event actor now).2
  | .invalidateGoal goalId reason actor now plansOnly =>
    (table.invalidateGoalPendingRequests goalId reason actor now plansOnly).2
  | .claimOrRefuseGrant requestId decision evaluation =>
    (table.claimOrRefuseGrant env requestId decision evaluation).2
  | .grantCommandIntent requestId decision =>
    (table.grantCommandIntentRequest requestId decision).2
  | .claimCommandIntentGrant requestId now => (table.claimCommandIntentGrant env requestId now).2
  | .refuseCommandIntentGrant requestId reason now =>
    (table.refuseCommandIntentGrant requestId reason now).2
  | .finish requestId disposition reason heldResult now =>
    (table.finishPendingExecution requestId disposition reason heldResult now).2
  | .settleUnfinishedClaims now usable => (table.settleUnfinishedClaims now usable).2
  | .freeze input => (table.freezeReadyOutcomes input).2
  | .release turnId now => (table.releaseFrozenOutcomes turnId now).2
  | .prove turnId now => (table.proveFrozenDelivery turnId now).2
  | .markUnknown turnId now => (table.markFrozenDeliveryUnknown turnId now).2
  | .closeout input => (table.applyPendingCloseout input).2

end PendingRequests
end OpenKit
