import OpenKit.Foundation.Transactions
import OpenKit.Policy.DecisionRecords

namespace OpenKit
namespace Policy

open Foundation

/-!
# The permission decision recorder

`recordProductPermissionDecisionInDb` validates one decision and publishes it
with its Audit event in one transaction of the owner's database.  A store has
one pair of tables for each database home.  The use limit of a statement is no
counter: inside the transaction the recorder counts the earlier decisions of
the home that consumed the statement.

The allocated Audit id is a parameter of the call.  It is never empty, so the
source's tests of its truth are left out.
-/

/-! ## Tables and homes -/

/-- The databases that own decisions. -/
inductive Home where
  | server
  | workspace (workspaceId : String)
  | user (userId : String)
deriving DecidableEq

structure Tables where
  decisions : List PermissionDecisionRow
  audits : List AuditEvent

def Tables.empty : Tables :=
  ⟨[], []⟩

abbrev Store := Home -> Tables

def Store.put (store : Store) (home : Home) (tables : Tables) : Store :=
  Function.update store home tables

/-- The approval that a row settles, where the home's partial unique index
covers the row. -/
def terminalApproval (home : Home) (row : PermissionDecisionRow) : Option String :=
  let indexed :=
    match home with
    | .server => false
    | .workspace _ => row.ownerScope = .workspace
    | .user _ => row.ownerScope = .user
  if indexed && row.result ∈ [.allow, .deny] then row.approvalId else none

/-- `INSERT INTO permission_decisions` under its primary key and index. -/
def insertDecision (home : Home) (row : PermissionDecisionRow) (tables : Tables) :
    Except String Tables := do
  refuse (tables.decisions.any (·.decisionId = row.decisionId))
    "UNIQUE constraint failed: permission_decisions.decision_id"
  refuse (tables.decisions.any (fun other =>
      (terminalApproval home row).isSome && terminalApproval home other = terminalApproval home row))
    "UNIQUE constraint failed: permission_decisions.approval_id"
  return { tables with decisions := tables.decisions ++ [row] }

variable (formats : RecordFormats)

/-- Validate an Audit value and insert it under its primary key. -/
def insertAuditEvent (event : AuditEvent) (tables : Tables) : Except String Tables := do
  failOn (formats.audit event)
  refuse (tables.audits.any (·.id = event.id))
    "UNIQUE constraint failed: audit_events.audit_event_id"
  return { tables with audits := tables.audits ++ [event] }

/-! ## Counting uses -/

/-- The `WHERE` clause of the use count.  The server home has no such query. -/
def countedRow (home : Home) (row : PermissionDecisionRow) : Bool :=
  match home with
  | .server => false
  | .workspace workspaceId =>
    row.ownerScope = .workspace && row.workspaceId = some workspaceId && row.result = .allow
  | .user _ =>
    row.ownerScope = .user && row.workspaceId = none && row.result = .allow

/-- A final Kernel allow that names the statement among its consumptions. -/
def consumesStatement (statement : PolicyStatementReference)
    (decision : PermissionDecisionRetained) : Bool :=
  match decision.mediation with
  | none => false
  | some mediation =>
    mediation.role = .final && mediation.kernelAllows && statement ∈ mediation.consumedStatements

/-- Counts exact statement consumption from the final allows of one home. -/
def readPolicyStatementUseCount (home : Home) (tables : Tables)
    (statement : PolicyStatementReference) : Except String Nat := do
  failOn (formats.reference statement)
  let decisions <- (tables.decisions.filter (countedRow home)).mapM
    (readPermissionDecisionRow formats)
  return (decisions.filter (consumesStatement statement)).length

/-- Exact final decision facts supplied by the effect's dispatch owner. -/
structure PolicyUseDecision where
  (decisionId proposalDigest policyRevision authorizationRevision : String)

/-- The decision facts that an effect's own consumption must have. -/
def isExpectedUse (statement : PolicyStatementReference) (expected : PolicyUseDecision)
    (decision : PermissionDecisionRetained) (mediation : PolicyDecision) : Bool :=
  decision.result = .allow && decision.policySnapshotId = expected.policyRevision &&
    mediation.role = .final && mediation.stage = .decide &&
    mediation.kernelAllows && mediation.proposalDigest = expected.proposalDigest &&
    mediation.authorizationRevision = expected.authorizationRevision &&
    statement ∈ mediation.consumedStatements

/-- The Audit facts that an effect's own consumption must have. -/
def isUseAudit (workspaceId : String) (decision : PermissionDecisionRetained)
    (mediation : PolicyDecision) (audit : AuditEvent) : Bool :=
  audit.permissionDecisionId = some decision.decisionId && audit.workspaceId = some workspaceId &&
    audit.action = "permission.decision" && audit.outcome = .succeeded &&
    audit.resource = some ("permission:" ++ decision.action) && decide (audit.capabilityCallId =
      optionalStringField decision.contextSummary "capabilityCallId") &&
    match mediation.subject.process with
    | none => true
    | some process =>
      audit.threadId = some process.threadId && audit.turnId = some process.turnId

/-- Checks an effect's own atomic consumption without granting another use. -/
def policyStatementUsedByDecision (workspaceId : String) (tables : Tables)
    (statement : PolicyStatementReference) (expected : PolicyUseDecision) : Except String Bool := do
  failOn (formats.reference statement)
  match tables.decisions.find? (fun row =>
      row.decisionId = expected.decisionId && row.ownerScope = .workspace &&
        row.workspaceId = some workspaceId) with
  | none => return false
  | some row =>
    let decision <- readPermissionDecisionRow formats row
    match decision.mediation with
    | none => return false
    | some mediation =>
      if isExpectedUse statement expected decision mediation then
        match tables.audits.find? (some ·.id = decision.auditEventId) with
        | none => return false
        | some audit => return isUseAudit workspaceId decision mediation audit
      else return false

/-! ## Validation before the transaction -/

namespace RecordProductPermissionDecisionInput

variable (input : RecordProductPermissionDecisionInput)

/-- The database that owns the decision row. -/
def permissionDecisionDb : Except String Home :=
  match input.ownerScope with
  | .workspace =>
    match input.workspaceDb with
    | some db => .ok (.workspace db.workspaceId)
    | none => .error "Workspace-scoped permission decisions require workspaceDb."
  | .user =>
    match input.userDb with
    | some db =>
      if db.scope ≠ .user \/ input.workspaceDb.isSome \/ input.coreDb \/ input.workspaceId.isSome
      then .error "User-scoped permission decisions require their exact User database."
      else .ok (.user db.userId)
    | none => .error "User-scoped permission decisions require their exact User database."
  | .server =>
    if input.coreDb then .ok .server
    else .error "Server-scoped permission decisions require coreDb."

/-- The supplied Audit event id, or a newly allocated one. -/
def permissionDecisionAuditEventId (allocated : String) : String :=
  (PolicyKernel.present input.auditEventId).getD allocated

/-- The decision as it is validated and retained. -/
def retained (auditEventId : String) : PermissionDecisionRetained :=
  { input with
    auditEventId := some auditEventId }

/-- Gate evidence must repeat the decision that it is published with. -/
def matchesInvocation (invocation : PolicyInvocation) : Bool :=
  match input.mediation with
  | none => false
  | some mediation =>
    mediation.role = .gate && invocation.mode = .gate &&
      (PolicyKernel.present input.auditEventId).isNone &&
      invocation.operation = mediation.operation && invocation.stage = mediation.stage &&
      invocation.policyRevision = input.policySnapshotId &&
      invocation.authorizationRevision = mediation.authorizationRevision &&
      invocation.proposalDigest = mediation.proposalDigest &&
      some invocation.binding = mediation.binding && invocation.subject = mediation.subject &&
      decide (invocation.capabilityCallId =
        optionalStringField input.contextSummary "capabilityCallId")

def consumedStatements : List PolicyStatementReference :=
  match input.mediation with
  | none => []
  | some mediation => mediation.consumedStatements

/-- The database handle owns the Workspace or User that the decision names. -/
def ownsHome : Bool :=
  match input.ownerScope with
  | .workspace => decide (input.workspaceDb.isSome /\
      input.workspaceId = input.workspaceDb.map WorkspaceDb.workspaceId)
  | .user => input.userDb.isSome && input.workspaceId.isNone
  | .server => false

/-- Only a final owner-scoped allow with its own Audit may consume uses. -/
def mayConsume : Bool :=
  input.ownsHome && input.result = .allow && (PolicyKernel.present input.auditEventId).isNone &&
    match input.mediation with
    | none => false
    | some mediation =>
      mediation.role = .final && mediation.kernelAllows &&
        match input.ownerScope, mediation.subject.process with
        | .workspace, some process => some process.workspaceId = input.workspaceId
        | _, _ => true

end RecordProductPermissionDecisionInput

/-- The shape of a supplied list of uses. -/
def parseUses (uses : Option (List StatementUse)) : Except String (List StatementUse) :=
  match uses with
  | none => .ok []
  | some [] => .error "Too small: expected array to have >=1 items"
  | some list => do
      list.forM fun use => do
        failOn (formats.reference use.statement)
        refuse (decide (use.limit = 0)) "Too small: expected number to be >0"
      return list

/-- Requested limits and consumed statements are the same references, each
once.  The source compares sorted encodings, which agree for permutations. -/
def exactUses (uses : List StatementUse) (consumed : List PolicyStatementReference) : Bool :=
  decide ((uses.map StatementUse.statement).Nodup) &&
    decide ((uses.map StatementUse.statement).Perm consumed)

/-- What a validated call publishes. -/
structure PreparedRecord where
  home : Home
  row : PermissionDecisionRow
  uses : List StatementUse
  audit : Option AuditEvent

def permissionAuditOutcome : PermissionDecisionResult -> AuditOutcome
  | .deny => .denied
  | .error => .failed
  | _ => .succeeded

def permissionAuditSeverity : PermissionDecisionResult -> AuditSeverity
  | .allow | .notApplicable => .info
  | .error => .error
  | _ => .warning

namespace RecordProductPermissionDecisionInput

variable (input : RecordProductPermissionDecisionInput)

/-- The Audit event of a decision; request ids that are no UUID are dropped. -/
def auditEvent (auditEventId : String) (workspaceId : Option String) : AuditEvent where
  id := auditEventId
  workspaceId := workspaceId
  threadId := optionalStringField input.contextSummary "threadId"
  turnId := optionalStringField input.contextSummary "turnId"
  itemId := optionalStringField input.contextSummary "itemId"
  capabilityCallId := optionalStringField input.contextSummary "capabilityCallId"
  permissionDecisionId := some input.decisionId
  requestId := (optionalStringField input.contextSummary "requestId").filter formats.isRequestId
  actor := input.auditActor
  category := "approval"
  action := "permission.decision"
  resource := some ("permission:" ++ input.action)
  policyInvocation := input.policyInvocation
  outcome := permissionAuditOutcome input.result
  severity := permissionAuditSeverity input.result
  summary := "Permission decision " ++ input.result.text ++ ": " ++ input.action
  errorCode := if input.result = .error then some input.reasonCode else none
  createdAt := input.createdAt

/-- The Audit event written with the decision.  A supplied Audit id and a
Workspace decision without its Workspace write none. -/
def linkedAudit (auditEventId : String) : Option AuditEvent :=
  if (PolicyKernel.present input.auditEventId).isSome then none
  else
    match input.ownerScope with
    | .workspace =>
      if input.workspaceDb.isSome /\ (PolicyKernel.present input.workspaceId).isSome then
        some (input.auditEvent formats auditEventId input.workspaceId)
      else none
    | .server => if input.coreDb then some (input.auditEvent formats auditEventId none) else none
    | .user => if input.userDb.isSome then some (input.auditEvent formats auditEventId none) else none

/-- Every check that the recorder makes before it opens its transaction. -/
def prepare (allocated : String) : Except String PreparedRecord := do
  refuse (input.result = .requireApproval &&
      (PolicyKernel.present input.requiredApprovalKind).isNone)
    "require_approval permission decisions require requiredApprovalKind."
  let home <- input.permissionDecisionDb
  let auditEventId := input.permissionDecisionAuditEventId allocated
  parseMediation formats input.mediation
  parseRetained formats (input.retained auditEventId)
  refuse (input.mediation.any (input.enforcementPoint ≠ ·.enforcementPoint))
    "PermissionDecision enforcement point projection is inconsistent."
  failOn (input.policyInvocation.bind formats.policyInvocation)
  refuse (input.policyInvocation.any (!input.matchesInvocation ·))
    "Gate Policy invocation must match its decision and atomic linked Audit."
  let uses <- parseUses formats input.uses
  refuse (decide (uses ≠ [] \/ input.consumedStatements ≠ []) && !input.mayConsume)
    "Finite Policy uses require a final owner-scoped allow and atomic linked Audit."
  refuse (decide (uses ≠ [] \/ input.consumedStatements ≠ []) &&
      !exactUses uses input.consumedStatements)
    "Consumed Policy statements must exactly match requested finite-use limits."
  return ⟨home, (input.retained auditEventId).toRow, uses, input.linkedAudit formats auditEventId⟩

end RecordProductPermissionDecisionInput

/-! ## The transaction -/

/-- No requested statement is exhausted. -/
def usesRemain (home : Home) (tables : Tables) (uses : List StatementUse) : Except String Unit :=
  uses.forM fun use => do
    let count <- readPolicyStatementUseCount formats home tables use.statement
    refuse (decide (use.limit <= count)) "Policy statement use limit is exhausted."

def onHome (home : Home) (write : Tables -> Except String Tables) : Writes Store String Unit :=
  Writes.update fun store =>
    match write (store home) with
    | .ok tables => .ok (store.put home tables)
    | .error thrown => .error thrown

/-- The body of the recorder's transaction. -/
def publish (prepared : PreparedRecord) : Writes Store String Unit :=
  Writes.andThen
    (Writes.query fun store => usesRemain formats prepared.home (store prepared.home) prepared.uses)
    fun _ => Writes.andThen (onHome prepared.home (insertDecision prepared.home prepared.row))
      fun _ =>
        match prepared.audit with
        | some event => onHome prepared.home (insertAuditEvent formats event)
        | none => Writes.query fun _ => .ok ()

def recordProductPermissionDecisionInDb (input : RecordProductPermissionDecisionInput)
    (allocated : String) : Writes Store String Unit :=
  Writes.andThen (Writes.query fun _ => input.prepare formats allocated)
    fun prepared => Writes.atomically (publish formats prepared)

end Policy
end OpenKit
