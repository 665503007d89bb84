import OpenKit.Foundation.Fallible
import OpenKit.Policy.Statements
import OpenKit.PolicyKernel.Evaluation

namespace OpenKit
namespace Policy

open Foundation

/-!
# Permission decision records

What a mediated decision leaves behind: the decision envelope, the evidence of
one participant invocation, the record handed to the recorder, and the row and
Audit event that the recorder stores.  The cross-field rules of the schemas are
written out; the patterns of single identifiers, digests, and timestamps enter
through `RecordFormats`, whose functions return the issue they find.

The subject and resource summaries are stored and read by nothing here.
-/

inductive PermissionDecisionResult where
  | allow | deny | requireApproval | requireEscalation | defer | notApplicable | error
deriving DecidableEq

namespace PermissionDecisionResult

def text : PermissionDecisionResult -> String
  | allow => "allow"
  | deny => "deny"
  | requireApproval => "require_approval"
  | requireEscalation => "require_escalation"
  | defer => "defer"
  | notApplicable => "not_applicable"
  | error => "error"

end PermissionDecisionResult

def PolicyStage.text : PolicyStage -> String
  | .propose => "propose"
  | .decide => "decide"
  | .commit => "commit"
  | .completed => "completed"

/-! ## The mediated evaluation -/

inductive InvocationReference where
  | decision (id : String)
  | audit (id : String)
deriving DecidableEq

structure PolicyKernelResult where
  effect : PolicyKernel.PolicyDecisionEffect
  reason : String
deriving DecidableEq

inductive PolicyDecisionRole where
  | gate | final
deriving DecidableEq

/-- Retained policy envelope.  A kernel result is absent, explicitly
unavailable, or actual. -/
structure PolicyDecision where
  operation : String
  stage : PolicyStage
  (proposalDigest authorizationRevision : String)
  subject : PolicySubject
  role : PolicyDecisionRole
  binding : Option PolicyStatementReference
  kernel : Option (Option PolicyKernelResult)
  invocations : List InvocationReference
  consumedStatements : List PolicyStatementReference
deriving DecidableEq

namespace PolicyDecision

variable (decision : PolicyDecision)

def kernelAllows : Bool :=
  decision.kernel.join.map PolicyKernelResult.effect = some .allow

/-- `${mediation.operation}@${mediation.stage}`. -/
def enforcementPoint : String :=
  decision.operation ++ "@" ++ decision.stage.text

/-- The cross-field rules of the envelope. -/
def issue : Option String :=
  if decision.role = .gate /\ decision.binding = none then
    some "Gate decision requires its binding."
  else if decision.role = .final /\ decision.kernel = none then
    some "Final decision requires the actual Kernel result or explicit unavailability."
  else if decision.role = .gate /\ decision.kernel ≠ none then
    some "A participant cannot claim a Kernel result."
  else if decision.consumedStatements ≠ [] /\ decision.kernelAllows = false then
    some "Consumption requires an actual Kernel allow."
  else if decision.role ≠ .final /\ decision.consumedStatements ≠ [] then
    some "Only final combined allow consumes uses."
  else none

end PolicyDecision

inductive InvocationOutcome where
  | completed | unavailable | timeout | openCircuit | malformed | error | stale
deriving DecidableEq

/-- Safe invocation evidence: content identities, never bodies. -/
structure PolicyInvocation where
  binding : PolicyStatementReference
  operation : String
  stage : PolicyStage
  mode : PolicyMode
  (policyRevision authorizationRevision proposalDigest : String)
  subject : PolicySubject
  (participantId participantVersion inputDigest : String)
  outputDigest : Option String
  outcome : InvocationOutcome
  (startedAt completedAt : String)
  capabilityCallId : Option String
deriving DecidableEq

/-! ## Summaries -/

/-- A descriptive value; only texts are read back. -/
inductive SummaryValue where
  | absent | null
  | text (value : String)
  | kernelTrace (matchedAssociations matchedProhibitions : List String)
  | other (json : String)
deriving DecidableEq

abbrev Summary := OrderedMap String SummaryValue

/-- Reads an optional string field from a redacted summary object. -/
def optionalStringField (summary : Option Summary) (field : String) : Option String :=
  match summary.bind (·.get? field) with
  | some (.text value) => some value
  | _ => none

/-! ## The record and its stored forms -/

inductive PermissionDecisionOwnerScope where
  | server | workspace | user
deriving DecidableEq

/-- The consumption of one finite statement, with the statement's limit. -/
structure StatementUse where
  statement : PolicyStatementReference
  limit : Nat
deriving DecidableEq

inductive DatabaseScope where
  | core | workspace | user
deriving DecidableEq

structure WorkspaceDb where
  workspaceId : String
  scope : DatabaseScope
deriving DecidableEq

structure UserDb where
  userId : String
  scope : DatabaseScope
deriving DecidableEq

/-- Input for recording one already mapped product permission decision. -/
structure RecordProductPermissionDecisionInput where
  coreDb : Bool
  workspaceDb : Option WorkspaceDb
  userDb : Option UserDb
  decisionId : String
  ownerScope : PermissionDecisionOwnerScope
  workspaceId : Option String
  (policyEngineVersion policySnapshotId action : String)
  contextSummary : Option Summary
  result : PermissionDecisionResult
  (reasonCode enforcementPoint : String)
  mediation : Option PolicyDecision
  policyInvocation : Option PolicyInvocation
  uses : Option (List StatementUse)
  (requiredApprovalKind approvalId auditEventId : Option String)
  auditActor : Option PolicyActor
  createdAt : String

/-- The retained decision: what the recorder validates and readers return. -/
structure PermissionDecisionRetained where
  decisionId : String
  ownerScope : PermissionDecisionOwnerScope
  workspaceId : Option String
  (policyEngineVersion policySnapshotId action : String)
  contextSummary : Option Summary
  result : PermissionDecisionResult
  (reasonCode enforcementPoint : String)
  mediation : Option PolicyDecision
  (requiredApprovalKind approvalId auditEventId : Option String)
  createdAt : String

/-- One row of `permission_decisions`. -/
structure PermissionDecisionRow extends PermissionDecisionRetained

inductive AuditOutcome where
  | succeeded | failed | denied | cancelled
deriving DecidableEq

inductive AuditSeverity where
  | info | warning | error
deriving DecidableEq

/-- One row of `audit_events`, with the columns that a permission Audit fills. -/
structure AuditEvent where
  id : String
  (workspaceId threadId turnId itemId capabilityCallId permissionDecisionId : Option String)
  requestId : Option String
  actor : Option PolicyActor
  (category action : String)
  resource : Option String
  policyInvocation : Option PolicyInvocation
  outcome : AuditOutcome
  severity : AuditSeverity
  summary : String
  errorCode : Option String
  createdAt : String

/-- The patterns of single fields, and the redaction check of an Audit value. -/
structure RecordFormats where
  policyDecision : PolicyDecision -> Option String
  retained : PermissionDecisionRetained -> Option String
  isPolicyDigest : String -> Bool
  policyInvocation : PolicyInvocation -> Option String
  reference : PolicyStatementReference -> Option String
  isRequestId : String -> Bool
  audit : AuditEvent -> Option String

variable (formats : RecordFormats)

variable (decision : PermissionDecisionRetained)

/-- The cross-field rules of a retained decision with a mediation. -/
def mediationIssue (mediation : PolicyDecision) : Option String :=
  if formats.isPolicyDigest decision.policySnapshotId = false then
    some "Mediated Policy snapshot requires its content digest."
  else if mediation.role = .gate /\ (PolicyKernel.present decision.approvalId).isSome then
    some "Participant gate decisions cannot claim an Approval winner."
  else if mediation.role = .final /\ mediation.kernel = some none /\ decision.result ≠ .error then
    some "An unavailable Kernel requires a final error result."
  else if (mediation.role = .final /\ decision.result = .allow /\ mediation.kernelAllows = false) \/
      (mediation.consumedStatements ≠ [] /\
        (mediation.role ≠ .final \/ decision.result ≠ .allow \/ mediation.kernelAllows = false)) then
    some "Only final combined and Kernel allow consumes uses."
  else if ¬ mediation.consumedStatements.Nodup then
    some "Consumed statement references must be unique."
  else none

/-- Throw the first issue that a schema reports. -/
def failOn (issue : Option String) : Except String Unit :=
  match issue with
  | some message => .error message
  | none => .ok ()

/-- `PolicyDecisionV1Schema.parse`. -/
def parsePolicyDecision (decision : PolicyDecision) : Except String Unit := do
  failOn (formats.policyDecision decision)
  failOn decision.issue

/-- `PermissionDecisionRetainedV1Schema.parse`. -/
def parseRetained : Except String Unit := do
  failOn (formats.retained decision)
  failOn (decision.mediation.bind (mediationIssue formats decision))
  refuse (decision.result = .requireApproval &&
      (PolicyKernel.present decision.requiredApprovalKind).isNone)
    "PermissionDecision requires its Approval kind."

/-- The stored row leaves out the fields that its mediation already has. -/
def PermissionDecisionRetained.toRow : PermissionDecisionRow where
  toPermissionDecisionRetained :=
    { decision with
      enforcementPoint := if decision.mediation.isSome then "" else decision.enforcementPoint }

/-- The retained decision of a row: the enforcement point of a mediated
decision is a projection of its mediation. -/
def PermissionDecisionRow.project (row : PermissionDecisionRow) : PermissionDecisionRetained :=
  { row.toPermissionDecisionRetained with
    enforcementPoint :=
      match row.mediation with
      | some mediation => mediation.enforcementPoint
      | none => row.enforcementPoint }

/-- The mediation of a decision parses on its own, if there is one. -/
def parseMediation (mediation : Option PolicyDecision) : Except String Unit :=
  match mediation with
  | some value => parsePolicyDecision formats value
  | none => .ok ()

/-- Decodes a stored row through the schemas it was written with. -/
def readPermissionDecisionRow (row : PermissionDecisionRow) :
    Except String PermissionDecisionRetained := do
  parseMediation formats row.mediation
  parseRetained formats row.project
  return row.project

variable {formats}

@[simp] theorem failOn_eq_ok_iff (issue : Option String) (result : Unit) :
    failOn issue = .ok result <-> issue = none := by
  cases issue <;> simp [failOn]

variable {decision : PermissionDecisionRetained}

/-- The row forgets nothing about a decision that states its mediation's own
enforcement point. -/
theorem project_toRow (shown : ∀ mediation ∈ decision.mediation,
      decision.enforcementPoint = mediation.enforcementPoint) :
    decision.toRow.project = decision := by
  cases decision with
  | mk =>
    rename_i mediation _ _ _ _
    cases mediation with
    | none => rfl
    | some value =>
      have own := shown value rfl
      simp only at own
      rw [own]
      rfl

/-- What was validated and written reads back unchanged. -/
theorem readPermissionDecisionRow_toRow
    (parsedMediation : parseMediation formats decision.mediation = .ok ())
    (parsed : parseRetained formats decision = .ok ())
    (shown : ∀ mediation ∈ decision.mediation,
      decision.enforcementPoint = mediation.enforcementPoint) :
    readPermissionDecisionRow formats decision.toRow = .ok decision := by
  have sameMediation : decision.toRow.mediation = decision.mediation := rfl
  rw [readPermissionDecisionRow, project_toRow shown, sameMediation, parsedMediation, parsed]
  rfl

end Policy
end OpenKit
