import OpenKit.Foundation.Digest
import Mathlib.Tactic.DeriveEncodable

namespace OpenKit
namespace Policy

open Foundation

/-!
# Policy statements

The authored policy collection: statements of five kinds that share their
identity, authorship, scope, and lifetime.  A document is a list of statements
with pairwise different ids, which the schema checks before any other rule and
which the structure below carries as a field.
-/

/-! ## Scopes, owners, and lifetimes -/

inductive PolicyStage where
  | propose | decide | commit | completed
deriving DecidableEq, Encodable

inductive PolicyMode where
  | observe | advise | gate | transform
deriving DecidableEq, Encodable

inductive PolicyOwner where
  | server
  | workspace (workspaceId : String)
  | user (userId : String)
deriving DecidableEq, Encodable

structure PolicyContainer where
  owner : PolicyOwner
  (kind id : String)
deriving DecidableEq, Encodable

/-- Scope and lifetime are independent; once is uses one, not a second
lifetime kind. -/
structure PolicyLifetime where
  anchor : PolicyContainer
  notAfter : Option String
  uses : Option Nat
deriving DecidableEq, Encodable

inductive PolicyPrincipalKind where
  | human | agent
deriving DecidableEq, Encodable

/-- A principal is the evaluated identity. -/
structure PolicyPrincipal where
  kind : PolicyPrincipalKind
  id : String
deriving DecidableEq, Encodable

inductive PolicyResource where
  | container (container : PolicyContainer)
  | mcpTool (workspaceId serverId toolName : String)
deriving DecidableEq, Encodable

/-- An empty selector set matches nothing. -/
structure PolicyScope where
  subjects : List PolicyPrincipal
  actions : List String
  resources : List PolicyResource
deriving DecidableEq, Encodable

/-- Stable statement identity and exact content version. -/
structure PolicyStatementReference where
  (id digest : String)
deriving DecidableEq, Encodable

inductive PolicyAuthority where
  | human (userId : String)
  | delegation (statement : PolicyStatementReference)
deriving DecidableEq, Encodable

/-- Closed binding failure dispositions. -/
inductive PolicyFailure where
  | escalateToHuman | continue | error
deriving DecidableEq, Encodable

/-- The states of all statement kinds; only bindings use `shadow`. -/
inductive PolicyStatementState where
  | inactive | shadow | active
deriving DecidableEq, Encodable

/-! ## The five statement kinds -/

structure PolicyStatementFields where
  id : String
  author : PolicyPrincipal
  authority : PolicyAuthority
  authoredAt : String
  scope : PolicyScope
  lifetime : PolicyLifetime
  state : PolicyStatementState
deriving DecidableEq, Encodable

inductive PolicyParticipantKind where
  | deterministic | agent
deriving DecidableEq, Encodable

structure PolicyParticipant where
  kind : PolicyParticipantKind
  (id version : String)
deriving DecidableEq, Encodable

structure PolicyCircuitLimits where
  (failures recoveryAfterMs : Nat)
deriving DecidableEq, Encodable

/-- A binding is a policy statement, not a participant-owned registration. -/
structure PolicyBinding extends PolicyStatementFields where
  operation : String
  stage : PolicyStage
  mode : PolicyMode
  participant : PolicyParticipant
  inputDisclosure : PolicyScope
  (order timeoutMs : Nat)
  failure : PolicyFailure
  circuit : PolicyCircuitLimits
deriving DecidableEq, Encodable

inductive StorageLeaseMode where
  | readOnly | stagedWrite
deriving DecidableEq, Encodable

inductive PolicyGrant where
  | ordinary
  | agentProcess (agentId : String)
  | workerGitReadMaintenance (networkGrantId host : String) (port : Nat)
      (repositoryPaths binaries : List String) (validFrom : String)
  | storageLease (knowledgeBaseId mount pathStart : String) (mode : StorageLeaseMode)
deriving DecidableEq, Encodable

inductive PolicyPermissionEffect where
  | allow | prohibit | requireApproval
deriving DecidableEq, Encodable

structure PolicyPermission extends PolicyStatementFields where
  effect : PolicyPermissionEffect
  grant : PolicyGrant
deriving DecidableEq, Encodable

structure GoalSource where
  (workspaceId goalId planVersionId planDigest approvalRequestId : String)
deriving DecidableEq, Encodable

/-- Exact Goal delegation; its only purpose is a Goal domain. -/
structure PolicyDelegation extends PolicyStatementFields where
  delegate : PolicyPrincipal
  source : GoalSource
deriving DecidableEq, Encodable

structure PolicyAgentPrincipal extends PolicyStatementFields where
  agentId : String
  creator : PolicyPrincipal
  responsibleHumanId : String
  responsibility : PolicyPrincipal
deriving DecidableEq, Encodable

inductive PolicyStatement where
  | binding (binding : PolicyBinding)
  | permission (permission : PolicyPermission)
  | delegation (delegation : PolicyDelegation)
  | managedBoundary (boundary : PolicyStatementFields)
  | agentPrincipal (agent : PolicyAgentPrincipal)
deriving DecidableEq, Encodable

namespace PolicyStatement

/-- The fields that every statement kind has. -/
def fields : PolicyStatement -> PolicyStatementFields
  | .binding value => value.toPolicyStatementFields
  | .permission value => value.toPolicyStatementFields
  | .delegation value => value.toPolicyStatementFields
  | .managedBoundary value => value
  | .agentPrincipal value => value.toPolicyStatementFields

variable (statement : PolicyStatement)

/-- Replace the common fields and keep the kind and its own fields. -/
def withFields (fields : PolicyStatementFields) : PolicyStatement :=
  match statement with
  | .binding value => .binding { value with toPolicyStatementFields := fields }
  | .permission value => .permission { value with toPolicyStatementFields := fields }
  | .delegation value => .delegation { value with toPolicyStatementFields := fields }
  | .managedBoundary _ => .managedBoundary fields
  | .agentPrincipal value => .agentPrincipal { value with toPolicyStatementFields := fields }

def id : String :=
  statement.fields.id

def state : PolicyStatementState :=
  statement.fields.state

/-- `statement.kind === 'binding'`, with the narrowed value. -/
def asBinding : PolicyStatement -> Option PolicyBinding
  | .binding value => some value
  | _ => none

/-- `statement.kind === 'agent-principal'`, with the narrowed value. -/
def asAgentPrincipal : PolicyStatement -> Option PolicyAgentPrincipal
  | .agentPrincipal value => some value
  | _ => none

/-- A binding that only watches completed operations. -/
def IsObservation : Prop :=
  ∃ value, statement = .binding value /\ value.mode = .observe

end PolicyStatement

/-- An authored collection whose selectors are unique. -/
structure PolicyDocument where
  statements : List PolicyStatement
  uniqueIds : (statements.map PolicyStatement.id).Nodup

theorem PolicyDocument.eq_of_id_eq (document : PolicyDocument) {left right : PolicyStatement}
    (leftMember : left ∈ document.statements) (rightMember : right ∈ document.statements)
    (sameId : left.id = right.id) : left = right :=
  List.inj_on_of_nodup_map document.uniqueIds leftMember rightMember sameId

/-! ## Proposals -/

inductive PolicyActorKind where
  | user | agent | integration | system | automation
deriving DecidableEq, Encodable

structure PolicyActor where
  kind : PolicyActorKind
  id : String
  responsibleUserId : Option String
deriving DecidableEq, Encodable

structure PolicyProcess where
  (workspaceId threadId turnId : String)
deriving DecidableEq, Encodable

inductive PolicyCredentialKind where
  | local | session | token | workerPackage
deriving DecidableEq, Encodable

/-- Exact admitted process; direct human requests have no Turn. -/
structure PolicySubject where
  principal : PolicyPrincipal
  onBehalfOf : Option String
  actor : PolicyActor
  process : Option PolicyProcess
  credentialKind : PolicyCredentialKind
  responsibleHumanId : String
deriving DecidableEq, Encodable

inductive InputAttribute where
  | text (value : String)
  | number (value : Int)
  | flag (value : Bool)
  | null
deriving DecidableEq, Encodable

/-- Safe current references supplied by each native operation owner. -/
structure PolicyProposal where
  operation : String
  workspaceId : Option String
  resource : PolicyResource
  inputReferences : List (String × Option String)
  inputAttributes : List (String × InputAttribute)
  capabilityCallId : Option String
  subject : PolicySubject
deriving DecidableEq, Encodable

end Policy
end OpenKit
