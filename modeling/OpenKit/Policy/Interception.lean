import OpenKit.Policy.AgentAuthority
import OpenKit.Policy.PermissionDecisions

namespace OpenKit
namespace Policy

open Foundation

/-!
# Interception of an operation

`decide` asks the selected gates one after the other, rechecks the owner facts,
evaluates the kernel last, records the evidence, and returns the combined
result.  Everything it learns from outside arrives in a world: the owner facts
at each instant, the answers of the participants, the circuit state that each
invocation finds, and the store that each record meets.  Between two awaits
other work may run, so the world supplies every read on its own.  A callback
that throws has the value `none`.

Advice is never produced at a deciding point, and completed observations do not
take part in a decision; both are left out.
-/

/-! ## Participants and the world -/

/-- What a participant returned, up to the shapes that a schema accepts. -/
inductive ParticipantOutput where
  | gate (decision : GateDecision)
  | agentGate (decision : GateDecision) (risk authorizationAssessment rationale : String)
  | observed
  | other (json : String)
deriving DecidableEq

inductive ParticipantAnswer where
  | output (value : ParticipantOutput)
  | timeout | rejected
deriving DecidableEq

structure DeterministicPolicyParticipant where
  (id version : String)

/-- The agent runner; selectors are optional. -/
structure AgentPolicyParticipant where
  (id version : Option String)

/-- Bounded process-local availability state of one binding. -/
structure Circuit where
  failures : Nat
  retryAt : Int
  probing : Bool
deriving DecidableEq

/-- The owner facts at one instant. -/
structure Moment where
  currency : Currency
  stillCurrent : Option Bool
  participantAuthorized : PolicyBinding -> Option Bool

/-- What one invocation meets, from its use count to its record. -/
structure InvocationWorld where
  useTables : Tables
  startedAt : String
  before : Moment
  circuit : Circuit
  dispatchedAt : Int
  answer : ParticipantAnswer
  after : Moment
  /-- The shared circuit when the answer has arrived. -/
  settlingCircuit : Circuit
  settledAt : Int
  (completedAt decisionId auditEventId : String)
  store : Store

/-- The mandatory kernel adapter's answer: a plain decision, or a Goal Task's. -/
structure GoalEscalation where
  (workspaceId goalId agentId : String)
deriving DecidableEq

inductive KernelAnswer where
  | direct (kernel : PolicyKernel.PolicyDecision)
  | goalTask (kernel : PolicyKernel.PolicyDecision) (escalation : Option GoalEscalation)
      (inGoalEnvelope : Bool)

def KernelAnswer.kernel : KernelAnswer -> PolicyKernel.PolicyDecision
  | .direct kernel => kernel
  | .goalTask kernel _ _ => kernel

/-- What the final, synchronous part of a decision meets. -/
structure FinalWorld where
  stillCurrent : Option Bool
  recheck : PolicyBinding -> Moment
  finalKernel : Option KernelAnswer
  (decisionId auditEventId createdAt : String)
  store : Store

structure DecideWorld where
  preparation : Currency
  invocation : PolicyBinding -> InvocationWorld
  final : FinalWorld

/-- The interception instance and what it reads from the platform. -/
structure InterceptionEnvironment extends PolicyEnvironment where
  formats : RecordFormats
  userDatabaseBound : UserDb -> Bool
  inputDigest : PolicyProposal -> String
  outputDigest : ParticipantOutput -> String
  participant : Option DeterministicPolicyParticipant
  agentParticipant : Option AgentPolicyParticipant

/-! ## The request -/

/-- An approval pins the exact candidate and authority. -/
structure PolicyApprovalBinding where
  (proposalDigest policyRevision authorizationRevision : String)
deriving DecidableEq

structure HumanApproval where
  (requestId sourceDecisionId deciderId : String)
  binding : PolicyApprovalBinding

structure DecisionLineage where
  (requestId approvalId : String)

structure InterceptionInput where
  workspaceDb : Option WorkspaceDb
  userDb : Option UserDb
  document : PolicyDocument
  proposal : PolicyProposal
  authorizationRevision : String
  permissions : List PolicyPermission
  contextSummary : Option Summary
  decisionLineage : Option DecisionLineage
  authorizationUses : List StatementUse
  humanApproval : Option HumanApproval

structure InterceptionDecision where
  result : PermissionDecisionResult
  (decisionId proposalDigest policyRevision authorizationRevision : String)
  escalation : Option GoalEscalation

variable (env : InterceptionEnvironment)

variable (input : InterceptionInput) (binding : PolicyBinding)

/-- The database must be the one that owns the proposal's resource. -/
def assertInterceptionOwner : Except String Unit :=
  match input.userDb, input.workspaceDb with
  | some userDb, none => do
      refuse (!env.userDatabaseBound userDb) "Control product transition precondition failed."
      refuse (!(input.proposal.workspaceId.isNone &&
          policyResourceUser input.proposal.resource = some userDb.userId))
        "Policy resource database owner is unavailable."
  | none, some workspaceDb =>
    refuse (!(workspaceDb.scope = .workspace &&
        some workspaceDb.workspaceId = input.proposal.workspaceId &&
        policyResourceWorkspace input.proposal.resource = input.proposal.workspaceId))
      "Policy resource database owner is unavailable."
  | _, _ => .error "Policy resource database owner is unavailable."

/-- The database home of a decision. -/
def InterceptionInput.home : Home :=
  match input.userDb with
  | some userDb => .user userDb.userId
  | none => .workspace ((input.workspaceDb.map WorkspaceDb.workspaceId).getD "")

def policyRevision (document : PolicyDocument) : String :=
  env.digest.document document.statements

/-- A finite authorization is a current active statement with its own limit. -/
def authorizationMatches (document : PolicyDocument) (use : StatementUse) : Bool :=
  match document.statements.find? (·.id = use.statement.id) with
  | none => false
  | some current =>
    current.state = .active && env.digest.statement current = use.statement.digest &&
      current.fields.lifetime.uses = some use.limit

/-- A human approval of exactly this proposal, policy, and authority. -/
def humanApproved : Bool :=
  match input.humanApproval with
  | none => false
  | some approval =>
    approval.binding.proposalDigest = env.digest.proposal input.proposal &&
      approval.binding.policyRevision = policyRevision env input.document &&
      approval.binding.authorizationRevision = input.authorizationRevision

/-- A mode that the deciding points do not support. -/
def isUnsupportedBinding (statement : PolicyStatement) : Bool :=
  match statement with
  | .binding binding =>
    binding.state ≠ .inactive && binding.mode ∈ [.advise, .transform]
  | _ => false

/-- What the gates have produced so far. -/
structure Deliberation where
  invocations : List InvocationReference
  results : List PermissionDecisionResult
  used : List PolicyBinding

/-- The selected bindings and the conditions that hold before any gate. -/
def prepareDecision (currency : Currency) : Except String (List PolicyBinding × Deliberation) := do
  let definition <- policyOperationDefinition env.toPolicyEnvironment input.proposal.operation
  assertInterceptionOwner env input
  refuse (decide (PolicyStage.decide ∉ definition.points.stages))
    "Policy deciding point or resource is unavailable."
  refuse (input.document.statements.any isUnsupportedBinding)
    "I16 safe participant output reference is unavailable."
  refuse (input.authorizationUses.any (!authorizationMatches env input.document ·))
    "Finite authorization must match the current Policy statement and limit."
  let bindings <- selectPolicyBindings env.toPolicyEnvironment input.document input.proposal
    (some .decide) currency
  let required := input.permissions.any (·.effect = .requireApproval)
  return (bindings,
    ⟨[], if required && !humanApproved env input then [.requireApproval] else [], []⟩)

/-! ## One invocation -/

/-- The result of a binding whose participant gives no accepted answer. -/
def PolicyFailure.result : PolicyFailure -> PermissionDecisionResult
  | .continue => .notApplicable
  | .error => .error
  | .escalateToHuman => .requireEscalation

def GateDecision.result : GateDecision -> PermissionDecisionResult
  | .allow => .allow
  | .deny => .deny
  | .escalate => .requireEscalation

def isAssessment (text : String) : Bool :=
  1 <= (codeUnits text).length && (codeUnits text).length <= 2000

/-- The gate decision in an output of the participant kind's own shape. -/
def parseGateOutput (kind : PolicyParticipantKind) (output : ParticipantOutput) :
    Option GateDecision :=
  match kind, output with
  | .deterministic, .gate decision => some decision
  | .agent, .agentGate decision risk authorizationAssessment rationale =>
    if isAssessment risk && isAssessment authorizationAssessment && isAssessment rationale then
      some decision
    else none
  | _, _ => none

variable (points : OperationPoints)

variable (binding : PolicyBinding)

/-- The result of an accepted output; `none` is a malformed one. -/
def acceptedResult (output : ParticipantOutput) : Option PermissionDecisionResult :=
  if binding.mode = .gate then
    match parseGateOutput binding.participant.kind output with
    | some decision => if decision ∈ points.gateResults then some decision.result else none
    | none => none
  else if output = .observed then some .notApplicable
  else none

/-- The binding may be invoked at this operation point. -/
def participates : Bool :=
  binding.operation = input.proposal.operation &&
    binding.stage ∈ points.stages && binding.mode ∈ points.modes &&
    binding.participant.kind ∈ points.participantKinds &&
    !(binding.mode = .gate && !points.admitsFailure binding.failure)

/-- The injected participant is the one that the binding names. -/
def participantMatches : Bool :=
  match binding.participant.kind with
  | .agent =>
    match env.agentParticipant with
    | none => false
    | some runner =>
      decide (runner.id = none \/ runner.id = some binding.participant.id) &&
        decide (runner.version = none \/ runner.version = some binding.participant.version)
  | .deterministic =>
    match env.participant with
    | none => false
    | some participant =>
      participant.id = binding.participant.id && participant.version = binding.participant.version

/-- What the checks before an invocation found. -/
inductive Admission where
  | authorityError | stale | unauthorized | admitted
deriving DecidableEq

/-- The agent behind an agent binding, with its activation author. -/
def readAgent (currency : Currency) : Except String (Option PolicyAgentPrincipal) :=
  if binding.participant.kind = .agent then do
    refuse (!(binding.author.kind = .human && currency.authorCurrent binding.author.id))
      "Current agent activation authority is unavailable."
    let agent <- readPolicyAgentPrincipal env.toPolicyEnvironment input.document binding
      input.proposal currency
    return some agent
  else .ok none

/-- The currency and disclosure checks after the agent was read. -/
def admitDisclosure (moment : Moment) : Admission :=
  match moment.stillCurrent with
  | none => .authorityError
  | some false => .stale
  | some true =>
    match policyScopeIncludesProposal env.toPolicyEnvironment binding.inputDisclosure
        input.proposal with
    | .error _ => .authorityError
    | .ok false => .unauthorized
    | .ok true =>
      match moment.participantAuthorized binding with
      | none => .authorityError
      | some false => .unauthorized
      | some true => .admitted

/-- The checks before an invocation, and the agent if it could be read. -/
def admitInvocation (moment : Moment) : Admission × Option PolicyAgentPrincipal :=
  match readAgent env input binding moment.currency with
  | .error _ => (.authorityError, none)
  | .ok agent => (admitDisclosure env input binding moment, agent)

/-- An agent keeps its authority and its disclosure at this instant. -/
def agentStillAuthorized (moment : Moment) : Bool :=
  match readPolicyAgentPrincipal env.toPolicyEnvironment input.document binding input.proposal
      moment.currency with
  | .error _ => false
  | .ok _ => moment.participantAuthorized binding = some true

def settleAnswer
    (after : Moment) (answer : ParticipantAnswer) : InvocationOutcome × PermissionDecisionResult :=
  match answer with
  | .timeout => (.timeout, binding.failure.result)
  | .rejected => (.error, binding.failure.result)
  | .output output =>
    match acceptedResult points binding output with
    | none => (.malformed, binding.failure.result)
    | some result =>
      match after.stillCurrent with
      | none => (.error, binding.failure.result)
      | some false => (.stale, binding.failure.result)
      | some true =>
        -- An agent that lost its authority during the review is an error, not a failure.
        if binding.participant.kind = .agent /\
            agentStillAuthorized env input binding after = false then (.error, .error)
        else (.completed, result)

/-- The circuit after an attempt that reached its participant. -/
def settleCircuit (outcome : InvocationOutcome) (circuit : Circuit) (now : Int) : Circuit :=
  if outcome = .completed then ⟨0, 0, false⟩
  else
    let failures := circuit.failures + 1
    ⟨failures,
      if binding.circuit.failures <= failures then now + binding.circuit.recoveryAfterMs
      else circuit.retryAt, false⟩

/-- The outcome of one invocation, its result, and the circuit it leaves. -/
structure Attempt where
  outcome : InvocationOutcome
  result : PermissionDecisionResult
  agent : Option PolicyAgentPrincipal
  circuit : Circuit

variable (world : InvocationWorld)

def attempt : Attempt :=
  let (admission, agent) := admitInvocation env input binding world.before
  match admission with
  | .authorityError => ⟨.error, .error, agent, world.circuit⟩
  | .stale => ⟨.stale, .error, agent, world.circuit⟩
  | .unauthorized => ⟨.unavailable, binding.failure.result, agent, world.circuit⟩
  | .admitted =>
    if world.circuit.probing \/ world.circuit.retryAt > world.dispatchedAt then
      ⟨.openCircuit, binding.failure.result, agent, world.circuit⟩
    else if participantMatches env binding then
      let (outcome, result) := settleAnswer env input points binding world.after world.answer
      ⟨outcome, result, agent,
        settleCircuit binding outcome world.settlingCircuit world.settledAt⟩
    else ⟨.unavailable, binding.failure.result, agent, world.circuit⟩

/-! ## The records of a decision -/

def summaryText (value : Option String) : SummaryValue :=
  match value with
  | some text => .text text
  | none => .null

/-- `process?.field ?? contextSummary?.field`. -/
def processField (project : PolicyProcess -> String) (name : String) : SummaryValue :=
  match input.proposal.subject.process with
  | some process => .text (project process)
  | none => ((input.contextSummary.bind (·.get? name)).getD .absent)

/-- The context of every record of this decision, as object entries in the
source's order; later entries win. -/
def decisionContext : List (String × SummaryValue) :=
  [("capabilityCallId", summaryText input.proposal.capabilityCallId)] ++
    (input.contextSummary.map OrderedMap.entries).getD [] ++
    (match input.decisionLineage with
      | some lineage => [("requestId", .text lineage.requestId)]
      | none => []) ++
    [("threadId", processField input PolicyProcess.threadId "threadId"),
      ("turnId", processField input PolicyProcess.turnId "turnId")] ++
    (match input.humanApproval with
      | some approval =>
        [("humanApprovalRequestId", .text approval.requestId),
          ("approvalSourceDecisionId", .text approval.sourceDecisionId),
          ("humanApprovalDeciderId", .text approval.deciderId)]
      | none => [])

variable (definition : OperationDefinition)

/-- The fields that every record of this decision shares. -/
def decisionInput (createdAt : String) : RecordProductPermissionDecisionInput where
  coreDb := false
  workspaceDb := if input.userDb.isSome then none else input.workspaceDb
  userDb := input.userDb
  decisionId := ""
  ownerScope := if input.userDb.isSome then .user else .workspace
  workspaceId := if input.userDb.isSome then none else input.workspaceDb.map WorkspaceDb.workspaceId
  policyEngineVersion := "nanocore-policy:v1"
  policySnapshotId := policyRevision env input.document
  action := definition.policyOperation
  contextSummary := some (OrderedMap.ofPairs (decisionContext input))
  result := .error
  reasonCode := ""
  enforcementPoint := input.proposal.operation ++ "@decide"
  mediation := none
  policyInvocation := none
  uses := none
  requiredApprovalKind := none
  approvalId := input.decisionLineage.map DecisionLineage.approvalId
  auditEventId := none
  auditActor := some
    (match input.humanApproval with
      | some approval => ⟨.user, approval.deciderId, none⟩
      | none => input.proposal.subject.actor)
  createdAt := createdAt

/-- The subject of an invocation: the agent itself where one was read. -/
def invocationSubject (agent : Option PolicyAgentPrincipal) : PolicySubject :=
  match agent with
  | some root =>
    { input.proposal.subject with
      principal := ⟨.agent, root.agentId⟩, onBehalfOf := none
      actor := ⟨.agent, root.agentId, some root.responsibleHumanId⟩
      responsibleHumanId := root.responsibleHumanId }
  | none => input.proposal.subject

def bindingReference : PolicyStatementReference :=
  ⟨binding.id, env.digest.statement (.binding binding)⟩

def invocationEvidence (attempted : Attempt) : PolicyInvocation where
  binding := bindingReference env binding
  operation := binding.operation
  stage := binding.stage
  mode := binding.mode
  policyRevision := policyRevision env input.document
  authorizationRevision := input.authorizationRevision
  proposalDigest := env.digest.proposal input.proposal
  subject := invocationSubject input attempted.agent
  participantId := binding.participant.id
  participantVersion := binding.participant.version
  inputDigest := env.inputDigest input.proposal
  outputDigest :=
    match attempted.outcome, world.answer with
    | .completed, .output output => some (env.outputDigest output)
    | _, _ => none
  outcome := attempted.outcome
  startedAt := world.startedAt
  completedAt := world.completedAt
  capabilityCallId := input.proposal.capabilityCallId

/-- The record of one gate; it cannot claim the approved command's link. -/
def gateRecord (binding : PolicyBinding) (world : InvocationWorld) (attempted : Attempt) :
    RecordProductPermissionDecisionInput :=
  let base := decisionInput env input definition world.completedAt
  let subject := invocationSubject input attempted.agent
  { base with
    approvalId := none
    auditActor := if attempted.agent.isSome then some subject.actor else base.auditActor
    decisionId := world.decisionId, result := attempted.result
    reasonCode :=
      if attempted.outcome ≠ .completed then "participant_unavailable"
      else if attempted.result = .deny then "prohibited"
      else if attempted.result = .requireEscalation then "require_approval"
      else "granted"
    policyInvocation := some (invocationEvidence env input binding world attempted)
    mediation := some
      { operation := binding.operation
        stage := binding.stage, proposalDigest := env.digest.proposal input.proposal
        authorizationRevision := input.authorizationRevision, subject := subject, role := .gate
        binding := some (bindingReference env binding), kernel := none, invocations := []
        consumedStatements := [] } }

/-- One write to the store; a record that throws stops the decision. -/
def recordIn (record : RecordProductPermissionDecisionInput) (auditEventId : String)
    (store : Store) : Except String Unit :=
  (recordProductPermissionDecisionInDb env.formats record auditEventId store).1

/-- Invoke one gate and publish its evidence before its result is released. -/
def invoke : Except String (InvocationReference × PermissionDecisionResult) := do
  let definition <- policyOperationDefinition env.toPolicyEnvironment input.proposal.operation
  refuse (!participates input definition.points binding)
    "Policy participation is unavailable at this operation point."
  let attempted := attempt env input definition.points binding world
  recordIn env (gateRecord env input definition binding world attempted) world.auditEventId
    world.store
  return (.decision world.decisionId, attempted.result)

/-! ## The gates -/

/-- A finite binding whose uses are spent takes no part. -/
def isExhausted : Except String Bool :=
  match binding.lifetime.uses with
  | none => .ok false
  | some limit => do
      let count <- readPolicyStatementUseCount env.formats input.home world.useTables
        (bindingReference env binding)
      return decide (limit <= count)

/-- One turn of the loop over the gates. -/
def gateStep (world : PolicyBinding -> InvocationWorld)
    (deliberation : Deliberation) (binding : PolicyBinding) : Except String Deliberation := do
  if <- isExhausted env input binding (world binding) then return deliberation
  else
    let (reference, result) <- invoke env input binding (world binding)
    let invocations := deliberation.invocations ++ [reference]
    if binding.state = .shadow then return { deliberation with invocations := invocations }
    else
      return {
        invocations := invocations
        results := deliberation.results ++
          [if result = .requireEscalation /\ humanApproved env input then .allow else result]
        used := deliberation.used ++ [binding] }

/-- All gates of a selection, in its order. -/
def runGates (world : PolicyBinding -> InvocationWorld)
    (bindings : List PolicyBinding) (deliberation : Deliberation) : Except String Deliberation :=
  (bindings.filter (·.mode = .gate)).foldlM (gateStep env input world)
    deliberation

/-! ## The final part -/

/-- The closed precedence of results. -/
def resultPrecedence : List PermissionDecisionResult :=
  [.error, .deny, .requireEscalation, .requireApproval, .defer, .notApplicable, .allow]

/-- A neutral participant never supplies missing authority. -/
def combineResults (results : List PermissionDecisionResult) : PermissionDecisionResult :=
  let applicable :=
    if results.any (· ≠ .notApplicable) then
      results.filter (· ≠ .notApplicable)
    else results
  (resultPrecedence.find? (· ∈ applicable)).getD .notApplicable

def reasonCodeText : PolicyKernel.PolicyDecisionReason -> String
  | .associationGrant _ => "association-grant"
  | .missingPrivilege _ => "missing-privilege"
  | .restriction _ => "restriction"
  | .missingOperation _ => "missing-operation"
  | .invalidPolicy _ => "invalid-policy"
  | .invalidRequest _ => "invalid-request"

def isInvalidReason : PolicyKernel.PolicyDecisionReason -> Bool
  | .invalidPolicy _ | .invalidRequest _ | .missingOperation _ => true
  | _ => false

def isRestriction : PolicyKernel.PolicyDecisionReason -> Bool
  | .restriction _ => true
  | _ => false

def isMissingPrivilege : PolicyKernel.PolicyDecisionReason -> Bool
  | .missingPrivilege _ => true
  | _ => false

def PolicyKernelEffect.result : PolicyKernel.PolicyDecisionEffect -> PermissionDecisionResult
  | .allow => .allow
  | .deny => .deny

/-- The Goal escalation contradicts the kernel evaluation that it comes with. -/
def escalationContradicts (kernel : PolicyKernel.PolicyDecision)
    (escalation : GoalEscalation) (inGoalEnvelope : Bool) : Bool :=
  input.proposal.workspaceId.isNone || !inGoalEnvelope || kernel.effect ≠ .deny ||
    kernel.reasons.isEmpty || kernel.reasons.any (!isMissingPrivilege ·) ||
    some escalation.workspaceId ≠ input.proposal.workspaceId

/-- What the kernel adds to the results, and the escalation it redirects to. -/
def kernelResults (results : List PermissionDecisionResult)
    (answer : Option KernelAnswer) : List PermissionDecisionResult × Option GoalEscalation :=
  match answer with
  | none => ([.error], none)
  | some answer =>
    let kernel := answer.kernel
    if kernel.reasons.any isInvalidReason then ([.error], none)
    else
      match answer with
      | .goalTask _ (some escalation) inGoalEnvelope =>
        if kernel.reasons.any isRestriction then
          ([PolicyKernelEffect.result kernel.effect], none)
        else if escalationContradicts input kernel escalation inGoalEnvelope then
          ([.error], none)
        else if results.any (fun value => value ≠ .allow /\ value ≠ .notApplicable) then
          -- A Task gap cannot redirect a human-only condition or a participant failure.
          ([], none)
        else ([.requireEscalation], some escalation)
      | _ => ([PolicyKernelEffect.result kernel.effect], none)

/-- The errors of the final recheck: the captured policy, then the used agents. -/
def recheckResults (used : List PolicyBinding) (final : FinalWorld) :
    List PermissionDecisionResult :=
  (if final.stillCurrent = some true then [] else [.error]) ++
    ((used.filter (·.participant.kind = .agent)).filter (fun binding =>
      !agentStillAuthorized env input binding (final.recheck binding))).map (fun _ => .error)

/-- The finite statements that an allow consumes, once for each id. -/
def consumedUses (used : List PolicyBinding) : List StatementUse :=
  let finite := used.filterMap fun binding =>
    binding.lifetime.uses.map fun limit => (⟨bindingReference env binding, limit⟩ : StatementUse)
  (OrderedMap.ofPairs ((input.authorizationUses ++ finite).map fun use =>
    (use.statement.id, use))).values

def finalReasonCode (result : PermissionDecisionResult)
    (kernel : Option PolicyKernel.PolicyDecision) : String :=
  match result with
  | .deny =>
    if kernel.any (fun value =>
        value.effect = .allow || value.reasons.any isRestriction) then "prohibited"
    else "not_granted"
  | .requireEscalation | .requireApproval => "require_approval"
  | .allow => "granted"
  | _ => "evaluation_error"

structure PreparedDecision where
  record : RecordProductPermissionDecisionInput
  decision : InterceptionDecision

/-- Prepares the record and the decision from current kernel facts. -/
def prepareFinalDecision (deliberation : Deliberation) (final : FinalWorld) : PreparedDecision :=
  let checked := deliberation.results ++ recheckResults env input deliberation.used final
  let (added, escalation) := kernelResults input checked final.finalKernel
  let result := combineResults (checked ++ added)
  let kernel := final.finalKernel.map KernelAnswer.kernel
  let consumed := if result = .allow then consumedUses env input deliberation.used else []
  let base := decisionInput env input definition final.createdAt
  { record :=
      { base with
        contextSummary := some (OrderedMap.ofPairs (decisionContext input ++
          match kernel with
          | some value =>
            [("kernelTrace",
              .kernelTrace value.trace.matchedAssociations value.trace.matchedProhibitions)]
          | none => []))
        decisionId := final.decisionId, result := result
        requiredApprovalKind := if result = .requireApproval then some "permission" else none
        reasonCode := finalReasonCode result kernel
        mediation := some
          { operation := input.proposal.operation
            stage := .decide, proposalDigest := env.digest.proposal input.proposal
            authorizationRevision := input.authorizationRevision, subject := input.proposal.subject
            role := .final, binding := none
            kernel := some (kernel.map fun value =>
              ⟨value.effect, (value.reasons.head?.map reasonCodeText).getD "not_granted"⟩)
            invocations := deliberation.invocations
            consumedStatements := consumed.map StatementUse.statement }
        uses := if consumed = [] then none else some consumed }
    decision :=
      { result := result
        decisionId := final.decisionId, proposalDigest := env.digest.proposal input.proposal
        policyRevision := policyRevision env input.document
        authorizationRevision := input.authorizationRevision
        escalation := if result = .requireEscalation then escalation else none } }

namespace PolicyInterception

/-- Runs the gates and retains the evidence before releasing a result. -/
def decide (input : InterceptionInput) (world : DecideWorld) :
    Except String InterceptionDecision := do
  let (bindings, initial) <- prepareDecision env input world.preparation
  let definition <- policyOperationDefinition env.toPolicyEnvironment input.proposal.operation
  let deliberation <- runGates env input world.invocation bindings initial
  let prepared := prepareFinalDecision env input definition deliberation world.final
  recordIn env prepared.record world.final.auditEventId world.final.store
  return prepared.decision

/-- Prepares a participant-free decision without writing. -/
def prepareSynchronousDecision (input : InterceptionInput) (world : DecideWorld) :
    Except String (Option PreparedDecision) := do
  let (bindings, initial) <- prepareDecision env input world.preparation
  let definition <- policyOperationDefinition env.toPolicyEnvironment input.proposal.operation
  if bindings.any (·.mode ≠ .observe) then return none
  else return some (prepareFinalDecision env input definition initial world.final)

end PolicyInterception

end Policy
end OpenKit
