import OpenKit.Policy.Selection

namespace OpenKit
namespace Policy

open Foundation

/-!
# Admission of policy documents

The checks that an authored document passes before it can become current, and
the preparation of a candidate: authorship stamping, the difference to the
current document, and its classification.  Errors carry the source's texts.
-/

variable (env : PolicyEnvironment)

/-! ## The document schema -/

/-- The cross-field rules of single statements. -/
def statementIssue (statement : PolicyStatement) : Option String :=
  match statement with
  | .binding binding =>
    if binding.failure = .continue /\ (binding.mode = .gate \/ binding.mode = .transform) then
      some "Decisive modes cannot continue after failure."
    else none
  | .permission permission =>
    match permission.grant, PolicyKernel.present permission.lifetime.notAfter with
    | .storageLease .., none | .workerGitReadMaintenance .., none =>
      some "Finite native grants require their statement expiry."
    | .workerGitReadMaintenance _ _ _ _ _ validFrom, some notAfter =>
      match env.dateParse validFrom, env.dateParse notAfter with
      | some first, some last =>
        if last <= first then
          some "Maintenance validity must be a nonempty finite interval."
        else none
      | _, _ => none
    | _, _ => none
  | _ => none

/-- The key under which maintenance statements must be unique. -/
def maintenanceTuple (statement : PolicyStatement) :
    Option (Option PolicyPrincipal × Option PolicyResource × String) :=
  match statement with
  | .permission permission =>
    match permission.grant with
    | .workerGitReadMaintenance networkGrantId .. =>
      some (permission.scope.subjects.head?, permission.scope.resources.head?, networkGrantId)
    | _ => none
  | _ => none

/-- `PolicyDocumentV1Schema.parse` on statements of the right shape. -/
def parsePolicyDocument (statements : List PolicyStatement) : Except String PolicyDocument :=
  match statements.findSome? (statementIssue env) with
  | some issue => .error issue
  | none =>
    if uniqueIds : (statements.map PolicyStatement.id).Nodup then
      if (statements.filterMap maintenanceTuple).Nodup then .ok ⟨statements, uniqueIds⟩
      else .error
        "Maintenance statements must have unique responsible-human, Agent and grant tuples."
    else .error "Statement selectors must be unique."

/-! ## Activation rules -/

def PolicyOwner.workspaceId? : PolicyOwner -> Option String
  | .workspace workspaceId => some workspaceId
  | _ => none

namespace PolicyStatementFields

/-- The author is the human whose authority the statement claims. -/
def hasHumanRoot (fields : PolicyStatementFields) : Bool :=
  fields.author.kind = .human && fields.authority = .human fields.author.id

def onlyToolsOf (fields : PolicyStatementFields) (workspaceId : Option String) : Bool :=
  fields.scope.resources.all fun resource =>
    match resource with
    | .mcpTool toolWorkspace _ _ => some toolWorkspace = workspaceId
    | .container _ => false

end PolicyStatementFields

/-- An active agent declaration: a human root and one exact Workspace domain. -/
def validateAgentPrincipal (agent : PolicyAgentPrincipal) : Except String Unit := do
  refuse (!(agent.hasHumanRoot && agent.lifetime.uses.isNone &&
      agent.scope.subjects = [⟨.agent, agent.agentId⟩] &&
      agent.scope.actions.all (· = "tool.use")))
    "Agent identity requires an explicit human root and its own finite native domain."
  let anchor := agent.lifetime.anchor
  let workspaceId := anchor.owner.workspaceId?
  refuse (!(workspaceId.isSome && anchor.kind ∈ ["workspace", "turn"] &&
      !(anchor.kind = "workspace" && some anchor.id ≠ workspaceId) &&
      agent.onlyToolsOf workspaceId))
    "Agent domain requires one exact native Workspace scope."

def validateGoalDomain (delegation : PolicyDelegation) : Except String Unit :=
  let anchor := delegation.lifetime.anchor
  refuse (!(delegation.hasHumanRoot && delegation.delegate.kind = .agent &&
      anchor.owner = .workspace delegation.source.workspaceId &&
      anchor.kind = "goal" && anchor.id = delegation.source.goalId))
    "Active Goal domain requires its human author and exact Goal anchor."

variable (permission : PolicyPermission)

/-- A finite maintenance grant covers one Server Agent for one human. -/
def validateMaintenance : Except String Unit :=
  let anchor := permission.lifetime.anchor
  let exactAgent :=
    match permission.scope.resources with
    | [.container container] =>
      container.owner = .server && container.kind = "agent" && anchor.id = container.id
    | _ => false
  refuse (!(permission.effect = .allow && permission.hasHumanRoot &&
      permission.scope.subjects.map PolicyPrincipal.kind = [.human] &&
      permission.scope.actions = ["administration.configuration.apply"] && exactAgent &&
      anchor.owner = .server && anchor.kind = "agent" && permission.lifetime.uses.isNone))
    "Finite maintenance requires its human root and exact Server Agent scope."

/-- The container kind that a lease anchor of this owner has, and its own id. -/
def ownerAnchored (anchor : PolicyContainer) : Bool :=
  match anchor.owner with
  | .server => anchor.kind = "server"
  | .workspace workspaceId => anchor.kind = "workspace" && anchor.id = workspaceId
  | .user userId => anchor.kind = "user" && anchor.id = userId

def validateStorageLease (mode : StorageLeaseMode) : Except String Unit :=
  let anchor := permission.lifetime.anchor
  let expectedAction :=
    match mode with
    | .readOnly => "knowledge.read"
    | .stagedWrite => "knowledge.write"
  let coversAnchor := permission.scope.resources.all fun resource =>
    match resource with
    | .container container => env.digest.container container = env.digest.container anchor
    | .mcpTool .. => false
  refuse (!(permission.effect = .allow && permission.hasHumanRoot &&
      permission.scope.subjects.all (·.kind = .human) &&
      permission.scope.actions.all (· = expectedAction) && coversAnchor &&
      ownerAnchored anchor && permission.lifetime.uses.isNone))
    "Storage lease activation requires a human root and exact owner scope."

/-- A delegated permission comes from the Coordinator to another agent. -/
def validateDelegatedPermission : Except String Unit :=
  let anchor := permission.lifetime.anchor
  let workspaceId := anchor.owner.workspaceId?
  let otherAgent :=
    match permission.scope.subjects with
    | [subject] => subject.kind = .agent && subject.id ≠ permission.author.id
    | _ => false
  let insideWorkspace := permission.scope.resources.all fun resource =>
    match resource with
    | .mcpTool toolWorkspace _ _ => some toolWorkspace = workspaceId
    | .container container =>
      container.owner.workspaceId?.isSome && container.owner.workspaceId? = workspaceId
  refuse (!(permission.effect = .allow &&
      permission.author = ⟨.agent, "goal-coordinator"⟩ && otherAgent &&
      workspaceId.isSome && anchor.kind ∈ ["goal", "thread", "turn"] &&
      permission.scope.actions.all (· ∈ env.productOperations) &&
      insideWorkspace))
    "Delegated Goal permission requires its native Coordinator and Workspace scope."

def validateToolCondition : Except String Unit :=
  let anchor := permission.lifetime.anchor
  let workspaceId := anchor.owner.workspaceId?
  refuse (!(permission.effect ≠ .allow && permission.hasHumanRoot &&
      some anchor.id = workspaceId && anchor.kind = "workspace" &&
      permission.lifetime.uses.isNone &&
      permission.scope.actions.all (· = "tool.use") &&
      permission.onlyToolsOf workspaceId))
    "Human Tool conditions require exact Workspace Tool scope without finite uses."

def validatePermission : Except String Unit :=
  match permission.grant, permission.authority with
  | .workerGitReadMaintenance .., _ => validateMaintenance permission
  | .storageLease _ _ _ mode, _ => validateStorageLease env permission mode
  | .ordinary, .delegation _ => validateDelegatedPermission env permission
  | .ordinary, .human _ => validateToolCondition permission
  | .agentProcess _, _ => .error "This Policy form must remain inactive."

/-- The stage at which each mode takes part. -/
def PolicyMode.stage : PolicyMode -> PolicyStage
  | .observe => .completed
  | .advise => .propose
  | .transform => .propose
  | .gate => .decide

/-- The disposition as an operation's registry names it. -/
def PolicyFailure.gateFailure? : PolicyFailure -> Option GateFailure
  | .error => some .error
  | .escalateToHuman => some .escalateToHuman
  | .continue => none

/-- `points.gateFailures.includes(failure)`. -/
def OperationPoints.admitsFailure (points : OperationPoints) (failure : PolicyFailure) : Bool :=
  match failure.gateFailure? with
  | some disposition => disposition ∈ points.gateFailures
  | none => false

/-- The only member of a set of owners, if it has exactly one and it is not null. -/
def singleOwner (owners : List (Option String)) : Option String :=
  match owners.eraseDups with
  | [owner] => owner
  | _ => none

variable (binding : PolicyBinding)

/-- One transaction owner holds all resources and the anchor of a binding. -/
def hasTransactionOwner : Bool :=
  let anchor := binding.lifetime.anchor
  let userOwner :=
    match singleOwner (binding.scope.resources.map policyResourceUser) with
    | none => false
    | some userId =>
      anchor.owner = .user userId && anchor.kind = "user" &&
        anchor.id = userId && binding.participant.kind ≠ .agent
  let workspaceOwner :=
    match singleOwner (binding.scope.resources.map policyResourceWorkspace) with
    | none => false
    | some workspaceId =>
      anchor.owner = .workspace workspaceId && anchor.kind ∈ ["workspace", "turn"] &&
        !(anchor.kind = "workspace" && anchor.id ≠ workspaceId)
  userOwner || workspaceOwner

/-- The activation rules of a binding, in the source's order. -/
def validateBinding : Except String Unit := do
  let definition <- policyOperationDefinition env binding.operation
  let native := definition.points
  refuse native.modes.isEmpty "Policy binding operation is unavailable."
  refuse (!(binding.stage ∈ native.stages && binding.mode ∈ native.modes))
    "Policy binding stage or mode is unavailable."
  refuse (!binding.participant.kind ∈ native.participantKinds ||
      (binding.participant.kind = .agent && (binding.mode ≠ .gate || binding.stage ≠ .decide)))
    "Agent participation is only available for the I16 deciding gate."
  refuse (decide (binding.stage ≠ binding.mode.stage)) "Policy mode is at the wrong stage."
  refuse (binding.mode = .transform || binding.mode = .advise)
    "I16 safe participant output reference is unavailable."
  refuse (binding.mode = .observe && binding.lifetime.uses.isSome)
    "Finite-use completed observation is unavailable."
  refuse (!binding.hasHumanRoot)
    "Active participant authority requires its admitted human author."
  refuse (.agent ∈ native.participantKinds &&
      binding.scope.subjects.any (·.kind ≠ .human))
    "Agent principal authority is not active."
  refuse (binding.mode = .gate && !native.admitsFailure binding.failure)
    "Policy gate failure disposition is unavailable."
  refuse (!hasTransactionOwner binding)
    "Active binding requires one Workspace transaction owner and a current Workspace or Turn anchor."
  refuse (binding.scope.actions.any (· ≠ definition.policyOperation))
    "Policy binding requires its registered action."
  refuse (!policyScopeContains env binding.scope binding.inputDisclosure)
    "Participant input disclosure exceeds its admitted binding scope."

/-- The position of a binding, which active bindings must not share. -/
def PolicyBinding.position : String × PolicyStage × PolicyMode × Nat :=
  (binding.operation, binding.stage, binding.mode, binding.order)

def validateStatement (statement : PolicyStatement) : Except String Unit :=
  match statement with
  | .agentPrincipal agent => validateAgentPrincipal agent
  | .delegation delegation => validateGoalDomain delegation
  | .permission permission => validatePermission env permission
  | .managedBoundary _ => .error "This Policy form must remain inactive."
  | .binding binding => validateBinding env binding

/-- The statement loop with its set of taken positions. -/
def validateStatements :
    List PolicyStatement -> List (String × PolicyStage × PolicyMode × Nat) -> Except String Unit
  | [], _ => .ok ()
  | statement :: rest, positions =>
    if statement.state = .inactive then validateStatements rest positions
    else
      match validateStatement env statement, statement.asBinding with
      | .error thrown, _ => .error thrown
      | .ok _, none => validateStatements rest positions
      | .ok _, some binding =>
        if binding.position ∈ positions then
          .error "Active binding order must be explicit and unique."
        else validateStatements rest (positions ++ [binding.position])

/-! ## Agent responsibility -/

variable {statements : List PolicyStatement} {document : PolicyDocument}

/-- One edge of a responsibility chain that must end at the root's human. -/
def responsibilityStep (root current : PolicyAgentPrincipal) : Except String (Option String) :=
  if current.responsibleHumanId ≠ root.responsibleHumanId then
    .error "Agent responsibility chain changes its terminal human."
  else
    match current.responsibility.kind with
    | .agent => .ok (some current.responsibility.id)
    | .human =>
      if current.responsibility.id ≠ root.responsibleHumanId then
        .error "Agent responsibility must end at its declared human."
      else .ok none

/-- The agents from a declaration to the one that a human answers for. -/
def responsibilityChain (agents : List PolicyAgentPrincipal)
    (agent : { entry : PolicyAgentPrincipal // entry ∈ agents }) :
    Except String (List PolicyAgentPrincipal) :=
  chase agents PolicyAgentPrincipal.agentId "Agent responsibility chain is cyclic."
    "Agent responsibility chain is unavailable." (responsibilityStep agent.1) agent []

/-- An agent binding pins its active declaration, and every agent of the
checked chain covers the disclosed input. -/
def validateAgentBinding (agents : List PolicyAgentPrincipal) (binding : PolicyBinding) :
    Except String Unit :=
  match located : agents.find? (·.agentId = binding.participant.id) with
  | none => .error "Agent binding must pin its active declaration."
  | some agent =>
    if env.digest.statement (.agentPrincipal agent) ≠ binding.participant.version then
      .error "Agent binding must pin its active declaration."
    else
      match responsibilityChain agents ⟨agent, List.mem_of_find?_eq_some located⟩ with
      | .error thrown => .error thrown
      | .ok chain =>
        refuse (chain.any fun entry =>
            !policyScopeContains env
              { entry.scope with subjects := binding.inputDisclosure.subjects }
              binding.inputDisclosure)
          "Agent input disclosure exceeds its current declared domain."

/-- A delegated authority outside the Coordinator's ordinary permissions. -/
def isUnavailableDelegation (statement : PolicyStatement) : Bool :=
  match statement.fields.authority with
  | .human _ => false
  | .delegation _ =>
    match statement with
    | .permission permission =>
      !(permission.grant = .ordinary && permission.author = ⟨.agent, "goal-coordinator"⟩)
    | _ => true

/-- The active agent declarations of a document. -/
def activeAgents (statements : List PolicyStatement) : List PolicyAgentPrincipal :=
  (statements.filterMap PolicyStatement.asAgentPrincipal).filter
    (·.state = .active)

/-- The bindings whose agent participant must be checked. -/
def agentBindings (statements : List PolicyStatement) : List PolicyBinding :=
  (statements.filterMap PolicyStatement.asBinding).filter
    (fun binding => binding.state ≠ .inactive /\ binding.participant.kind = .agent)

/-- Checks the native subset before an authored collection can be admitted. -/
def validatePolicyDocument (statements : List PolicyStatement) : Except String PolicyDocument := do
  let document <- parsePolicyDocument env statements
  validateStatements env document.statements []
  refuse (document.statements.any isUnavailableDelegation)
    "This delegated Policy form is unavailable."
  let agents := activeAgents document.statements
  refuse (!decide (agents.map PolicyAgentPrincipal.agentId).Nodup)
    "Active agent identities must be unique."
  agents.attach.forM (fun agent => (responsibilityChain agents agent).map (fun _ => ()))
  (agentBindings document.statements).forM (validateAgentBinding env agents)
  return document

theorem statements_of_parsePolicyDocument
    (parsed : parsePolicyDocument env statements = .ok document) :
    document.statements = statements := by
  unfold parsePolicyDocument at parsed
  split at parsed
  · cases parsed
  split at parsed
  · split at parsed
    · cases parsed
      rfl
    · cases parsed
  · cases parsed

/-- Validation admits a document as it is or not at all. -/
theorem statements_of_validatePolicyDocument
    (valid : validatePolicyDocument env statements = .ok document) :
    document.statements = statements := by
  rcases bind_inv valid with ⟨parsed, parsing, valid⟩
  simp only [bind_eq_ok_iff] at valid
  rcases valid with ⟨_, _, _, _, _, _, _, _, _, _, returned⟩
  cases returned
  exact statements_of_parsePolicyDocument env parsing

end Policy
end OpenKit
