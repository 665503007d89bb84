import OpenKit.Policy.Admission
import OpenKit.PolicyKernel.Decision

namespace OpenKit
namespace Policy

open Foundation

/-!
# Agent authority

An agent binding decides only while its pinned agent declaration is currently
accountable: the chain of responsibility from the declaration to one human is
active, authored and held by current humans, unexpired, and anchored at the
proposal's Workspace, and every declaration on it covers the proposal.  The
coverage is decided by the policy kernel on a small policy that has an
association exactly when the scope covers the proposal.
-/

variable (env : PolicyEnvironment)

variable (agent : PolicyAgentPrincipal) (proposal : PolicyProposal)

/-- The declaration's scope names the agent, the resource, and the operation. -/
def agentScopeCovers (operation : String) : Bool :=
  agent.scope.subjects.any (fun subject =>
      subject.kind = .agent && subject.id = agent.agentId) &&
    agent.scope.resources.any (env.digest.resource · = env.digest.resource proposal.resource) &&
    operation ∈ agent.scope.actions

/-- The policy on which the kernel decides the coverage of one declaration. -/
def agentDomainPolicy (operation : String) : PolicyKernel.PolicyState where
  elements :=
    [⟨"agent", .user⟩, ⟨"domain", .userAttribute⟩, ⟨"target", .object⟩,
      ⟨"resources", .objectAttribute⟩, ⟨"scope", .policyClass⟩]
  assignments :=
    [⟨"agent", "domain"⟩, ⟨"domain", "scope"⟩, ⟨"target", "resources"⟩, ⟨"resources", "scope"⟩]
  operations := [⟨operation, [operation]⟩]
  processUsers := none
  associations :=
    if agentScopeCovers env agent proposal operation then
      [⟨agent.id, "domain", [operation], "resources"⟩]
    else []
  prohibitions := none

/-- Whether the kernel allows the agent the operation on the proposal's resource. -/
def agentDomainAllows (operation : String) : Bool :=
  (PolicyKernel.evaluateAccess (agentDomainPolicy env agent proposal operation)
    ⟨some "agent", none, operation, "target"⟩).effect = .allow

/-- The accountability conditions of one declaration on the chain. -/
def isAccountable (agents : List PolicyAgentPrincipal) (root : PolicyAgentPrincipal)
    (proposal : PolicyProposal) (currency : Currency) (current : PolicyAgentPrincipal) : Bool :=
  let anchor := current.lifetime.anchor
  (agents.filter (·.agentId = current.agentId)).length = 1 &&
    current.state = .active && current.responsibleHumanId = root.responsibleHumanId &&
    current.hasHumanRoot && currency.authorCurrent current.author.id &&
    currency.authorCurrent root.responsibleHumanId && current.lifetime.uses.isNone &&
    !isExpired env current.lifetime currency.now && anchor.owner.workspaceId?.isSome &&
    anchor.owner.workspaceId? = proposal.workspaceId && anchor.kind ∈ ["workspace", "turn"] &&
    !(anchor.kind = "workspace" && some anchor.id ≠ proposal.workspaceId) &&
    !(anchor.kind = "turn" && some anchor.id ≠ proposal.subject.process.map PolicyProcess.turnId) &&
    currency.anchorCurrent anchor

/-- One turn of the responsibility loop: the next agent, or none at the human. -/
def accountabilityStep (agents : List PolicyAgentPrincipal) (root : PolicyAgentPrincipal)
    (proposal : PolicyProposal) (currency : Currency) (current : PolicyAgentPrincipal) :
    Except String (Option String) := do
  refuse (!isAccountable env agents root proposal currency current)
    "Current agent accountability is unavailable."
  let definition <- policyOperationDefinition env proposal.operation
  refuse (!agentDomainAllows env current proposal definition.policyOperation)
    "Current agent domain does not cover the proposal."
  match current.responsibility.kind with
  | .human =>
    refuse (decide (current.responsibility.id ≠ root.responsibleHumanId))
      "Agent terminal human differs."
    return none
  | .agent => return some current.responsibility.id

/-- Resolves the current accountable agent of a binding. -/
def readPolicyAgentPrincipal (document : PolicyDocument) (binding : PolicyBinding)
    (proposal : PolicyProposal) (currency : Currency) : Except String PolicyAgentPrincipal :=
  if binding.participant.kind ≠ .agent then .error "An agent binding is required."
  else
    let agents := document.statements.filterMap PolicyStatement.asAgentPrincipal
    match located : agents.find? (·.agentId = binding.participant.id) with
    | none => .error "The pinned agent declaration is unavailable."
    | some root =>
      if env.digest.statement (.agentPrincipal root) ≠ binding.participant.version then
        .error "The pinned agent declaration is unavailable."
      else
        match chase agents PolicyAgentPrincipal.agentId
            "Current agent accountability is unavailable."
            "Agent responsibility chain is unavailable."
            (accountabilityStep env agents root proposal currency)
            ⟨root, List.mem_of_find?_eq_some located⟩ [] with
        | .error thrown => .error thrown
        | .ok _ => .ok root

/-! ## What a read proves -/

variable {env} {proposal : PolicyProposal}

theorem agentScopeCovers_of_agentDomainAllows {agent : PolicyAgentPrincipal} {op : String}
    (allowed : agentDomainAllows env agent proposal op) :
    agentScopeCovers env agent proposal op := by
  unfold agentDomainAllows at allowed
  rw [decide_eq_true_eq, PolicyKernel.evaluateAccess_effect_iff] at allowed
  rcases allowed with ⟨_, decl, user, hit, _, permits⟩
  have required : op ∈ decl.accessRights := by
    simp only [agentDomainPolicy, List.find?_cons, decide_true, Option.some.injEq] at hit
    rw [<- hit]
    exact List.mem_singleton.mpr rfl
  have inResources : (agentDomainPolicy env agent proposal op).Assigned
      "target" "resources" := by
    simp [PolicyKernel.PolicyState.Assigned, agentDomainPolicy]
  have inScope : (agentDomainPolicy env agent proposal op).Assigned "resources" "scope" := by
    simp [PolicyKernel.PolicyState.Assigned, agentDomainPolicy]
  have contained : (agentDomainPolicy env agent proposal op).Contains "target" "scope" :=
    ⟨by decide, .head ⟨inResources, by decide⟩ (.single ⟨inScope, by decide⟩)⟩
  have declared : (agentDomainPolicy env agent proposal op).Declared "scope"
      .policyClass := by
    simp [PolicyKernel.PolicyState.Declared, agentDomainPolicy]
  rcases permits.granted op required "scope" contained declared with ⟨grant, mem, _⟩
  simp only [agentDomainPolicy] at mem
  split at mem
  next covers =>
    exact covers
  · cases mem

/-- What a successful read proves about the returned declaration. -/
structure Accountable (env : PolicyEnvironment) (document : PolicyDocument)
    (binding : PolicyBinding) (proposal : PolicyProposal) (currency : Currency)
    (root : PolicyAgentPrincipal) : Prop where
  declared : PolicyStatement.agentPrincipal root ∈ document.statements
  named : root.agentId = binding.participant.id
  pinned : env.digest.statement (.agentPrincipal root) = binding.participant.version
  active : root.state = .active
  authored : root.author.kind = .human /\ currency.authorCurrent root.author.id
  responsible : currency.authorCurrent root.responsibleHumanId
  anchored : root.lifetime.anchor.owner.workspaceId? = proposal.workspaceId
  covers : ∃ definition, policyOperationDefinition env proposal.operation = .ok definition /\
    agentScopeCovers env root proposal definition.policyOperation

theorem readPolicyAgentPrincipal_ok {document : PolicyDocument} {binding : PolicyBinding}
    {currency : Currency} {root : PolicyAgentPrincipal}
    (read : readPolicyAgentPrincipal env document binding proposal currency = .ok root) :
    Accountable env document binding proposal currency root := by
  unfold readPolicyAgentPrincipal at read
  split at read
  · cases read
  dsimp only at read
  split at read
  · cases read
  rename_i hit
  split at read
  · cases read
  rename_i pinned
  split at read
  · cases read
  rename_i walked
  cases read
  rcases step_of_chase_eq_ok walked with ⟨first, steps⟩
  rcases steps root first with ⟨target, stepped⟩
  simp only [accountabilityStep, bind_eq_ok_iff, refuse_eq_ok_iff,
    Bool.not_eq_false', exists_and_left, exists_const] at stepped
  rcases stepped with ⟨accountable, decl, known, allowed, _⟩
  simp only [isAccountable, Bool.and_eq_true, decide_eq_true_eq, and_assoc] at accountable
  rcases accountable with ⟨_, active, _, rooted, authored, responsible, _, _, _, anchored, _⟩
  have human : root.author.kind = .human := by
    simp only [PolicyStatementFields.hasHumanRoot, Bool.and_eq_true, decide_eq_true_eq] at rooted
    exact rooted.1
  rcases List.mem_filterMap.mp (List.mem_of_find?_eq_some hit) with
    ⟨statement, mem, narrowed⟩
  have isRoot : statement = .agentPrincipal root := by
    cases statement with
    | agentPrincipal =>
      cases narrowed
      rfl
    | binding | permission | delegation | managedBoundary => cases narrowed
  subst isRoot
  have named := List.find?_some hit
  exact {
    declared := mem, named := of_decide_eq_true named, pinned := not_not.mp pinned
    active := active, authored := ⟨human, authored⟩, responsible := responsible
    anchored := anchored
    covers := ⟨decl, known, agentScopeCovers_of_agentDomainAllows allowed⟩ }

end Policy
end OpenKit
