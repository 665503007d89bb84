import OpenKit.Policy.Interception
import OpenKit.PolicyKernel.Layered

namespace OpenKit
namespace Policy

open Foundation List
open PolicyKernel (PolicyState Layered Addressed evaluateAccess evaluateAccess_of_unknown present)

/-!
# Access of a Goal Task

The selectors of a Goal and of one of its Tasks become two policy classes, each
with one association that is present when its selector covers the request.  The
kernel then needs both associations, and the human's own decision comes first.
-/

/-- Closed product-operation to NGAC access-right registry. -/
def productOperationAccessRights : List (String × String) :=
  [("api.call", "ar:core-api-call"),
    ("administration.configuration.apply", "ar:worker-git-read-maintenance-apply"),
    ("approval.respond", "ar:approval-respond"), ("artifact.read", "ar:artifact-read"),
    ("artifact.write", "ar:artifact-write"), ("audit.read", "ar:audit-read"),
    ("deployment.recover", "ar:deployment-recover"),
    ("invitation.respond", "ar:invitation-respond"), ("knowledge.propose", "ar:knowledge-propose"),
    ("knowledge.read", "ar:knowledge-read"), ("knowledge.write", "ar:knowledge-write"),
    ("llm.gateway.use", "ar:llm-gateway-use"), ("membership.manage", "ar:membership-manage"),
    ("network.egress", "ar:network-egress"), ("review.apply", "ar:review-apply"),
    ("runtime.launch", "ar:runtime-launch"), ("thread.read", "ar:thread-read"),
    ("tool.grant", "ar:tool-grant"), ("tool.use", "ar:tool-use"), ("turn.run", "ar:turn-run"),
    ("vault.admin", "ar:vault-admin"), ("vault.use", "ar:vault-use"),
    ("workspace.configure", "ar:workspace-configure"), ("workspace.export", "ar:workspace-export"),
    ("workspace.leave", "ar:workspace-leave"), ("workspace.lifecycle", "ar:workspace-lifecycle"),
    ("workspace.read", "ar:workspace-read"), ("workspace.write", "ar:workspace-write")]

def productAccessRight? (operation : String) : Option String :=
  productOperationAccessRights.lookup operation

/-! ## The two mandatory classes -/

structure ScopeKernelInput where
  (operation user : String)
  process : Option String
  (inGoalEnvelope selectedByTask : Bool)
  humanKernel : PolicyKernel.PolicyDecision

namespace ScopeKernelInput

variable (input : ScopeKernelInput)

def classes : List String :=
  ["goal-envelope", "goal-task"]

/-- Graph-local names; the user is named by its kind and id. -/
def graph : PolicyState where
  elements := [⟨input.user, .user⟩, ⟨"goal-request", .object⟩] ++ classes.flatMap fun id =>
    [⟨"ua:" ++ id, .userAttribute⟩, ⟨"oa:" ++ id, .objectAttribute⟩, ⟨"pc:" ++ id, .policyClass⟩]
  assignments := classes.flatMap fun id =>
    [⟨input.user, "ua:" ++ id⟩, ⟨"ua:" ++ id, "pc:" ++ id⟩, ⟨"goal-request", "oa:" ++ id⟩,
      ⟨"oa:" ++ id, "pc:" ++ id⟩]
  operations := (productAccessRight? input.operation).toList.map fun right =>
    ⟨input.operation, [right]⟩
  associations := (classes.filter fun id =>
      if id = "goal-envelope" then input.inGoalEnvelope else input.selectedByTask).map fun id =>
    ⟨id, "ua:" ++ id, (productAccessRight? input.operation).toList, "oa:" ++ id⟩
  processUsers := (present input.process).map fun process => [⟨process, input.user⟩]
  prohibitions := none

def request : PolicyKernel.AccessRequest :=
  ⟨some input.user, present input.process, input.operation, "goal-request"⟩

/-- Reuses the same two classes for prepared admission and concrete effects. -/
def scopeKernel : PolicyKernel.PolicyDecision :=
  if input.humanKernel.effect = .deny then input.humanKernel
  else evaluateAccess input.graph input.request

variable {input} {id right : String}

/-- The user's name is none of the graph's own. -/
def Fresh (input : ScopeKernelInput) : Prop :=
  input.user ∉ ["", "goal-request", "ua:goal-envelope", "oa:goal-envelope", "pc:goal-envelope",
    "ua:goal-task", "oa:goal-task", "pc:goal-task"]

theorem declared_user : input.graph.Declared input.user .user :=
  mem_cons_self

theorem declared_request : input.graph.Declared "goal-request" .object :=
  mem_cons_of_mem _ mem_cons_self

theorem declared_class (isClass : id ∈ classes) :
    input.graph.Declared ("ua:" ++ id) .userAttribute /\
      input.graph.Declared ("oa:" ++ id) .objectAttribute /\
      input.graph.Declared ("pc:" ++ id) .policyClass := by
  refine ⟨?_, ?_, ?_⟩ <;> exact mem_append_right _ (mem_flatMap.mpr ⟨id, isClass, by simp⟩)

theorem assigned_class (isClass : id ∈ classes) : input.graph.Assigned input.user ("ua:" ++ id) /\
      input.graph.Assigned ("ua:" ++ id) ("pc:" ++ id) /\
      input.graph.Assigned "goal-request" ("oa:" ++ id) /\
      input.graph.Assigned ("oa:" ++ id) ("pc:" ++ id) := by
  refine ⟨?_, ?_, ?_, ?_⟩ <;> exact mem_flatMap.mpr ⟨id, isClass, by simp⟩

theorem mapped : ∀ entry ∈ input.graph.processUserList, entry.user = input.user := by
  unfold graph PolicyState.processUserList
  cases present input.process <;> simp

theorem layered (fresh : input.Fresh) (known : productAccessRight? input.operation = some right) :
    Layered input.graph where
  uniqueIds := nodup_cons.mpr ⟨fun mem => fresh (mem_cons_of_mem _ mem), by decide⟩
  named := by
    refine forall_mem_cons.mpr ⟨?_, by decide⟩
    exact fun empty => fresh (empty ▸ mem_cons_self)
  rises := by
    intro assignment mem
    rcases mem_flatMap.mp mem with ⟨id, isClass, listed⟩
    rcases @declared_class input id isClass with ⟨users, objects, cls⟩
    simp only [mem_cons, not_mem_nil, or_false] at listed
    rcases listed with rfl | rfl | rfl | rfl
    · exact ⟨_, _, declared_user, users, .userToUserAttribute, rfl⟩
    · exact ⟨_, _, users, cls, .userAttributeToPolicyClass, rfl⟩
    · exact ⟨_, _, declared_request, objects, .objectToObjectAttribute, rfl⟩
    · exact ⟨_, _, objects, cls, .objectAttributeToPolicyClass, rfl⟩
  held := by
    intro element mem notClass
    rcases mem_append.mp mem with own | listed
    · rcases @assigned_class input "goal-envelope" mem_cons_self with ⟨user, _, object, _⟩
      simp only [mem_cons, not_mem_nil, or_false] at own
      rcases own with rfl | rfl
      · exact ⟨_, user⟩
      · exact ⟨_, object⟩
    · rcases mem_flatMap.mp listed with ⟨id, isClass, inClass⟩
      rcases @assigned_class input id isClass with ⟨_, users, _, objects⟩
      simp only [mem_cons, not_mem_nil, or_false] at inClass
      rcases inClass with rfl | rfl | rfl
      · exact ⟨_, users⟩
      · exact ⟨_, objects⟩
      · exact absurd rfl notClass
  operations := by
    simp [graph, known]
  associations := by
    intro grant mem
    rcases mem_map.mp mem with ⟨id, isClass, rfl⟩
    rcases @declared_class input id (mem_filter.mp isClass).1 with ⟨users, objects, _⟩
    exact ⟨users, objects, by simp [known]⟩
  processUsers entry mem := mapped entry mem ▸ declared_user
  prohibitions := forall_mem_nil _

theorem addressed (input : ScopeKernelInput) : Addressed input.graph input.request input.user :=
  ⟨rfl, declared_user, mapped, declared_request⟩

theorem evaluate_allow_iff (fresh : input.Fresh)
    (known : productAccessRight? input.operation = some right) :
    (evaluateAccess input.graph input.request).effect = .allow <->
      input.inGoalEnvelope /\ input.selectedByTask := by
  rw [(layered fresh known).allow_iff (addressed input)]
  have notUser : "goal-request" ≠ input.user /\ "oa:goal-envelope" ≠ input.user /\
      "oa:goal-task" ≠ input.user := by
    simp only [Fresh, mem_cons, not_or] at fresh
    exact ⟨Ne.symm fresh.2.1, Ne.symm fresh.2.2.2.1, Ne.symm fresh.2.2.2.2.2.2.1⟩
  cases inEnvelope : input.inGoalEnvelope <;> cases selected : input.selectedByTask <;>
    simp [graph, classes, request, known, inEnvelope, selected, PolicyState.Assigned,
      PolicyState.prohibitionList, notUser]
  rintro _ _ (rfl | rfl) <;> simp +contextual [notUser]

theorem operations_find? (input : ScopeKernelInput) :
    input.graph.operations.find? (·.id = input.request.operation) =
      (productAccessRight? input.operation).map fun right => ⟨input.operation, [right]⟩ := by
  unfold graph request
  cases productAccessRight? input.operation <;> simp

/-- The human's decision, the registry and both classes are needed. -/
theorem scopeKernel_allow_iff (fresh : input.Fresh) : input.scopeKernel.effect = .allow <->
      input.humanKernel.effect = .allow /\ (productAccessRight? input.operation).isSome /\
        input.inGoalEnvelope /\ input.selectedByTask := by
  unfold scopeKernel
  split
  next denied =>
    simp [denied]
  rename_i admitted
  have human : input.humanKernel.effect = .allow := by
    cases isEffect : input.humanKernel.effect with
    | allow => rfl
    | deny => exact absurd isEffect admitted
  cases known : productAccessRight? input.operation with
  | none =>
    have unknown := operations_find? input
    rw [known, Option.map_none] at unknown
    simp [(evaluateAccess_of_unknown unknown).1]
  | some =>
    rw [evaluate_allow_iff fresh known]
    simp [human]

/-- After the human's decision, a denial misses a privilege exactly when the
operation is registered. -/
theorem scopeKernel_misses_privilege (fresh : input.Fresh)
    (human : input.humanKernel.effect = .allow) (denied : input.scopeKernel.effect = .deny) :
    (input.scopeKernel.reasons ≠ [] /\ input.scopeKernel.reasons.all isMissingPrivilege) <->
      (productAccessRight? input.operation).isSome := by
  unfold scopeKernel at denied ⊢
  rw [if_neg (by rw [human]; decide)] at denied ⊢
  have found := operations_find? input
  cases known : productAccessRight? input.operation with
  | none =>
    rw [known, Option.map_none] at found
    rcases (evaluateAccess_of_unknown found).2 with ⟨_, reasons⟩ | reasons <;>
      simp [reasons, isMissingPrivilege]
  | some =>
    rw [known, Option.map_some] at found
    rcases (layered fresh known).reasons_of_deny (addressed input) found rfl denied with ⟨_, reasons⟩
    simp [reasons, isMissingPrivilege]

end ScopeKernelInput

/-! ## The decision for one request -/

/-- Trusted native input after the current Goal-domain read and scheduler admission. -/
structure GoalTaskAccessInput where
  domain : Option PolicyDelegation
  permissions : List PolicyPermission
  subject : PolicySubject
  responsibleHumanId : String
  resources : List PolicyResource
  operation : String
  resource : PolicyResource
  humanKernel : PolicyKernel.PolicyDecision

/-- What the authorization revision digests. -/
structure GoalTaskRevision where
  (domain permission : Option PolicyStatementReference)
  input : GoalTaskAccessInput

structure GoalTaskAccessResult where
  kernel : PolicyKernel.PolicyDecision
  escalation : Option GoalEscalation
  inGoalEnvelope : Bool
  authorizationRevision : String
  permission : Option PolicyPermission

def PolicyPrincipal.graphName (principal : PolicyPrincipal) : String :=
  match principal.kind with
  | .human => "human:" ++ principal.id
  | .agent => "agent:" ++ principal.id

namespace GoalTaskAccessInput

variable (env : PolicyEnvironment) (input : GoalTaskAccessInput)

def selectedBy (resources : List PolicyResource) : Bool :=
  resources.any fun value => env.digest.resource value = env.digest.resource input.resource

def inGoalEnvelope : Bool :=
  input.domain.any fun domain =>
    decide (domain.state = .active /\ domain.author.kind = .human /\
      input.subject.principal.kind = .agent /\ input.subject.onBehalfOf = none /\
      input.subject.actor.kind = .agent /\
      input.subject.actor.id = input.subject.principal.id /\
      input.subject.responsibleHumanId = input.responsibleHumanId /\
      input.subject.process.map PolicyProcess.workspaceId = some domain.source.workspaceId /\
      ⟨.agent, input.subject.principal.id⟩ ∈ domain.scope.subjects /\
      input.operation ∈ domain.scope.actions) && input.selectedBy env domain.scope.resources

/-- A current allow of the Goal's delegate, within the Goal, for this request. -/
def isDelegated (domain : PolicyDelegation) (candidate : PolicyPermission) : Bool :=
  decide (candidate.state = .active /\ candidate.effect = .allow /\ candidate.grant = .ordinary /\
      candidate.author = ⟨.agent, domain.delegate.id⟩ /\
      candidate.authority = .delegation ⟨domain.id, env.digest.statement (.delegation domain)⟩) &&
    policyScopeContains env domain.scope candidate.scope &&
    candidate.scope.subjects.any (fun value =>
      env.digest.principal value = env.digest.principal input.subject.principal) &&
    input.operation ∈ candidate.scope.actions && input.selectedBy env candidate.scope.resources

/-- The one selected exception, absent when the Task's resources suffice. -/
def permission? : Option PolicyPermission :=
  if input.selectedBy env input.resources then none
  else input.domain.bind fun domain => input.permissions.find? (input.isDelegated env domain)

def scope : ScopeKernelInput where
  operation := input.operation
  user := input.subject.principal.graphName
  process := input.subject.process.map PolicyProcess.turnId
  inGoalEnvelope := input.inGoalEnvelope env
  selectedByTask := input.selectedBy env input.resources || (input.permission? env).isSome
  humanKernel := input.humanKernel

def escalation? : Option GoalEscalation :=
  let kernel := (input.scope env).scopeKernel
  input.domain.bind fun domain =>
    if input.inGoalEnvelope env /\ input.selectedBy env input.resources = false /\
        (input.permission? env).isNone /\ input.humanKernel.effect = .allow /\
        kernel.effect = .deny /\ kernel.reasons ≠ [] /\
        kernel.reasons.all isMissingPrivilege then
      some ⟨domain.source.workspaceId, domain.source.goalId, domain.delegate.id⟩
    else none

/-- Projects the Goal and Task selectors into two mandatory policy classes. -/
def evaluateGoalTaskAccess (policyDigest : GoalTaskRevision -> String) : GoalTaskAccessResult where
  kernel := (input.scope env).scopeKernel
  escalation := input.escalation? env
  inGoalEnvelope := input.inGoalEnvelope env
  permission := input.permission? env
  authorizationRevision := policyDigest
    { domain := input.domain.map fun domain =>
        ⟨domain.id, env.digest.statement (.delegation domain)⟩
      permission := (input.permission? env).map fun permission =>
        ⟨permission.id, env.digest.statement (.permission permission)⟩
      input }

/-- The Task selects the resource, or a delegated permission of the Goal does. -/
def Associated : Prop :=
  input.selectedBy env input.resources \/ ∃ domain, input.domain = some domain /\
    ∃ permission ∈ input.permissions, input.isDelegated env domain permission

open ScopeKernelInput

variable {env input}

theorem scope_fresh : (input.scope env).Fresh := by
  -- no name of the graph starts like the name of a principal
  have starts : input.subject.principal.graphName.toList.head? = some 'h' \/
      input.subject.principal.graphName.toList.head? = some 'a' := by
    unfold PolicyPrincipal.graphName
    cases input.subject.principal.kind <;> simp [String.toList_append]
  intro mem
  have first := mem_map_of_mem (f := fun name : String => name.toList.head?) mem
  rw [show (input.scope env).user = input.subject.principal.graphName from rfl] at first
  rcases starts with start | start <;> rw [start] at first <;> revert first <;> decide

theorem associated_iff : (input.scope env).selectedByTask <-> input.Associated env := by
  unfold Associated scope permission?
  cases input.selectedBy env input.resources <;> cases input.domain <;> simp [find?_isSome]

theorem unselected_iff :
    (input.selectedBy env input.resources = false /\ (input.permission? env).isNone) <->
      ¬ input.Associated env := by
  rw [<- associated_iff]
  simp [scope]

/-- A request that the kernel denies only for its Task is escalated. -/
theorem escalation?_isSome_iff : (input.escalation? env).isSome <->
    input.humanKernel.effect = .allow /\ (productAccessRight? input.operation).isSome /\
      input.inGoalEnvelope env /\ ¬ input.Associated env := by
  have fresh := @scope_fresh env input
  rw [Option.isSome_iff_exists]
  constructor
  · rintro ⟨escalation, offered⟩
    rcases Option.bind_eq_some_iff.mp offered with ⟨domain, _, chosen⟩
    rcases Option.ite_none_right_eq_some.mp chosen with
      ⟨⟨inEnvelope, unselected, none, human, denied, reasons⟩, _⟩
    exact ⟨human, (scopeKernel_misses_privilege fresh human denied).mp reasons,
      inEnvelope, unselected_iff.mp ⟨unselected, none⟩⟩
  · rintro ⟨human, known, inEnvelope, unassociated⟩
    have denied : (input.scope env).scopeKernel.effect = .deny := by
      cases isEffect : (input.scope env).scopeKernel.effect with
      | deny => rfl
      | allow =>
        have allowed := (scopeKernel_allow_iff fresh).mp isEffect
        exact absurd (associated_iff.mp allowed.2.2.2) unassociated
    have inDomain := inEnvelope
    unfold inGoalEnvelope at inDomain
    rw [Option.any_eq_true] at inDomain
    rcases inDomain with ⟨domain, isDomain, _⟩
    rcases unselected_iff.mpr unassociated with ⟨unselected, none⟩
    refine ⟨_, Option.bind_eq_some_iff.mpr ⟨domain, isDomain, if_pos ?_⟩⟩
    exact ⟨inEnvelope, unselected, none, human, denied,
      (scopeKernel_misses_privilege fresh human denied).mpr known⟩

/-- A Goal Task's request is allowed exactly when the human's kernel evaluation
allows it, the operation is registered, the resource lies in the Goal envelope and
the Task or a delegated permission selects it.  It is escalated exactly when only
the last of these fails, and it never allows what the human's evaluation denies. -/
theorem goal_task_access_decision (env : PolicyEnvironment) (input : GoalTaskAccessInput)
    (policyDigest : GoalTaskRevision -> String) :
    let result := input.evaluateGoalTaskAccess env policyDigest
    (result.kernel.effect = .allow <-> input.humanKernel.effect = .allow /\
        (productAccessRight? input.operation).isSome /\ input.inGoalEnvelope env /\
        input.Associated env) /\
      (result.escalation.isSome <-> input.humanKernel.effect = .allow /\
        (productAccessRight? input.operation).isSome /\ input.inGoalEnvelope env /\
        ¬ input.Associated env) /\
      ¬ (input.humanKernel.effect = .deny /\ result.kernel.effect = .allow) := by
  have allowed : (input.scope env).scopeKernel.effect = .allow <->
      input.humanKernel.effect = .allow /\ (productAccessRight? input.operation).isSome /\
        input.inGoalEnvelope env /\ input.Associated env := by
    rw [scopeKernel_allow_iff scope_fresh, associated_iff]
    rfl
  refine ⟨allowed, escalation?_isSome_iff, ?_⟩
  rintro ⟨denied, isAllowed⟩
  have human := (allowed.mp isAllowed).1
  rw [denied] at human
  cases human

end GoalTaskAccessInput

end Policy
end OpenKit
