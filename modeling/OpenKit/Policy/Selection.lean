import OpenKit.Foundation.Fallible
import OpenKit.Foundation.Text
import OpenKit.Policy.Statements
import OpenKit.PolicyKernel.Evaluation

namespace OpenKit
namespace Policy

open Foundation

/-!
# Binding selection

Which bindings of a document take part in an operation.  Selection compares
content digests, parses expiry texts, and reads the operation registry; these
enter through `PolicyEnvironment`.  A digest is one function of the source on
arbitrary values; here it is one function for each type it is applied to.

An unregistered operation throws, and `Date.parse` may return a value that
compares false with everything, which is `none`.
-/

/-- The content digest at each type that the policy code compares. -/
structure PolicyDigest where
  principal : PolicyPrincipal -> String
  action : String -> String
  resource : PolicyResource -> String
  container : PolicyContainer -> String
  statement : PolicyStatement -> String
  /-- The digest of a statement without its authorship. -/
  content : PolicyStatement -> String
  /-- The digest of the binding fields that a narrowing must keep. -/
  fixedContent : PolicyBinding -> String
  document : List PolicyStatement -> String
  /-- The digest of a proposal without the id of its call. -/
  proposal : PolicyProposal -> String

/-- Different values have different digests. -/
structure PolicyDigest.Injective (digest : PolicyDigest) : Prop where
  principal : Function.Injective digest.principal
  action : Function.Injective digest.action
  resource : Function.Injective digest.resource
  container : Function.Injective digest.container
  statement : Function.Injective digest.statement
  content : Function.Injective digest.content
  fixedContent : Function.Injective digest.fixedContent

/-- A digest without collisions. -/
def textDigest : PolicyDigest where
  principal := textCode
  action := textCode
  resource := textCode
  container := textCode
  statement := textCode
  content := textCode
  fixedContent := textCode
  document := textCode
  proposal := fun proposal => textCode { proposal with capabilityCallId := none }

theorem textDigest_injective : textDigest.Injective :=
  ⟨textCode_injective, textCode_injective, textCode_injective, textCode_injective,
    textCode_injective, textCode_injective, textCode_injective⟩

inductive GateDecision where
  | allow | deny | escalate
deriving DecidableEq

/-- The dispositions that an operation may admit for a failed gate. -/
inductive GateFailure where
  | error | escalateToHuman
deriving DecidableEq

/-- The registered insertion points of an operation. -/
structure OperationPoints where
  stages : List PolicyStage
  modes : List PolicyMode
  participantKinds : List PolicyParticipantKind
  gateResults : List GateDecision
  gateFailures : List GateFailure

structure OperationDefinition where
  policyOperation : String
  points : OperationPoints

/-- What the policy code reads from the platform and the registries. -/
structure PolicyEnvironment where
  digest : PolicyDigest
  dateParse : String -> Option Int
  /-- The registry entry of an operation, with its insertion points if any. -/
  operationRegistry : String -> Option (String × Option OperationPoints)
  /-- The keys of the product access rights table. -/
  productOperations : List String

variable (env : PolicyEnvironment)

/-- Derives supported points from the operation definition. -/
def policyOperationDefinition (operation : String) : Except String OperationDefinition :=
  match env.operationRegistry operation with
  | none => .error "Policy operation is unavailable."
  | some (_, none) => .error "Policy insertion points are unavailable."
  | some (policyOperation, some points) => .ok ⟨policyOperation, points⟩

/-- The Workspace that owns a resource, for the supported selectors. -/
def policyResourceWorkspace (resource : PolicyResource) : Option String :=
  match resource with
  | .mcpTool workspaceId _ _ => some workspaceId
  | .container container =>
    match container.owner with
    | .workspace workspaceId =>
      if container.kind = "workspace" /\ container.id = workspaceId then some workspaceId
      else none
    | _ => none

/-- The User that owns a resource; other shapes select no User home. -/
def policyResourceUser (resource : PolicyResource) : Option String :=
  match resource with
  | .mcpTool _ _ _ => none
  | .container container =>
    match container.owner with
    | .user userId =>
      if container.kind = "user" /\ container.id = userId then some userId else none
    | _ => none

/-- `lifetime.notAfter && Date.parse(lifetime.notAfter) <= now`. -/
def isExpired (lifetime : PolicyLifetime) (now : Int) : Bool :=
  match PolicyKernel.present lifetime.notAfter with
  | none => false
  | some text =>
    match env.dateParse text with
    | none => false
    | some instant => instant <= now

/-- Exact finite selectors make disclosure containment decidable. -/
def policyScopeContains (scope disclosure : PolicyScope) : Bool :=
  disclosure.subjects.all (env.digest.principal · ∈ scope.subjects.map env.digest.principal) &&
    disclosure.actions.all (env.digest.action · ∈ scope.actions.map env.digest.action) &&
    disclosure.resources.all (env.digest.resource · ∈ scope.resources.map env.digest.resource)

variable (proposal : PolicyProposal)

/-- Whether the resource belongs to the owner that the proposal names. -/
def resourceOwned : Bool :=
  match proposal.workspaceId with
  | none => (policyResourceUser proposal.resource).isSome
  | some workspaceId => policyResourceWorkspace proposal.resource = some workspaceId

/-- Matches the exact subject and target of a proposal.  The registry is only
read after a subject matched. -/
def policyScopeIncludesProposal (scope : PolicyScope) (proposal : PolicyProposal) :
    Except String Bool :=
  if scope.subjects.any (fun principal =>
      env.digest.principal principal = env.digest.principal proposal.subject.principal) then
    match policyOperationDefinition env proposal.operation with
    | .error thrown => .error thrown
    | .ok definition =>
      .ok (definition.policyOperation ∈ scope.actions && resourceOwned proposal &&
        scope.resources.any (env.digest.resource · = env.digest.resource proposal.resource))
  else .ok false

/-- The currency facts that a selection reads. -/
structure Currency where
  now : Int
  authorCurrent : String -> Bool
  anchorCurrent : PolicyContainer -> Bool

/-- Whether a binding's anchor belongs to the proposal's owner. -/
def anchorMatches (binding : PolicyBinding) (proposal : PolicyProposal) : Bool :=
  let anchor := binding.lifetime.anchor
  match proposal.workspaceId with
  | none =>
    match policyResourceUser proposal.resource with
    | none => false
    | some userId =>
      anchor.owner = .user userId && anchor.kind = "user" &&
        anchor.id = userId && binding.participant.kind ≠ .agent
  | some workspaceId =>
    anchor.owner = .workspace workspaceId && !(anchor.kind = "turn" &&
        some anchor.id ≠ proposal.subject.process.map PolicyProcess.turnId) &&
      !(anchor.kind = "workspace" && anchor.id ≠ workspaceId)

/-- Whether one binding takes part; the tests are in the source's order. -/
def selectsBinding (stage : Option PolicyStage) (currency : Currency)
    (binding : PolicyBinding) : Except String Bool :=
  if binding.state = .inactive \/ binding.operation ≠ proposal.operation \/
      (stage.isSome /\ stage ≠ some binding.stage) then .ok false
  else if anchorMatches binding proposal = false then .ok false
  else if currency.anchorCurrent binding.lifetime.anchor = false then .ok false
  else if isExpired env binding.lifetime currency.now then .ok false
  else if binding.author.kind ≠ .human then .ok false
  else if binding.participant.kind ≠ .agent /\ currency.authorCurrent binding.author.id = false then
    -- A required agent gate cannot disappear when its activation author loses authority.
    .ok false
  else policyScopeIncludesProposal env binding.scope proposal

/-- The filter callback over all statements. -/
def selectStatement (stage : Option PolicyStage) (currency : Currency)
    (statement : PolicyStatement) : Except String (Option PolicyBinding) :=
  match statement with
  | .binding binding =>
    match selectsBinding env proposal stage currency binding with
    | .error thrown => .error thrown
    | .ok selected => .ok (if selected then some binding else none)
  | _ => .ok none

/-- The comparison of the sort: explicit order first, then the id. -/
def bindingLe (left right : PolicyBinding) : Bool :=
  left.order < right.order || (left.order = right.order && codeUnitsLe left.id right.id)

/-- Selects only exact-scope bindings. -/
def selectPolicyBindings (document : PolicyDocument) (proposal : PolicyProposal)
    (stage : Option PolicyStage) (currency : Currency) : Except String (List PolicyBinding) :=
  match collect (selectStatement env proposal stage currency) document.statements with
  | .error thrown => .error thrown
  | .ok bindings => .ok (bindings.mergeSort bindingLe)

/-! ## What a selection means -/

variable {env}

theorem policyScopeContains_iff (injective : env.digest.Injective) (scope disclosure : PolicyScope) :
    policyScopeContains env scope disclosure <->
      disclosure.subjects ⊆ scope.subjects /\ disclosure.actions ⊆ scope.actions /\
        disclosure.resources ⊆ scope.resources := by
  simp only [policyScopeContains, Bool.and_eq_true, List.all_eq_true, decide_eq_true_eq,
    List.mem_map_of_injective injective.principal, List.mem_map_of_injective injective.action,
    List.mem_map_of_injective injective.resource, and_assoc, List.subset_def]

theorem mem_selectPolicyBindings {document : PolicyDocument} {proposal : PolicyProposal}
    {stage : Option PolicyStage} {currency : Currency} {bindings : List PolicyBinding}
    (selection : selectPolicyBindings env document proposal stage currency = .ok bindings)
    (binding : PolicyBinding) : binding ∈ bindings <->
      PolicyStatement.binding binding ∈ document.statements /\
        selectsBinding env proposal stage currency binding = .ok true := by
  unfold selectPolicyBindings at selection
  split at selection
  · cases selection
  rename_i collected
  cases selection
  rw [List.mem_mergeSort, mem_of_collect_eq_ok collected]
  constructor
  · intro found
    rcases found with ⟨statement, mem, selected⟩
    cases statement with
    | binding =>
      simp only [selectStatement] at selected
      split at selected
      · cases selected
      rename_i answer decided
      cases answer with
      | false => cases selected
      | true =>
        cases selected
        exact ⟨mem, decided⟩
    | permission | delegation | managedBoundary | agentPrincipal => cases selected
  · intro selected
    refine ⟨.binding binding, selected.1, ?_⟩
    simp [selectStatement, selected.2]

end Policy
end OpenKit
