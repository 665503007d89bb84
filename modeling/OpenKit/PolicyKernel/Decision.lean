import OpenKit.PolicyKernel.Validation

namespace OpenKit
namespace PolicyKernel

open Foundation

/-!
# The evaluator allows exactly the permitted requests

The evaluator is read back exit by exit.  The two nested search loops succeed
exactly when every required right is granted under every policy class, no
matter which association they meet first; the prohibition filter is empty
exactly when nothing restricts the request.  Together with the validator this
determines the effect of every evaluation, over the containment that the
source walks.  For policies without empty identifiers the source's containment
is plain reachability, which gives the declarative reading.
-/

/-! ## The search loops -/

theorem searchPolicyClasses_snd_iff (grant : String -> Option PolicyAssociation)
    (policyClasses matched : List String) : (searchPolicyClasses grant policyClasses matched).2 <->
      ∀ cls ∈ policyClasses, (grant cls).isSome := by
  induction policyClasses generalizing matched with
  | nil => simp [searchPolicyClasses]
  | cons cls rest ih =>
    cases found : grant cls with
    | none => simp [searchPolicyClasses, found]
    | some => simp [searchPolicyClasses, found, ih]

/-- The labelled break is taken exactly when some required right has no
granting association under some policy class. -/
theorem associationSearch_snd_iff (grant : String -> String -> Option PolicyAssociation)
    (policyClasses accessRights matched : List String) :
    (associationSearch grant policyClasses accessRights matched).2 = none <->
      ∀ right ∈ accessRights, ∀ cls ∈ policyClasses,
        (grant right cls).isSome := by
  induction accessRights generalizing matched with
  | nil => simp [associationSearch]
  | cons right rest ih =>
    have inner := searchPolicyClasses_snd_iff (grant right) policyClasses matched
    rw [List.forall_mem_cons, <- inner]
    unfold associationSearch
    rcases searchPolicyClasses (grant right) policyClasses matched with ⟨extended, complete⟩
    cases complete with
    | false => simp
    | true => simp [ih]

/-! ## Matching over containment -/

section Matching

variable (policy : PolicyState)

theorem grantsAccessRight_iff (grant : PolicyAssociation)
    (right cls user target : String) :
    grantsAccessRight grant right cls
        (computeContainmentClosure user (indexAssignmentParents policy.assignments))
        (computeContainmentClosure target (indexAssignmentParents policy.assignments))
        (indexAssignmentParents policy.assignments) <->
      Grants policy.Contains user target right cls grant := by
  simp only [grantsAccessRight, Bool.and_eq_true, decide_eq_true_eq,
    mem_computeContainmentClosure_iff]
  constructor
  · intro parts
    exact ⟨parts.1.1.1, parts.1.1.2, parts.1.2, parts.2⟩
  · intro grants
    exact ⟨⟨⟨grants.user, grants.target⟩, grants.policyClass⟩, grants.right⟩

theorem targetInRange_iff (target : String) (range : PolicyProhibitionRange) :
    targetInRange target range (indexAssignmentParents policy.assignments) <->
      InRange policy.Contains target range := by
  unfold targetInRange InRange
  cases range.type <;> simp [mem_computeContainmentClosure_iff]

theorem subjectMatches_iff (ban : PolicyProhibition) (request : AccessRequest)
    (user : String) : subjectMatches ban request user
        (computeContainmentClosure user (indexAssignmentParents policy.assignments)) <->
      SubjectMatches policy.Contains request user ban := by
  unfold subjectMatches SubjectMatches
  cases ban.kind <;> simp [mem_computeContainmentClosure_iff, eq_comm]

theorem matchesRestriction_iff (ban : PolicyProhibition) (request : AccessRequest)
    (user : String) (op : PolicyOperation) : matchesRestriction ban request user
        (computeContainmentClosure user (indexAssignmentParents policy.assignments))
        request.target op.accessRights (indexAssignmentParents policy.assignments) <->
      Restricts policy.Contains request user op ban := by
  unfold matchesRestriction
  rw [Bool.and_eq_true, Bool.and_eq_true, subjectMatches_iff, targetInRange_iff, List.any_eq_true]
  simp only [decide_eq_true_eq]
  constructor
  · intro parts
    exact ⟨parts.1.1, parts.1.2, parts.2⟩
  · intro restricts
    exact ⟨⟨restricts.subject, restricts.right⟩, restricts.range⟩

end Matching

/-! ## The effect of an evaluation -/

variable {policy : PolicyState}

private theorem granted_iff (unique : (policy.elements.map PolicyElement.id).Nodup)
    (request : AccessRequest) (op : PolicyOperation) (user : String) :
    (∀ right ∈ op.accessRights,
      ∀ cls ∈ (computeContainmentClosure request.target
          (indexAssignmentParents policy.assignments)).filter
            (kindOf (indexElements policy.elements) · = some .policyClass),
        (policy.associations.find? (fun entry => grantsAccessRight entry right cls
          (computeContainmentClosure user (indexAssignmentParents policy.assignments))
          (computeContainmentClosure request.target (indexAssignmentParents policy.assignments))
          (indexAssignmentParents policy.assignments))).isSome) <->
      ∀ right ∈ op.accessRights, ∀ cls,
        policy.Contains request.target cls -> policy.Declared cls .policyClass ->
          ∃ grant ∈ policy.associations,
            Grants policy.Contains user request.target right cls grant := by
  simp only [List.find?_isSome, grantsAccessRight_iff, List.mem_filter, decide_eq_true_eq,
    mem_computeContainmentClosure_iff, kindOf_eq_some_iff unique, and_imp]

theorem decideAccess_effect_iff (unique : (policy.elements.map PolicyElement.id).Nodup)
    (request : AccessRequest) (op : PolicyOperation) (user : String) :
    (decideAccess policy request op user (indexElements policy.elements)
        (indexAssignmentParents policy.assignments)).effect = .allow <->
      (∀ right ∈ op.accessRights, ∀ cls,
        policy.Contains request.target cls -> policy.Declared cls .policyClass ->
          ∃ grant ∈ policy.associations,
            Grants policy.Contains user request.target right cls grant) /\
        ∀ ban ∈ policy.prohibitionList,
          ¬ Restricts policy.Contains request user op ban := by
  rw [<- granted_iff unique, <- associationSearch_snd_iff _ _ _ []]
  have unrestricted : policy.prohibitionList.filter (fun ban =>
        matchesRestriction ban request user
          (computeContainmentClosure user (indexAssignmentParents policy.assignments))
          request.target op.accessRights (indexAssignmentParents policy.assignments)) = [] <->
      ∀ ban ∈ policy.prohibitionList,
        ¬ Restricts policy.Contains request user op ban := by
    simp only [List.filter_eq_nil_iff, matchesRestriction_iff]
  rw [<- unrestricted]
  unfold decideAccess
  dsimp only
  -- The prohibition exit precedes the missing privilege, but both deny.
  split
  next matched =>
    simp [deny, matched]
  rename_i matched
  rw [matched]
  split
  next missing =>
    simp [deny, missing]
  next complete =>
    simp [complete]

/-- The effect of every evaluation, with the request resolution as the
source computes it and containment as the source walks it. -/
theorem evaluateAccess_effect_iff (policy : PolicyState) (request : AccessRequest) :
    (evaluateAccess policy request).effect = .allow <-> WellFormed policy policy.Contains /\
        ∃ op user, policy.operations.find? (·.id = request.operation) = some op /\
          resolveRequestUser policy request (indexElements policy.elements) = .ok user /\
          Permits policy policy.Contains request op user := by
  rw [<- validatePolicy_eq_none_iff]
  unfold evaluateAccess
  dsimp only
  cases validated : validatePolicy policy (indexElements policy.elements)
      (indexAssignmentParents policy.assignments) with
  | some message => simp [deny]
  | none =>
    have unique := ((validatePolicy_eq_none_iff policy).mp validated).uniqueIds
    cases hit : policy.operations.find? (·.id = request.operation) with
    | none => simp [deny]
    | some op =>
      cases resolved : resolveRequestUser policy request (indexElements policy.elements) with
      | error => simp [deny]
      | ok user =>
        simp only [Option.some.injEq, Except.ok.injEq, true_and, exists_and_left, exists_eq_left']
        have target : (∃ kind, policy.Declared request.target kind /\ kind ≠ .policyClass) <->
            ∃ kind, kindOf (indexElements policy.elements) request.target = some kind /\
              kind ≠ .policyClass := by
          simp only [kindOf_eq_some_iff unique]
        constructor
        · intro allowed
          split at allowed
          · cases allowed
          · cases allowed
          rename_i kind notClass declared
          have decision := (decideAccess_effect_iff unique request op user).mp allowed
          exact ⟨target.mpr ⟨kind, declared, notClass⟩, decision.1, decision.2⟩
        · intro permitted
          rcases target.mp permitted.target with ⟨kind, declared, notClass⟩
          rw [declared]
          have allowed := (decideAccess_effect_iff unique request op user).mpr
            ⟨permitted.granted, permitted.unrestricted⟩
          cases kind <;> first | exact allowed | exact absurd rfl notClass

/-! ## Policies without empty identifiers -/

variable {contains : String -> String -> Prop}

/-- When assignments lead to named elements only, skipping empty identifiers
skips nothing. -/
theorem contains_iff_reaches
    (parentNamed : ∀ child parent, policy.Assigned child parent -> parent ≠ "") {source : String}
    (sourceNamed : source ≠ "") (target : String) :
    policy.Contains source target <-> policy.Reaches source target := by
  constructor
  · intro contained
    exact Relation.ReflTransGen.mono (fun _ _ step => step.1) _ _ contained.2
  · intro reached
    refine ⟨sourceNamed, Relation.ReflTransGen.mono ?_ _ _ reached⟩
    intro child parent assigned
    exact ⟨assigned, parentNamed child parent assigned⟩

/-- Both graph helpers on assignments without empty names, cyclic or not. -/
theorem assignment_graph_helpers_exact (policy : PolicyState)
    (parentNamed : ∀ child parent, policy.Assigned child parent -> parent ≠ "")
    (start target : String) (startNamed : start ≠ "") :
    (target ∈ computeContainmentClosure start (indexAssignmentParents policy.assignments) <->
      Relation.ReflTransGen policy.Assigned start target) /\
    (hasAssignmentCycle policy.elements (indexAssignmentParents policy.assignments) <->
      ∃ element ∈ policy.elements, ∃ id, Relation.ReflTransGen policy.Assigned element.id id /\
        Relation.TransGen policy.Assigned id id) :=
  ⟨(mem_computeContainmentClosure_iff policy start target).trans
    (contains_iff_reaches parentNamed startNamed target), hasAssignmentCycle_iff policy⟩

/-- Two attributes assigned to each other. -/
def mutualPolicy : PolicyState :=
  ⟨[⟨"a", .userAttribute⟩], [⟨"a", "b"⟩, ⟨"b", "a"⟩], [], none, [], none⟩

theorem mutualPolicy_helpers :
    "b" ∈ computeContainmentClosure "a" (indexAssignmentParents mutualPolicy.assignments) /\
      hasAssignmentCycle mutualPolicy.elements (indexAssignmentParents mutualPolicy.assignments) := by
  have up : mutualPolicy.Assigned "a" "b" := .head _
  have down : mutualPolicy.Assigned "b" "a" := .tail _ (.head _)
  have helpers := assignment_graph_helpers_exact mutualPolicy
    (by simp +contextual [mutualPolicy, PolicyState.Assigned, or_imp]) "a" "b" (by decide)
  refine ⟨helpers.1.mpr (.single up), helpers.2.mpr ⟨⟨"a", .userAttribute⟩, .head _, "a", .refl, ?_⟩⟩
  exact .tail (.single up) down

section Congruence

variable {policy : PolicyState} {contains containsToo : String -> String -> Prop} {user : String}

/-- Well-formedness only reads containment from declared elements. -/
theorem WellFormed.congr (formed : WellFormed policy contains)
    (agree : ∀ id kind, policy.Declared id kind -> ∀ target,
      contains id target <-> containsToo id target) : WellFormed policy containsToo := by
  refine { formed with connected := ?_ }
  intro id kind declared notClass
  rcases formed.connected id kind declared notClass with ⟨cls, contained, isClass⟩
  exact ⟨cls, (agree id kind declared cls).mp contained, isClass⟩

/-- Permission only reads containment from the user, the target, and the
target attributes of associations, all of which are declared. -/
theorem Permits.congr {request : AccessRequest} {op : PolicyOperation}
    (permitted : Permits policy contains request op user)
    (associations : ∀ grant ∈ policy.associations, WellFormedAssociation policy grant)
    (userDeclared : policy.Declared user .user)
    (agree : ∀ id kind, policy.Declared id kind -> ∀ target,
      contains id target <-> containsToo id target) :
    Permits policy containsToo request op user := by
  rcases permitted.target with ⟨targetKind, targetDeclared, notClass⟩
  have fromUser := agree user .user userDeclared
  have fromTarget := agree request.target targetKind targetDeclared
  refine ⟨permitted.target, ?_, ?_⟩
  · intro right required cls contained isClass
    rcases permitted.granted right required cls ((fromTarget _).mpr contained)
      isClass with ⟨grant, mem, grants⟩
    rcases (associations grant mem).target with ⟨kind, declared, _⟩
    exact ⟨grant, mem, (fromUser _).mp grants.user, (fromTarget _).mp grants.target,
      (agree _ kind declared _).mp grants.policyClass, grants.right⟩
  · intro ban mem restricts
    apply permitted.unrestricted ban mem
    exact ⟨by simpa only [SubjectMatches, fromUser] using restricts.subject, restricts.right,
      by simpa only [InRange, fromTarget] using restricts.range⟩

end Congruence

/-! ## Request resolution -/

variable {request : AccessRequest}

theorem find?_operation_iff (policy : PolicyState) (id : String) (op : PolicyOperation) :
    policy.operations.find? (·.id = id) = some op <->
      FirstOperation policy id op := by
  rw [List.find?_eq_some_iff_append]
  simp only [decide_eq_true_eq, Bool.not_eq_true', decide_eq_false_iff_not]
  constructor
  · intro first
    rcases first with ⟨same, before, after, split, earlier⟩
    exact ⟨before, after, split, same, earlier⟩
  · intro first
    rcases first with ⟨before, after, split, same, earlier⟩
    exact ⟨same, before, after, split, earlier⟩

private theorem present_of_ne {value : Option String} (named : value ≠ some "") :
    present value = value := by
  cases value with
  | none => rfl
  | some text =>
    have nonEmpty : text ≠ "" := fun equal => named (congrArg some equal)
    simp [present, Option.filter, nonEmpty]

theorem mappedUser_eq_some_iff (named : request.process ≠ some "") (user : String) :
    mappedUser policy request = some user <->
      ∃ process, request.process = some process /\ FirstMapping policy process user := by
  unfold mappedUser FirstMapping
  rw [present_of_ne named]
  cases request.process with
  | none => simp
  | some process =>
    simp only [Option.map_eq_some_iff, List.find?_eq_some_iff_append, decide_eq_true_eq,
      Bool.not_eq_true', decide_eq_false_iff_not, Option.some.injEq, exists_eq_left']
    constructor
    · intro found
      rcases found with ⟨entry, ⟨same, before, after, split, earlier⟩, sameUser⟩
      subst same sameUser
      exact ⟨before, after, split, earlier⟩
    · intro first
      rcases first with ⟨before, after, split, earlier⟩
      exact ⟨⟨process, user⟩, ⟨rfl, before, after, split, earlier⟩, rfl⟩

theorem WellFormed.mappedUser_declared (formed : WellFormed policy contains) {user : String}
    (mapped : mappedUser policy request = some user) : policy.Declared user .user := by
  unfold mappedUser at mapped
  split at mapped
  · rcases Option.map_eq_some_iff.mp mapped with ⟨entry, found, sameUser⟩
    exact sameUser ▸ formed.processUsers entry (List.mem_of_find?_eq_some found)
  · cases mapped

theorem resolveRequestUser_eq_ok_iff (formed : WellFormed policy contains)
    (named : NonEmptyNames policy request) (user : String) :
    resolveRequestUser policy request (indexElements policy.elements) = .ok user <->
      ResolvesTo policy request user := by
  have mappedNamed : mappedUser policy request ≠ some "" := by
    intro mapped
    exact named.elements _ (formed.mappedUser_declared mapped) rfl
  have mappings : ∀ mappedTo, mappedUser policy request = some mappedTo <-> _ :=
    mappedUser_eq_some_iff named.process
  have spec : ResolvesTo policy request user <-> policy.Declared user .user /\
        (∀ requested, request.user = some requested -> requested = user) /\
        (∀ mappedTo, mappedUser policy request = some mappedTo -> mappedTo = user) /\
        (request.user = some user \/ mappedUser policy request = some user) := by
    simp only [mappings]
    constructor
    · intro resolves
      refine ⟨resolves.declared, resolves.named, ?_, resolves.resolved⟩
      intro mappedTo mapping
      rcases mapping with ⟨process, given, first⟩
      exact resolves.mapped process mappedTo given first
    · intro parts
      refine ⟨parts.1, parts.2.1, ?_, parts.2.2.2⟩
      intro process mappedTo given first
      exact parts.2.2.1 mappedTo ⟨process, given, first⟩
  have kind : ∀ id, kindOf (indexElements policy.elements) id = some .user <->
      policy.Declared id .user := fun id => kindOf_eq_some_iff formed.uniqueIds id .user
  have eitherNamed : (request.user <|> mappedUser policy request) ≠ some "" := by
    cases requested : request.user with
    | none => exact mappedNamed
    | some =>
      have given := named.user
      rw [requested] at given
      exact given
  rw [spec]
  unfold resolveRequestUser
  dsimp only
  rw [present_of_ne eitherNamed, present_of_ne mappedNamed, present_of_ne named.user]
  cases request.user with
  | none =>
    cases mappedUser policy request with
    | none => simp
    | some =>
      simp
      grind
  | some =>
    cases mappedUser policy request with
    | none =>
      simp
      grind
    | some =>
      simp
      grind

/-! ## The declarative decision -/

/-- In a well-formed policy without empty identifiers, containment from a
declared element is reachability. -/
theorem WellFormed.contains_iff_reaches (formed : WellFormed policy contains)
    (named : ∀ element ∈ policy.elements, element.id ≠ "") :
    ∀ id kind, policy.Declared id kind -> ∀ target,
      policy.Contains id target <-> policy.Reaches id target := by
  intro id kind declared target
  apply PolicyKernel.contains_iff_reaches
  · intro child parent assigned
    rcases formed.legalAssignments child parent assigned with ⟨_, _, _, parentDeclared, _⟩
    exact named _ parentDeclared
  · exact named _ declared

/-- A request without empty names is allowed exactly when the policy is well
formed, the operation is defined, the request resolves to a user, every
required right is granted under every policy class of the target, and no
prohibition matches. -/
theorem evaluateAccess_allow_iff_permitted (policy : PolicyState) (request : AccessRequest)
    (named : NonEmptyNames policy request) : (evaluateAccess policy request).effect = .allow <->
      WellFormed policy policy.Reaches /\
        ∃ operation user, FirstOperation policy request.operation operation /\
          ResolvesTo policy request user /\
          Permits policy policy.Reaches request operation user := by
  rw [evaluateAccess_effect_iff]
  simp only [find?_operation_iff]
  constructor
  · intro allowed
    rcases allowed with ⟨formed, operation, user, first, resolved, permitted⟩
    have agree := formed.contains_iff_reaches named.elements
    have resolves := (resolveRequestUser_eq_ok_iff formed named user).mp resolved
    exact ⟨formed.congr agree, operation, user, first, resolves,
      permitted.congr formed.associations resolves.declared agree⟩
  · intro specified
    rcases specified with ⟨formed, operation, user, first, resolves, permitted⟩
    have agree := fun id kind declared target =>
      (formed.contains_iff_reaches named.elements id kind declared target).symm
    exact ⟨formed.congr agree, operation, user, first,
      (resolveRequestUser_eq_ok_iff formed named user).mpr resolves,
      permitted.congr formed.associations resolves.declared agree⟩

/-- One user, one attribute, and one object below a common policy class. -/
def sharedFilePolicy : PolicyState where
  elements := [⟨"alice", .user⟩, ⟨"staff", .userAttribute⟩, ⟨"file", .object⟩,
    ⟨"company", .policyClass⟩]
  assignments := [⟨"alice", "staff"⟩, ⟨"staff", "company"⟩, ⟨"file", "company"⟩]
  operations := [⟨"open", ["read"]⟩]
  processUsers := some [⟨"editor", "alice"⟩]
  associations := [⟨"staff-reads", "staff", ["read"], "file"⟩]
  prohibitions := none

/-- The mapped process of `sharedFilePolicy` opens the file. -/
def sharedFileRequest : AccessRequest where
  user := none
  process := some "editor"
  operation := "open"
  target := "file"

theorem sharedFile_permitted : WellFormed sharedFilePolicy sharedFilePolicy.Reaches /\
      ∃ operation user, FirstOperation sharedFilePolicy sharedFileRequest.operation operation /\
        ResolvesTo sharedFilePolicy sharedFileRequest user /\
        Permits sharedFilePolicy sharedFilePolicy.Reaches sharedFileRequest operation user :=
  (evaluateAccess_allow_iff_permitted sharedFilePolicy sharedFileRequest
    ⟨by decide, by decide, by decide, by decide, by decide⟩).mp (by decide +kernel)

end PolicyKernel
end OpenKit
