import OpenKit.PolicyKernel.Specification

namespace OpenKit
namespace PolicyKernel

open Foundation List

/-!
# The validator accepts exactly the well-formed policies

The indexes are first read back as the relations of the specification.  Each
loop of the validator then becomes a condition on every entry of its list.
Identifier uniqueness comes first in the source and is what makes the element
index faithful, so the remaining checks are compared under it.
-/

/-! ## The indexes as relations -/

theorem size_indexElements_eq_iff (elements : List PolicyElement) :
    (indexElements elements).size = elements.length <-> (elements.map PolicyElement.id).Nodup := by
  have counted := OrderedMap.size_ofPairs_eq_iff
    (elements.map (fun element => (element.id, element)))
  rw [length_map, map_map] at counted
  exact counted

theorem get?_indexElements_iff {elements : List PolicyElement}
    (unique : (elements.map PolicyElement.id).Nodup) (id : String) (element : PolicyElement) :
    (indexElements elements).get? id = some element <-> element ∈ elements /\ element.id = id :=
  OrderedMap.get?_ofPairs_map_iff unique id element

variable {policy : PolicyState}

variable (unique : (policy.elements.map PolicyElement.id).Nodup)

include unique

theorem kindOf_eq_some_iff (id : String) (kind : PolicyElementKind) :
    kindOf (indexElements policy.elements) id = some kind <-> policy.Declared id kind := by
  unfold kindOf
  rw [Option.map_eq_some_iff]
  constructor
  · intro found
    rcases found with ⟨element, hit, sameKind⟩
    rcases (get?_indexElements_iff unique id element).mp hit with ⟨mem, sameId⟩
    subst sameKind sameId
    exact mem
  · intro declared
    exact ⟨⟨id, kind⟩, (get?_indexElements_iff unique id _).mpr ⟨declared, rfl⟩, rfl⟩

omit unique

/-- The fold appends the parents of one child in the order of the facts. -/
private theorem next_indexAssignmentParents_fold (assignments : List PolicyAssignment)
    (parentsByChild : Adjacency String) (child : String) : (assignments.foldl
      (fun parentsByChild assignment => parentsByChild.set assignment.child
          ((parentsByChild.get? assignment.child).getD [] ++ [assignment.parent]))
      parentsByChild).next child = parentsByChild.next child ++
          (assignments.filter (·.child = child)).map PolicyAssignment.parent := by
  induction assignments generalizing parentsByChild with
  | nil => simp
  | cons assignment rest ih =>
    rw [foldl_cons, ih]
    unfold Adjacency.next
    rw [OrderedMap.get?_set]
    by_cases same : assignment.child = child
    · simp [same]
    · simp [same, Ne.symm same]

theorem edge_indexAssignmentParents_iff (policy : PolicyState) (child parent : String) :
    (indexAssignmentParents policy.assignments).Edge child parent <->
      policy.Assigned child parent := by
  unfold Adjacency.Edge indexAssignmentParents PolicyState.Assigned
  rw [next_indexAssignmentParents_fold]
  simp only [Adjacency.next, OrderedMap.get?_empty, Option.getD_none, nil_append,
    mem_map, mem_filter, decide_eq_true_eq]
  constructor
  · intro listed
    rcases listed with ⟨assignment, ⟨mem, sameChild⟩, sameParent⟩
    subst sameChild sameParent
    exact mem
  · intro mem
    exact ⟨_, ⟨mem, rfl⟩, rfl⟩

private theorem edge_eq_assigned (policy : PolicyState) :
    (indexAssignmentParents policy.assignments).Edge = policy.Assigned := by
  funext child parent
  exact propext (edge_indexAssignmentParents_iff policy child parent)

/-- The work-list closure is containment without empty identifiers. -/
theorem mem_computeContainmentClosure_iff (policy : PolicyState) (source target : String) :
    target ∈ computeContainmentClosure source (indexAssignmentParents policy.assignments) <->
      policy.Contains source target := by
  unfold computeContainmentClosure
  rw [Adjacency.mem_closureLoop_iff]
  unfold Adjacency.AdmittedReach Adjacency.AdmittedEdge PolicyState.Contains
  rw [edge_eq_assigned]
  simp only [decide_eq_true_eq]

/-- The depth-first search finds the cycles on and above the declared elements. -/
theorem hasAssignmentCycle_iff (policy : PolicyState) :
    hasAssignmentCycle policy.elements (indexAssignmentParents policy.assignments) <->
      ∃ element ∈ policy.elements, ∃ id, policy.Reaches element.id id /\
        Relation.TransGen policy.Assigned id id := by
  unfold hasAssignmentCycle
  rw [Option.isNone_iff_eq_none, Adjacency.visitAll_eq_none_iff]
  unfold Adjacency.ReachesCycle
  rw [edge_eq_assigned]
  constructor
  · rintro ⟨_, listed, reached⟩
    rcases mem_map.mp listed with ⟨element, mem, rfl⟩
    exact ⟨element, mem, reached⟩
  · rintro ⟨element, mem, reached⟩
    exact ⟨_, mem_map_of_mem mem, reached⟩

/-- When every assignment joins declared elements, it sees every cycle there is. -/
theorem hasAssignmentCycle_eq_false_iff (policy : PolicyState)
    (declared : ∀ child parent, policy.Assigned child parent ->
      child ∈ policy.elements.map PolicyElement.id) :
    hasAssignmentCycle policy.elements (indexAssignmentParents policy.assignments) = false <->
      ∀ id, ¬ Relation.TransGen policy.Assigned id id := by
  rw [<- Bool.not_eq_true, hasAssignmentCycle_iff]
  constructor
  · intro acyclic id cycle
    rcases Relation.TransGen.head'_iff.mp cycle with ⟨parent, edge, _⟩
    rcases mem_map.mp (declared id parent edge) with ⟨element, mem, rfl⟩
    exact acyclic ⟨element, mem, _, Relation.ReflTransGen.refl, cycle⟩
  · rintro acyclic ⟨_, _, middle, _, cycle⟩
    exact acyclic middle cycle

/-! ## The loops of the validator -/

theorem isAllowedAssignment_eq_true_iff (child parent : PolicyElementKind) :
    isAllowedAssignment child parent <-> LegalAssignment child parent := by
  constructor
  · intro allowed
    cases child <;> cases parent <;> first | constructor | cases allowed
  · intro legal
    cases legal <;> rfl

variable (elementsById : OrderedMap String PolicyElement)

theorem validateAssignment_eq_none_iff
    (assignment : PolicyAssignment) : validateAssignment elementsById assignment = none <->
      ∃ childKind parentKind, kindOf elementsById assignment.child = some childKind /\
        kindOf elementsById assignment.parent = some parentKind /\
          LegalAssignment childKind parentKind := by
  unfold validateAssignment kindOf
  cases elementsById.get? assignment.child with
  | none => simp
  | some =>
    cases elementsById.get? assignment.parent with
    | none => simp
    | some => simp [<- isAllowedAssignment_eq_true_iff]

theorem isAttributeElement_eq_true_iff (id : String) : isAttributeElement (elementsById.get? id) <->
      ∃ kind, kindOf elementsById id = some kind /\ AttributeKind kind := by
  unfold isAttributeElement kindOf
  cases (elementsById.get? id).map PolicyElement.kind with
  | none => simp
  | some kind =>
    constructor
    · intro accepted
      refine ⟨kind, rfl, ?_⟩
      cases kind <;> first | constructor | cases accepted
    · intro found
      rcases found with ⟨_, equal, legal⟩
      cases equal
      cases legal <;> rfl

theorem validateConnection_eq_none_iff (policy : PolicyState)
    (elementsById : OrderedMap String PolicyElement) (element : PolicyElement) :
    validateConnection elementsById (indexAssignmentParents policy.assignments) element = none <->
      (element.kind ≠ .policyClass -> ∃ cls, policy.Contains element.id cls /\
        kindOf elementsById cls = some .policyClass) := by
  have search : (computeContainmentClosure element.id
        (indexAssignmentParents policy.assignments)).any
          (kindOf elementsById · = some .policyClass) <->
      ∃ cls, policy.Contains element.id cls /\
        kindOf elementsById cls = some .policyClass := by
    simp only [any_eq_true, mem_computeContainmentClosure_iff, decide_eq_true_eq]
  unfold validateConnection
  rw [<- search]
  by_cases top : element.kind = .policyClass
  · simp [top]
  · simp [top]

theorem validateOperation_eq_none_iff (op : PolicyOperation) :
    validateOperation op = none <-> op.accessRights ≠ [] := by
  simp [validateOperation]

include unique

theorem validateAssociation_eq_none_iff (grant : PolicyAssociation) :
    validateAssociation (indexElements policy.elements) grant = none <->
      WellFormedAssociation policy grant := by
  have source := kindOf_eq_some_iff unique grant.userAttribute .userAttribute
  have target := isAttributeElement_eq_true_iff (indexElements policy.elements)
    grant.targetAttribute
  simp only [kindOf_eq_some_iff unique] at target
  unfold validateAssociation
  constructor
  · intro accepted
    split at accepted
    · cases accepted
    rename_i started
    split at accepted
    · cases accepted
    rename_i targeted
    split at accepted
    · cases accepted
    next allocated =>
      exact ⟨source.mp (not_not.mp started), target.mp (not_not.mp targeted), allocated⟩
  · intro formed
    rw [if_neg (not_not.mpr (source.mpr formed.source)),
      if_neg (not_not.mpr (target.mpr formed.target)), if_neg formed.rights]

theorem validateProcessUser_eq_none_iff (entry : PolicyProcessUser) :
    validateProcessUser (indexElements policy.elements) entry = none <->
      policy.Declared entry.user .user := by
  rw [<- kindOf_eq_some_iff unique]
  simp [validateProcessUser]

private theorem prohibitionSubject_iff (ban : PolicyProhibition) :
    ProhibitionSubject policy ban <-> ¬ (ban.kind = .user /\
          kindOf (indexElements policy.elements) ban.subject ≠ some .user) /\
        ¬ (ban.kind = .userAttribute /\
          kindOf (indexElements policy.elements) ban.subject ≠ some .userAttribute) /\
        ¬ (ban.kind = .process /\
          ¬ policy.processUserList.any (·.process = ban.subject)) := by
  unfold ProhibitionSubject
  simp only [<- kindOf_eq_some_iff unique]
  cases ban.kind <;> simp

theorem validateProhibition_eq_none_iff (ban : PolicyProhibition) :
    validateProhibition ban policy (indexElements policy.elements) = none <->
      WellFormedProhibition policy ban := by
  have subject := prohibitionSubject_iff unique ban
  have attributes := fun id => isAttributeElement_eq_true_iff (indexElements policy.elements) id
  simp only [kindOf_eq_some_iff unique] at attributes
  unfold validateProhibition
  constructor
  · intro accepted
    split at accepted
    · cases accepted
    rename_i rights
    split at accepted
    · cases accepted
    rename_i notUser
    split at accepted
    · cases accepted
    rename_i notUserAttribute
    split at accepted
    · cases accepted
    rename_i notProcess
    split at accepted
    · cases accepted
    rename_i range
    refine ⟨rights, subject.mpr ⟨notUser, notUserAttribute, notProcess⟩, range, ?_⟩
    intro id mem
    have passed := findSome?_eq_none_iff.mp accepted id mem
    apply (attributes id).mp
    by_contra refused
    rw [if_neg refused] at passed
    cases passed
  · intro formed
    rcases subject.mp formed.subject with ⟨notUser, notUserAttribute, notProcess⟩
    rw [if_neg formed.rights, if_neg notUser, if_neg notUserAttribute, if_neg notProcess,
      if_neg formed.range]
    apply findSome?_eq_none_iff.mpr
    intro id mem
    rw [if_pos ((attributes id).mpr (formed.attributes id mem))]

/-! ## The whole validator -/

private theorem legalAssignments_iff : (∀ assignment ∈ policy.assignments,
      validateAssignment (indexElements policy.elements) assignment = none) <->
        ∀ child parent, policy.Assigned child parent ->
          ∃ childKind parentKind, policy.Declared child childKind /\
            policy.Declared parent parentKind /\ LegalAssignment childKind parentKind := by
  simp only [validateAssignment_eq_none_iff, kindOf_eq_some_iff unique]
  constructor
  · intro checked child parent assigned
    exact checked ⟨child, parent⟩ assigned
  · intro legal assignment mem
    exact legal assignment.child assignment.parent mem

private theorem connected_iff :
    (∀ element ∈ policy.elements, validateConnection (indexElements policy.elements)
      (indexAssignmentParents policy.assignments) element = none) <->
        ∀ id kind, policy.Declared id kind -> kind ≠ .policyClass ->
          ∃ cls, policy.Contains id cls /\
            policy.Declared cls .policyClass := by
  simp only [validateConnection_eq_none_iff, kindOf_eq_some_iff unique]
  constructor
  · intro checked id kind declared
    exact checked ⟨id, kind⟩ declared
  · intro connected element mem
    exact connected element.id element.kind mem

omit unique

/-- Every exit of the validator is one condition, and passing them all is
well-formedness over the source's own containment. -/
theorem validatePolicy_eq_none_iff (policy : PolicyState) :
    validatePolicy policy (indexElements policy.elements)
        (indexAssignmentParents policy.assignments) = none <->
      WellFormed policy policy.Contains := by
  unfold validatePolicy
  by_cases unique : (policy.elements.map PolicyElement.id).Nodup
  · rw [if_neg (not_not.mpr ((size_indexElements_eq_iff _).mpr unique))]
    simp only [Option.orElse_eq_orElse, Option.orElse_eq_or, Option.or_eq_none_iff,
      findSome?_eq_none_iff, legalAssignments_iff unique, connected_iff unique,
      validateOperation_eq_none_iff, validateAssociation_eq_none_iff unique,
      validateProcessUser_eq_none_iff unique, validateProhibition_eq_none_iff unique]
    have cycles : (∀ child parent, policy.Assigned child parent ->
          ∃ childKind parentKind, policy.Declared child childKind /\
            policy.Declared parent parentKind /\ LegalAssignment childKind parentKind) ->
        (hasAssignmentCycle policy.elements (indexAssignmentParents policy.assignments) = false <->
          ∀ id, ¬ Relation.TransGen policy.Assigned id id) := by
      intro legal
      apply hasAssignmentCycle_eq_false_iff
      intro child parent assigned
      rcases legal child parent assigned with ⟨_, _, declared, _⟩
      exact mem_map_of_mem declared
    constructor
    · intro checks
      rcases checks with ⟨legal, acyclic, connected, operations, associations, processUsers,
        prohibitions⟩
      refine ⟨unique, legal, (cycles legal).mp ?_, connected, operations, associations,
        processUsers, prohibitions⟩
      simpa using acyclic
    · intro formed
      have acyclic := (cycles formed.legalAssignments).mpr formed.acyclic
      exact ⟨formed.legalAssignments, by simp [acyclic], formed.connected,
        formed.operationRights, formed.associations, formed.processUsers, formed.prohibitions⟩
  · rw [if_pos (fun equal => unique ((size_indexElements_eq_iff _).mp equal))]
    constructor
    · intro accepted
      cases accepted
    · intro formed
      exact absurd formed.uniqueIds unique

theorem passesValidation_iff (policy : PolicyState) :
    policy.passesValidation <-> WellFormed policy policy.Contains := by
  unfold PolicyState.passesValidation
  rw [Option.isNone_iff_eq_none, validatePolicy_eq_none_iff]

end PolicyKernel
end OpenKit
