import OpenKit.PolicyKernel.Decision

namespace OpenKit
namespace PolicyKernel

open Foundation

/-!
# Order independence and monotonicity of decisions

The evaluator stops at first matches and builds its closures in insertion
order, so two runs over rearranged facts do different work.  Their effects
agree because the effect only depends on the facts as sets.  One law carries
the whole module: over the same elements, assignments, operations, and process
mappings, a permitted request stays permitted when associations are added and
prohibitions are removed.
-/

/-- Two policies with the same graph, the same operations, and the same
process mappings.  Associations and prohibitions are free. -/
structure SameFrame (policy other : PolicyState) : Prop where
  declared : ∀ id kind, policy.Declared id kind <-> other.Declared id kind
  assigned : ∀ child parent, policy.Assigned child parent <-> other.Assigned child parent
  operations : policy.operations = other.operations
  processUsers : policy.processUserList = other.processUserList

namespace SameFrame

variable {policy other : PolicyState}

variable (frame : SameFrame policy other)

include frame

theorem declared_eq : policy.Declared = other.Declared := by
  funext id kind
  exact propext (frame.declared id kind)

theorem assigned_eq : policy.Assigned = other.Assigned := by
  funext child parent
  exact propext (frame.assigned child parent)

theorem contains_eq : policy.Contains = other.Contains := by
  unfold PolicyState.Contains
  rw [frame.assigned_eq]

/-- Well-formedness passes to a policy with the same frame and no further
associations or prohibitions. -/
theorem wellFormed (otherUnique : (other.elements.map PolicyElement.id).Nodup)
    (associations : other.associations ⊆ policy.associations)
    (prohibitions : other.prohibitionList ⊆ policy.prohibitionList)
    (formed : WellFormed policy policy.Contains) : WellFormed other other.Contains := by
  rw [<- frame.contains_eq]
  refine
    { uniqueIds := otherUnique
      legalAssignments := ?_, acyclic := ?_, connected := ?_, operationRights := ?_
      associations := ?_, processUsers := ?_, prohibitions := ?_ }
  · rw [<- frame.assigned_eq, <- frame.declared_eq]
    exact formed.legalAssignments
  · rw [<- frame.assigned_eq]
    exact formed.acyclic
  · rw [<- frame.declared_eq]
    exact formed.connected
  · rw [<- frame.operations]
    exact formed.operationRights
  · intro grant mem
    rcases formed.associations grant (associations mem) with ⟨source, target, rights⟩
    rw [frame.declared_eq] at source target
    exact ⟨source, target, rights⟩
  · rw [<- frame.processUsers, <- frame.declared_eq]
    exact formed.processUsers
  · intro ban mem
    rcases formed.prohibitions ban (prohibitions mem) with
      ⟨rights, subject, range, attributes⟩
    unfold ProhibitionSubject at subject
    rw [frame.declared_eq, frame.processUsers] at subject
    rw [frame.declared_eq] at attributes
    exact ⟨rights, subject, range, attributes⟩

/-- Over one frame, more associations and fewer prohibitions keep every allow. -/
theorem allow_mono (otherFormed : WellFormed other other.Contains)
    (associations : policy.associations ⊆ other.associations)
    (prohibitions : other.prohibitionList ⊆ policy.prohibitionList) {request : AccessRequest}
    (allowed : (evaluateAccess policy request).effect = .allow) :
    (evaluateAccess other request).effect = .allow := by
  rcases (evaluateAccess_effect_iff policy request).mp allowed with
    ⟨formed, op, user, hit, resolved, permitted⟩
  apply (evaluateAccess_effect_iff other request).mpr
  refine ⟨otherFormed, op, user, ?_, ?_, ?_⟩
  · rw [<- frame.operations]
    exact hit
  · have sameKinds : kindOf (indexElements policy.elements) =
        kindOf (indexElements other.elements) := by
      funext id
      apply Option.ext
      intro kind
      rw [kindOf_eq_some_iff formed.uniqueIds, kindOf_eq_some_iff otherFormed.uniqueIds]
      exact frame.declared id kind
    unfold resolveRequestUser mappedUser at resolved ⊢
    rw [<- frame.processUsers, <- sameKinds]
    exact resolved
  · rw [<- frame.contains_eq]
    refine ⟨?_, ?_, ?_⟩
    · rw [<- frame.declared_eq]
      exact permitted.target
    · intro right required cls contained isClass
      rcases permitted.granted right required cls contained
        ((frame.declared cls _).mpr isClass) with ⟨grant, mem, grants⟩
      exact ⟨grant, associations mem, grants⟩
    · intro ban mem
      exact permitted.unrestricted ban (prohibitions mem)

end SameFrame

/-! ## Rearranged and extended policies -/

/-- The same facts with elements, assignments, associations, and prohibitions
listed in another order. -/
structure Rearranged (policy other : PolicyState) : Prop where
  elements : policy.elements.Perm other.elements
  assignments : policy.assignments.Perm other.assignments
  associations : policy.associations.Perm other.associations
  prohibitions : policy.prohibitionList.Perm other.prohibitionList
  operations : policy.operations = other.operations
  processUsers : policy.processUsers = other.processUsers

namespace Rearranged

variable {policy other : PolicyState} (rearranged : Rearranged policy other)

include rearranged

theorem symm : Rearranged other policy where
  elements := rearranged.elements.symm
  assignments := rearranged.assignments.symm
  associations := rearranged.associations.symm
  prohibitions := rearranged.prohibitions.symm
  operations := rearranged.operations.symm
  processUsers := rearranged.processUsers.symm

theorem sameFrame : SameFrame policy other where
  declared _ _ := rearranged.elements.mem_iff
  assigned _ _ := rearranged.assignments.mem_iff
  operations := rearranged.operations
  processUsers := congrArg (·.getD []) rearranged.processUsers

theorem allow {request : AccessRequest} (allowed : (evaluateAccess policy request).effect = .allow) :
    (evaluateAccess other request).effect = .allow := by
  have formed := ((evaluateAccess_effect_iff policy request).mp allowed).1
  have otherUnique := (rearranged.elements.map PolicyElement.id).nodup_iff.mp formed.uniqueIds
  have otherFormed := rearranged.sameFrame.wellFormed otherUnique
    rearranged.associations.symm.subset rearranged.prohibitions.symm.subset formed
  exact rearranged.sameFrame.allow_mono otherFormed rearranged.associations.subset
    rearranged.prohibitions.symm.subset allowed

end Rearranged

namespace PolicyState

def addProhibition (policy : PolicyState) (prohibition : PolicyProhibition) : PolicyState :=
  { policy with prohibitions := some (policy.prohibitionList ++ [prohibition]) }

def addAssociation (policy : PolicyState) (association : PolicyAssociation) : PolicyState :=
  { policy with associations := policy.associations ++ [association] }

end PolicyState

/-- The effect does not depend on the order of the facts; a further
prohibition never turns a deny into an allow, and a further association never
turns an allow into a deny.  The first two parts hold of invalid policies too,
since those deny every request. -/
theorem evaluateAccess_order_independent_and_monotone (policy : PolicyState)
    (request : AccessRequest) : (∀ other, Rearranged policy other ->
      (evaluateAccess other request).effect = (evaluateAccess policy request).effect) /\
    (∀ prohibition, (evaluateAccess (policy.addProhibition prohibition) request).effect = .allow ->
        (evaluateAccess policy request).effect = .allow) /\
    (∀ association, (policy.addAssociation association).passesValidation ->
      (evaluateAccess (policy.addAssociation association) request).effect = .deny ->
        (evaluateAccess policy request).effect = .deny) := by
  refine ⟨?_, ?_, ?_⟩
  · intro other rearranged
    have same : (evaluateAccess other request).effect = .allow <->
        (evaluateAccess policy request).effect = .allow :=
      ⟨rearranged.symm.allow, rearranged.allow⟩
    cases left : (evaluateAccess other request).effect <;>
      cases right : (evaluateAccess policy request).effect <;> simp_all
  · intro prohibition allowed
    have frame : SameFrame (policy.addProhibition prohibition) policy :=
      ⟨fun _ _ => Iff.rfl, fun _ _ => Iff.rfl, rfl, rfl⟩
    have extendedFormed := ((evaluateAccess_effect_iff _ request).mp allowed).1
    have fewer : policy.prohibitionList ⊆ (policy.addProhibition prohibition).prohibitionList :=
      List.subset_append_left _ _
    have formed := frame.wellFormed extendedFormed.uniqueIds (List.Subset.refl _) fewer
      extendedFormed
    exact frame.allow_mono formed (List.Subset.refl _) fewer allowed
  · intro association valid denied
    have frame : SameFrame policy (policy.addAssociation association) :=
      ⟨fun _ _ => Iff.rfl, fun _ _ => Iff.rfl, rfl, rfl⟩
    have more : policy.associations ⊆ (policy.addAssociation association).associations :=
      List.subset_append_left _ _
    cases before : (evaluateAccess policy request).effect with
    | deny => rfl
    | allow =>
      have allowed := frame.allow_mono ((passesValidation_iff _).mp valid) more
        (List.Subset.refl _) before
      rw [denied] at allowed
      cases allowed

/-- `sharedFilePolicy` with its facts listed backwards. -/
def reversedSharedFilePolicy : PolicyState :=
  { sharedFilePolicy with
    elements := sharedFilePolicy.elements.reverse
    assignments := sharedFilePolicy.assignments.reverse }

theorem sharedFile_order_independent_and_monotone :
    (evaluateAccess reversedSharedFilePolicy sharedFileRequest).effect =
        (evaluateAccess sharedFilePolicy sharedFileRequest).effect /\
      (evaluateAccess sharedFilePolicy sharedFileRequest).effect = .allow /\
      (evaluateAccess sharedFilePolicy { sharedFileRequest with target := "company" }).effect =
        .deny :=
  ⟨(evaluateAccess_order_independent_and_monotone sharedFilePolicy sharedFileRequest).1
      reversedSharedFilePolicy
      ⟨(List.reverse_perm _).symm, (List.reverse_perm _).symm, List.Perm.refl _,
        List.Perm.refl _, rfl, rfl⟩,
    (evaluateAccess_order_independent_and_monotone sharedFilePolicy sharedFileRequest).2.1
      ⟨"no-writes", .user, "alice", ["write"], ⟨.disjunctive, some ["file"], none⟩⟩
      (by decide +kernel),
    (evaluateAccess_order_independent_and_monotone sharedFilePolicy
      { sharedFileRequest with target := "company" }).2.2
      ⟨"staff-writes", "staff", ["write"], "file"⟩ (by decide +kernel) (by decide +kernel)⟩

end PolicyKernel
end OpenKit
