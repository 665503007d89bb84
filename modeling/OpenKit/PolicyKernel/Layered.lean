import OpenKit.PolicyKernel.Decision

namespace OpenKit
namespace PolicyKernel

open Foundation

/-!
# Layered policies

Callers of the evaluator compile rules of their own into small policies: a user
below user attributes, a target below object attributes, and both below policy
classes.  Every assignment rises by one layer, so containment is assignment in at
most two steps, which turns a decision into a question about the listed facts.
-/

def PolicyElementKind.layer : PolicyElementKind -> Nat
  | .user | .object => 0
  | .userAttribute | .objectAttribute => 1
  | .policyClass => 2

structure Layered (policy : PolicyState) : Prop where
  uniqueIds : (policy.elements.map PolicyElement.id).Nodup
  named : ∀ element ∈ policy.elements, element.id ≠ ""
  rises : ∀ assignment ∈ policy.assignments, ∃ childKind parentKind,
    policy.Declared assignment.child childKind /\ policy.Declared assignment.parent parentKind /\
      LegalAssignment childKind parentKind /\ parentKind.layer = childKind.layer + 1
  held : ∀ element ∈ policy.elements, element.kind ≠ .policyClass ->
    ∃ parent, policy.Assigned element.id parent
  operations : ∀ operation ∈ policy.operations, operation.accessRights ≠ []
  associations : ∀ association ∈ policy.associations,
    policy.Declared association.userAttribute .userAttribute /\
      policy.Declared association.targetAttribute .objectAttribute /\ association.accessRights ≠ []
  processUsers : ∀ entry ∈ policy.processUserList, policy.Declared entry.user .user
  prohibitions : ∀ prohibition ∈ policy.prohibitionList, WellFormedProhibition policy prohibition

namespace Layered

variable {policy : PolicyState} {source target : String} {kind other : PolicyElementKind}

variable (layered : Layered policy) (declared : policy.Declared source kind)
  (found : policy.Declared target other)

include layered

theorem kind_unique (first : policy.Declared source kind) (second : policy.Declared source other) :
    kind = other :=
  congrArg PolicyElement.kind (List.inj_on_of_nodup_map layered.uniqueIds first second rfl)

include declared

/-- An assignment from an element of known kind. -/
theorem rise (assigned : policy.Assigned source target) :
    ∃ parentKind, policy.Declared target parentKind /\ parentKind.layer = kind.layer + 1 := by
  rcases layered.rises _ assigned with ⟨childKind, parentKind, child, parent, _, rises⟩
  rw [layered.kind_unique declared child]
  exact ⟨parentKind, parent, rises⟩

theorem contains_iff_reaches : policy.Contains source target <-> policy.Reaches source target := by
  apply PolicyKernel.contains_iff_reaches
  · intro child parent assigned
    rcases layered.rises _ assigned with ⟨_, _, _, isParent, _⟩
    exact layered.named _ isParent
  · exact layered.named _ declared

/-- What is reached lies above. -/
theorem layer_of_reaches (reached : policy.Reaches source target) :
    target = source \/ ∃ above, policy.Declared target above /\ kind.layer < above.layer := by
  induction reached with
  | refl => exact .inl rfl
  | tail _ assigned ih =>
    rcases ih with rfl | ⟨middle, between, lower⟩
    · rcases layered.rise declared assigned with ⟨above, isAbove, rises⟩
      exact .inr ⟨above, isAbove, by omega⟩
    · rcases layered.rise between assigned with ⟨above, isAbove, rises⟩
      exact .inr ⟨above, isAbove, by omega⟩

include found

/-- One layer up. -/
theorem contains_next (next : other.layer = kind.layer + 1) :
    policy.Contains source target <-> policy.Assigned source target := by
  rw [layered.contains_iff_reaches declared]
  refine ⟨?_, fun assigned => .single assigned⟩
  intro reached
  rcases reached.cases_head with rfl | ⟨middle, assigned, rest⟩
  · rw [layered.kind_unique declared found] at next
    omega
  rcases layered.rise declared assigned with ⟨middleKind, between, rises⟩
  rcases layered.layer_of_reaches between rest with rfl | ⟨above, isAbove, higher⟩
  · exact assigned
  · rw [layered.kind_unique isAbove found] at higher
    omega

/-- Two layers up. -/
theorem contains_second (second : other.layer = kind.layer + 2) : policy.Contains source target <->
      ∃ middle, policy.Assigned source middle /\ policy.Assigned middle target := by
  rw [layered.contains_iff_reaches declared]
  constructor
  · intro reached
    rcases reached.cases_head with rfl | ⟨middle, assigned, rest⟩
    · rw [layered.kind_unique declared found] at second
      omega
    · rcases layered.rise declared assigned with ⟨middleKind, between, rises⟩
      have above := (layered.contains_iff_reaches between).mpr rest
      exact ⟨middle, assigned, (layered.contains_next between found (by omega)).mp above⟩
  · rintro ⟨middle, first, last⟩
    exact (Relation.ReflTransGen.single first).tail last

omit declared found

theorem acyclic (id : String) : ¬ Relation.TransGen policy.Assigned id id := by
  intro cycle
  rcases Relation.TransGen.head'_iff.mp cycle with ⟨next, first, back⟩
  rcases layered.rises _ first with ⟨kind, _, declared, _⟩
  rcases layered.rise declared first with ⟨nextKind, between, rises⟩
  rcases layered.layer_of_reaches between back with rfl | ⟨above, isAbove, higher⟩
  · rw [layered.kind_unique declared between] at rises
    omega
  · rw [layered.kind_unique isAbove declared] at higher
    omega

theorem wellFormed : WellFormed policy policy.Contains where
  uniqueIds := layered.uniqueIds
  legalAssignments child parent assigned := by
    rcases layered.rises _ assigned with ⟨childKind, parentKind, isChild, isParent, legal, _⟩
    exact ⟨childKind, parentKind, isChild, isParent, legal⟩
  acyclic := layered.acyclic
  connected id kind declared notClass := by
    rcases layered.held _ declared notClass with ⟨parent, assigned⟩
    rcases layered.rise declared assigned with ⟨parentKind, between, rises⟩
    by_cases isClass : parentKind = .policyClass
    · subst isClass
      exact ⟨parent, (layered.contains_next declared between rises).mpr assigned, between⟩
    rcases layered.held _ between isClass with ⟨top, above⟩
    rcases layered.rise between above with ⟨topKind, isTop, risesAgain⟩
    have isClass : topKind = .policyClass := by
      rw [rises] at risesAgain
      cases topKind <;> simp [PolicyElementKind.layer] at risesAgain ⊢
    subst isClass
    exact ⟨top, (layered.contains_second declared isTop (by omega)).mpr ⟨parent, assigned, above⟩,
      isTop⟩
  operationRights := layered.operations
  associations grant mem :=
    have ⟨source, target, rights⟩ := layered.associations grant mem
    ⟨source, ⟨_, target, .objectAttribute⟩, rights⟩
  processUsers := layered.processUsers
  prohibitions := layered.prohibitions

end Layered

/-! ## Requests that name their user -/

section Requests

variable {policy : PolicyState} {request : AccessRequest} {user : String}

/-- The request names a declared user, which its process does not contradict, and
an object. -/
structure Addressed (policy : PolicyState) (request : AccessRequest) (user : String) : Prop where
  named : request.user = some user
  declared : policy.Declared user .user
  mapped : ∀ entry ∈ policy.processUserList, entry.user = user
  target : policy.Declared request.target .object

variable (layered : Layered policy) (addressed : Addressed policy request user)

include layered addressed

theorem Addressed.resolves :
    resolveRequestUser policy request (indexElements policy.elements) = .ok user := by
  have isNamed : present (some user) = some user := by
    exact Option.filter_some_pos (by simpa using layered.named _ addressed.declared)
  have isUser : kindOf (indexElements policy.elements) user = some .user :=
    (kindOf_eq_some_iff layered.uniqueIds user .user).mpr addressed.declared
  have agrees : ∀ mapped, present (mappedUser policy request) = some mapped -> mapped = user := by
    intro mapped isMapped
    have found := (Option.filter_eq_some_iff.mp isMapped).1
    unfold mappedUser at found
    split at found
    · rcases Option.map_eq_some_iff.mp found with ⟨entry, hit, rfl⟩
      exact addressed.mapped entry (List.mem_of_find?_eq_some hit)
    · cases found
  unfold resolveRequestUser
  simp only [addressed.named, Option.orElse_eq_orElse, Option.orElse, isNamed, isUser, ne_eq,
    not_true_eq_false, if_false]
  split
  next mapped same isMapped =>
    cases same
    rw [agrees mapped isMapped, if_neg (· rfl)]
  · rfl

/-- The decision on a layered policy, over the listed facts. -/
theorem Layered.allow_iff : (evaluateAccess policy request).effect = .allow <->
      ∃ op, policy.operations.find? (·.id = request.operation) = some op /\
        (∀ right ∈ op.accessRights, ∀ objects cls,
          policy.Assigned request.target objects -> policy.Assigned objects cls ->
          ∃ grant ∈ policy.associations, policy.Assigned user grant.userAttribute /\
            policy.Assigned request.target grant.targetAttribute /\
            policy.Assigned grant.targetAttribute cls /\
            right ∈ grant.accessRights) /\ ∀ ban ∈ policy.prohibitionList,
          ¬ Restricts policy.Contains request user op ban := by
  rw [evaluateAccess_effect_iff, addressed.resolves layered]
  have grants : ∀ grant ∈ policy.associations, ∀ right cls,
      policy.Declared cls .policyClass ->
      (Grants policy.Contains user request.target right cls grant <->
        policy.Assigned user grant.userAttribute /\
          policy.Assigned request.target grant.targetAttribute /\
          policy.Assigned grant.targetAttribute cls /\
          right ∈ grant.accessRights) := by
    intro grant mem right cls isClass
    rcases layered.associations grant mem with ⟨source, target, _⟩
    rw [<- layered.contains_next addressed.declared source rfl,
      <- layered.contains_next addressed.target target rfl,
      <- layered.contains_next target isClass rfl]
    exact ⟨fun ⟨first, second, third, fourth⟩ => ⟨first, second, third, fourth⟩,
      fun ⟨first, second, third, fourth⟩ => ⟨first, second, third, fourth⟩⟩
  have classOf : ∀ objects cls, policy.Assigned request.target objects ->
      policy.Assigned objects cls -> policy.Declared cls .policyClass := by
    intro objects cls first second
    rcases layered.rise addressed.target first with ⟨_, between, rises⟩
    rcases layered.rise between second with ⟨kind, isClass, risesAgain⟩
    rw [rises] at risesAgain
    cases kind <;> first | exact isClass | cases risesAgain
  constructor
  · rintro ⟨_, op, _, found, same, permitted⟩
    cases same
    refine ⟨op, found, ?_, permitted.unrestricted⟩
    intro right required objects cls first second
    have isClass := classOf objects cls first second
    have above := (layered.contains_second addressed.target isClass rfl).mpr ⟨objects, first, second⟩
    rcases permitted.granted right required cls above isClass with
      ⟨grant, mem, granted⟩
    exact ⟨grant, mem, (grants grant mem right cls isClass).mp granted⟩
  · rintro ⟨op, found, granted, unrestricted⟩
    refine ⟨layered.wellFormed, op, user, found, rfl, ⟨_, addressed.target, nofun⟩, ?_,
      unrestricted⟩
    intro right required cls contained isClass
    rcases (layered.contains_second addressed.target isClass rfl).mp contained with
      ⟨objects, first, second⟩
    rcases granted right required objects cls first second with
      ⟨grant, mem, parts⟩
    exact ⟨grant, mem, (grants grant mem right cls isClass).mpr parts⟩

/-- Without prohibitions, what a layered policy refuses is a missing privilege. -/
theorem Layered.reasons_of_deny {op : PolicyOperation}
    (found : policy.operations.find? (·.id = request.operation) = some op)
    (free : policy.prohibitionList = []) (denied : (evaluateAccess policy request).effect = .deny) :
    ∃ right, (evaluateAccess policy request).reasons = [.missingPrivilege right] := by
  have valid := (validatePolicy_eq_none_iff policy).mpr layered.wellFormed
  have isObject : kindOf (indexElements policy.elements) request.target = some .object :=
    (kindOf_eq_some_iff layered.uniqueIds _ _).mpr addressed.target
  unfold evaluateAccess at denied ⊢
  simp only [valid, found, addressed.resolves layered, isObject, decideAccess, free,
    List.filter_nil] at denied ⊢
  split at denied
  · exact ⟨_, rfl⟩
  · cases denied

omit layered addressed

theorem evaluateAccess_of_unknown
    (unknown : policy.operations.find? (·.id = request.operation) = none) :
    (evaluateAccess policy request).effect = .deny /\
      ((∃ message, (evaluateAccess policy request).reasons = [.invalidPolicy message]) \/
        (evaluateAccess policy request).reasons = [.missingOperation request.operation]) := by
  unfold evaluateAccess
  dsimp only
  split
  · exact ⟨rfl, .inl ⟨_, rfl⟩⟩
  · rw [unknown]
    exact ⟨rfl, .inr rfl⟩

end Requests

end PolicyKernel
end OpenKit
