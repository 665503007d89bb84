import OpenKit.PolicyKernel.Evaluation

namespace OpenKit
namespace PolicyKernel

open Foundation

/-!
# What an access decision means

A statement of the policy kernel's purpose that mentions no index, no closure
loop, and no search order.  Policy facts are read as relations: an element is
declared with a kind, a child is assigned to a parent, and containment is
reachability along assignments.  Well-formedness and permission are then
conditions on those relations.

The conditions take the containment relation as a parameter.  The source
drops empty identifiers while it walks assignments, so its own containment is
`Contains`; for policies without empty identifiers that is `Reaches`, plain
reachability.
-/

namespace PolicyState

variable (policy : PolicyState)

def Declared (id : String) (kind : PolicyElementKind) : Prop :=
  (PolicyElement.mk id kind) ∈ policy.elements

/-- One assignment fact. -/
def Assigned (child parent : String) : Prop :=
  (PolicyAssignment.mk child parent) ∈ policy.assignments

/-- Containment as plain reachability along assignments. -/
def Reaches : String -> String -> Prop :=
  Relation.ReflTransGen policy.Assigned

/-- Containment as the source walks it: no empty identifier is entered. -/
def Contains (source target : String) : Prop :=
  source ≠ "" /\
    Relation.ReflTransGen (fun child parent => policy.Assigned child parent /\ parent ≠ "")
      source target

end PolicyState

/-- The assignment kind pairs of the implemented NGAC subset. -/
inductive LegalAssignment : PolicyElementKind -> PolicyElementKind -> Prop where
  | userToUserAttribute : LegalAssignment .user .userAttribute
  | userAttributeToUserAttribute : LegalAssignment .userAttribute .userAttribute
  | userAttributeToPolicyClass : LegalAssignment .userAttribute .policyClass
  | objectToObjectAttribute : LegalAssignment .object .objectAttribute
  | objectToPolicyClass : LegalAssignment .object .policyClass
  | objectAttributeToObjectAttribute : LegalAssignment .objectAttribute .objectAttribute
  | objectAttributeToPolicyClass : LegalAssignment .objectAttribute .policyClass

/-- The kinds an association or a prohibition range may refer to.  Objects
count as attributes. -/
inductive AttributeKind : PolicyElementKind -> Prop where
  | userAttribute : AttributeKind .userAttribute
  | objectAttribute : AttributeKind .objectAttribute
  | object : AttributeKind .object

/-! ## Well-formed policies -/

/-- An association starts from a user attribute, targets an attribute, and
allocates some right. -/
structure WellFormedAssociation (policy : PolicyState) (association : PolicyAssociation) :
    Prop where
  source : policy.Declared association.userAttribute .userAttribute
  target : ∃ kind, policy.Declared association.targetAttribute kind /\ AttributeKind kind
  rights : association.accessRights ≠ []

/-- The subject of a prohibition is of the prohibition's own kind. -/
def ProhibitionSubject (policy : PolicyState) (prohibition : PolicyProhibition) : Prop :=
  match prohibition.kind with
  | .user => policy.Declared prohibition.subject .user
  | .userAttribute => policy.Declared prohibition.subject .userAttribute
  | .process => ∃ entry ∈ policy.processUserList, entry.process = prohibition.subject

/-- A prohibition denies some right to a legal subject over a non-empty range
of attributes. -/
structure WellFormedProhibition (policy : PolicyState) (prohibition : PolicyProhibition) :
    Prop where
  rights : prohibition.accessRights ≠ []
  subject : ProhibitionSubject policy prohibition
  range : ¬ (prohibition.range.includedList = [] /\ prohibition.range.excludedList = [])
  attributes : ∀ id ∈ prohibition.range.includedList ++ prohibition.range.excludedList,
    ∃ kind, policy.Declared id kind /\ AttributeKind kind

/-- The conditions a policy must meet before any request is decided on it. -/
structure WellFormed (policy : PolicyState) (contains : String -> String -> Prop) : Prop where
  uniqueIds : (policy.elements.map PolicyElement.id).Nodup
  legalAssignments : ∀ child parent, policy.Assigned child parent ->
    ∃ childKind parentKind, policy.Declared child childKind /\
      policy.Declared parent parentKind /\ LegalAssignment childKind parentKind
  acyclic : ∀ id, ¬ Relation.TransGen policy.Assigned id id
  connected : ∀ id kind, policy.Declared id kind -> kind ≠ .policyClass ->
    ∃ policyClass, contains id policyClass /\ policy.Declared policyClass .policyClass
  operationRights : ∀ operation ∈ policy.operations, operation.accessRights ≠ []
  associations : ∀ association ∈ policy.associations, WellFormedAssociation policy association
  processUsers : ∀ entry ∈ policy.processUserList, policy.Declared entry.user .user
  prohibitions : ∀ prohibition ∈ policy.prohibitionList, WellFormedProhibition policy prohibition

/-! ## Permission -/

def FirstOperation (policy : PolicyState) (id : String) (operation : PolicyOperation) : Prop :=
  ∃ before after, policy.operations = before ++ operation :: after /\ operation.id = id /\
    ∀ entry ∈ before, entry.id ≠ id

/-- The first mapping of this process leads to this user. -/
def FirstMapping (policy : PolicyState) (process user : String) : Prop :=
  ∃ before after, policy.processUserList = before ++ PolicyProcessUser.mk process user :: after /\
    ∀ entry ∈ before, entry.process ≠ process

/-- The request resolves to a declared user: the one it names, or else the
first one its process is mapped to.  A named user must agree with that mapping. -/
structure ResolvesTo (policy : PolicyState) (request : AccessRequest) (user : String) : Prop where
  declared : policy.Declared user .user
  named : ∀ requested, request.user = some requested -> requested = user
  mapped : ∀ process mappedTo, request.process = some process ->
    FirstMapping policy process mappedTo -> mappedTo = user
  resolved : request.user = some user \/
    ∃ process, request.process = some process /\ FirstMapping policy process user

def InRange (contains : String -> String -> Prop) (target : String)
    (range : PolicyProhibitionRange) : Prop :=
  match range.type with
  | .disjunctive =>
    (∃ id ∈ range.includedList, contains target id) \/
      ∃ id ∈ range.excludedList, ¬ contains target id
  | .conjunctive =>
    (∀ id ∈ range.includedList, contains target id) /\
      ∀ id ∈ range.excludedList, ¬ contains target id

/-- The prohibition is about this request's subject. -/
def SubjectMatches (contains : String -> String -> Prop) (request : AccessRequest)
    (user : String) (prohibition : PolicyProhibition) : Prop :=
  match prohibition.kind with
  | .user => prohibition.subject = user
  | .process => request.process = some prohibition.subject
  | .userAttribute => contains user prohibition.subject

/-- The prohibition matches the request: its subject, one of the required
rights, and its range. -/
structure Restricts (contains : String -> String -> Prop) (request : AccessRequest)
    (user : String) (operation : PolicyOperation) (prohibition : PolicyProhibition) : Prop where
  subject : SubjectMatches contains request user prohibition
  right : ∃ accessRight ∈ operation.accessRights, accessRight ∈ prohibition.accessRights
  range : InRange contains request.target prohibition.range

/-- The association grants one right to a user on a target under one policy class. -/
structure Grants (contains : String -> String -> Prop) (user target accessRight policyClass : String)
    (association : PolicyAssociation) : Prop where
  user : contains user association.userAttribute
  target : contains target association.targetAttribute
  policyClass : contains association.targetAttribute policyClass
  right : accessRight ∈ association.accessRights

/-- The resolved user may perform the operation on the request's target. -/
structure Permits (policy : PolicyState) (contains : String -> String -> Prop)
    (request : AccessRequest) (operation : PolicyOperation) (user : String) : Prop where
  target : ∃ kind, policy.Declared request.target kind /\ kind ≠ .policyClass
  granted : ∀ accessRight ∈ operation.accessRights, ∀ policyClass,
    contains request.target policyClass -> policy.Declared policyClass .policyClass ->
      ∃ association ∈ policy.associations,
        Grants contains user request.target accessRight policyClass association
  unrestricted : ∀ prohibition ∈ policy.prohibitionList,
    ¬ Restricts contains request user operation prohibition

/-- No element and no field of the request is named by the empty string. -/
structure NonEmptyNames (policy : PolicyState) (request : AccessRequest) : Prop where
  elements : ∀ element ∈ policy.elements, element.id ≠ ""
  user : request.user ≠ some ""
  process : request.process ≠ some ""
  operation : request.operation ≠ ""
  target : request.target ≠ ""

end PolicyKernel
end OpenKit
