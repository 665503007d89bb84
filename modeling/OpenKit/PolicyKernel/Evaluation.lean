import OpenKit.Foundation.Traversal

namespace OpenKit
namespace PolicyKernel

open Foundation

/-!
# The NGAC policy evaluator

The data model and the functions of the policy kernel, in the source's order
and under its names.  A policy state is a list of facts; the evaluator
indexes the elements and the assignments, validates the facts, resolves the
requesting user, and then searches associations and prohibitions over
containment closures.

Identifiers are strings and may be empty.  The source tests several optional
identifiers for truthiness, so an empty string behaves like an absent one at
those places and only there.  `present` is that test.
-/

/-- Supported NGAC policy element kinds. -/
inductive PolicyElementKind where
  | user | object | userAttribute | objectAttribute | policyClass
deriving DecidableEq, Repr

/-- Node in the NGAC policy element graph. -/
structure PolicyElement where
  id : String
  kind : PolicyElementKind
deriving DecidableEq, Repr

/-- Directed assignment from a contained element to a containing element. -/
structure PolicyAssignment where
  (child parent : String)
deriving DecidableEq, Repr

/-- Operation with the access rights required to perform it. -/
structure PolicyOperation where
  id : String
  accessRights : List String
deriving DecidableEq, Repr

/-- Process-to-user mapping. -/
structure PolicyProcessUser where
  (process user : String)
deriving DecidableEq, Repr

structure PolicyAssociation where
  (id userAttribute : String)
  accessRights : List String
  targetAttribute : String
deriving DecidableEq, Repr

/-- Supported prohibition subject kinds. -/
inductive PolicyProhibitionKind where
  | user | process | userAttribute
deriving DecidableEq, Repr

/-- Supported prohibition range forms. -/
inductive PolicyProhibitionRangeType where
  | disjunctive | conjunctive
deriving DecidableEq, Repr

/-- Prohibition range over optional inclusion and exclusion attribute sets. -/
structure PolicyProhibitionRange where
  type : PolicyProhibitionRangeType
  (included excluded : Option (List String))
deriving DecidableEq, Repr

/-- Prohibition tuple for user, process, or user-attribute restrictions. -/
structure PolicyProhibition where
  id : String
  kind : PolicyProhibitionKind
  subject : String
  accessRights : List String
  range : PolicyProhibitionRange
deriving DecidableEq, Repr

/-- Immutable policy facts consumed by the evaluator. -/
structure PolicyState where
  elements : List PolicyElement
  assignments : List PolicyAssignment
  operations : List PolicyOperation
  processUsers : Option (List PolicyProcessUser)
  associations : List PolicyAssociation
  prohibitions : Option (List PolicyProhibition)
deriving DecidableEq, Repr

/-- Access request evaluated against policy state. -/
structure AccessRequest where
  (user process : Option String)
  (operation target : String)
deriving DecidableEq, Repr

/-- Stable decision effect. -/
inductive PolicyDecisionEffect where
  | allow | deny
deriving DecidableEq, Repr

/-- Reason explaining why a decision was allowed or denied. -/
inductive PolicyDecisionReason where
  | associationGrant (associationId : String)
  | missingPrivilege (accessRight : String)
  | restriction (prohibitionId : String)
  | missingOperation (operation : String)
  | invalidPolicy (message : String)
  | invalidRequest (message : String)
deriving DecidableEq, Repr

structure PolicyDecisionTrace where
  (user process : Option String)
  (requiredAccessRights userClosure targetClosure policyClasses matchedAssociations : List String)
  matchedProhibitions : List String
deriving DecidableEq, Repr

/-- Result of policy evaluation. -/
structure PolicyDecision where
  effect : PolicyDecisionEffect
  reasons : List PolicyDecisionReason
  trace : PolicyDecisionTrace
deriving DecidableEq, Repr

namespace PolicyState

def processUserList (policy : PolicyState) : List PolicyProcessUser :=
  policy.processUsers.getD []

def prohibitionList (policy : PolicyState) : List PolicyProhibition :=
  policy.prohibitions.getD []

end PolicyState

namespace PolicyProhibitionRange

def includedList (range : PolicyProhibitionRange) : List String :=
  range.included.getD []

def excludedList (range : PolicyProhibitionRange) : List String :=
  range.excluded.getD []

end PolicyProhibitionRange

/-- An optional string that is truthy: present and not empty. -/
def present (value : Option String) : Option String :=
  value.filter (· ≠ "")

/-! ## Indexes and containment closures -/

def indexElements (elements : List PolicyElement) : OrderedMap String PolicyElement :=
  OrderedMap.ofPairs (elements.map (fun element => (element.id, element)))

def indexAssignmentParents (assignments : List PolicyAssignment) : Adjacency String :=
  assignments.foldl
    (fun parentsByChild assignment =>
      parentsByChild.set assignment.child
        ((parentsByChild.get? assignment.child).getD [] ++ [assignment.parent]))
    OrderedMap.empty

def kindOf (elementsById : OrderedMap String PolicyElement) (id : String) :
    Option PolicyElementKind :=
  (elementsById.get? id).map PolicyElement.kind

/-- Computes the containment closure from an element to all its parents.  The
loop's `!current` test also drops an empty identifier. -/
def computeContainmentClosure (start : String) (parentsByChild : Adjacency String) : List String :=
  parentsByChild.closureLoop (· ≠ "") [start] []

/-- Detects cycles in the assignment graph, starting from every element. -/
def hasAssignmentCycle (elements : List PolicyElement) (parentsByChild : Adjacency String) : Bool :=
  (parentsByChild.visitAll [] [] (elements.map PolicyElement.id)).isNone

/-! ## Validation -/

/-- Checks if an assignment pair is legal in the implemented NGAC subset. -/
def isAllowedAssignment (child parent : PolicyElementKind) : Bool :=
  match child with
  | .user => parent == .userAttribute
  | .userAttribute => parent == .userAttribute || parent == .policyClass
  | .object | .objectAttribute => parent == .objectAttribute || parent == .policyClass
  | .policyClass => false

/-- Checks whether an element can serve as an NGAC attribute relation term. -/
def isAttributeElement (element : Option PolicyElement) : Bool :=
  match element.map PolicyElement.kind with
  | some .userAttribute | some .objectAttribute | some .object => true
  | _ => false

variable (prohibition : PolicyProhibition)

/-- Validates one prohibition tuple. -/
def validateProhibition (policy : PolicyState)
    (elementsById : OrderedMap String PolicyElement) : Option String :=
  if prohibition.accessRights = [] then
    some ("Prohibition " ++ prohibition.id ++ " must deny at least one access right.")
  else if prohibition.kind = .user /\ kindOf elementsById prohibition.subject ≠ some .user then
    some ("Prohibition " ++ prohibition.id ++ " must reference an NGAC user.")
  else if prohibition.kind = .userAttribute /\
      kindOf elementsById prohibition.subject ≠ some .userAttribute then
    some ("Prohibition " ++ prohibition.id ++ " must reference an NGAC user attribute.")
  else if prohibition.kind = .process /\
      ¬ policy.processUserList.any (·.process = prohibition.subject) then
    some ("Prohibition " ++ prohibition.id ++ " must reference a mapped process.")
  else if prohibition.range.includedList = [] /\ prohibition.range.excludedList = [] then
    some ("Prohibition " ++ prohibition.id ++ " must define a non-empty range.")
  else
    (prohibition.range.includedList ++ prohibition.range.excludedList).findSome? fun attributeId =>
      if isAttributeElement (elementsById.get? attributeId) then none
      else some ("Prohibition " ++ prohibition.id ++
        " range must reference only NGAC attributes.")

/-- The assignment check of the validator's first loop. -/
def validateAssignment (elementsById : OrderedMap String PolicyElement)
    (assignment : PolicyAssignment) : Option String :=
  let refused := some ("Invalid NGAC assignment " ++ assignment.child ++ " -> " ++
    assignment.parent ++ ".")
  match elementsById.get? assignment.child, elementsById.get? assignment.parent with
  | some child, some parent =>
    if isAllowedAssignment child.kind parent.kind then none else refused
  | _, _ => refused

/-- The connection check of the validator's element loop. -/
def validateConnection (elementsById : OrderedMap String PolicyElement)
    (parentsByChild : Adjacency String) (element : PolicyElement) : Option String :=
  if element.kind = .policyClass then none
  else if (computeContainmentClosure element.id parentsByChild).any
      (kindOf elementsById · = some .policyClass) then none
  else some ("Policy element " ++ element.id ++ " is not connected to a policy class.")

/-- The operation check of the validator's operation loop. -/
def validateOperation (operation : PolicyOperation) : Option String :=
  if operation.accessRights = [] then
    some ("Operation " ++ operation.id ++ " must require at least one access right.")
  else none

/-- The association checks of the validator's association loop. -/
def validateAssociation (elementsById : OrderedMap String PolicyElement)
    (association : PolicyAssociation) : Option String :=
  if kindOf elementsById association.userAttribute ≠ some .userAttribute then
    some ("Association " ++ association.id ++ " must start from a user attribute.")
  else if ¬ isAttributeElement (elementsById.get? association.targetAttribute) then
    some ("Association " ++ association.id ++ " must target a user or object attribute.")
  else if association.accessRights = [] then
    some ("Association " ++ association.id ++ " must allocate at least one access right.")
  else none

/-- The process mapping check of the validator's process loop. -/
def validateProcessUser (elementsById : OrderedMap String PolicyElement)
    (processUser : PolicyProcessUser) : Option String :=
  if kindOf elementsById processUser.user ≠ some .user then
    some ("Process " ++ processUser.process ++ " must map to an NGAC user.")
  else none

variable (policy : PolicyState) (request : AccessRequest)

/-- Validates policy facts and returns the first failure message.  Each loop
of the source returns at its first refused entry, so a loop is a `findSome?`
and the sequence of loops is a sequence of alternatives. -/
def validatePolicy (elementsById : OrderedMap String PolicyElement)
    (parentsByChild : Adjacency String) : Option String :=
  if elementsById.size ≠ policy.elements.length then
    some "Policy element identifiers must be unique."
  else
    policy.assignments.findSome? (validateAssignment elementsById) <|>
    (if hasAssignmentCycle policy.elements parentsByChild then
      some "NGAC assignment relation must be acyclic."
    else none) <|>
    policy.elements.findSome? (validateConnection elementsById parentsByChild) <|>
    policy.operations.findSome? validateOperation <|>
    policy.associations.findSome? (validateAssociation elementsById) <|>
    policy.processUserList.findSome? (validateProcessUser elementsById) <|>
    policy.prohibitionList.findSome? (validateProhibition · policy elementsById)

/-! ## Request resolution and matching -/

/-- The user of the first mapping of the request's process, if any. -/
def mappedUser : Option String :=
  match present request.process with
  | some process =>
    (policy.processUserList.find? (·.process = process)).map
      PolicyProcessUser.user
  | none => none

def resolveRequestUser (elementsById : OrderedMap String PolicyElement) : Except String String :=
  let mapped := mappedUser policy request
  match present (request.user <|> mapped) with
  | none => .error "Access request must resolve to an NGAC user."
  | some user =>
    if kindOf elementsById user ≠ some .user then
      .error "Access request must resolve to an NGAC user."
    else
      match present request.user, present mapped with
      | some requested, some mappedTo =>
        if requested ≠ mappedTo then
          .error ("Process " ++ request.process.getD "undefined" ++
            " is not mapped to user " ++ requested ++ ".")
        else .ok user
      | _, _ => .ok user

def grantsAccessRight (association : PolicyAssociation) (accessRight policyClass : String)
    (userClosure targetClosure : List String) (parentsByChild : Adjacency String) : Bool :=
  association.userAttribute ∈ userClosure && association.targetAttribute ∈ targetClosure &&
    policyClass ∈ computeContainmentClosure association.targetAttribute parentsByChild &&
    accessRight ∈ association.accessRights

/-- Checks whether a target lies in a prohibition range. -/
def targetInRange (target : String) (range : PolicyProhibitionRange)
    (parentsByChild : Adjacency String) : Bool :=
  let targetClosure := computeContainmentClosure target parentsByChild
  let isContainedBy := fun attributeId => decide (attributeId ∈ targetClosure)
  match range.type with
  | .disjunctive =>
    range.includedList.any isContainedBy ||
      range.excludedList.any (!isContainedBy ·)
  | .conjunctive =>
    range.includedList.all isContainedBy &&
      range.excludedList.all (!isContainedBy ·)

/-- The `subjectMatches` test of a restriction. -/
def subjectMatches (request : AccessRequest) (user : String) (userClosure : List String) : Bool :=
  match prohibition.kind with
  | .user => prohibition.subject = user
  | .process => some prohibition.subject = request.process
  | .userAttribute => prohibition.subject ∈ userClosure

/-- Checks whether a prohibition derives a matching restriction. -/
def matchesRestriction (request : AccessRequest)
    (user : String) (userClosure : List String) (target : String)
    (requiredAccessRights : List String) (parentsByChild : Adjacency String) : Bool :=
  subjectMatches prohibition request user userClosure &&
    requiredAccessRights.any (· ∈ prohibition.accessRights) &&
    targetInRange target prohibition.range parentsByChild

/-! ## The association search -/

/-- The inner loop: every policy class needs a granting association.  The
flag is false when the search broke off at a class without one. -/
def searchPolicyClasses (grant : String -> Option PolicyAssociation) :
    List String -> List String -> List String × Bool
  | [], matched => (matched, true)
  | policyClass :: rest, matched =>
    match grant policyClass with
    | none => (matched, false)
    | some association => searchPolicyClasses grant rest (addMember matched association.id)

/-- The outer loop over the required access rights.  Its second component is
the first right that some policy class does not grant. -/
def associationSearch (grant : String -> String -> Option PolicyAssociation)
    (policyClasses : List String) : List String -> List String -> List String × Option String
  | [], matched => (matched, none)
  | accessRight :: rest, matched =>
    match searchPolicyClasses (grant accessRight) policyClasses matched with
    | (extended, true) => associationSearch grant policyClasses rest extended
    | (extended, false) => (extended, some accessRight)

/-! ## Evaluation -/

/-- Creates a deny decision. -/
def deny (reasons : List PolicyDecisionReason) (trace : PolicyDecisionTrace) : PolicyDecision where
  effect := .deny
  reasons := reasons
  trace := trace

/-- Creates an empty trace. -/
def emptyTrace (requiredAccessRights : List String)
    (user : Option String) : PolicyDecisionTrace where
  user := present user
  process := present request.process
  requiredAccessRights := requiredAccessRights
  userClosure := []
  targetClosure := []
  policyClasses := []
  matchedAssociations := []
  matchedProhibitions := []

/-- The part of the evaluation that follows the validity checks: closures,
association search, prohibitions, and the reason of the decision. -/
def decideAccess (operation : PolicyOperation)
    (user : String) (elementsById : OrderedMap String PolicyElement)
    (parentsByChild : Adjacency String) : PolicyDecision :=
  let userClosure := computeContainmentClosure user parentsByChild
  let targetClosure := computeContainmentClosure request.target parentsByChild
  let policyClasses := targetClosure.filter (kindOf elementsById · = some .policyClass)
  let search := associationSearch
    (fun accessRight policyClass => policy.associations.find? (fun entry =>
      grantsAccessRight entry accessRight policyClass userClosure targetClosure parentsByChild))
    policyClasses operation.accessRights []
  let matchedProhibitions := policy.prohibitionList.filter (fun prohibition =>
    matchesRestriction prohibition request user userClosure request.target
      operation.accessRights parentsByChild)
  let finalTrace : PolicyDecisionTrace :=
    { emptyTrace request operation.accessRights (some user) with
      userClosure := userClosure, targetClosure := targetClosure, policyClasses := policyClasses
      matchedAssociations := search.1
      matchedProhibitions := matchedProhibitions.map PolicyProhibition.id }
  match matchedProhibitions with
  | firstProhibition :: _ => deny [.restriction firstProhibition.id] finalTrace
  | [] =>
    -- A matching prohibition determines the deny reason even when a privilege is absent.
    match search.2 with
    | some missingAccessRight => deny [.missingPrivilege missingAccessRight] finalTrace
    | none =>
      { effect := .allow
        reasons := [.associationGrant (search.1.head?.getD "")], trace := finalTrace }

/-- Evaluates a request against NGAC policy facts. -/
def evaluateAccess : PolicyDecision :=
  let elementsById := indexElements policy.elements
  let assignmentParents := indexAssignmentParents policy.assignments
  match validatePolicy policy elementsById assignmentParents with
  | some policyError => deny [.invalidPolicy policyError] (emptyTrace request [] none)
  | none =>
    match policy.operations.find? (·.id = request.operation) with
    | none => deny [.missingOperation request.operation] (emptyTrace request [] none)
    | some operation =>
      match resolveRequestUser policy request elementsById with
      | .error message =>
        deny [.invalidRequest message] (emptyTrace request operation.accessRights none)
      | .ok user =>
        match kindOf elementsById request.target with
        | none | some .policyClass =>
          deny [.invalidRequest ("Invalid NGAC request target " ++ request.target ++ ".")]
            (emptyTrace request operation.accessRights (some user))
        | some _ =>
          decideAccess policy request operation user elementsById assignmentParents

/-- Whether a policy state passes the evaluator's own validation. -/
def PolicyState.passesValidation : Bool :=
  (validatePolicy policy (indexElements policy.elements)
    (indexAssignmentParents policy.assignments)).isNone

end PolicyKernel
end OpenKit
