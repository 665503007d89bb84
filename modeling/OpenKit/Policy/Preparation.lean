import OpenKit.Policy.Admission

namespace OpenKit
namespace Policy

open Foundation

/-!
# Candidate documents

A proposed collection is compared with the current one statement by
statement.  A statement whose content is unchanged keeps its current version;
any other is stamped with the acting human.  The result is classified: nothing
changed, only the author's own observations were reduced, or anything else.
-/

variable (env : PolicyEnvironment)

/-! ## Contents without authorship -/

/-- The statement without author and authoring time.  The removed fields are
set to fixed values, so two statements agree here exactly when they agree
elsewhere. -/
def PolicyStatement.withoutAuthorship (statement : PolicyStatement) : PolicyStatement :=
  statement.withFields
    { statement.fields with author := ⟨.human, ""⟩, authoredAt := "" }

/-- The binding fields that `fixedContent` keeps. -/
def PolicyBinding.fixed (binding : PolicyBinding) : PolicyBinding :=
  { binding with
    author := ⟨.human, ""⟩
    authoredAt := ""
    scope := ⟨[], [], []⟩, inputDisclosure := ⟨[], [], []⟩
    lifetime := ⟨⟨.server, "", ""⟩, none, none⟩, state := .inactive }

/-! ## Preparation -/

/-- The current statements by id. -/
def indexStatements (document : PolicyDocument) : OrderedMap String PolicyStatement :=
  OrderedMap.ofPairs (document.statements.map (fun statement => (statement.id, statement)))

variable (current : PolicyDocument) (submitted : List PolicyStatement)

/-- The current version of a statement whose content is unchanged. -/
def unchangedVersion (statement : PolicyStatement) : Option PolicyStatement :=
  ((indexStatements current).get? statement.id).filter fun previous =>
    env.digest.content statement.withoutAuthorship = env.digest.content previous.withoutAuthorship

/-- Stamp a new or changed statement with the acting human.  An agent keeps
its creator. -/
def stampStatement (userId now : String) (previous : Option PolicyStatement)
    (statement : PolicyStatement) : PolicyStatement :=
  let stamped := statement.withFields
    { statement.fields with
      author := ⟨.human, userId⟩, authority := .human userId, authoredAt := now }
  match stamped with
  | .agentPrincipal agent =>
    match previous with
    | some (.agentPrincipal before) => .agentPrincipal { agent with creator := before.creator }
    | _ => .agentPrincipal { agent with creator := ⟨.human, userId⟩ }
  | other => other

/-- One step of the statement map. -/
def prepareStatement (userId now : String) (statement : PolicyStatement) : PolicyStatement :=
  match unchangedVersion env current statement with
  | some previous => previous
  | none => stampStatement userId now ((indexStatements current).get? statement.id) statement

structure PolicyDiff where
  (added changed removed : List String)

/-- The first declaration of an agent id. -/
def findAgent (statements : List PolicyStatement) (agentId : String) :
    Option PolicyAgentPrincipal :=
  (statements.filterMap PolicyStatement.asAgentPrincipal).find? (·.agentId = agentId)

/-- A touched binding that pinned the submitted declaration follows its
stamped version. -/
def repinStatement (proposed stamped : List PolicyStatement) (touched : List String)
    (statement : PolicyStatement) : PolicyStatement :=
  match statement with
  | .binding binding =>
    if binding.participant.kind = .agent /\ binding.id ∈ touched then
      match findAgent proposed binding.participant.id, findAgent stamped binding.participant.id with
      | some source, some prepared =>
        if binding.participant.version = env.digest.statement (.agentPrincipal source) then
          .binding { binding with
            participant := { binding.participant with
              version := env.digest.statement (.agentPrincipal prepared) } }
        else statement
      | _, _ => statement
    else statement
  | _ => statement

inductive PolicyClassification where
  | unchanged | narrowing | widening
deriving DecidableEq

structure PreparedPolicy where
  document : PolicyDocument
  diff : PolicyDiff
  classification : PolicyClassification

/-- `expiry(after) <= expiry(before)`, an absent expiry being infinite. -/
def expiresNoLater (after before : PolicyLifetime) : Bool :=
  match PolicyKernel.present after.notAfter, PolicyKernel.present before.notAfter with
  | none, none => true
  | none, some _ => false
  | some text, none => (env.dateParse text).isSome
  | some afterText, some beforeText =>
    match env.dateParse afterText, env.dateParse beforeText with
    | some afterInstant, some beforeInstant => afterInstant <= beforeInstant
    | _, _ => false

/-- The comparison of two versions of one observation. -/
def isNarrowedBinding (before after : PolicyBinding) (userId : String) : Bool :=
  after.mode = .observe && after.author = ⟨.human, userId⟩ &&
    (after.state = before.state || after.state = .inactive) &&
    before.lifetime.uses.isNone && after.lifetime.uses.isNone &&
    env.digest.fixedContent before.fixed = env.digest.fixedContent after.fixed &&
    decide (env.digest.container before.lifetime.anchor =
      env.digest.container after.lifetime.anchor) &&
    expiresNoLater env after.lifetime before.lifetime &&
    policyScopeContains env before.scope after.scope &&
    policyScopeContains env before.inputDisclosure after.inputDisclosure

/-- Proves less observation disclosure while keeping participant, author and
lifetime authority bounded. -/
def isNarrowedObservation (before after : Option PolicyStatement) (userId : String) : Bool :=
  match before with
  | some (.binding before) =>
    before.mode = .observe && before.author = ⟨.human, userId⟩ &&
      before.authority = .human userId &&
      (match after with
      | none => true
      | some (.binding after) => isNarrowedBinding env before after userId
      | some _ => false)
  | _ => false

/-- The submitted statements that do not keep their current version. -/
def touchedStatements : List PolicyStatement :=
  submitted.filter (fun statement => (unchangedVersion env current statement).isNone)

def addedIds : List String :=
  ((touchedStatements env current submitted).filter
    (fun statement => ((indexStatements current).get? statement.id).isNone)).map PolicyStatement.id

def changedIds : List String :=
  ((touchedStatements env current submitted).filter
    (fun statement => ((indexStatements current).get? statement.id).isSome)).map PolicyStatement.id

/-- The statements of the candidate: stamped, then pinned to stamped agents. -/
def preparedStatements (userId now : String) : List PolicyStatement :=
  let stamped := submitted.map (prepareStatement env current userId now)
  stamped.map (repinStatement env submitted stamped
    (addedIds env current submitted ++ changedIds env current submitted))

def removedIds (statements : List PolicyStatement) : List String :=
  (current.statements.filter
    (·.id ∉ statements.map PolicyStatement.id)).map PolicyStatement.id

/-- Only the author's passive observer reductions prove narrower disclosure. -/
def isNarrowing (current document : PolicyDocument) (diff : PolicyDiff) (userId : String) : Bool :=
  diff.added.isEmpty && diff.removed.all (fun id =>
      isNarrowedObservation env ((indexStatements current).get? id) none userId) &&
    diff.changed.all (fun id =>
      isNarrowedObservation env ((indexStatements current).get? id)
        (document.statements.find? (·.id = id)) userId)

def classify (current document : PolicyDocument) (diff : PolicyDiff) (userId : String) :
    PolicyClassification :=
  if diff.added.isEmpty && diff.changed.isEmpty && diff.removed.isEmpty then .unchanged
  else if isNarrowing env current document diff userId then .narrowing
  else .widening

/-- Candidate preparation stamps actual authorship and preserves unchanged
versions. -/
def preparePolicyDocument (proposed : List PolicyStatement)
    (userId now : String) : Except String PreparedPolicy := do
  let submitted <- parsePolicyDocument env proposed
  let statements := preparedStatements env current submitted.statements userId now
  let diff : PolicyDiff :=
    { added := addedIds env current submitted.statements
      changed := changedIds env current submitted.statements
      removed := removedIds current statements }
  let document <- validatePolicyDocument env statements
  return { document, diff, classification := classify env current document diff userId }

/-! ## What preparation keeps -/

variable {env}

theorem get?_indexStatements_iff (document : PolicyDocument) (id : String)
    (statement : PolicyStatement) : (indexStatements document).get? id = some statement <->
      statement ∈ document.statements /\ statement.id = id :=
  OrderedMap.get?_ofPairs_map_iff document.uniqueIds id statement

theorem id_stampStatement (userId now : String) (previous : Option PolicyStatement)
    (statement : PolicyStatement) :
    (stampStatement userId now previous statement).id = statement.id := by
  cases statement with
  | agentPrincipal =>
    simp only [stampStatement, PolicyStatement.withFields]
    split <;> rfl
  | binding | permission | delegation | managedBoundary => rfl

theorem id_repinStatement (proposed stamped : List PolicyStatement) (touched : List String)
    (statement : PolicyStatement) :
    (repinStatement env proposed stamped touched statement).id = statement.id := by
  unfold repinStatement
  repeat' split
  all_goals rfl

theorem unchangedVersion_eq_some {current : PolicyDocument} {statement previous : PolicyStatement}
    (kept : unchangedVersion env current statement = some previous) :
    previous ∈ current.statements /\ previous.id = statement.id := by
  exact (get?_indexStatements_iff current _ _).mp (Option.filter_eq_some_iff.mp kept).1

theorem id_prepareStatement (current : PolicyDocument) (userId now : String)
    (statement : PolicyStatement) :
    (prepareStatement env current userId now statement).id = statement.id := by
  unfold prepareStatement
  split
  next kept =>
    exact (unchangedVersion_eq_some kept).2
  · exact id_stampStatement userId now _ statement

end Policy
end OpenKit
