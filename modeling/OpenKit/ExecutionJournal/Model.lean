import OpenKit.Foundation.Transactions
import OpenKit.ExecutionJournal.Records

namespace OpenKit
namespace ExecutionJournal

open Foundation Writes

/-!
# Reading and writing the execution journal

A step is written as an intent before its effect and settled once.  Reads
validate what they return, and the two writers run inside their caller's
transaction and end with such a read, so a write that would leave an unreadable
row is rolled back with it.
-/

/-! ## Reads -/

/-- Requires the caller's physical database and disclosure owner to name the
same authority. -/
def requireScope (scope : JournalScope) (owner : WorkOwner) : Except JournalError Unit :=
  conflictIf (decide (owner ≠ scope.owner)) "Execution journal scope or owner conflicts."

/-- Refuses a known definition used in the wrong physical scope. -/
def requireDefinition (scope : JournalScope) (definition : ExecutionDefinition) :
    Except JournalError Unit :=
  let admitted :=
    match scope with
    | .core => definition = .coreImageAcquire || definition = .coreIdleCleanup
    | .workspace _ => definition = .workspaceWorkerTurn
  conflictIf (!admitted) "Execution definition conflicts with its physical owner."

/-- Actual Workspace producers. -/
def workspaceStepKinds : List ExecutionStepKind :=
  [.resolveSetup, .validateSetup, .materialize, .openSession, .inspectSession, .deliverStart,
    .collect, .terminalPublication, .cancel, .consumeReceipt, .inspectCleanup, .release]

def idleCleanupStepKinds : List ExecutionStepKind :=
  [.inspectCleanup, .collect, .release, .consumeReceipt]

/-- Refuses a step kind that has no producer in its scope. -/
def requireProducer (scope : JournalScope) (definition : ExecutionDefinition)
    (kind : ExecutionStepKind) : Except JournalError Unit :=
  match scope with
  | .core =>
    conflictIf (definition = .coreIdleCleanup && kind ∉ idleCleanupStepKinds)
      "Core idle cleanup step has no admitted producer."
  | .workspace _ =>
    conflictIf (decide (kind ∉ workspaceStepKinds))
      "Workspace execution step has no admitted producer."

/-- Inspectable execution root. -/
structure ExecutionJournalExecution where
  ref : ExecutionJournalRef
  definitionVersion : ExecutionDefinition
  (workId fingerprint : String)
  phase : ExecutionPhase
  revision : Nat
  terminalCause : Option String
  exclusionRefs : List String
  span : ExecutionJournalSpan
  openSteps : List ExecutionStepRef
deriving DecidableEq

namespace Journal

def openSteps (db : Journal) (ref : ExecutionJournalRef) : List ExecutionStepRef :=
  (((db.stepsOf ref.executionId).filter (·.state = .intent)).mergeSort
    (fun left right => left.ordinal <= right.ordinal)).map
      (fun row => ⟨ref, row.stepId⟩)

/-- The root that a row shows. -/
def view (db : Journal) (ref : ExecutionJournalRef) (row : ExecutionRow) :
    ExecutionJournalExecution :=
  { row with
    ref := ref, fingerprint := row.inputFingerprint, openSteps := db.openSteps ref }

/-- Reads an exact root; absence, invalid metadata, and unknown definitions
fail closed. -/
def readRoot (db : Journal) (ref : ExecutionJournalRef) :
    Except JournalError ExecutionJournalExecution := do
  requireScope db.scope ref.owner
  parse (refSchema ref) "ref"
  let row <- (db.execution? ref.executionId).elim (.error (.malformed "root")) .ok
  parse (rootRowSchema row) "root"
  requireDefinition db.scope row.definitionVersion
  conflictIf (decide (row.owner ≠ ref.owner)) "Execution owner conflicts."
  parse (spanSchema row.span) "span"
  conflictIf (decide (row.phase = .closed) != row.span.endTimeUnixNano.isSome)
    "Execution root phase conflicts with its span."
  parse (row.exclusionRefs.all text) "exclusionRefs"
  return db.view ref row

end Journal

/-- A step with its root, as retained. -/
structure StoredStep where
  root : ExecutionJournalExecution
  row : StepRow
deriving DecidableEq

namespace Journal

/-- Reads retained step facts. -/
def storedStep (db : Journal) (ref : ExecutionStepRef) : Except JournalError StoredStep := do
  parse (stepRefSchema ref) "stepRef"
  let root <- db.readRoot ref.execution
  let row <- (db.step? ref.execution.executionId ref.stepId).elim (.error (.malformed "step")) .ok
  parse (stepRowSchema row) "step"
  parse (controlSchema row.control) "control"
  requireProducer db.scope root.definitionVersion row.control.kind
  parse (invocationSchema row.invocation) "invocation"
  parse (spanSchema row.span) "span"
  conflictIf (row.control.invocationId ≠ row.invocationId ||
      row.control.definitionVersion ≠ root.definitionVersion || row.control.workId ≠ root.workId ||
      (decide (row.state = .intent) != row.span.endTimeUnixNano.isNone) ||
      (row.state = .ended .unknown && row.span.status.code ≠ .error))
    "Execution step conflicts with retained authority."
  conflictIf (row.inspectedExecutionId.isNone != row.inspectedStepId.isNone)
    "Execution inspection reference is incomplete."
  return ⟨root, row⟩

end Journal

structure ClockReading where
  (unixMs monotonicNano : Nat)

/-- The witness of the running process and its successive clock readings: the
first anchors a new intent, the others measure allowances. -/
structure ProcessClock where
  processWitness : String
  readings : Nat -> ClockReading

/-- Persisted invocation facts with a narrowed allowance. -/
structure ExecutionInvocation where
  ref : ExecutionStepRef
  state : ExecutionStepState
  control : ExecutionStepControl
  parent : Option ExecutionInvocationParent
  carriage : ExecutionInvocationCarriage
  clock : ExecutionInvocationClock
  remainingMs : Nat
deriving DecidableEq

/-- The allowance that a step's own deadline and anchor leave. -/
def ownRemainingMs (clock : ProcessClock) (reading : ClockReading) (row : StepRow) : Nat :=
  match row.state, row.control.deadlineUnixNano with
  | .intent, some expiry =>
    let anchor := row.invocation.clock
    let now : Int := reading.unixMs * 1000000
    let elapsed : Int := reading.monotonicNano - anchor.admittedMonotonicNano
    if anchor.processWitness = clock.processWitness /\ 0 <= elapsed /\
        (anchor.admittedUnixNano : Int) <= now then
      let remaining := min ((expiry : Int) - now) (expiry - anchor.admittedUnixNano - elapsed)
      (remaining / 1000000).toNat
    else 0
  | _, _ => 0

/-- Whether a child's deadline exceeds the cap of its parent. -/
def exceedsCap (deadline cap : Option Nat) : Bool :=
  match cap, deadline with
  | none, _ => false
  | some _, none => true
  | some limit, some value => limit < value

def StoredStep.invocation (stored : StoredStep) (ref : ExecutionStepRef) (remainingMs : Nat) :
    ExecutionInvocation where
  ref := ref
  state := stored.row.state
  control := stored.row.control
  parent := stored.row.invocation.parent
  carriage := stored.row.invocation.carriage
  clock := stored.row.invocation.clock
  remainingMs := remainingMs

namespace Journal

variable {db : Journal}

/-- The references of all steps. -/
def refs (db : Journal) : List ExecutionStepRef :=
  db.steps.rows.map (fun row => ⟨⟨db.scope.owner, row.executionId⟩, row.stepId⟩)

theorem readRoot_ok {ref : ExecutionJournalRef} {root : ExecutionJournalExecution}
    (read : db.readRoot ref = .ok root) :
    ∃ row, db.execution? ref.executionId = some row /\ root = db.view ref row /\
      ref.owner = db.scope.owner := by
  unfold readRoot requireScope requireDefinition at read
  simp only [bind_eq_ok_iff, parse_eq_ok_iff, conflictIf_eq_ok_iff, exists_and_left, exists_const,
    decide_eq_false_iff_not, ne_eq, Decidable.not_not] at read
  rcases read with ⟨owner, _, row, found, _, _, _, _, _, _, shown⟩
  cases hit : db.execution? ref.executionId with
  | none =>
    rw [hit] at found
    cases found
  | some =>
    rw [hit] at found
    cases found
    exact ⟨row, rfl, (Except.ok.inj shown).symm, owner⟩

variable {stored : StoredStep}

theorem storedStep_ok {ref : ExecutionStepRef} (read : db.storedStep ref = .ok stored) :
    db.readRoot ref.execution = .ok stored.root /\
      db.step? ref.execution.executionId ref.stepId = some stored.row /\
      (stored.row.inspectedExecutionId = none <-> stored.row.inspectedStepId = none) := by
  unfold storedStep at read
  simp only [bind_eq_ok_iff, parse_eq_ok_iff, conflictIf_eq_ok_iff, exists_and_left,
    exists_const] at read
  rcases read with ⟨_, root, readRoot, row, found, _, _, _, _, _, _, _, complete, shown⟩
  cases hit : db.step? ref.execution.executionId ref.stepId with
  | none =>
    rw [hit] at found
    cases found
  | some =>
    rw [hit] at found
    cases found
    rw [<- Except.ok.inj shown]
    refine ⟨readRoot, rfl, ?_⟩
    cases first : row.inspectedExecutionId <;> cases second : row.inspectedStepId <;> simp_all

/-- A stored step is one of the journal's steps. -/
theorem mem_refs_of_storedStep {ref : ExecutionStepRef} (read : db.storedStep ref = .ok stored) :
    ref ∈ db.refs := by
  rcases storedStep_ok read with ⟨readRoot, found, _⟩
  rcases readRoot_ok readRoot with ⟨_, _, _, owner⟩
  have key := Table.keyOf_of_find? found
  rcases Prod.mk.inj key with ⟨executionId, stepId⟩
  apply List.mem_map.mpr
  refine ⟨stored.row, Table.mem_of_find? found, ?_⟩
  rw [executionId, stepId, <- owner]

/-- Computes a conservative allowance from the live process's original anchor.
The parents' allowances narrow it; a repeated ancestor is an error. -/
def readExecutionJournalInvocation (db : Journal) (clock : ProcessClock) (ref : ExecutionStepRef)
    (ancestors : List ExecutionStepRef) : Except JournalError ExecutionInvocation :=
  if _fresh : ref ∈ ancestors then .error (.conflict "Execution parent lineage contains a cycle.")
  else
    match _located : db.storedStep ref with
    | .error thrown => .error thrown
    | .ok stored =>
      let own := ownRemainingMs clock (clock.readings (ancestors.length + 1)) stored.row
      match stored.row.invocation.parent with
      | none => .ok (stored.invocation ref own)
      | some parent =>
        if own = 0 then .ok (stored.invocation ref own)
        else
          match readExecutionJournalInvocation db clock parent.ref (ref :: ancestors) with
          | .error thrown => .error thrown
          | .ok original =>
            if parent.deadlineUnixNano ≠ original.control.deadlineUnixNano \/
                exceedsCap stored.row.control.deadlineUnixNano parent.deadlineUnixNano then
              .error (.conflict "Execution parent cap conflicts.")
            else .ok (stored.invocation ref (min own original.remainingMs))
termination_by (db.refs.filter (· ∉ ancestors)).length
decreasing_by
  exact length_filter_notMem_cons_lt (mem_refs_of_storedStep _located) _fresh

theorem readExecutionJournalInvocation_ok {clock : ProcessClock} {ref : ExecutionStepRef}
    {ancestors : List ExecutionStepRef} {call : ExecutionInvocation}
    (read : db.readExecutionJournalInvocation clock ref ancestors = .ok call) :
    ∃ stored remainingMs, db.storedStep ref = .ok stored /\
      call = stored.invocation ref remainingMs := by
  unfold readExecutionJournalInvocation at read
  split at read
  · cases read
  split at read
  · cases read
  rename_i stored hit
  refine ⟨stored, ?_⟩
  simp only at read
  split at read
  · exact ⟨_, hit, (Except.ok.inj read).symm⟩
  split at read
  · exact ⟨_, hit, (Except.ok.inj read).symm⟩
  split at read
  · cases read
  split at read
  · cases read
  · exact ⟨_, hit, (Except.ok.inj read).symm⟩

end Journal

/-! ## Writing an intent -/

/-- Initial root facts for an existing work identity. -/
structure ExecutionJournalAdmission where
  ref : ExecutionJournalRef
  definitionVersion : ExecutionDefinition
  (workId fingerprint : String)
  exclusionRefs : List String
  span : ExecutionJournalSpan
deriving DecidableEq

structure ExecutionJournalIntent where
  execution : ExecutionJournalAdmission
  stepId : String
  parentStepId : Option String
  control : ExecutionStepControl
  parent : Option ExecutionInvocationParent
  carriage : ExecutionInvocationCarriage
  inspectedStep : Option ExecutionStepRef
  span : ExecutionJournalSpan
deriving DecidableEq

def ExecutionJournalIntent.ref (input : ExecutionJournalIntent) : ExecutionStepRef :=
  ⟨input.execution.ref, input.stepId⟩

def ExecutionJournalAdmission.newRoot (admission : ExecutionJournalAdmission) : ExecutionRow where
  id := admission.ref.executionId
  owner := admission.ref.owner
  workId := admission.workId
  definitionVersion := admission.definitionVersion
  inputFingerprint := admission.fingerprint
  phase := .opened
  revision := 1
  terminalCause := none
  exclusionRefs := admission.exclusionRefs
  span := admission.span

/-- Whether a stored step was written by this very intent.  The admission's
exclusions and root span are not compared: the root may have moved on. -/
def StoredStep.repeats (stored : StoredStep) (input : ExecutionJournalIntent) : Bool :=
  stored.row.control = input.control && stored.row.invocation.parent = input.parent &&
    stored.row.invocation.carriage = input.carriage &&
    stored.row.parentStepId = input.parentStepId && decide (stored.row.inspectedExecutionId =
      input.inspectedStep.map (·.execution.executionId)) &&
    stored.row.inspectedStepId = input.inspectedStep.map ExecutionStepRef.stepId &&
    stored.root.fingerprint = input.execution.fingerprint && stored.row.span = input.span

/-- The step kinds that a closing execution still admits. -/
def closingStepKinds (scope : JournalScope) : List ExecutionStepKind :=
  match scope with
  | .core => [.inspectCleanup, .consumeReceipt]
  | .workspace _ => [.inspectCleanup, .consumeReceipt, .release]

namespace Journal

variable (db : Journal) (input : ExecutionJournalIntent)

/-- Enforces the physical owner; the transaction is the caller's. -/
def requireWriter (ref : ExecutionJournalRef) : Except JournalError Unit := do
  requireScope db.scope ref.owner
  parse (refSchema ref) "ref"

/-- The checks of an intent by itself. -/
def checkIntent : Except JournalError Unit := do
  let admission := input.execution
  db.requireWriter admission.ref
  parse (controlSchema input.control) "control"
  parse (spanSchema input.span) "span"
  parse (spanSchema admission.span) "span"
  requireDefinition db.scope admission.definitionVersion
  requireProducer db.scope admission.definitionVersion input.control.kind
  parse (text admission.workId) "workId"
  parse (text admission.fingerprint) "fingerprint"
  parse (text input.stepId) "stepId"
  conflictIf (input.span.endTimeUnixNano.isSome || admission.span.endTimeUnixNano.isSome ||
      input.control.workId ≠ admission.workId ||
      input.control.definitionVersion ≠ admission.definitionVersion)
    "Execution intent conflicts with its admission."

/-- The answer to an intent whose step exists. -/
def repeatIntent (clock : ProcessClock) (input : ExecutionJournalIntent) :
    Except JournalError ExecutionInvocation := do
  let stored <- db.storedStep input.ref
  conflictIf (!stored.repeats input) "Execution invocation input conflicts."
  db.readExecutionJournalInvocation clock input.ref []

def admitRoot (admission : ExecutionJournalAdmission) (db : Journal) :
    Except JournalError Journal := do
  if (db.execution? admission.ref.executionId).isSome then return db
  else
    parse (admission.exclusionRefs.all text) "exclusionRefs"
    return { db with executions := db.executions.insert admission.newRoot }

/-- The parent's authority is that of an open step and cannot be exceeded. -/
def requireParent : Except JournalError Unit := do
  match input.parent with
  | none => conflictIf input.parentStepId.isSome "Execution parent authority is missing."
  | some parent =>
    let stored <- db.storedStep parent.ref
    conflictIf (stored.row.state ≠ .intent ||
        parent.deadlineUnixNano ≠ stored.row.control.deadlineUnixNano ||
        exceedsCap input.control.deadlineUnixNano parent.deadlineUnixNano)
      "Execution parent authority cannot be renewed."
    let sameExecution := decide
      (parent.ref.execution.executionId = input.execution.ref.executionId)
    conflictIf (if sameExecution then
        input.parentStepId ≠ some parent.ref.stepId ||
          input.span.parentSpanId ≠ some stored.row.span.spanId
      else input.parentStepId.isSome)
      "Execution control parent conflicts."

/-- An inspection links the span of the step it inspects. -/
def requireInspected : Except JournalError Unit := do
  match input.inspectedStep with
  | none => return ()
  | some ref =>
    let inspected <- db.storedStep ref
    conflictIf (!input.span.links.any (fun link =>
        link.traceId = inspected.row.span.traceId && link.spanId = inspected.row.span.spanId))
      "Inspection must link its original span."

/-- The root that admits a new step. -/
def requireRoot : Except JournalError ExecutionJournalExecution := do
  let admission := input.execution
  let root <- db.readRoot admission.ref
  conflictIf (root.phase = .closed || (root.phase = .closing &&
        input.control.kind ∉ closingStepKinds db.scope) || root.workId ≠ admission.workId ||
      root.fingerprint ≠ admission.fingerprint ||
      root.definitionVersion ≠ admission.definitionVersion ||
      root.span.traceId ≠ admission.span.traceId || root.span.spanId ≠ admission.span.spanId ||
      root.span.startTimeUnixNano ≠ admission.span.startTimeUnixNano)
    "Execution admission conflicts with retained authority."
  conflictIf (decide (input.span.traceId ≠ root.span.traceId)) "Execution step trace conflicts."
  db.requireParent input
  db.requireInspected input
  return root

/-- `COALESCE(MAX(ordinal), 0)`. -/
def lastOrdinal (executionId : String) : Nat :=
  ((db.stepsOf executionId).map StepRow.ordinal).foldl max 0

def newStep (clock : ProcessClock) (producerProcessWitness : Option String)
    (input : ExecutionJournalIntent) : Except JournalError StepRow := do
  let anchor := clock.readings 0
  let invocation : RetainedInvocation :=
    { parent := input.parent
      carriage := input.carriage
      clock :=
        { processWitness :=
            match db.scope, producerProcessWitness with
            | .core, some witness => witness
            | _, _ => clock.processWitness
          admittedUnixNano := anchor.unixMs * 1000000
          admittedMonotonicNano := anchor.monotonicNano } }
  parse (invocationSchema invocation) "invocation"
  let ordinal := db.lastOrdinal input.execution.ref.executionId + 1
  parse (count ordinal) "ordinal"
  return {
    executionId := input.execution.ref.executionId, stepId := input.stepId, ordinal := ordinal
    parentStepId := input.parentStepId, state := .intent, invocationId := input.control.invocationId
    control := input.control, invocation := invocation, span := input.span
    inspectedExecutionId := input.inspectedStep.map (·.execution.executionId)
    inspectedStepId := input.inspectedStep.map ExecutionStepRef.stepId }

/-- Insert a step; invocation ids are unique. -/
def insertStep (row : StepRow) (db : Journal) : Except JournalError Journal := do
  refuse (db.steps.rows.any (·.invocationId = row.invocationId))
    (.constraint "control_execution_steps_invocation_idx")
  return { db with steps := db.steps.insert row }

/-- `UPDATE control_executions … WHERE id = ? AND revision = ?`. -/
def updateRoot (executionId : String) (revision : Nat)
    (write : ExecutionRow -> ExecutionRow) (keeps : ∀ row, (write row).id = row.id) : Journal :=
  { db with
    executions := db.executions.updateWhere
      (fun row => row.id = executionId && row.revision = revision) write keeps }

def nextRevision (row : ExecutionRow) : ExecutionRow :=
  { row with revision := row.revision + 1 }

def advanceRevision (executionId : String) (revision : Nat) (db : Journal) :
    Except JournalError Journal := do
  refuse (!count (revision + 1)) (.constraint "control_executions_revision_check")
  return db.updateRoot executionId revision nextRevision (fun _ => rfl)

end Journal

/-- Persists one immutable intent before any queue or external wait. -/
def writeExecutionJournalIntent (clock : ProcessClock) (producerProcessWitness : Option String)
    (input : ExecutionJournalIntent) : Writes Journal JournalError ExecutionInvocation :=
  let executionId := input.execution.ref.executionId
  andThen (query fun db => db.checkIntent input) fun _ db =>
    if (db.step? executionId input.stepId).isSome then
      query (·.repeatIntent clock input) db
    else
      andThen (update (Journal.admitRoot input.execution)) (fun _ =>
        andThen (query fun db => db.requireRoot input) fun root =>
          andThen (query fun db => db.newStep clock producerProcessWitness input)
            fun row =>
              andThen (update (Journal.insertStep row)) fun _ =>
                andThen
                  (update (Journal.advanceRevision executionId root.revision)) fun _ =>
                    query fun db =>
                      db.readExecutionJournalInvocation clock input.ref []) db

/-! ## Settling a step -/

structure ExecutionJournalSettlement where
  ref : ExecutionStepRef
  expectedExecutionRevision : Nat
  state : EndedExecutionStepState
  outputRefs : List String
  span : ExecutionJournalSpan
  nextPhase : ExecutionPhase
  terminalCause : Option String
  exclusionRefs : List String
deriving DecidableEq

/-- Immutable ended invocation. -/
structure EndedExecutionStep where
  ref : ExecutionStepRef
  state : EndedExecutionStepState
  control : ExecutionStepControl
  rootSpanId : String
  span : ExecutionJournalSpan
deriving DecidableEq

/-- The parts of a span that a settlement may not change. -/
def sameSpanIdentity (left right : ExecutionJournalSpan) : Bool :=
  left.traceId = right.traceId && left.spanId = right.spanId &&
    left.parentSpanId = right.parentSpanId &&
    left.startTimeUnixNano = right.startTimeUnixNano && left.name = right.name &&
    left.kind = right.kind

namespace Journal

variable (db : Journal) (input : ExecutionJournalSettlement)

def inspectedOf (owner : WorkOwner) (row : StepRow) : Except JournalError (Option StoredStep) :=
  match row.inspectedExecutionId, row.inspectedStepId with
  | some executionId, some stepId => (db.storedStep ⟨⟨owner, executionId⟩, stepId⟩).map some
  | _, _ => .ok none

/-- Whether the settled step is a release, or inspects a completed release of
the same execution with the same outputs. -/
def releaseProof (row : StepRow) (inspected : Option StoredStep) (executionId : String)
    (outputRefs : List String) : Bool :=
  row.control.kind = .release || (row.control.kind = .inspectCleanup &&
      row.inspectedExecutionId = some executionId && inspected.any (fun release =>
        release.row.state = .ended .completed && release.row.control.kind = .release &&
          release.row.control.outputRefs = outputRefs))

/-- The completed steps that inspect a step of the same execution. -/
def proofsOf (executionId stepId : String) : List StepRow :=
  (db.stepsOf executionId).filter fun row =>
    row.inspectedExecutionId = some executionId &&
      row.inspectedStepId = some stepId && row.state = .ended .completed

def unknownSteps (executionId : String) : List StepRow :=
  (db.stepsOf executionId).filter fun row => row.state = .ended .unknown

/-- Whether every unknown step has a completed cleanup inspection with the same
outputs. -/
def unknownsInspected (ref : ExecutionJournalRef) (outputRefs : List String) :
    Except JournalError Bool :=
  (db.unknownSteps ref.executionId).allM fun unknown =>
    (db.proofsOf ref.executionId unknown.stepId).anyM fun proof => do
      let observed <- db.storedStep ⟨ref, proof.stepId⟩
      return observed.row.control.kind = .inspectCleanup &&
        observed.row.control.outputRefs = outputRefs

/-- Whether the settlement releases the exclusion of unknown outcomes. -/
def qualifiedRelease (row : StepRow) (inspected : Option StoredStep) : Except JournalError Bool :=
  let executionId := input.ref.execution.executionId
  if db.scope ≠ .core /\ releaseProof row inspected executionId input.outputRefs /\
      input.state = .completed /\ input.outputRefs.length = 1 then
    db.unknownsInspected input.ref.execution input.outputRefs
  else .ok false

def checkSettlement : Except JournalError StoredStep := do
  db.requireWriter input.ref.execution
  let stored <- db.storedStep input.ref
  parse (spanSchema input.span) "span"
  conflictIf (stored.row.state ≠ .intent ||
      stored.root.revision ≠ input.expectedExecutionRevision ||
      stored.root.phase = .closed || input.span.endTimeUnixNano.isNone ||
      (input.state = .unknown && input.span.status.code ≠ .error))
    "Execution settlement is stale or conflicts."
  conflictIf (!sameSpanIdentity input.span stored.row.span) "Execution span identity is immutable."
  parse (input.outputRefs.all text) "outputRefs"
  parse (input.exclusionRefs.all text) "exclusionRefs"
  let hasUnknown := input.state = .unknown ||
    !(db.unknownSteps input.ref.execution.executionId).isEmpty
  let inspected <- db.inspectedOf input.ref.execution.owner stored.row
  let qualified <- db.qualifiedRelease input stored.row inspected
  conflictIf (hasUnknown && !qualified && (input.nextPhase = .closed ||
      stored.root.exclusionRefs.any (· ∉ input.exclusionRefs)))
    "Unknown children retain exclusion; parent completion cannot release them."
  conflictIf (input.nextPhase = .closed &&
      (stored.root.openSteps.any (·.stepId ≠ input.ref.stepId) ||
        !input.exclusionRefs.isEmpty || input.state = .unknown))
    "Execution cannot close with unresolved work."
  return stored

/-- The settled row.  A trace state that the settlement leaves out is kept. -/
def settledStep (row : StepRow) : StepRow :=
  { row with
    state := .ended input.state, control := { row.control with outputRefs := input.outputRefs }
    span :=
      { input.span with
        parentSpanId := input.span.parentSpanId.or row.span.parentSpanId
        traceState := input.span.traceState.or row.span.traceState } }

def endStep (db : Journal) : Except JournalError Journal := do
  let executionId := input.ref.execution.executionId
  let selects := fun row : StepRow =>
    row.key = (executionId, input.ref.stepId) && row.state = .intent
  conflictIf (!db.steps.rows.any selects) "Execution outcome lost its conditional transition."
  return { db with steps := db.steps.updateWhere selects (settledStep input) (fun _ => rfl) }

def advancedRoot (row : ExecutionRow) : ExecutionRow :=
  { row with
    phase := input.nextPhase, revision := row.revision + 1, terminalCause := input.terminalCause
    exclusionRefs := input.exclusionRefs
    span :=
      if input.nextPhase = .closed then
        { row.span with
          endTimeUnixNano := input.span.endTimeUnixNano, status := input.span.status }
      else row.span }

def advanceRoot (db : Journal) : Except JournalError Journal := do
  let executionId := input.ref.execution.executionId
  let row <- (db.execution? executionId).elim (.error (.malformed "root")) .ok
  parse (rootRowSchema row) "root"
  conflictIf (decide (row.revision ≠ input.expectedExecutionRevision))
    "Execution revision conflicts."
  refuse (!count (row.revision + 1)) (.constraint "control_executions_revision_check")
  return db.updateRoot executionId input.expectedExecutionRevision (advancedRoot input)
    (fun _ => rfl)

/-- Reads an ended step with its root span identity. -/
def endedStep (ref : ExecutionStepRef) : Except JournalError EndedExecutionStep := do
  let stored <- db.storedStep ref
  match stored.row.state with
  | .intent => .error (.conflict "Execution step has not ended.")
  | .ended outcome =>
    conflictIf stored.row.span.endTimeUnixNano.isNone "Execution step has not ended."
    return ⟨ref, outcome, stored.row.control, stored.root.span.spanId, stored.row.span⟩

end Journal

def settleExecutionJournalStep (input : ExecutionJournalSettlement) :
    Writes Journal JournalError EndedExecutionStep :=
  andThen (query fun db => db.checkSettlement input) fun _ =>
    andThen (update (Journal.endStep input)) fun _ =>
      andThen (update (Journal.advanceRoot input)) fun _ =>
        query fun db => db.endedStep input.ref

/-! ## Histories -/

/-- One call, in its own transaction. -/
inductive JournalCall where
  | intent (input : ExecutionJournalIntent) (clock : ProcessClock)
      (producerProcessWitness : Option String)
  | settle (input : ExecutionJournalSettlement)

/-- The execution that a call names. -/
def JournalCall.executionId : JournalCall -> String
  | .intent input _ _ => input.execution.ref.executionId
  | .settle input => input.ref.execution.executionId

def applyCall (call : JournalCall) (db : Journal) : Journal :=
  match call with
  | .intent input clock witness =>
    (atomically (writeExecutionJournalIntent clock witness input) db).2
  | .settle input => (atomically (settleExecutionJournalStep input) db).2

/-- Whether a call throws. -/
def throws (call : JournalCall) (db : Journal) : Bool :=
  match call with
  | .intent input clock witness =>
    !(atomically (writeExecutionJournalIntent clock witness input) db).1.isOk
  | .settle input => !(atomically (settleExecutionJournalStep input) db).1.isOk

/-- The journal of one database after a history. -/
def journalAfter (scope : JournalScope) (calls : List JournalCall) : Journal :=
  runCalls applyCall calls (.empty scope)

end ExecutionJournal
end OpenKit
