import OpenKit.Foundation.Fallible
import OpenKit.Foundation.Table

namespace OpenKit
namespace ExecutionJournal

open Foundation

/-!
# The records of the execution journal

One physical database, Core or one Workspace, keeps the history of its
executions: a root row for each execution and a step row for each invocation.

JSON columns are kept as the values they encode.  The parts of a span that no
function reads are kept as one encoded text, and the formats of Workspace, User,
and Automation ids are those of the database and of the callers' types.
-/

/-! ## Values -/

inductive WorkOwner where
  | workspace (workspaceId : String)
  | server
deriving DecidableEq

inductive ResponsibleActorKind where
  | agent | integration | system | automation
deriving DecidableEq

inductive ActorRef where
  | user (id : String)
  | responsible (kind : ResponsibleActorKind) (id : String) (responsibleUserId : Option String)
deriving DecidableEq

/-- Owner-qualified existing execution identity. -/
structure ExecutionJournalRef where
  owner : WorkOwner
  executionId : String
deriving DecidableEq

structure ExecutionStepRef where
  execution : ExecutionJournalRef
  stepId : String
deriving DecidableEq

inductive ExecutionDefinition where
  | coreImageAcquire | coreIdleCleanup | workspaceWorkerTurn
deriving DecidableEq

inductive ExecutionStepKind where
  | admission | queueCapacityWait | reserve | resolveSetup | validateSetup | materialize
  | openSession | inspectSession | deliverStart | observe | collect | terminalPublication | cancel
  | humanWait | consumeReceipt | inspectCleanup | fence | release
deriving DecidableEq

inductive EndedExecutionStepState where
  | completed | failed | unknown | cancelled
deriving DecidableEq

inductive ExecutionStepState where
  | intent
  | ended (outcome : EndedExecutionStepState)
deriving DecidableEq

inductive ExecutionPhase where
  | opened | closing | closed
deriving DecidableEq

structure ExecutionStepTarget where
  (backendKind targetId : String)
  allocationRef : Option String
deriving DecidableEq

/-- Control facts of one invocation. -/
structure ExecutionStepControl where
  definitionVersion : ExecutionDefinition
  kind : ExecutionStepKind
  target : Option ExecutionStepTarget
  workId : String
  (operationId attemptId : Option String)
  invocationId : String
  actor : ActorRef
  (inputRefs outputRefs : List String)
  fingerprint : String
  permittingDecisionRef : Option String
  authorityRefs : List String
  retryDeclarationRef : Option String
  retryPermitted : Bool
  deadlineUnixNano : Option Nat
  physicalFenceRefs : List String
deriving DecidableEq

structure ExecutionInvocationParent where
  ref : ExecutionStepRef
  deadlineUnixNano : Option Nat
deriving DecidableEq

structure ExecutionInvocationCarriage where
  (operation requestId : String)
  sequence : Option Nat
  bindingRef : Option String
deriving DecidableEq

/-- Original local clock anchor. -/
structure ExecutionInvocationClock where
  processWitness : String
  (admittedUnixNano admittedMonotonicNano : Nat)
deriving DecidableEq

/-- The retained invocation facts of a step. -/
structure RetainedInvocation where
  parent : Option ExecutionInvocationParent
  carriage : ExecutionInvocationCarriage
  clock : ExecutionInvocationClock
deriving DecidableEq

inductive SpanKind where
  | unspecified | internal | server | client | producer | consumer
deriving DecidableEq

inductive SpanStatusCode where
  | unset | ok | error
deriving DecidableEq

structure SpanStatus where
  code : SpanStatusCode
  description : Option String
deriving DecidableEq

structure SpanLink where
  (traceId spanId details : String)
deriving DecidableEq

structure ExecutionJournalSpan where
  (traceId spanId : String)
  (parentSpanId traceState : Option String)
  name : String
  kind : SpanKind
  startTimeUnixNano : Nat
  endTimeUnixNano : Option Nat
  status : SpanStatus
  links : List SpanLink
  /-- Flags, attributes, events, counts, scope, and resource, encoded. -/
  details : String
deriving DecidableEq

/-! ## Schemas -/

def MAX_SAFE_INTEGER : Nat :=
  9007199254740991

/-- `z.string().min(1)`. -/
def text (value : String) : Bool :=
  value ≠ ""

def count (value : Nat) : Bool :=
  value <= MAX_SAFE_INTEGER

def nano (value : Nat) : Bool :=
  value <= 18446744073709551615

/-- Lowercase hexadecimal digits of one width, not all zero. -/
def hexId (width : Nat) (value : String) : Bool :=
  value.toList.length = width &&
    value.toList.all ("0123456789abcdef".toList.contains ·) &&
    value.toList.any (· != '0')

def traceId (value : String) : Bool :=
  hexId 32 value

def spanId (value : String) : Bool :=
  hexId 16 value

def spanSchema (span : ExecutionJournalSpan) : Bool :=
  traceId span.traceId && spanId span.spanId && span.parentSpanId.all spanId && text span.name &&
    nano span.startTimeUnixNano && span.endTimeUnixNano.all nano &&
    span.links.all (fun link => traceId link.traceId && spanId link.spanId) &&
    span.endTimeUnixNano.all (span.startTimeUnixNano <= ·)

def refSchema (ref : ExecutionJournalRef) : Bool :=
  text ref.executionId

def stepRefSchema (ref : ExecutionStepRef) : Bool :=
  refSchema ref.execution && text ref.stepId

def targetSchema (target : ExecutionStepTarget) : Bool :=
  text target.backendKind && text target.targetId && target.allocationRef.all text

def controlSchema (control : ExecutionStepControl) : Bool :=
  control.target.all targetSchema && text control.workId && control.operationId.all text &&
    control.attemptId.all text && text control.invocationId && control.inputRefs.all text &&
    control.outputRefs.all text && text control.fingerprint &&
    control.permittingDecisionRef.all text && control.authorityRefs.all text &&
    control.retryDeclarationRef.all text && control.deadlineUnixNano.all nano &&
    control.physicalFenceRefs.all text

def invocationSchema (invocation : RetainedInvocation) : Bool :=
  invocation.parent.all (fun parent =>
    stepRefSchema parent.ref && parent.deadlineUnixNano.all nano) &&
    text invocation.carriage.operation && text invocation.carriage.requestId &&
    invocation.carriage.sequence.all count && invocation.carriage.bindingRef.all text &&
    text invocation.clock.processWitness && nano invocation.clock.admittedUnixNano &&
    nano invocation.clock.admittedMonotonicNano

/-! ## Rows -/

/-- A row of `control_executions`. -/
structure ExecutionRow where
  id : String
  owner : WorkOwner
  workId : String
  definitionVersion : ExecutionDefinition
  inputFingerprint : String
  phase : ExecutionPhase
  revision : Nat
  terminalCause : Option String
  exclusionRefs : List String
  span : ExecutionJournalSpan
deriving DecidableEq

/-- A row of `control_execution_steps`. -/
structure StepRow where
  (executionId stepId : String)
  ordinal : Nat
  parentStepId : Option String
  state : ExecutionStepState
  invocationId : String
  control : ExecutionStepControl
  invocation : RetainedInvocation
  span : ExecutionJournalSpan
  (inspectedExecutionId inspectedStepId : Option String)
deriving DecidableEq

/-- The primary key of a step. -/
def StepRow.key (row : StepRow) : String × String :=
  (row.executionId, row.stepId)

def rootRowSchema (row : ExecutionRow) : Bool :=
  text row.id && text row.workId && text row.inputFingerprint && count row.revision &&
    1 <= row.revision && row.terminalCause.all text

def stepRowSchema (row : StepRow) : Bool :=
  text row.executionId && text row.stepId && count row.ordinal && 1 <= row.ordinal &&
    row.parentStepId.all text && text row.invocationId && row.inspectedExecutionId.all text &&
    row.inspectedStepId.all text

inductive JournalScope where
  | core
  | workspace (workspaceId : String)
deriving DecidableEq

/-- The one owner that a database serves. -/
def JournalScope.owner : JournalScope -> WorkOwner
  | .core => .server
  | .workspace workspaceId => .workspace workspaceId

/-- The journal tables of one database. -/
structure Journal where
  scope : JournalScope
  executions : Table ExecutionRow String ExecutionRow.id
  steps : Table StepRow (String × String) StepRow.key

namespace Journal

def empty (scope : JournalScope) : Journal :=
  ⟨scope, .empty, .empty⟩

def execution? (db : Journal) (executionId : String) : Option ExecutionRow :=
  db.executions.find? executionId

def step? (db : Journal) (executionId stepId : String) : Option StepRow :=
  db.steps.find? (executionId, stepId)

/-- The steps of one execution, in creation order. -/
def stepsOf (db : Journal) (executionId : String) : List StepRow :=
  db.steps.rows.filter (·.executionId = executionId)

end Journal

/-- What a call throws. -/
inductive JournalError where
  | malformed (schema : String)
  | conflict (message : String)
  | constraint (name : String)
deriving DecidableEq

/-- `schema.parse(value)`. -/
def parse (valid : Bool) (schema : String) : Except JournalError Unit :=
  refuse (!valid) (.malformed schema)

/-- `if (conflicts) throw new Error(message)`. -/
def conflictIf (conflicts : Bool) (message : String) : Except JournalError Unit :=
  refuse conflicts (.conflict message)

@[simp] theorem parse_eq_ok_iff (valid : Bool) (schema : String) (result : Unit) :
    parse valid schema = .ok result <-> valid := by
  simp [parse]

@[simp] theorem conflictIf_eq_ok_iff (conflicts : Bool) (message : String) (result : Unit) :
    conflictIf conflicts message = .ok result <-> conflicts = false := by
  simp [conflictIf]

end ExecutionJournal
end OpenKit
