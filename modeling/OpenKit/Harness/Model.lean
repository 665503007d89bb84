import OpenKit.Harness.Records

namespace OpenKit
namespace Harness

open Foundation

/-!
# Harness record operations

The operations on the runtime tables of Core.  Each runs in one transaction of
its caller: it returns the written tables, or throws and leaves them alone.

`HarnessPlatform` collects the fixed functions of the runtime, and
`HarnessWorld` what an operation reads from tables that other components own.
Every call has a world of its own, so nothing is assumed about how those tables
change between calls.
-/

/-- Fixed functions of the runtime. -/
structure HarnessPlatform where
  (sha256Hex hashWorkerRouteToken : String -> String)
  /-- One canonical 32-byte unpadded base64url token. -/
  isRouteToken : String -> Bool
  /-- The canonical JSON of a command's binding, sequence and redacted body. -/
  canonicalCommand : String -> Nat -> CommandBody -> String
  canonicalResult : HarnessResultCore -> String
  dateParse : String -> Option Int
  isDatetime : String -> Bool

/-- A row of `nanohost_runtime_targets`. -/
structure RuntimeTarget where
  physicalEpoch : Option String
  (predecessorFenced ready freshEmpty : Bool)

inductive AttemptPhase where
  | opened | closing | closed
deriving DecidableEq

/-- The columns of an execution attempt that Harness operations read. -/
structure AttemptLineage where
  (workspaceId threadId turnId agentSessionId inputRef : String)
  phase : AttemptPhase
  bindingRef : String
deriving DecidableEq

/-- What an operation reads from the tables of other components. -/
structure HarnessWorld where
  target? : String -> Option RuntimeTarget
  attempt? : String -> Option AttemptLineage
  /-- The phases of the attempts of an AgentSession. -/
  attemptPhases : String -> List AttemptPhase
  /-- Whether a final status of the attempt was accepted. -/
  acceptedFinal : AttemptLineage -> Bool
  /-- The package snapshot of the backend session of an attempt, AgentSession,
  Workspace, Thread and Turn. -/
  launch? : String -> String -> String -> String -> String -> Option String
  /-- Binds the token hashes of an attempt in its Sandbox. -/
  bindRouteTokenHashes : String -> String -> CommandCredentials -> Except HarnessError Unit

/-! ## Reading rows -/

namespace HarnessDb

variable (db : HarnessDb)

def requireHarness (harnessInstanceId : String) : Except HarnessError HarnessRow :=
  requireRow (db.harness? harnessInstanceId) "NanoHost Harness is missing."

variable (harnessBindingRef : String)

def harnessByBinding? : Option HarnessRow :=
  db.harnesses.rows.find? (·.harnessBindingRef = harnessBindingRef)

def requireHarnessByBinding : Except HarnessError HarnessRow := do
  requireIdentity harnessBindingRef "Harness binding"
  requireRow (db.harnessByBinding? harnessBindingRef)
    "NanoHost Harness binding is missing or stale."

def sandboxByIntegration? (sandboxIntegrationBindingRef : String) : Option SandboxRow :=
  db.sandboxes.rows.find?
    (·.sandboxIntegrationBindingRef = sandboxIntegrationBindingRef)

def sandboxByBinding? (sandboxBindingRef : String) : Option SandboxRow :=
  db.sandboxes.rows.find? (·.sandboxBindingRef = sandboxBindingRef)

/-- Reads one Harness through its owning Sandbox Integration. -/
def requireHarnessForIntegration
    (sandboxIntegrationBindingRef harnessInstanceId : String) : Except HarnessError HarnessRow := do
  requireIdentity sandboxIntegrationBindingRef "Sandbox Integration binding"
  requireIdentity harnessInstanceId "Harness"
  requireRow ((db.harness? harnessInstanceId).filter fun row =>
      (db.sandbox? row.sandboxRuntimeId).any fun sandbox =>
        sandbox.sandboxIntegrationBindingRef = sandboxIntegrationBindingRef)
    "NanoHost Harness is not owned by the current Sandbox Integration."

/-! ## Writing rows -/

/-- `UPDATE … WHERE harness_instance_id = ? AND guard`, which must change one row. -/
def updateHarness (harnessInstanceId : String) (guard : HarnessRow -> Bool)
    (write : HarnessRow -> HarnessRow)
    (keeps : ∀ row, (write row).harnessInstanceId = row.harnessInstanceId) (message : String) :
    Except HarnessError HarnessDb := do
  refuseIf (¬ (db.harness? harnessInstanceId).any guard) message
  return { db with
    harnesses := db.harnesses.updateWhere
      (·.harnessInstanceId = harnessInstanceId) write keeps }

/-- `UPDATE … WHERE agent_session_runtime_binding_id = ? AND harness_instance_id = ? AND guard`,
which must change one row. -/
def updateBinding (bindingId harnessInstanceId : String)
    (guard : BindingRow -> Bool) (write : BindingRow -> BindingRow)
    (keeps : ∀ row, (write row).agentSessionRuntimeBindingId = row.agentSessionRuntimeBindingId)
    (message : String) : Except HarnessError HarnessDb := do
  refuseIf (¬ (db.binding? bindingId harnessInstanceId).any guard) message
  return { db with
    bindings := db.bindings.updateWhere
      (·.agentSessionRuntimeBindingId = bindingId) write keeps }

/-! ## Fences -/

/-- A Harness that admits no more work. -/
def drainedRow (timestamp : Option String) (row : HarnessRow) : HarnessRow :=
  { row with
    lifecycleState := .failed, drainState := .draining, updatedAt := timestamp.getD row.updatedAt }

/-- Applies one admission fence. -/
def drainHarnessAdmission (harnessBindingRef timestamp : String) :
    Except HarnessError HarnessDb := do
  let harness <- db.requireHarnessByBinding harnessBindingRef
  if harness.lifecycleState = .failed /\ harness.drainState = .draining then return db
  else
    db.updateHarness harness.harnessInstanceId
      (fun row => row.lifecycleState = harness.lifecycleState &&
        row.drainState = harness.drainState)
      (drainedRow (some timestamp)) (fun _ => rfl)
      "NanoHost Harness admission fence changed concurrently."

/-- Drain every Harness of the Sandboxes that `selects` names. -/
def drainHarnesses (timestamp : Option String) (selects : String -> Bool) : HarnessDb :=
  { db with
    harnesses := db.harnesses.updateWhere (selects ·.sandboxRuntimeId)
      (drainedRow timestamp) (fun _ => rfl) }

def fenceSandbox (sandbox : Option SandboxRow) (timestamp : String) : HarnessDb :=
  match sandbox with
  | none => db
  | some found =>
    ({ db with
      sandboxes := db.sandboxes.updateWhere
        (·.sandboxRuntimeId = found.sandboxRuntimeId)
        (fun row =>
          { row with
            lifecycleState := .failed, healthState := .unknown, drainState := .draining
            cleanupState := .unknown })
        (fun _ => rfl) }).drainHarnesses (some timestamp)
      (· = found.sandboxRuntimeId)

def sandboxOfHarnessBinding? : Option SandboxRow :=
  (db.harnessByBinding? harnessBindingRef).bind fun harness => db.sandbox? harness.sandboxRuntimeId

/-- A cell whose outcome is unknown. -/
def unknownRow (timestamp : String) (row : HarnessRow) : HarnessRow :=
  { row with
    operationState := .unknown, lifecycleState := .failed, drainState := .draining
    updatedAt := timestamp }

/-- Widens uncertain execution to the Harness admission fence. -/
def setHarnessUnknown (harnessInstanceId timestamp : String)
    (fromState : OperationState) : Except HarnessError HarnessDb := do
  let harness <- db.requireHarness harnessInstanceId
  let marked <- db.updateHarness harnessInstanceId (·.operationState = fromState)
    (unknownRow timestamp) (fun _ => rfl)
    "NanoHost Harness unknown cleanup transition changed concurrently."
  return marked.fenceSandbox (marked.sandboxOfHarnessBinding? harness.harnessBindingRef) timestamp

end HarnessDb

/-! ## Creating Harnesses -/

structure CreateNanoHostHarnessRuntimeInput where
  maxActiveTurns : Option Nat
  (harnessBindingRef harnessCompatibilityKey harnessInstanceId imageDigest : String)
  (originPhysicalEpoch sandboxBindingRef sandboxCompatibilityKey : String)
  (sandboxIntegrationBindingRef sandboxRuntimeId runtimeTargetId adapterVersion timestamp : String)

def harnessDefaultMaxActiveTurns : Nat := 20

namespace CreateNanoHostHarnessRuntimeInput

variable (input : CreateNanoHostHarnessRuntimeInput)

def capacity : Nat :=
  input.maxActiveTurns.getD harnessDefaultMaxActiveTurns

/-- The Sandbox projection of a first Harness. -/
def sandboxRow : SandboxRow :=
  { input with
    maxHarnesses := 8, maxActiveTurns := input.capacity, lifecycleState := .opened
    healthState := .ready, drainState := .accepting, cleanupState := .clean }

def harnessRow : HarnessRow :=
  { input with
    maxOpenSessions := max 8 input.capacity, maxActiveTurns := input.capacity, openSessionCount := 0
    activeTurnCount := 0, lifecycleState := .opened, drainState := .accepting, nextSequence := 0
    operationState := .idle, command := none, receipt := none, updatedAt := input.timestamp }

/-- The checks that read no table. -/
def check : Except HarnessError Unit := do
  refuseIf (input.capacity < 1 \/ maxSafeInteger < input.capacity)
    "NanoHost active-Turn capacity is invalid."
  requireIdentity input.runtimeTargetId "RuntimeTarget"
  requireIdentity input.sandboxRuntimeId "Sandbox runtime"
  requireIdentity input.sandboxBindingRef "Sandbox binding"
  requireIdentity input.harnessInstanceId "Harness"
  requireIdentity input.harnessBindingRef "Harness binding"
  requireSha256 input.harnessCompatibilityKey "Harness compatibility key"
  requireIdentity input.sandboxIntegrationBindingRef "Sandbox Integration binding"
  requireIdentity input.adapterVersion "Adapter version"
  requireSha256 input.sandboxCompatibilityKey "Sandbox compatibility key"
  refuseIf (¬ isImageDigest input.imageDigest) "NanoHost image digest is invalid."
  refuseIf (¬ isSha256 input.originPhysicalEpoch)
    "NanoHost Sandbox physical Epoch origin is invalid."
  refuseIf (input.sandboxBindingRef = input.sandboxIntegrationBindingRef \/
      input.sandboxBindingRef = input.harnessBindingRef \/
      input.sandboxIntegrationBindingRef = input.harnessBindingRef)
    "Sandbox, Integration, and Harness bindings must be distinct."

end CreateNanoHostHarnessRuntimeInput

/-- Whether a target may publish a Sandbox of a physical Epoch. -/
def RuntimeTarget.publishes (target : RuntimeTarget) (originPhysicalEpoch : String) : Bool :=
  target.predecessorFenced && target.ready && target.freshEmpty &&
    target.physicalEpoch = some originPhysicalEpoch

namespace HarnessDb

/-- A retained Sandbox that admits one more Harness. -/
def requireRetainedSandbox (db : HarnessDb) (input : CreateNanoHostHarnessRuntimeInput)
    (sandbox : SandboxRow) : Except HarnessError Unit := do
  refuseIf (sandbox.runtimeTargetId ≠ input.runtimeTargetId \/
      sandbox.originPhysicalEpoch ≠ input.originPhysicalEpoch \/
      sandbox.sandboxBindingRef ≠ input.sandboxBindingRef \/
      sandbox.sandboxIntegrationBindingRef ≠ input.sandboxIntegrationBindingRef \/
      sandbox.sandboxCompatibilityKey ≠ input.sandboxCompatibilityKey \/
      sandbox.imageDigest ≠ input.imageDigest)
    "NanoHost retained Sandbox is incompatible with the requested Harness."
  refuseIf (sandbox.lifecycleState ≠ .opened \/ sandbox.healthState ≠ .ready \/
      sandbox.drainState ≠ .accepting \/ sandbox.cleanupState ≠ .clean)
    "NanoHost retained Sandbox is not admitting a new Harness."
  refuseIf (sandbox.maxHarnesses <= (db.harnessesOf input.sandboxRuntimeId).length)
    "NanoHost retained Sandbox has no Harness capacity."

/-- The Sandbox row of a new Harness, inserted when it is absent. -/
def ensureSandbox (db : HarnessDb) (input : CreateNanoHostHarnessRuntimeInput) :
    Except HarnessError HarnessDb :=
  match db.sandbox? input.sandboxRuntimeId with
  | some sandbox => do
      db.requireRetainedSandbox input sandbox
      return db
  | none => do
      refuseIf (db.sandboxes.rows.any (fun row =>
          row.sandboxBindingRef = input.sandboxBindingRef ||
            row.sandboxIntegrationBindingRef = input.sandboxIntegrationBindingRef))
        "UNIQUE constraint failed: sandbox_runtime_records"
      return { db with sandboxes := db.sandboxes.insert input.sandboxRow }

/-- Creates the Sandbox projection when absent and adds one resident Harness to it. -/
def createNanoHostHarnessRuntime (world : HarnessWorld) (db : HarnessDb)
    (input : CreateNanoHostHarnessRuntimeInput) : Except HarnessError HarnessDb := do
  input.check
  refuseIf (¬ (world.target? input.runtimeTargetId).any
      (·.publishes input.originPhysicalEpoch))
    "NanoHost Sandbox publication physical Epoch is not current."
  let hosted <- db.ensureSandbox input
  refuseIf (hosted.harnesses.rows.any (fun row =>
      row.harnessInstanceId = input.harnessInstanceId ||
        row.harnessBindingRef = input.harnessBindingRef ||
        (row.sandboxRuntimeId = input.sandboxRuntimeId &&
          row.harnessCompatibilityKey = input.harnessCompatibilityKey)))
    "UNIQUE constraint failed: harness_instance_records"
  return { hosted with harnesses := hosted.harnesses.insert input.harnessRow }

end HarnessDb

/-! ## Opening bindings -/

structure OpenNanoHostAgentSessionBindingInput where
  nativeEnvironment : Option NativeEnvironmentRecord
  (agentSessionCompatibilityKey agentSessionId agentSessionRuntimeBindingId : String)
  effectiveSetupGeneration : Nat
  (harnessInstanceId threadId timestamp workspaceId : String)

namespace OpenNanoHostAgentSessionBindingInput

def bindingRow (input : OpenNanoHostAgentSessionBindingInput) : BindingRow :=
  { input with
    lifecycleState := .opening, currentTurnId := none, currentAttemptId := none
    nextTurnSequence := 0, cleanupState := .clean, nativeHandle := ⟨.pending, none⟩
    nativeEnvironmentApplied := false, inferenceLoopbackCredentialDigest := none
    capabilityLoopbackCredentialDigest := none }

/-- The checks that read no table. -/
def check (input : OpenNanoHostAgentSessionBindingInput) : Except HarnessError Unit := do
  requireIdentity input.agentSessionId "AgentSession"
  requireIdentity input.agentSessionRuntimeBindingId "AgentSession runtime binding"
  requireIdentity input.harnessInstanceId "Harness"
  requireIdentity input.workspaceId "Workspace"
  requireIdentity input.threadId "Thread"
  requireSha256 input.agentSessionCompatibilityKey "AgentSession compatibility key"
  refuseIf (input.effectiveSetupGeneration < 1 \/
      maxSafeInteger < input.effectiveSetupGeneration)
    "Effective setup generation is invalid."

end OpenNanoHostAgentSessionBindingInput

namespace HarnessDb

def readSandboxMeasuredImageDigest (db : HarnessDb) (harness : HarnessRow) :
    Except HarnessError String :=
  requireRow (((db.sandbox? harness.sandboxRuntimeId).map SandboxRow.imageDigest).filter
      isImageDigest)
    "NanoHost measured harness identity is missing at binding time."

def requireMeasuredEnvironment (environment : Option NativeEnvironmentRecord)
    (measuredImageDigest : String) : Except HarnessError Unit :=
  match environment with
  | none => .ok ()
  | some record => do
      requireIdentity record.agentId "Agent"
      refuseIf (record.imageDigest ≠ measuredImageDigest)
        "Native environment image conflicts with the measured Sandbox."

/-- One more open session. -/
def openedSessionRow (timestamp : String) (row : HarnessRow) : HarnessRow :=
  { row with
    openSessionCount := row.openSessionCount + 1, updatedAt := timestamp }

/-- Opens one pending binding and consumes only open-session capacity. -/
def openNanoHostAgentSessionBinding (db : HarnessDb) (input : OpenNanoHostAgentSessionBindingInput) :
    Except HarnessError HarnessDb := do
  input.check
  let harness <- db.requireHarness input.harnessInstanceId
  refuseIf (harness.lifecycleState ≠ .opened \/
      harness.drainState ≠ .accepting \/
      harness.maxOpenSessions <= harness.openSessionCount)
    "NanoHost Harness cannot admit another AgentSession."
  let measuredImageDigest <- db.readSandboxMeasuredImageDigest harness
  requireMeasuredEnvironment input.nativeEnvironment measuredImageDigest
  refuseIf (db.bindings.rows.any (fun row =>
      row.workspaceId = input.workspaceId && row.threadId = input.threadId))
    "NanoHost Harness already has a current AgentSession for this Thread."
  refuseIf (db.bindings.rows.any (fun row =>
      row.agentSessionRuntimeBindingId = input.agentSessionRuntimeBindingId ||
        row.agentSessionId = input.agentSessionId))
    "UNIQUE constraint failed: agent_session_runtime_bindings"
  { db with bindings := db.bindings.insert input.bindingRow }.updateHarness input.harnessInstanceId
    (fun row => row.openSessionCount < row.maxOpenSessions) (openedSessionRow input.timestamp)
    (fun _ => rfl) "NanoHost Harness open-session capacity changed concurrently."

end HarnessDb

/-! ## Operation lineage -/

namespace HarnessDb

def reservesTurn (row : HarnessRow) : Bool :=
  row.command.any (·.body.body.operation = .turnStart) &&
    (row.operationState = .queued || row.operationState = .dispatched)

/-- The Turns of a Sandbox and the starts that its other Harnesses reserve. -/
def occupied (db : HarnessDb) (harness : HarnessRow) : Nat :=
  ((db.harnessesOf harness.sandboxRuntimeId).map fun row =>
    row.activeTurnCount +
      if row.harnessInstanceId ≠ harness.harnessInstanceId /\ reservesTurn row then 1
      else 0).sum

def requireInterruptLineage (world : HarnessWorld) (harness : HarnessRow) (binding : BindingRow)
    (body : TurnInterruptBody) : Except HarnessError Unit := do
  refuseIf (harness.activeTurnCount < 1 \/ binding.lifecycleState ≠ .active \/
      binding.currentTurnId ≠ some body.turnId \/
      binding.currentAttemptId ≠ some body.leaseId)
    "NanoHost Harness interrupt conflicts with the active Turn binding."
  let launch := world.launch? body.leaseId body.agentSessionId binding.workspaceId binding.threadId
    body.turnId
  refuseIf (¬ (world.attempt? body.leaseId).any fun lease =>
      decide (lease.phase ≠ .closed) && decide (lease.workspaceId = binding.workspaceId) &&
        decide (lease.threadId = binding.threadId) && decide (lease.turnId = body.turnId) &&
        decide (lease.agentSessionId = body.agentSessionId) &&
        decide (launch = some lease.inputRef) && !world.acceptedFinal lease)
    "NanoHost Harness interrupt conflicts with the live lease lineage."

/-- The lineage of a Turn start: capacity of Sandbox and Harness, the binding,
and the open attempt. -/
def requireStartLineage (world : HarnessWorld) (db : HarnessDb) (harness : HarnessRow)
    (binding : BindingRow) (body : TurnStartBody) : Except HarnessError Unit := do
  let sandbox <- requireRow (db.sandbox? harness.sandboxRuntimeId)
    "Cannot read properties of undefined (reading 'occupied')"
  refuse (sandbox.maxActiveTurns <= db.occupied harness)
    ⟨"NanoHost Sandbox active-Turn capacity is exhausted.", some .sandboxActiveTurns⟩
  refuseIf (harness.maxActiveTurns <= harness.activeTurnCount \/
      binding.workspaceId ≠ body.workspaceId \/
      binding.threadId ≠ body.threadId \/
      binding.nextTurnSequence ≠ body.turnSequence \/
      ¬ (binding.lifecycleState = .opened \/ binding.lifecycleState = .opening))
    "NanoHost Harness Turn admission conflicts with binding or capacity."
  refuseIf (¬ (world.attempt? body.leaseId).any fun lease =>
      lease.phase = .opened && lease.workspaceId = body.workspaceId &&
        lease.threadId = body.threadId && lease.turnId = body.turnId &&
        lease.agentSessionId = body.agentSessionId && lease.inputRef = body.packageSnapshotId)
    "NanoHost Harness Turn lease lineage conflicts."

/-- The binding that a command names. -/
def requireLineageBinding (db : HarnessDb) (harness : HarnessRow) (selector : SessionSelector) :
    Except HarnessError BindingRow :=
  requireRow ((db.binding? selector.agentSessionRuntimeBindingId harness.harnessInstanceId).filter
      (·.agentSessionId = selector.agentSessionId))
    "NanoHost Harness AgentSession binding lineage conflicts."

/-- Validates operation lineage against the current binding and Turn lease owners. -/
def requireOperationLineage (world : HarnessWorld) (db : HarnessDb) (harness : HarnessRow)
    (body : HarnessCommandBody) : Except HarnessError Unit :=
  match body with
  | .harnessDrain => .ok ()
  | .sessionOpen opening => do
      let binding <- db.requireLineageBinding harness opening.toSessionSelector
      refuseIf (binding.nativeEnvironment.map NativeEnvironmentRecord.values ≠
          opening.nativeEnvironment)
        "NanoHost public native environment conflicts with the exact binding."
  | .turnInterrupt interrupt => do
      let binding <- db.requireLineageBinding harness interrupt.toSessionSelector
      requireInterruptLineage world harness binding interrupt
  | .turnStart start => do
      let binding <- db.requireLineageBinding harness start.toSessionSelector
      requireStartLineage world db harness binding start
  | .sessionInspect selector | .sessionClose selector => do
      let _ <- db.requireLineageBinding harness selector

end HarnessDb

/-! ## Queueing -/

/-- Distinct SHA-256 digests of the credentials that the operation carries. -/
def requireDurableHarnessBody (body : CommandBody) : Except HarnessError Unit :=
  match body.body, body.credentials with
  | .turnStart _, .route capability inference workerControl => do
      requireSha256 capability "capabilityTokenHash"
      requireSha256 inference "inferenceTokenHash"
      requireSha256 workerControl "workerControlTokenHash"
      refuseIf (capability = inference \/ capability = workerControl \/
          inference = workerControl)
        "NanoHost Harness credential digests must be distinct."
  | .sessionOpen _, .loopback capability inference => do
      requireSha256 capability "capabilityLoopbackCredentialHash"
      requireSha256 inference "inferenceLoopbackCredentialHash"
      refuseIf (capability = inference)
        "NanoHost Harness credential digests must be distinct."
  | .turnStart _, _ => .error ⟨"NanoHost capabilityTokenHash is invalid.", none⟩
  | .sessionOpen _, _ => .error ⟨"NanoHost capabilityLoopbackCredentialHash is invalid.", none⟩
  | _, .none => .ok ()
  | body, _ =>
    .error ⟨"NanoHost " ++ body.operation.text ++ " command body fields are invalid.", none⟩

/-- Redacts the wire body before credentials can enter durable command bytes. -/
def redactHarnessWireBody (platform : HarnessPlatform) (wireBody : CommandBody) :
    Except HarnessError CommandBody :=
  let invalid : HarnessError :=
    ⟨"NanoHost " ++ wireBody.body.operation.text ++ " prepared wire body is invalid.", none⟩
  match wireBody.body, wireBody.credentials with
  | .turnStart start, .route capability inference workerControl => do
      refuse (capability = inference || capability = workerControl ||
        inference = workerControl) invalid
      refuseIf (¬ platform.isRouteToken capability \/ ¬ platform.isRouteToken inference \/
          ¬ platform.isRouteToken workerControl)
        "NanoHost Harness route token is invalid."
      let redacted : CommandBody :=
        ⟨.turnStart start, .route (platform.hashWorkerRouteToken capability)
          (platform.hashWorkerRouteToken inference)
          (platform.hashWorkerRouteToken workerControl)⟩
      requireDurableHarnessBody redacted
      return redacted
  | .sessionOpen opening, .loopback capability inference => do
      refuse (decide (capability = inference)) invalid
      refuseIf (¬ platform.isRouteToken capability \/ ¬ platform.isRouteToken inference)
        "NanoHost Harness route token is invalid."
      let redacted : CommandBody :=
        ⟨.sessionOpen opening, .loopback (platform.sha256Hex capability)
          (platform.sha256Hex inference)⟩
      requireDurableHarnessBody redacted
      return redacted
  | .turnStart _, _ | .sessionOpen _, _ => .error invalid
  | _, .none => .ok wireBody
  | _, _ => .error invalid

/-- Derives identity from current binding, exact sequence and redacted instruction. -/
def harnessOperationId (platform : HarnessPlatform) (harness : HarnessRow) (sequence : Nat)
    (body : CommandBody) : String :=
  platform.sha256Hex (platform.canonicalCommand harness.harnessBindingRef sequence body)

/-- Durable command identity and its transient wire body. -/
structure PreparedNanoHostHarnessOperation where
  command : NanoHostHarnessCommand
  wireBody : CommandBody

structure QueueNanoHostHarnessOperationInput where
  prepared : PreparedNanoHostHarnessOperation
  body : HarnessCommandBody
  (harnessInstanceId timestamp : String)

namespace HarnessDb

/-- A cell that can take a command. -/
def acceptsCommand (row : HarnessRow) : Bool :=
  row.operationState = .idle || row.operationState = .settled

/-- The queued command; the predecessor's receipt is kept. -/
def queuedRow (command : NanoHostHarnessCommand) (body : CommandBody) (timestamp : String)
    (row : HarnessRow) : HarnessRow :=
  { row with
    operationState := .queued, command := some ⟨command.operationId, row.nextSequence, body⟩
    updatedAt := timestamp }

/-- Queues the prepared identity without credentials or unconsumed receipt retirement. -/
def queueNanoHostHarnessOperation (platform : HarnessPlatform) (world : HarnessWorld)
    (db : HarnessDb) (input : QueueNanoHostHarnessOperationInput) :
    Except HarnessError (Nat × HarnessDb) := do
  let harness <- db.requireHarness input.harnessInstanceId
  refuseIf (¬ acceptsCommand harness) "NanoHost Harness already has an unsettled operation."
  refuseIf ((input.body.operation = .sessionOpen \/
        input.body.operation = .turnStart) /\
      (harness.lifecycleState ≠ .opened \/ harness.drainState ≠ .accepting))
    "NanoHost Harness is not accepting new work."
  db.requireOperationLineage world harness input.body
  let command := input.prepared.command
  let durableBody <- redactHarnessWireBody platform input.prepared.wireBody
  refuseIf (command.harnessInstanceId ≠ harness.harnessInstanceId \/
      command.sequence ≠ harness.nextSequence \/ command.body ≠ durableBody \/
      durableBody.body ≠ input.body \/
      command.operationId ≠
        harnessOperationId platform harness command.sequence durableBody)
    "NanoHost Harness prepared identity conflicts with current binding or sequence."
  let queued <- db.updateHarness input.harnessInstanceId
    (fun row => acceptsCommand row && row.nextSequence = command.sequence)
    (queuedRow command durableBody input.timestamp) (fun _ => rfl)
    "NanoHost Harness changed before enqueue."
  return (command.sequence, queued)

end HarnessDb

/-! ## Retained results -/

variable (platform : HarnessPlatform) (harness : HarnessRow)

def resultFingerprint (core : HarnessResultCore) : String :=
  platform.sha256Hex (platform.canonicalResult core)

/-- Validates exact consumer progress before a successor may retire this result. -/
def isConsumed (receipt : ResultReceipt) : Bool :=
  receipt.consumption.any fun consumption =>
    consumption.harnessBindingRef = harness.harnessBindingRef &&
      consumption.operationId = receipt.core.operationId &&
      consumption.sequence = receipt.core.sequence &&
      consumption.resultFingerprint = resultFingerprint platform receipt.core &&
      match consumption.consumerReceipt with
      | .step _ _ _ _ => true
      | .idle workspaceId threadId _ _ =>
        receipt.consumerContext = some ⟨workspaceId, threadId⟩

def requireConsumedHarnessResult : Except HarnessError Unit :=
  match harness.receipt with
  | none => .ok ()
  | some receipt => do
      refuseIf (receipt.core.harnessInstanceId ≠ harness.harnessInstanceId)
        "NanoHost Harness retained result owner conflicts."
      refuseIf (¬ isConsumed platform harness receipt)
        "NanoHost Harness retained consumer acknowledgement conflicts."

/-- Whether an opened session declares another capacity than its Harness. -/
def declaresOtherCapacity (maxActiveTurns : Nat) : HarnessResultBody -> Bool
  | .succeeded (.sessionOpen _ declared _) => declared ≠ maxActiveTurns
  | _ => false

/-- Reads the result core and requires the admitted Harness capacity declaration. -/
def requireHarnessResult (operation : HarnessOperation)
    (result : NanoHostHarnessResult) (maxActiveTurns : Nat) :
    Except HarnessError HarnessResultCore := do
  let body <- requireRow
    (parseHarnessResultBody platform.isDatetime operation result.disposition result.body)
    (if (result.body.value? "startupFailure").isSome then
      "NanoHost Harness startup failure is invalid."
    else "NanoHost Harness " ++ operation.text ++ " result is invalid.")
  refuseIf (declaresOtherCapacity maxActiveTurns body)
    "NanoHost Harness session.open success is invalid."
  return ⟨result.harnessInstanceId, result.operationId, result.sequence, body⟩

/-- Whether a reader sees the retained core, unchanged, in both results. -/
def readsAlike (retained : HarnessResultCore)
    (result : NanoHostHarnessResult) (operation : HarnessOperation) : Bool :=
  match requireHarnessResult platform operation retained.result harness.maxActiveTurns,
    requireHarnessResult platform operation result harness.maxActiveTurns with
  | .ok before, .ok after => before = after
  | _, _ => false

/-- The operations whose reader admits a retained core. -/
def plausibleOperations (retained : HarnessResultCore) : List HarnessOperation :=
  HarnessOperation.all.filter fun operation =>
    (requireHarnessResult platform operation retained.result harness.maxActiveTurns).isOk

/-! ## Dispatching -/

structure DispatchNanoHostHarnessOperationInput where
  (sandboxIntegrationBindingRef now : String)

/-- `NANO_HOST_HARNESS_RESULT_BUDGET_MS`. -/
def harnessResultBudgetMs : Int := 300000

/-- Whether the outage budget of a queued operation has passed. -/
def budgetPassed (now updatedAt : String) : Bool :=
  match platform.dateParse now, platform.dateParse updatedAt with
  | some current, some queued => queued + harnessResultBudgetMs <= current
  | _, _ => false

namespace HarnessDb

/-- `ORDER BY updated_at, harness_instance_id`. -/
def queuedBefore (left right : HarnessRow) : Bool :=
  left.updatedAt < right.updatedAt || (left.updatedAt = right.updatedAt &&
      left.harnessInstanceId < right.harnessInstanceId)

/-- The first row in that order. -/
def first? : List HarnessRow -> Option HarnessRow
  | [] => none
  | row :: rest =>
    match first? rest with
    | none => some row
    | some other => if queuedBefore other row then some other else some row

theorem mem_of_first? {rows : List HarnessRow} {row : HarnessRow} (found : first? rows = some row) :
    row ∈ rows := by
  induction rows generalizing row with
  | nil => cases found
  | cons head rest ih =>
    unfold first? at found
    cases later : first? rest with
    | none =>
      rw [later] at found
      cases found
      exact List.mem_cons_self
    | some =>
      rw [later] at found
      simp only at found
      split at found
      · cases found
        exact List.mem_cons_of_mem _ (ih later)
      · cases found
        exact List.mem_cons_self

variable (db : HarnessDb)

def nextQueued? (sandboxRuntimeId : String) : Option HarnessRow :=
  first? ((db.harnessesOf sandboxRuntimeId).filter (·.operationState = .queued))

/-- Delivers the route tokens of a Turn start. -/
def bindStart (world : HarnessWorld) (command : RecordedCommand) : Except HarnessError Unit :=
  match command.body.body with
  | .turnStart start => do
      let lease <- requireRow (world.attempt? start.leaseId)
        "NanoHost Harness Turn lease is missing."
      world.bindRouteTokenHashes start.leaseId lease.bindingRef command.body.credentials
  | _ => .ok ()

/-- The loopback digests of a delivered session. -/
def deliveredRow (capability inference : String) (row : BindingRow) : BindingRow :=
  { row with
    inferenceLoopbackCredentialDigest := some inference
    capabilityLoopbackCredentialDigest := some capability }

/-- Delivers the loopback credentials of a session open, once. -/
def bindOpen (harnessInstanceId : String) (command : RecordedCommand) :
    Except HarnessError HarnessDb :=
  match command.body.body, command.body.credentials with
  | .sessionOpen opening, .loopback capability inference =>
    db.updateBinding opening.agentSessionRuntimeBindingId harnessInstanceId
      (fun row => row.agentSessionId = opening.agentSessionId && row.lifecycleState = .opening &&
        row.inferenceLoopbackCredentialDigest.isNone &&
        row.capabilityLoopbackCredentialDigest.isNone)
      (deliveredRow capability inference) (fun _ => rfl)
      "NanoHost AgentSession loopback credentials were already delivered."
  | .sessionOpen _, _ =>
    .error ⟨"NanoHost inference loopback credential hash is invalid.", none⟩
  | _, _ => .ok db

/-- The dispatched command; the predecessor's receipt is retired. -/
def dispatchedRow (now : String) (row : HarnessRow) : HarnessRow :=
  { row with
    operationState := .dispatched, receipt := none, updatedAt := now }

def dispatchQueued (world : HarnessWorld) (db : HarnessDb) (harness : HarnessRow) (now : String) :
    Except HarnessError (Option NanoHostHarnessCommand × HarnessDb) := do
  let command <- requireRow
    (harness.command.filter (·.sequence = harness.nextSequence))
    "NanoHost Harness queued operation is incomplete or corrupt."
  requireDurableHarnessBody command.body
  requireSha256 command.operationId "recorded operation identity"
  db.requireOperationLineage world harness command.body.body
  bindStart world command
  let bound <- db.bindOpen harness.harnessInstanceId command
  let dispatched <- bound.updateHarness harness.harnessInstanceId
    (fun row => row.operationState = .queued &&
      row.command.map RecordedCommand.operationId = some command.operationId &&
      row.command.map RecordedCommand.sequence = some harness.nextSequence &&
      row.nextSequence = harness.nextSequence)
    (dispatchedRow now) (fun _ => rfl) "NanoHost Harness operation changed before dispatch."
  return (some ⟨harness.harnessInstanceId, command.operationId, harness.nextSequence, command.body⟩,
    dispatched)

/-- Dispatches stored identity after current lineage and retained consumer proof checks. -/
def dispatchNanoHostHarnessOperation (platform : HarnessPlatform) (world : HarnessWorld)
    (db : HarnessDb) (input : DispatchNanoHostHarnessOperationInput) :
    Except HarnessError (Option NanoHostHarnessCommand × HarnessDb) := do
  requireIdentity input.sandboxIntegrationBindingRef "Sandbox Integration binding"
  let sandbox <- requireRow (db.sandboxByIntegration? input.sandboxIntegrationBindingRef)
    "NanoHost Sandbox Integration binding is missing or stale."
  match db.nextQueued? sandbox.sandboxRuntimeId with
  | none => return (none, db)
  | some harness =>
    if harness.receipt.any (·.consumption.isNone) then return (none, db)
    else
      requireConsumedHarnessResult platform harness
      if budgetPassed platform input.now harness.updatedAt then
        let expired <- db.setHarnessUnknown harness.harnessInstanceId input.now .queued
        return (none, expired)
      else db.dispatchQueued world harness input.now

/-- Expires one exact queued command before it can be delivered. -/
def expireNanoHostHarnessQueuedOperation (harnessBindingRef timestamp : String) :
    Except HarnessError HarnessDb := do
  let harness <- db.requireHarnessByBinding harnessBindingRef
  refuseIf (harness.operationState ≠ .queued)
    "NanoHost Harness enqueue expiry does not match a queued operation."
  db.setHarnessUnknown harness.harnessInstanceId timestamp .queued

def markNanoHostHarnessOperationUnknown
    (harnessBindingRef operationId timestamp : String) : Except HarnessError HarnessDb := do
  requireSha256 operationId "Harness operation id"
  let harness <- db.requireHarnessByBinding harnessBindingRef
  refuseIf (harness.operationState ≠ .dispatched \/
      harness.command.map RecordedCommand.operationId ≠ some operationId)
    "NanoHost Harness unknown result does not match a dispatched operation."
  db.setHarnessUnknown harness.harnessInstanceId timestamp .dispatched

end HarnessDb

/-! ## Projecting a success -/

namespace HarnessDb

/-- One session less, and its Turn when the binding held one. -/
def closedSessionRow (releasedTurns : Nat) (row : HarnessRow) : HarnessRow :=
  { row with
    openSessionCount := row.openSessionCount - 1
    activeTurnCount := row.activeTurnCount - releasedTurns }

variable (db : HarnessDb)

def projectClose (harnessInstanceId bindingId : String) : Except HarnessError HarnessDb := do
  let removed <- requireRow (db.binding? bindingId harnessInstanceId)
    "NanoHost AgentSession close binding is missing."
  let releasedTurns := if removed.currentTurnId.isNone then 0 else 1
  { db with bindings := db.bindings.delete bindingId }.updateHarness harnessInstanceId
    (fun row => 0 < row.openSessionCount && releasedTurns <= row.activeTurnCount)
    (closedSessionRow releasedTurns) (fun _ => rfl)
    "NanoHost AgentSession close capacity changed concurrently."

def startedRow (start : TurnStartBody) (handle : NativeHandle) (row : BindingRow) : BindingRow :=
  { row with
    lifecycleState := .active, currentTurnId := some start.turnId
    currentAttemptId := some start.leaseId, nativeEnvironmentApplied := true, nativeHandle := handle
    nextTurnSequence := row.nextTurnSequence + 1 }

def occupiedTurnRow (row : HarnessRow) : HarnessRow :=
  { row with activeTurnCount := row.activeTurnCount + 1 }

/-- Gives the binding its Turn and the Harness one more active Turn. -/
def projectStart (harnessInstanceId : String) (start : TurnStartBody)
    (handle : NativeHandle) : Except HarnessError HarnessDb := do
  let _ <- requireRow (db.binding? start.agentSessionRuntimeBindingId harnessInstanceId)
    "NanoHost Harness result binding is missing."
  let message := "NanoHost Harness active-Turn capacity changed before start settlement."
  let started <- db.updateBinding start.agentSessionRuntimeBindingId harnessInstanceId
    (fun row => (row.lifecycleState = .opened || row.lifecycleState = .opening) &&
      row.nextTurnSequence = start.turnSequence)
    (startedRow start handle) (fun _ => rfl) message
  started.updateHarness harnessInstanceId (fun row => row.activeTurnCount < row.maxActiveTurns)
    occupiedTurnRow (fun _ => rfl) message

/-- The settled `open` or `failed` that proves the Turn barrier of an active binding. -/
def provesBarrier (binding : BindingRow) (inspection : SessionInspection) : Bool :=
  binding.lifecycleState = .active && inspection.cleanupState = .clean &&
    (inspection.state = .opened || inspection.state = .failed)

def releasedBindingRow (inspection : SessionInspection) (row : BindingRow) : BindingRow :=
  { row with
    lifecycleState := inspectedLifecycle inspection.state, currentTurnId := none
    currentAttemptId := none, nativeHandle := inspection.nativeHandle, cleanupState := .clean }

def releasedTurnRow (row : HarnessRow) : HarnessRow :=
  { row with activeTurnCount := row.activeTurnCount - 1 }

/-- The reported lifecycle and handle, with the Turn left as it is. -/
def relabelledRow (lifecycle : BindingLifecycle) (handle : NativeHandle) (row : BindingRow) :
    BindingRow :=
  { row with
    lifecycleState := lifecycle, nativeHandle := handle }

/-- Writes the reported lifecycle and handle of a binding. -/
def relabel (bindingId harnessInstanceId : String) (lifecycle : BindingLifecycle)
    (handle : NativeHandle) : Except HarnessError HarnessDb :=
  db.updateBinding bindingId harnessInstanceId (fun _ => true) (relabelledRow lifecycle handle)
    (fun _ => rfl) "NanoHost Harness result binding is missing."

/-- An inspection releases the Turn at its barrier, and otherwise relabels the binding. -/
def projectInspect (harnessInstanceId bindingId : String)
    (inspection : SessionInspection) : Except HarnessError HarnessDb := do
  let binding <- requireRow (db.binding? bindingId harnessInstanceId)
    "NanoHost Harness result binding is missing."
  if provesBarrier binding inspection then
    let message := "NanoHost Harness terminal inspection capacity changed concurrently."
    let inspected <- db.updateBinding bindingId harnessInstanceId (fun _ => true)
      (releasedBindingRow inspection) (fun _ => rfl) message
    inspected.updateHarness harnessInstanceId (0 < ·.activeTurnCount) releasedTurnRow
      (fun _ => rfl) message
  else
    db.relabel bindingId harnessInstanceId (inspectedLifecycle inspection.state)
      inspection.nativeHandle

/-- A Harness whose own drain succeeded. -/
def drainingRow (row : HarnessRow) : HarnessRow :=
  { row with drainState := .draining }

/-- Projects operation-specific success. -/
def projectSuccessfulResult (harnessInstanceId : String)
    (body : HarnessCommandBody) (success : HarnessSuccess) : Except HarnessError HarnessDb :=
  match body, success with
  | .harnessDrain, _ =>
    .ok { db with
      harnesses := db.harnesses.updateWhere (·.harnessInstanceId = harnessInstanceId)
        drainingRow (fun _ => rfl) }
  | .sessionClose selector, _ =>
    db.projectClose harnessInstanceId selector.agentSessionRuntimeBindingId
  | .turnInterrupt _, _ => .ok db
  | .turnStart start, .turnStart handle => db.projectStart harnessInstanceId start handle
  | .sessionInspect selector, .sessionInspect inspection =>
    db.projectInspect harnessInstanceId selector.agentSessionRuntimeBindingId inspection
  | .sessionOpen opening, .sessionOpen handle _ _ =>
    db.relabel opening.agentSessionRuntimeBindingId harnessInstanceId .opened handle
  -- The reader of the operation has already refused every other success.
  | _, _ => .error ⟨"NanoHost Harness result binding is missing.", none⟩

end HarnessDb

/-! ## Settling -/

structure SettleNanoHostHarnessOperationInput where
  sandboxIntegrationBindingRef : String
  result : NanoHostHarnessResult
  timestamp : String

inductive SettleOutcome where
  | settled | replayed
deriving DecidableEq

/-- A bounded identity without control separators. -/
def isHarnessIdentity (value : String) : Bool :=
  let length := (codeUnits value).length
  1 <= length && length <= 512 &&
    value.toList.all (!"\x00\r\n".toList.contains ·)

/-- `HarnessResultEnvelopeReaderSchema.parse`. -/
def parseResultEnvelope (result : NanoHostHarnessResult) : Except HarnessError Unit :=
  refuseIf (¬ isHarnessIdentity result.harnessInstanceId \/ ¬ isSha256 result.operationId \/
      maxSafeInteger < result.sequence)
    "Harness result envelope is invalid."

namespace HarnessDb

/-- The retained receipt that a result may replay. -/
def priorReceipt? (harness : HarnessRow) (result : NanoHostHarnessResult) : Option ResultReceipt :=
  if harness.operationState = .settled \/ harness.operationState = .queued \/
      harness.operationState = .unknown then
    harness.receipt.filter (·.core.operationId = result.operationId)
  else none

variable (platform : HarnessPlatform) (world : HarnessWorld)

/-- The operations whose readers must see an unchanged core.  A queued
successor has overwritten the operation of the retained result. -/
def replayCandidates (harness : HarnessRow)
    (retained : HarnessResultCore) : List HarnessOperation :=
  if harness.operationState = .queued then plausibleOperations platform harness retained
  else (harness.command.map (·.body.body.operation)).toList

/-- Accepts the exact replay of a retained result. -/
def requireReplay (harness : HarnessRow)
    (retained : HarnessResultCore) (result : NanoHostHarnessResult) : Except HarnessError Unit := do
  refuseIf (replayCandidates platform harness retained).isEmpty
    "NanoHost Harness result replay conflicts with unmatched retained operation."
  refuseIf (¬ (replayCandidates platform harness retained).all
      (readsAlike platform harness retained result))
    "NanoHost Harness result replay conflicts with the settled result."

variable (db : HarnessDb)

/-- Reads exact Workspace and Thread of the binding that a command names. -/
def readHarnessConsumerContext (harness : HarnessRow) (body : HarnessCommandBody) :
    Except HarnessError ConsumerContext := do
  let binding <- requireRow
    (body.selector?.bind fun selector =>
      (db.binding? selector.agentSessionRuntimeBindingId harness.harnessInstanceId).filter
        (·.agentSessionId = selector.agentSessionId))
    "NanoHost Harness consumer binding is missing or stale."
  return ⟨binding.workspaceId, binding.threadId⟩

/-- Reads positive idle Core binding authority: a binding without a Turn whose
attempts are all closed. -/
def readNanoHostIdleCloseConsumerReceipt (harness : HarnessRow) (selector : SessionSelector) :
    Except HarnessError (Option HarnessConsumerReceipt) := do
  let bound <- db.requireHarnessByBinding harness.harnessBindingRef
  refuseIf (bound.harnessInstanceId ≠ harness.harnessInstanceId)
    "NanoHost idle close Harness binding conflicts."
  match db.binding? selector.agentSessionRuntimeBindingId bound.harnessInstanceId with
  | none => return none
  | some binding =>
    refuseIf (binding.agentSessionId ≠ selector.agentSessionId)
      "NanoHost idle close AgentSession binding conflicts."
    if binding.currentTurnId.isSome || binding.currentAttemptId.isSome ||
        !(binding.lifecycleState = .opening || binding.lifecycleState = .opened ||
          binding.lifecycleState = .failed) ||
        !(world.attemptPhases binding.agentSessionId).all (· = .closed)
    then return none
    else
      return some (.idle binding.workspaceId binding.threadId binding.agentSessionId
        selector.agentSessionRuntimeBindingId)

/-- The receipt of a result.  A close keeps its namespace, and an idle close is
consumed at once. -/
def newReceipt (harness : HarnessRow) (command : RecordedCommand) (core : HarnessResultCore) :
    Except HarnessError ResultReceipt :=
  match command.body.body with
  | .sessionClose selector => do
      requireDurableHarnessBody command.body
      requireSha256 command.operationId "recorded close operation identity"
      let context <- db.readHarnessConsumerContext harness command.body.body
      let idle <- db.readNanoHostIdleCloseConsumerReceipt world harness selector
      return ⟨core, some context, idle.map fun consumerReceipt =>
        ⟨consumerReceipt, harness.harnessBindingRef, core.operationId, core.sequence,
          resultFingerprint platform core⟩⟩
  | _ => return ⟨core, none, none⟩

/-- A settled cell. -/
def settledRow (receipt : ResultReceipt) (timestamp : String) (row : HarnessRow) : HarnessRow :=
  { row with
    operationState := .settled, receipt := some receipt, nextSequence := row.nextSequence + 1
    updatedAt := timestamp }

def receivedRow (receipt : ResultReceipt) (row : HarnessRow) : HarnessRow :=
  { row with receipt := some receipt }

def holdsCommand (core : HarnessResultCore) (row : HarnessRow) : Bool :=
  row.command.any fun command =>
    command.operationId = core.operationId && command.sequence = core.sequence

def settleCell (harnessInstanceId : String) (receipt : ResultReceipt)
    (timestamp : String) : Except HarnessError HarnessDb :=
  db.updateHarness harnessInstanceId
    (fun row => row.operationState = .dispatched && holdsCommand receipt.core row)
    (settledRow receipt timestamp) (fun _ => rfl)
    "NanoHost Harness result settlement changed concurrently."

def drainIfCleanupRequired (harness : HarnessRow) (refusal : HarnessRefusal)
    (timestamp : String) : Except HarnessError HarnessDb :=
  if refusal.reasonCode = .cleanupRequired then
    db.drainHarnessAdmission harness.harnessBindingRef timestamp
  else .ok db

/-- Writes the receipt of a dispatched command and projects its effect. -/
def settleDispatched (harness : HarnessRow) (command : RecordedCommand)
    (receipt : ResultReceipt) (timestamp : String) : Except HarnessError HarnessDb :=
  match receipt.core.body with
  | .unknown => do
      let fenced <- db.setHarnessUnknown harness.harnessInstanceId timestamp .dispatched
      fenced.updateHarness harness.harnessInstanceId
        (fun row => row.operationState = .unknown && holdsCommand receipt.core row)
        (receivedRow receipt) (fun _ => rfl)
        "NanoHost Harness unknown receipt changed concurrently."
  | .refused refusal => do
      let drained <- db.drainIfCleanupRequired harness refusal timestamp
      drained.settleCell harness.harnessInstanceId receipt timestamp
  | .succeeded success => do
      let projected <- db.projectSuccessfulResult harness.harnessInstanceId command.body.body success
      projected.settleCell harness.harnessInstanceId receipt timestamp

def settleFirst (harness : HarnessRow) (input : SettleNanoHostHarnessOperationInput) :
    Except HarnessError HarnessDb :=
  let replayConflict := "NanoHost Harness result replay conflicts with the settled result."
  let unmatched := "NanoHost Harness result does not match the dispatched operation."
  match harness.command with
  | none => do
      refuseIf (harness.operationState = .settled) replayConflict
      .error ⟨unmatched, none⟩
  | some command => do
      let core <- requireHarnessResult platform command.body.body.operation input.result
        harness.maxActiveTurns
      refuseIf (harness.operationState = .settled) replayConflict
      refuseIf (harness.operationState ≠ .dispatched \/
          command.operationId ≠ core.operationId \/
          command.sequence ≠ core.sequence)
        unmatched
      let receipt <- db.newReceipt platform world harness command core
      db.settleDispatched harness command receipt input.timestamp

/-- Settles one exact dispatched result, or acknowledges the identical prior result. -/
def settleNanoHostHarnessOperation (input : SettleNanoHostHarnessOperationInput) :
    Except HarnessError (SettleOutcome × HarnessDb) := do
  parseResultEnvelope input.result
  let harness <- db.requireHarnessForIntegration input.sandboxIntegrationBindingRef
    input.result.harnessInstanceId
  match priorReceipt? harness input.result with
  | some receipt =>
    requireReplay platform harness receipt.core input.result
    return (.replayed, db)
  | none =>
    let settled <- db.settleFirst platform world harness input
    return (.settled, settled)

end HarnessDb

/-! ## Acknowledging -/

structure AcknowledgeNanoHostHarnessResultInput where
  result : NanoHostHarnessResult
  harnessBindingRef : String
  consumerReceipt : HarnessConsumerReceipt
  timestamp : String

/-- Checks closed consumer identity. -/
def readHarnessConsumerReceipt : HarnessConsumerReceipt -> Except HarnessError Unit
  | .idle workspaceId threadId agentSessionId agentSessionRuntimeBindingId => do
      requireIdentity workspaceId "consumer Workspace"
      requireIdentity threadId "consumer Thread"
      requireIdentity agentSessionId "consumer AgentSession"
      requireIdentity agentSessionRuntimeBindingId "consumer binding"
  | .step workspaceId turnId executionId stepId => do
      requireIdentity workspaceId "consumer Workspace"
      requireIdentity turnId "consumer Turn"
      requireIdentity executionId "consumer execution"
      requireIdentity stepId "consumer step"

namespace HarnessDb

/-- The operations whose readers must see an unchanged core.  The command stays
available until its result's first acknowledgement. -/
def acknowledgeCandidates (platform : HarnessPlatform) (harness : HarnessRow)
    (retained : HarnessResultCore) : List HarnessOperation :=
  match harness.command with
  | some command =>
    if command.operationId = retained.operationId then [command.body.body.operation]
    else plausibleOperations platform harness retained
  | none => plausibleOperations platform harness retained

variable (db : HarnessDb)

/-- The consumer of a step must name the exact command and its namespace. -/
def requireConsumerNamespace (harness : HarnessRow) (command : RecordedCommand)
    (receipt : ResultReceipt) (consumer : HarnessConsumerReceipt) : Except HarnessError Unit :=
  match consumer with
  | .idle _ _ _ _ =>
    .error ⟨"NanoHost idle Core consumption must commit with its physical transition.", none⟩
  | .step workspaceId turnId _ _ => do
      requireDurableHarnessBody command.body
      let context <- match receipt.consumerContext with
        | some context => .ok context
        | none => db.readHarnessConsumerContext harness command.body.body
      requireIdentity context.workspaceId "consumer Workspace"
      requireIdentity context.threadId "consumer Thread"
      refuseIf (workspaceId ≠ context.workspaceId \/
          command.body.body.workspaceId?.any (· ≠ workspaceId) \/
          command.body.body.threadId?.any (· ≠ context.threadId) \/
          command.body.body.turnId?.any (· ≠ turnId))
        "NanoHost Harness consumer namespace conflicts with exact command."

/-- Records exact native consumer ACK. -/
def acknowledgeNanoHostHarnessResult (platform : HarnessPlatform) (db : HarnessDb)
    (input : AcknowledgeNanoHostHarnessResultInput) : Except HarnessError HarnessDb := do
  parseResultEnvelope input.result
  readHarnessConsumerReceipt input.consumerReceipt
  let harness <- db.requireHarnessByBinding input.harnessBindingRef
  let receipt <- requireRow harness.receipt
    "NanoHost Harness consumer acknowledgement does not match retained result."
  refuseIf (receipt.core.harnessInstanceId ≠ harness.harnessInstanceId)
    "NanoHost Harness retained result owner conflicts."
  refuseIf (input.result.harnessInstanceId ≠ harness.harnessInstanceId \/
      input.result.operationId ≠ receipt.core.operationId \/
      input.result.sequence ≠ receipt.core.sequence)
    "NanoHost Harness consumer acknowledgement does not match retained result."
  refuseIf (acknowledgeCandidates platform harness receipt.core).isEmpty
    "NanoHost Harness consumer result operation is invalid."
  refuseIf (¬ (acknowledgeCandidates platform harness receipt.core).all
      (readsAlike platform harness receipt.core input.result))
    "NanoHost Harness consumer result conflicts with retained normalized core."
  let consumption : HarnessResultConsumption :=
    ⟨input.consumerReceipt, input.harnessBindingRef, receipt.core.operationId,
      receipt.core.sequence, resultFingerprint platform receipt.core⟩
  match receipt.consumption with
  | some previous =>
    requireConsumedHarnessResult platform harness
    refuseIf (previous ≠ consumption)
      "NanoHost Harness consumer acknowledgement replay conflicts."
    return db
  | none =>
    let stale := "NanoHost Harness consumer command binding is stale."
    let command <- requireRow harness.command stale
    refuseIf ((harness.operationState ≠ .settled /\
          harness.operationState ≠ .unknown) \/
        command.operationId ≠ receipt.core.operationId \/
        command.sequence ≠ receipt.core.sequence)
      stale
    db.requireConsumerNamespace harness command receipt input.consumerReceipt
    db.updateHarness harness.harnessInstanceId
      (fun row => row.receipt = some receipt && holdsCommand receipt.core row)
      (receivedRow { receipt with consumption := some consumption }) (fun _ => rfl)
      "NanoHost Harness consumer acknowledgement changed concurrently."

/-! ## Drains and fences -/

/-- Stops Harness admission after `cleanup_required`. -/
def drainNanoHostHarnessAdmission (harnessBindingRef timestamp : String) :
    Except HarnessError HarnessDb := do
  requireIdentity harnessBindingRef "Harness binding"
  db.drainHarnessAdmission harnessBindingRef timestamp

def drainNanoHostSandboxAdmission (sandboxBindingRef originPhysicalEpoch : String) : HarnessDb :=
  let resident := fun row : SandboxRow =>
    row.sandboxBindingRef = sandboxBindingRef && row.originPhysicalEpoch = originPhysicalEpoch
  { db with
    sandboxes := db.sandboxes.updateWhere resident (fun row => { row with drainState := .draining })
      (fun _ => rfl) }.drainHarnesses none
    (fun sandboxRuntimeId => (db.sandbox? sandboxRuntimeId).any resident)

/-- The one binding that a fence names. -/
inductive FenceTarget where
  | harnessBinding (harnessBindingRef : String)
  | sandboxBinding (sandboxBindingRef : String)

/-- Fences one uncertain Sandbox and drains its Harnesses. -/
def fenceNanoHostSandboxRuntime (target : FenceTarget) (timestamp : String) :
    Except HarnessError HarnessDb :=
  match target with
  | .harnessBinding harnessBindingRef => do
      requireIdentity harnessBindingRef "Harness binding"
      return db.fenceSandbox (db.sandboxOfHarnessBinding? harnessBindingRef) timestamp
  | .sandboxBinding sandboxBindingRef => do
      requireIdentity sandboxBindingRef "Sandbox binding"
      return db.fenceSandbox (db.sandboxByBinding? sandboxBindingRef) timestamp

end HarnessDb

/-! ## Runs -/

/-- One record operation. -/
inductive HarnessCall where
  | create (input : CreateNanoHostHarnessRuntimeInput)
  | openBinding (input : OpenNanoHostAgentSessionBindingInput)
  | queue (input : QueueNanoHostHarnessOperationInput)
  | dispatch (input : DispatchNanoHostHarnessOperationInput)
  | settle (input : SettleNanoHostHarnessOperationInput)
  | acknowledge (input : AcknowledgeNanoHostHarnessResultInput)
  | markUnknown (harnessBindingRef operationId timestamp : String)
  | expire (harnessBindingRef timestamp : String)
  | drainHarness (harnessBindingRef timestamp : String)
  | drainSandbox (sandboxBindingRef originPhysicalEpoch : String)
  | fence (target : HarnessDb.FenceTarget) (timestamp : String)

/-- What a call returns to its caller. -/
inductive HarnessAnswer where
  | done
  | queued (sequence : Nat)
  | dispatched (command : Option NanoHostHarnessCommand)
  | settled (outcome : SettleOutcome)
deriving DecidableEq

/-- One call in the world that it reads. -/
structure HarnessEvent where
  world : HarnessWorld
  call : HarnessCall

/-- What one call answers and writes. -/
def answerCall (platform : HarnessPlatform) (event : HarnessEvent) (db : HarnessDb) :
    Except HarnessError (HarnessAnswer × HarnessDb) :=
  match event.call with
  | .create input => do return (.done, <- db.createNanoHostHarnessRuntime event.world input)
  | .openBinding input => do return (.done, <- db.openNanoHostAgentSessionBinding input)
  | .queue input => do
      let (sequence, after) <- db.queueNanoHostHarnessOperation platform event.world input
      return (.queued sequence, after)
  | .dispatch input => do
      let (command, after) <- db.dispatchNanoHostHarnessOperation platform event.world input
      return (.dispatched command, after)
  | .settle input => do
      let (outcome, after) <- db.settleNanoHostHarnessOperation platform event.world input
      return (.settled outcome, after)
  | .acknowledge input => do return (.done, <- db.acknowledgeNanoHostHarnessResult platform input)
  | .markUnknown harnessBindingRef operationId timestamp => do
      return (.done,
        <- db.markNanoHostHarnessOperationUnknown harnessBindingRef operationId timestamp)
  | .expire harnessBindingRef timestamp => do
      return (.done, <- db.expireNanoHostHarnessQueuedOperation harnessBindingRef timestamp)
  | .drainHarness harnessBindingRef timestamp => do
      return (.done, <- db.drainNanoHostHarnessAdmission harnessBindingRef timestamp)
  | .drainSandbox sandboxBindingRef originPhysicalEpoch =>
    .ok (.done, db.drainNanoHostSandboxAdmission sandboxBindingRef originPhysicalEpoch)
  | .fence target timestamp => do
      return (.done, <- db.fenceNanoHostSandboxRuntime target timestamp)

/-- The tables after one call.  A thrown call changes nothing. -/
def applyEvent (platform : HarnessPlatform) (event : HarnessEvent) (db : HarnessDb) : HarnessDb :=
  match answerCall platform event db with
  | .ok (_, after) => after
  | .error _ => db

end Harness
end OpenKit
