import OpenKit.Foundation.Table
import OpenKit.Harness.Results

namespace OpenKit
namespace Harness

open Foundation

/-!
# Harness runtime records

A Sandbox hosts Harness Instances, and a Harness hosts AgentSession bindings.
Each Harness has one command cell: a command is queued, dispatched, and settled
by its result, and the retained receipt of the result must be consumed before
the next dispatch.

Stored JSON is kept as the value that it encodes, so that its fingerprint
always agrees, and command fields that are only part of a command's identity
are kept as one encoded text.
-/

/-! ## States -/

/-- The state of a Harness's command cell. -/
inductive OperationState where
  | idle | queued | dispatched | settled | unknown
deriving DecidableEq

inductive RuntimeLifecycle where
  | opened | failed
deriving DecidableEq

inductive HealthState where
  | ready | unknown
deriving DecidableEq

inductive DrainState where
  | accepting | draining
deriving DecidableEq

inductive BindingLifecycle where
  | opening | opened | active | closing | closed | failed
deriving DecidableEq

/-- The lifecycle that an inspection reports. -/
def inspectedLifecycle : InspectedState -> BindingLifecycle
  | .opened => .opened
  | .active => .active
  | .closing => .closing
  | .closed => .closed
  | .failed => .failed

/-! ## Commands -/

structure SessionSelector where
  (agentSessionId agentSessionRuntimeBindingId : String)
deriving DecidableEq

structure SessionOpenBody extends SessionSelector where
  (workspaceId threadId : String)
  /-- The canonical text of the environment's values. -/
  nativeEnvironment : Option String
  details : String
deriving DecidableEq

structure TurnStartBody extends SessionSelector where
  (workspaceId threadId turnId leaseId packageSnapshotId : String)
  turnSequence : Nat
  details : String
deriving DecidableEq

structure TurnInterruptBody extends SessionSelector where
  (turnId leaseId : String)
deriving DecidableEq

/-- The queued body of each operation. -/
inductive HarnessCommandBody where
  | sessionOpen (body : SessionOpenBody)
  | sessionInspect (body : SessionSelector)
  | turnStart (body : TurnStartBody)
  | turnInterrupt (body : TurnInterruptBody)
  | sessionClose (body : SessionSelector)
  | harnessDrain
deriving DecidableEq

namespace HarnessCommandBody

def operation : HarnessCommandBody -> HarnessOperation
  | .sessionOpen _ => .sessionOpen
  | .sessionInspect _ => .sessionInspect
  | .turnStart _ => .turnStart
  | .turnInterrupt _ => .turnInterrupt
  | .sessionClose _ => .sessionClose
  | .harnessDrain => .harnessDrain

def selector? : HarnessCommandBody -> Option SessionSelector
  | .sessionOpen body => some body.toSessionSelector
  | .sessionInspect body => some body
  | .turnStart body => some body.toSessionSelector
  | .turnInterrupt body => some body.toSessionSelector
  | .sessionClose body => some body
  | .harnessDrain => none

def workspaceId? : HarnessCommandBody -> Option String
  | .sessionOpen body => some body.workspaceId
  | .turnStart body => some body.workspaceId
  | _ => none

def threadId? : HarnessCommandBody -> Option String
  | .sessionOpen body => some body.threadId
  | .turnStart body => some body.threadId
  | _ => none

def turnId? : HarnessCommandBody -> Option String
  | .turnStart body => some body.turnId
  | .turnInterrupt body => some body.turnId
  | _ => none

end HarnessCommandBody

/-- The credentials of a command: raw on the wire, hashed in durable records. -/
inductive CommandCredentials where
  | none
  | loopback (capability inference : String)
  | route (capability inference workerControl : String)
deriving DecidableEq

structure CommandBody where
  body : HarnessCommandBody
  credentials : CommandCredentials
deriving DecidableEq

/-- The command cell: identity, sequence, and redacted body. -/
structure RecordedCommand where
  operationId : String
  sequence : Nat
  body : CommandBody
deriving DecidableEq

structure NanoHostHarnessCommand where
  (harnessInstanceId operationId : String)
  sequence : Nat
  body : CommandBody
deriving DecidableEq

/-! ## Results -/

/-- A result as it arrives.  Its body is read by the operation that it settles. -/
structure NanoHostHarnessResult where
  (harnessInstanceId operationId : String)
  sequence : Nat
  disposition : Disposition
  body : JsonFields

/-- A result reduced to its core. -/
structure HarnessResultCore where
  (harnessInstanceId operationId : String)
  sequence : Nat
  body : HarnessResultBody
deriving DecidableEq

/-- A core as a result with the body that it is stored as. -/
def HarnessResultCore.result (core : HarnessResultCore) : NanoHostHarnessResult where
  harnessInstanceId := core.harnessInstanceId
  operationId := core.operationId
  sequence := core.sequence
  disposition := core.body.disposition
  body := core.body.encode

/-- Who consumed a result: a Workspace step, or an idle Core binding. -/
inductive HarnessConsumerReceipt where
  | step (workspaceId turnId executionId stepId : String)
  | idle (workspaceId threadId agentSessionId agentSessionRuntimeBindingId : String)
deriving DecidableEq

structure HarnessResultConsumption where
  consumerReceipt : HarnessConsumerReceipt
  (harnessBindingRef operationId : String)
  sequence : Nat
  resultFingerprint : String
deriving DecidableEq

structure ConsumerContext where
  (workspaceId threadId : String)
deriving DecidableEq

/-- A retained result with its consumption progress. -/
structure ResultReceipt where
  core : HarnessResultCore
  consumerContext : Option ConsumerContext
  consumption : Option HarnessResultConsumption
deriving DecidableEq

/-! ## Rows -/

/-- A row of `sandbox_runtime_records`. -/
structure SandboxRow where
  (sandboxRuntimeId runtimeTargetId originPhysicalEpoch sandboxBindingRef : String)
  (sandboxIntegrationBindingRef sandboxCompatibilityKey imageDigest : String)
  (maxHarnesses maxActiveTurns : Nat)
  lifecycleState : RuntimeLifecycle
  healthState : HealthState
  drainState : DrainState
  cleanupState : CleanupState
deriving DecidableEq

/-- A row of `harness_instance_records`. -/
structure HarnessRow where
  (harnessInstanceId sandboxRuntimeId harnessBindingRef harnessCompatibilityKey : String)
  (maxOpenSessions maxActiveTurns openSessionCount activeTurnCount : Nat)
  lifecycleState : RuntimeLifecycle
  drainState : DrainState
  nextSequence : Nat
  operationState : OperationState
  command : Option RecordedCommand
  receipt : Option ResultReceipt
  updatedAt : String
deriving DecidableEq

structure NativeEnvironmentRecord where
  (agentId imageDigest defaultsDigest values : String)
deriving DecidableEq

/-- A row of `agent_session_runtime_bindings`. -/
structure BindingRow where
  (agentSessionRuntimeBindingId harnessInstanceId agentSessionId workspaceId threadId : String)
  lifecycleState : BindingLifecycle
  (currentTurnId currentAttemptId : Option String)
  nextTurnSequence : Nat
  cleanupState : CleanupState
  nativeHandle : NativeHandle
  nativeEnvironment : Option NativeEnvironmentRecord
  nativeEnvironmentApplied : Bool
  (inferenceLoopbackCredentialDigest capabilityLoopbackCredentialDigest : Option String)
deriving DecidableEq

/-- The runtime tables of Core. -/
structure HarnessDb where
  sandboxes : Table SandboxRow String SandboxRow.sandboxRuntimeId
  harnesses : Table HarnessRow String HarnessRow.harnessInstanceId
  bindings : Table BindingRow String BindingRow.agentSessionRuntimeBindingId

namespace HarnessDb

def empty : HarnessDb :=
  ⟨.empty, .empty, .empty⟩

variable (db : HarnessDb)

def sandbox? (sandboxRuntimeId : String) : Option SandboxRow :=
  db.sandboxes.find? sandboxRuntimeId

def harness? (harnessInstanceId : String) : Option HarnessRow :=
  db.harnesses.find? harnessInstanceId

def binding? (bindingId harnessInstanceId : String) : Option BindingRow :=
  (db.bindings.find? bindingId).filter (·.harnessInstanceId = harnessInstanceId)

def harnessesOf (sandboxRuntimeId : String) : List HarnessRow :=
  db.harnesses.rows.filter (·.sandboxRuntimeId = sandboxRuntimeId)

end HarnessDb

/-- What an operation throws. -/
structure HarnessError where
  message : String
  exhaustedBound : Option HarnessExhaustedBound := none
deriving DecidableEq

/-- `if (conflicts) throw new Error(message)`. -/
def refuseIf (conflicts : Prop) [Decidable conflicts] (message : String) :
    Except HarnessError Unit :=
  refuse (decide conflicts) ⟨message, none⟩

@[simp] theorem refuseIf_eq_ok_iff (conflicts : Prop) [Decidable conflicts] (message : String)
    (result : Unit) : refuseIf conflicts message = .ok result <-> ¬ conflicts := by
  simp [refuseIf]

/-- A row that must be there. -/
def requireRow {row : Type} (found : Option row) (message : String) : Except HarnessError row :=
  match found with
  | some entry => .ok entry
  | none => .error ⟨message, none⟩

@[simp] theorem requireRow_eq_ok_iff {row : Type} (found : Option row) (message : String)
    (entry : row) : requireRow found message = .ok entry <-> found = some entry := by
  cases found <;> simp [requireRow]

/-- Requires a non-empty bounded opaque identity. -/
def requireIdentity (value label : String) : Except HarnessError Unit :=
  let length := (codeUnits value).length
  refuseIf (length < 1 \/ 512 < length) ("NanoHost " ++ label ++ " is invalid.")

def requireSha256 (value label : String) : Except HarnessError Unit :=
  refuseIf (¬ isSha256 value) ("NanoHost " ++ label ++ " is invalid.")

def isImageDigest (value : String) : Bool :=
  (textBytes value).take 7 = textBytes "sha256:" &&
    (textBytes value).length = 71 && ((textBytes value).drop 7).all isHexByte

end Harness
end OpenKit
