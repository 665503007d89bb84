import OpenKit.Foundation.Fallible
import OpenKit.Foundation.Json
import OpenKit.Foundation.Text

namespace OpenKit
namespace Harness

open Foundation Vocabulary

/-!
# Harness results

A Harness answers a command with an envelope whose body is read by the
operation that it settles.  A reader keeps the known core of a body and drops
every other field, so two results are compared by their cores.

`parseHarnessResultBody` reads a wire body; `encode` is the body that a core is
stored as.  A stored core is read back by its own operation as itself
(`parse_encode`), a success by no other operation (`operation_of_wellFormed`),
and every reader of a refusal sees the same core (`parse_refused_congr`).
-/

/-- A count or sequence that a JSON number carries exactly. -/
def maxSafeInteger : Nat := 9007199254740991

inductive HarnessOperation where
  | sessionOpen | sessionInspect | turnStart | turnInterrupt | sessionClose | harnessDrain
deriving DecidableEq

namespace HarnessOperation

/-- `NANO_HOST_HARNESS_OPERATIONS`. -/
def all : List HarnessOperation :=
  [.sessionOpen, .sessionInspect, .turnStart, .turnInterrupt, .sessionClose, .harnessDrain]

theorem mem_all (operation : HarnessOperation) : operation ∈ all := by
  cases operation <;> decide

def text : HarnessOperation -> String
  | .sessionOpen => "session.open"
  | .sessionInspect => "session.inspect"
  | .turnStart => "turn.start"
  | .turnInterrupt => "turn.interrupt"
  | .sessionClose => "session.close"
  | .harnessDrain => "harness.drain"

end HarnessOperation

/-- The UTF-8 bytes of a text. -/
def textBytes (value : String) : List UInt8 :=
  value.toByteArray.data.toList

/-- A lowercase hexadecimal digit. -/
def isHexByte (byte : UInt8) : Bool :=
  (48 <= byte.toNat && byte.toNat <= 57) || (97 <= byte.toNat && byte.toNat <= 102)

/-- One lowercase SHA-256 digest. -/
def isSha256 (value : String) : Bool :=
  (textBytes value).length = 64 && (textBytes value).all isHexByte

/-- A Git object name of either hash. -/
def isGitObject (value : String) : Bool :=
  ((textBytes value).length = 40 || (textBytes value).length = 64) &&
    (textBytes value).all isHexByte

/-! ## Vocabularies -/

inductive CleanupState where
  | clean | pending | unknown
deriving DecidableEq

instance : Vocabulary CleanupState where
  all := [.clean, .pending, .unknown]
  text
    | .clean => "clean"
    | .pending => "pending"
    | .unknown => "unknown"
  find?_text member := by cases member <;> decide

inductive NativeHandleState where
  | pending | ready | absent | unknown
deriving DecidableEq

instance : Vocabulary NativeHandleState where
  all := [.pending, .ready, .absent, .unknown]
  text
    | .pending => "pending"
    | .ready => "ready"
    | .absent => "absent"
    | .unknown => "unknown"
  find?_text member := by cases member <;> decide

inductive ChildState where
  | absent | running | stopping | unknown
deriving DecidableEq

instance : Vocabulary ChildState where
  all := [.absent, .running, .stopping, .unknown]
  text
    | .absent => "absent"
    | .running => "running"
    | .stopping => "stopping"
    | .unknown => "unknown"
  find?_text member := by cases member <;> decide

/-- The states that an inspection may report. -/
inductive InspectedState where
  | opened | active | closing | closed | failed
deriving DecidableEq

instance : Vocabulary InspectedState where
  all := [.opened, .active, .closing, .closed, .failed]
  text
    | .opened => "open"
    | .active => "active"
    | .closing => "closing"
    | .closed => "closed"
    | .failed => "failed"
  find?_text member := by cases member <;> decide

inductive HarnessRefusalReason where
  | missing | stale | conflict | unsupported | busy | dependencyFailed | cleanupRequired
deriving DecidableEq

instance : Vocabulary HarnessRefusalReason where
  all :=
    [.missing, .stale, .conflict, .unsupported, .busy, .dependencyFailed, .cleanupRequired]
  text
    | .missing => "missing"
    | .stale => "stale"
    | .conflict => "conflict"
    | .unsupported => "unsupported"
    | .busy => "busy"
    | .dependencyFailed => "dependency_failed"
    | .cleanupRequired => "cleanup_required"
  find?_text member := by cases member <;> decide

inductive HarnessExhaustedBound where
  | harnessActiveTurns | harnessOpenSessions | agentSessionActiveTurn | harnessDraining
  | sandboxActiveTurns | adapterIsolationProof
deriving DecidableEq

instance : Vocabulary HarnessExhaustedBound where
  all :=
    [.harnessActiveTurns, .harnessOpenSessions, .agentSessionActiveTurn, .harnessDraining,
      .sandboxActiveTurns, .adapterIsolationProof]
  text
    | .harnessActiveTurns => "harness.activeTurns"
    | .harnessOpenSessions => "harness.openSessions"
    | .agentSessionActiveTurn => "agentSession.activeTurn"
    | .harnessDraining => "harness.draining"
    | .sandboxActiveTurns => "sandbox.activeTurns"
    | .adapterIsolationProof => "adapter.isolationProof"
  find?_text member := by cases member <;> decide

inductive StartupStage where
  | packageValidation | runtimeSupply | workspaceMaterialization | adapterPrepare | integrationReady
  | workerControlReady | nativeSpawn
deriving DecidableEq

instance : Vocabulary StartupStage where
  all :=
    [.packageValidation, .runtimeSupply, .workspaceMaterialization, .adapterPrepare,
      .integrationReady, .workerControlReady, .nativeSpawn]
  text
    | .packageValidation => "package_validation"
    | .runtimeSupply => "runtime_supply"
    | .workspaceMaterialization => "workspace_materialization"
    | .adapterPrepare => "adapter_prepare"
    | .integrationReady => "integration_ready"
    | .workerControlReady => "worker_control_ready"
    | .nativeSpawn => "native_spawn"
  find?_text member := by cases member <;> decide

inductive StartupReason where
  | failed | missingFile | permissionDenied | invalidJson | retainedBaselineUnavailable
  | retainedBaselineConflict | retainedSourceUnavailable | retainedSourceConflict | gitInitFailed
  | gitFetchFailed | gitFetchCommitUnavailable | gitFetchTlsFailed | gitFetchHttpRefused
  | gitFetchTransportFailed | gitCheckoutFailed | controlTimeout
deriving DecidableEq

instance : Vocabulary StartupReason where
  all :=
    [.failed, .missingFile, .permissionDenied, .invalidJson, .retainedBaselineUnavailable,
      .retainedBaselineConflict, .retainedSourceUnavailable, .retainedSourceConflict,
      .gitInitFailed, .gitFetchFailed, .gitFetchCommitUnavailable, .gitFetchTlsFailed,
      .gitFetchHttpRefused, .gitFetchTransportFailed, .gitCheckoutFailed, .controlTimeout]
  text
    | .failed => "failed"
    | .missingFile => "missing_file"
    | .permissionDenied => "permission_denied"
    | .invalidJson => "invalid_json"
    | .retainedBaselineUnavailable => "retained_baseline_unavailable"
    | .retainedBaselineConflict => "retained_baseline_conflict"
    | .retainedSourceUnavailable => "retained_source_unavailable"
    | .retainedSourceConflict => "retained_source_conflict"
    | .gitInitFailed => "git_init_failed"
    | .gitFetchFailed => "git_fetch_failed"
    | .gitFetchCommitUnavailable => "git_fetch_commit_unavailable"
    | .gitFetchTlsFailed => "git_fetch_tls_failed"
    | .gitFetchHttpRefused => "git_fetch_http_refused"
    | .gitFetchTransportFailed => "git_fetch_transport_failed"
    | .gitCheckoutFailed => "git_checkout_failed"
    | .controlTimeout => "control_timeout"
  find?_text member := by cases member <;> decide

/-- The codes of a Git explanation. -/
def StartupReason.explained : List StartupReason :=
  [.gitFetchFailed, .gitFetchTlsFailed, .gitFetchTransportFailed, .gitFetchHttpRefused]

inductive GitSubprocess where
  | exit | signal | spawn | timeout
deriving DecidableEq

instance : Vocabulary GitSubprocess where
  all := [.exit, .signal, .spawn, .timeout]
  text
    | .exit => "exit"
    | .signal => "signal"
    | .spawn => "spawn"
    | .timeout => "timeout"
  find?_text member := by cases member <;> decide

/-! ## Cores -/

structure NativeHandle where
  state : NativeHandleState
  digest : Option String
deriving DecidableEq

structure WorkspaceGitBaseline where
  (commit tree : String)
deriving DecidableEq

/-- A terminal remote Git fetch attempt.  The fields with one admitted value
are left out of the core and written back by `encode`. -/
structure GitFailureExplanation where
  code : StartupReason
  observedAt : String
  subprocess : GitSubprocess
  httpStatus : Option Int
  outputTruncated : Bool
deriving DecidableEq

structure WorkerStartupFailure where
  stage : StartupStage
  reason : StartupReason
  explanation : Option GitFailureExplanation
deriving DecidableEq

structure SessionInspection where
  childState : ChildState
  cleanupState : CleanupState
  nativeHandle : NativeHandle
  state : InspectedState
deriving DecidableEq

/-- The success core of each operation. -/
inductive HarnessSuccess where
  | sessionOpen (nativeHandle : NativeHandle) (maxActiveTurns : Nat)
      (baseline : Option WorkspaceGitBaseline)
  | sessionInspect (inspection : SessionInspection)
  | turnStart (nativeHandle : NativeHandle)
  | turnInterrupt (childState : Option ChildState)
  | sessionClose (childState : Option ChildState)
  | harnessDrain (activeTurns openSessions : Nat)
deriving DecidableEq

def HarnessSuccess.operation : HarnessSuccess -> HarnessOperation
  | .sessionOpen _ _ _ => .sessionOpen
  | .sessionInspect _ => .sessionInspect
  | .turnStart _ => .turnStart
  | .turnInterrupt _ => .turnInterrupt
  | .sessionClose _ => .sessionClose
  | .harnessDrain _ _ => .harnessDrain

structure HarnessRefusal where
  reasonCode : HarnessRefusalReason
  exhaustedBound : Option HarnessExhaustedBound
  startupFailure : Option WorkerStartupFailure
deriving DecidableEq

/-- The core of a result body. -/
inductive HarnessResultBody where
  | succeeded (success : HarnessSuccess)
  | refused (refusal : HarnessRefusal)
  | unknown
deriving DecidableEq

inductive Disposition where
  | succeeded | refused | unknown
deriving DecidableEq

def HarnessResultBody.disposition : HarnessResultBody -> Disposition
  | .succeeded _ => .succeeded
  | .refused _ => .refused
  | .unknown => .unknown

/-! ## Admitted cores -/

variable (handle : NativeHandle)

/-- Requires a digest exactly when the handle is ready. -/
def readyHasDigest : Bool :=
  decide (handle.state = .ready) == handle.digest.isSome

def NativeHandle.wellFormed : Bool :=
  handle.digest.all isSha256 && readyHasDigest handle

/-- The handle of an opened session or a started Turn. -/
def NativeHandle.isStarted : Bool :=
  (handle.state = .pending || handle.state = .ready) && handle.wellFormed

variable (isDatetime : String -> Bool) (operation : HarnessOperation)

variable (explanation : GitFailureExplanation)

/-- The cross-field rules of an explanation. -/
def GitFailureExplanation.wellFormed : Bool :=
  explanation.code ∈ StartupReason.explained && isDatetime explanation.observedAt &&
    explanation.httpStatus.all (fun status => status = 401 || status = 403) &&
    (decide (explanation.code = .gitFetchHttpRefused) == explanation.httpStatus.isSome) &&
    (explanation.code = .gitFetchTransportFailed || explanation.subprocess = .exit)

variable (failure : WorkerStartupFailure)

/-- The cross-field rules of a startup failure. -/
def WorkerStartupFailure.wellFormed : Bool :=
  failure.explanation.all (fun explanation =>
      explanation.wellFormed isDatetime && failure.stage = .workspaceMaterialization &&
        failure.reason = explanation.code) &&
    (failure.reason ≠ .gitFetchHttpRefused || failure.explanation.isSome)

def HarnessSuccess.wellFormed : HarnessSuccess -> Bool
  | .sessionOpen handle maxActiveTurns baseline =>
    handle.isStarted && 1 <= maxActiveTurns && maxActiveTurns <= maxSafeInteger &&
      baseline.all (fun found => isGitObject found.commit && isGitObject found.tree)
  | .sessionInspect inspection => inspection.nativeHandle.wellFormed
  | .turnStart handle => handle.isStarted
  | .turnInterrupt _ => true
  | .sessionClose _ => true
  | .harnessDrain activeTurns openSessions =>
    activeTurns <= maxSafeInteger && openSessions <= maxSafeInteger

variable (refusal : HarnessRefusal)

/-- A startup failure belongs to a dependency refusal of a Turn start, or of a
session open whose Workspace could not be materialized. -/
def HarnessRefusal.wellFormed : Bool :=
  refusal.startupFailure.all fun failure =>
    failure.wellFormed isDatetime && refusal.reasonCode = .dependencyFailed &&
      (operation = .turnStart ||
        (operation = .sessionOpen && failure.stage = .workspaceMaterialization))

/-- The cores that the reader of an operation admits. -/
def HarnessResultBody.wellFormed : HarnessResultBody -> Bool
  | .succeeded success => success.operation = operation && success.wellFormed
  | .refused refusal => refusal.wellFormed isDatetime operation
  | .unknown => true

/-! ## Readers -/

open JsonFields

/-- A non-negative integer. -/
def count? (fields : JsonFields) (name : String) : Option Nat :=
  match fields.value? name with
  | some (.number (.ofNat count)) => some count
  | _ => none

/-- A digest that may be null. -/
def digest? (fields : JsonFields) : Option (Option String) :=
  match fields.value? "nativeHandleDigest" with
  | some .null => some none
  | some (.text digest) => some (some digest)
  | _ => none

def readHandle (fields : JsonFields) : Option NativeHandle := do
  let state <- literal? NativeHandleState fields "nativeHandleState"
  let digest <- digest? fields
  return ⟨state, digest⟩

def readBaseline (value : Json) : Option WorkspaceGitBaseline :=
  match value with
  | .object fields => do
      let commit <- text? fields "commit"
      let tree <- text? fields "tree"
      return ⟨commit, tree⟩
  | _ => none

/-- The HTTP status of a refused fetch, or null. -/
def readHttpStatus (fields : JsonFields) : Option (Option Int) :=
  match fields.value? "httpStatus" with
  | some .null => some none
  | some (.number status) => some (some status)
  | _ => none

def readOutputTruncated (fields : JsonFields) : Option Bool :=
  match fields.value? "evidence" with
  | some (.object evidence) =>
    if hasText evidence "availability" "partial" then
      match value? evidence "outputTruncated" with
      | some (.bool truncated) => some truncated
      | _ => none
    else none
  | _ => none

/-- The fields of an explanation that have one admitted value. -/
def hasGitFetchOrigin (fields : JsonFields) : Bool :=
  hasText fields "stage" "workspace_materialization" && hasText fields "operation" "git.fetch" &&
    hasText fields "dependency" "git_remote" && hasText fields "producer" "worker-shim" &&
    hasText fields "basis" "direct_observation" && hasText fields "enforcement" "unavailable"

def readExplanation (value : Json) : Option GitFailureExplanation :=
  match value with
  | .object fields => do
      let code <- literal? StartupReason fields "code"
      let observedAt <- text? fields "observedAt"
      let subprocess <- literal? GitSubprocess fields "subprocess"
      let httpStatus <- readHttpStatus fields
      let outputTruncated <- readOutputTruncated fields
      if hasGitFetchOrigin fields then
        some ⟨code, observedAt, subprocess, httpStatus, outputTruncated⟩
      else none
  | _ => none

def readStartupFailure (value : Json) : Option WorkerStartupFailure :=
  match value with
  | .object fields => do
      let explanation <- optional? fields "explanation" readExplanation
      let stage <- literal? StartupStage fields "stage"
      let reason <- literal? StartupReason fields "reason"
      return ⟨stage, reason, explanation⟩
  | _ => none

def readChild (fields : JsonFields) : Option (Option ChildState) :=
  optional? fields "childState" (readLiteral ChildState)

def readSuccess (fields : JsonFields) : Option HarnessSuccess :=
  match operation with
  | .sessionOpen => do
      let handle <- readHandle fields
      let baseline <- optional? fields "workspaceGitBaseline" readBaseline
      let maxActiveTurns <- count? fields "maxActiveTurns"
      if hasText fields "state" "open" then some (.sessionOpen handle maxActiveTurns baseline)
      else none
  | .sessionInspect => do
      let handle <- readHandle fields
      let childState <- literal? ChildState fields "childState"
      let cleanupState <- literal? CleanupState fields "cleanupState"
      let state <- literal? InspectedState fields "state"
      return .sessionInspect ⟨childState, cleanupState, handle, state⟩
  | .turnStart => do
      let handle <- readHandle fields
      if hasText fields "state" "started" then some (.turnStart handle) else none
  | .turnInterrupt => do
      let childState <- readChild fields
      if hasText fields "state" "interrupted" then some (.turnInterrupt childState) else none
  | .sessionClose => do
      let childState <- readChild fields
      if hasText fields "privateState" "absent" && hasText fields "state" "closed" then
        some (.sessionClose childState)
      else none
  | .harnessDrain => do
      let activeTurns <- count? fields "activeTurns"
      let openSessions <- count? fields "openSessions"
      if hasText fields "state" "draining" then some (.harnessDrain activeTurns openSessions)
      else none

def readRefusal (fields : JsonFields) : Option HarnessRefusal := do
  let reasonCode <- literal? HarnessRefusalReason fields "reasonCode"
  let exhaustedBound <- optional? fields "exhaustedBound"
    (readLiteral HarnessExhaustedBound)
  let startupFailure <- optional? fields "startupFailure" readStartupFailure
  return ⟨reasonCode, exhaustedBound, startupFailure⟩

/-- The fields that a reader knows, before its admission rules. -/
def readBody (disposition : Disposition) (fields : JsonFields) : Option HarnessResultBody :=
  match disposition with
  | .unknown =>
    if (value? fields "startupFailure").isSome then none
    else if hasText fields "reasonCode" "outcome_unknown" then some .unknown
    else none
  | .refused => (readRefusal fields).map .refused
  | .succeeded =>
    if (value? fields "startupFailure").isSome then none
    else (readSuccess operation fields).map .succeeded

def parseHarnessResultBody
    (disposition : Disposition) (fields : JsonFields) : Option HarnessResultBody :=
  (readBody operation disposition fields).filter (HarnessResultBody.wellFormed isDatetime operation)

/-! ## Stored cores -/

def textOrNull (value : Option String) : Json :=
  value.elim .null .text

def NativeHandle.fields : JsonFields :=
  [("nativeHandleDigest", textOrNull handle.digest),
    ("nativeHandleState", .text (text handle.state))]

def optionalField {α : Type} (name : String) (encode : α -> Json) (value : Option α) : JsonFields :=
  value.elim [] (fun present => [(name, encode present)])

def WorkspaceGitBaseline.json (baseline : WorkspaceGitBaseline) : Json :=
  .object [("commit", .text baseline.commit), ("tree", .text baseline.tree)]

def GitFailureExplanation.json : Json :=
  .object
    [("basis", .text "direct_observation"), ("code", .text (text explanation.code)),
      ("dependency", .text "git_remote"), ("enforcement", .text "unavailable"),
      ("evidence", .object [("availability", .text "partial"),
        ("outputTruncated", .bool explanation.outputTruncated)]),
      ("httpStatus", explanation.httpStatus.elim .null .number),
      ("observedAt", .text explanation.observedAt), ("operation", .text "git.fetch"),
      ("producer", .text "worker-shim"), ("stage", .text "workspace_materialization"),
      ("subprocess", .text (text explanation.subprocess))]

def WorkerStartupFailure.json : Json :=
  .object (optionalField "explanation" GitFailureExplanation.json failure.explanation ++
    [("reason", .text (text failure.reason)), ("stage", .text (text failure.stage))])

def childField (childState : Option ChildState) : JsonFields :=
  optionalField "childState" (fun state => .text (text state)) childState

def HarnessSuccess.encode : HarnessSuccess -> JsonFields
  | .sessionOpen handle maxActiveTurns baseline =>
    [("maxActiveTurns", .number maxActiveTurns)] ++ handle.fields ++ [("state", .text "open")] ++
      optionalField "workspaceGitBaseline" WorkspaceGitBaseline.json baseline
  | .sessionInspect inspection =>
    [("childState", .text (text inspection.childState)),
      ("cleanupState", .text (text inspection.cleanupState))] ++ inspection.nativeHandle.fields ++
      [("state", .text (text inspection.state))]
  | .turnStart handle => handle.fields ++ [("state", .text "started")]
  | .turnInterrupt childState => childField childState ++ [("state", .text "interrupted")]
  | .sessionClose childState =>
    childField childState ++ [("privateState", .text "absent"), ("state", .text "closed")]
  | .harnessDrain activeTurns openSessions =>
    [("activeTurns", .number activeTurns), ("openSessions", .number openSessions),
      ("state", .text "draining")]

def HarnessRefusal.encode : JsonFields :=
  optionalField "exhaustedBound" (fun bound => .text (text bound)) refusal.exhaustedBound ++
    [("reasonCode", .text (text refusal.reasonCode))] ++
    optionalField "startupFailure" WorkerStartupFailure.json refusal.startupFailure

/-- The body that a core is stored as. -/
def HarnessResultBody.encode : HarnessResultBody -> JsonFields
  | .succeeded success => success.encode
  | .refused refusal => refusal.encode
  | .unknown => [("reasonCode", .text "outcome_unknown")]

/-! ## Reading a stored core back -/

variable {success : HarnessSuccess} {isDatetime : String -> Bool} {first second : HarnessOperation}

theorem readExplanation_json : readExplanation explanation.json = some explanation := by
  rcases explanation with ⟨code, observedAt, subprocess, _ | status, outputTruncated⟩ <;>
    simp [readExplanation, GitFailureExplanation.json, literal?, text?, readHttpStatus,
      readOutputTruncated, hasGitFetchOrigin, hasText]

theorem readStartupFailure_json : readStartupFailure failure.json = some failure := by
  rcases failure with ⟨stage, reason, _ | explanation⟩ <;>
    simp [readStartupFailure, WorkerStartupFailure.json, optionalField, optional?, literal?,
      readExplanation_json]

theorem readRefusal_encode : readRefusal refusal.encode = some refusal := by
  rcases refusal with ⟨reasonCode, _ | bound, _ | failure⟩ <;>
    simp [readRefusal, HarnessRefusal.encode, optionalField, optional?, literal?,
      readStartupFailure_json]

section

open HarnessSuccess

attribute [local simp] operation NativeHandle.fields childField optionalField readSuccess

theorem readSuccess_encode (success : HarnessSuccess) :
    readSuccess success.operation success.encode = some success := by
  cases success with
  | sessionOpen handle maxActiveTurns baseline =>
    rcases handle with ⟨state, _ | digest⟩ <;> cases baseline <;>
      simp [encode, readHandle, digest?, textOrNull, optional?, literal?, count?, hasText, text?,
        readBaseline, WorkspaceGitBaseline.json]
  | sessionInspect report =>
    rcases report with ⟨childState, cleanupState, ⟨state, _ | digest⟩, reported⟩ <;>
      simp [encode, readHandle, digest?, textOrNull, literal?]
  | turnStart handle =>
    rcases handle with ⟨state, _ | digest⟩ <;>
      simp [encode, readHandle, digest?, textOrNull, literal?, hasText, text?]
  | turnInterrupt childState | sessionClose childState =>
    cases childState <;> simp [encode, readChild, optional?, hasText, text?]
  | harnessDrain => simp [encode, count?, hasText, text?]

/-- Each operation asks for a field or a state that no other success has. -/
theorem readSuccess_encode_of_ne {operation : HarnessOperation}
    (differs : success.operation ≠ operation) : readSuccess operation success.encode = none := by
  cases operation with
  | sessionOpen =>
    have missing : count? success.encode "maxActiveTurns" = none := by
      rcases success with ⟨⟩ | ⟨⟩ | ⟨⟩ | ⟨_ | _⟩ | ⟨_ | _⟩ | ⟨⟩ <;> simp_all [encode, count?]
    simp [missing]
  | sessionInspect =>
    have missing : literal? CleanupState success.encode "cleanupState" = none := by
      rcases success with ⟨_, _, _ | _⟩ | ⟨⟩ | ⟨⟩ | ⟨_ | _⟩ | ⟨_ | _⟩ | ⟨⟩ <;> simp_all [encode, literal?]
    simp [missing]
  | turnStart =>
    have other : hasText success.encode "state" "started" = false := by
      rcases success with ⟨_, _, _ | _⟩ | ⟨⟨_, _, _, _ | _⟩⟩ | ⟨⟩ | ⟨_ | _⟩ | ⟨_ | _⟩ | ⟨⟩ <;>
        simp_all [encode, hasText, text?, text]
    simp [other]
  | turnInterrupt =>
    have other : hasText success.encode "state" "interrupted" = false := by
      rcases success with ⟨_, _, _ | _⟩ | ⟨⟨_, _, _, _ | _⟩⟩ | ⟨⟩ | ⟨_ | _⟩ | ⟨_ | _⟩ | ⟨⟩ <;>
        simp_all [encode, hasText, text?, text]
    simp [other]
  | sessionClose =>
    have missing : hasText success.encode "privateState" "absent" = false := by
      rcases success with ⟨_, _, _ | _⟩ | ⟨⟩ | ⟨⟩ | ⟨_ | _⟩ | ⟨_ | _⟩ | ⟨⟩ <;> simp_all [encode, hasText, text?]
    simp [missing]
  | harnessDrain =>
    have missing : count? success.encode "activeTurns" = none := by
      rcases success with ⟨_, _, _ | _⟩ | ⟨⟩ | ⟨⟩ | ⟨_ | _⟩ | ⟨_ | _⟩ | ⟨⟩ <;> simp_all [encode, count?]
    simp [missing]

/-- A stored success carries no startup failure. -/
theorem startupFailure_encode (success : HarnessSuccess) :
    value? success.encode "startupFailure" = none := by
  rcases success with ⟨_, _, _ | _⟩ | ⟨⟩ | ⟨⟩ | ⟨_ | _⟩ | ⟨_ | _⟩ | ⟨⟩ <;> simp [encode]

end

open HarnessResultBody in
/-- An operation reads a stored core as itself or not at all. -/
theorem parse_encode (isDatetime : String -> Bool) (operation : HarnessOperation)
    (body : HarnessResultBody) :
    parseHarnessResultBody isDatetime operation body.disposition body.encode =
      if body.wellFormed isDatetime operation then some body else none := by
  cases body with
  | unknown =>
    simp [parseHarnessResultBody, readBody, disposition, encode, wellFormed, hasText, text?]
  | refused =>
    simp [parseHarnessResultBody, readBody, disposition, encode, readRefusal_encode,
      Option.filter_some]
  | succeeded success =>
    by_cases same : success.operation = operation
    · simp [parseHarnessResultBody, readBody, disposition, encode, startupFailure_encode,
        <- same, readSuccess_encode, Option.filter_some]
    · simp [parseHarnessResultBody, readBody, disposition, encode, startupFailure_encode,
        readSuccess_encode_of_ne same, wellFormed, same]

/-- What a reader returns is a core that it admits, of the result's disposition. -/
theorem wellFormed_of_parse {operation : HarnessOperation} {disposition : Disposition}
    {fields : JsonFields} {body : HarnessResultBody}
    (parsed : parseHarnessResultBody isDatetime operation disposition fields = some body) :
    body.wellFormed isDatetime operation /\ body.disposition = disposition := by
  rcases Option.filter_eq_some_iff.mp parsed with ⟨readAs, admitted⟩
  refine ⟨admitted, ?_⟩
  unfold readBody at readAs
  cases disposition with
  | unknown =>
    simp only at readAs
    split at readAs
    · cases readAs
    split at readAs
    · cases readAs
      rfl
    · cases readAs
  | refused =>
    rcases Option.map_eq_some_iff.mp readAs with ⟨refusal, _, same⟩
    rw [<- same]
    rfl
  | succeeded =>
    simp only at readAs
    split at readAs
    · cases readAs
    rcases Option.map_eq_some_iff.mp readAs with ⟨success, _, same⟩
    rw [<- same]
    rfl

/-- The result format round trips: a body is what some fields parse to exactly when the
operation admits it under the disposition, and then its own encoding parses back to it; so
a parsed result is stored in a form that reads alike, and no other operation that does not
admit it reads it. -/
theorem harness_result_round_trip (isDatetime : String -> Bool) (operation : HarnessOperation)
    (disposition : Disposition) (body : HarnessResultBody) :
    ((∃ fields, parseHarnessResultBody isDatetime operation disposition fields = some body) <->
      body.wellFormed isDatetime operation /\ body.disposition = disposition) /\
    (∀ other, parseHarnessResultBody isDatetime other body.disposition body.encode =
      some body <-> body.wellFormed isDatetime other) /\
    ∀ other result, parseHarnessResultBody isDatetime other body.disposition body.encode =
      some result -> result = body := by
  refine ⟨⟨?_, ?_⟩, ?_, ?_⟩
  · rintro ⟨fields, parsed⟩
    exact wellFormed_of_parse parsed
  · rintro ⟨admitted, rfl⟩
    exact ⟨body.encode, by rw [parse_encode, if_pos admitted]⟩
  · intro other
    rw [parse_encode]
    split <;> simp_all
  · intro other result parsed
    rw [parse_encode] at parsed
    split at parsed
    · exact (Option.some.inj parsed).symm
    · cases parsed

theorem operation_of_wellFormed {operation : HarnessOperation}
    (admitted : (HarnessResultBody.succeeded success).wellFormed isDatetime operation) :
    success.operation = operation := by
  simp only [HarnessResultBody.wellFormed, Bool.and_eq_true, decide_eq_true_eq] at admitted
  exact admitted.1

/-- Two operations that read a body alike and admit it parse it alike. -/
theorem parse_congr {disposition : Disposition} {fields : JsonFields} {body : HarnessResultBody}
    (parsed : parseHarnessResultBody isDatetime first disposition fields = some body)
    (alike : readBody second disposition fields = readBody first disposition fields)
    (admitted : body.wellFormed isDatetime second) :
    parseHarnessResultBody isDatetime second disposition fields = some body := by
  rcases Option.filter_eq_some_iff.mp parsed with ⟨readAs, _⟩
  exact Option.filter_eq_some_iff.mpr ⟨alike.trans readAs, admitted⟩

end Harness
end OpenKit
