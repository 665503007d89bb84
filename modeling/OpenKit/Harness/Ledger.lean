import OpenKit.Harness.Model

namespace OpenKit
namespace Harness

open Foundation

/-!
# The ledger of Harness work

What the runtime tables are for: which Sandbox bounds how many Turns, which
command each Harness works on, and which binding of it runs a Turn.  The ledger
forgets the admission columns (lifecycle, drain and update time of Harnesses,
everything of a Sandbox but its bound, everything of a binding but its seat),
so every fence and drain is a step that changes nothing.

`LedgerStep` lists what one call may do to the ledger, together with the command
that it queues, dispatches or settles.  It is the only description of the operations
that the invariants of the following modules use.
-/

/-- A Harness without its admission columns. -/
def standing (row : HarnessRow) : HarnessRow :=
  { row with
    lifecycleState := .opened, drainState := .accepting, updatedAt := "" }

/-- The seat of an AgentSession at a Harness. -/
structure Seat where
  (bindingId harnessInstanceId : String)
  lifecycleState : BindingLifecycle
  currentTurnId : Option String

def seat (row : BindingRow) : Seat where
  bindingId := row.agentSessionRuntimeBindingId
  harnessInstanceId := row.harnessInstanceId
  lifecycleState := row.lifecycleState
  currentTurnId := row.currentTurnId

structure Ledger where
  /-- The active-Turn bound of each Sandbox. -/
  bounds : List (String × Nat)
  harnesses : List HarnessRow
  seats : List Seat

def HarnessDb.ledger (db : HarnessDb) : Ledger where
  bounds := db.sandboxes.rows.map (fun row => (row.sandboxRuntimeId, row.maxActiveTurns))
  harnesses := db.harnesses.rows.map standing
  seats := db.bindings.rows.map seat

/-- The Turns of a Harness and the start that it reserves. -/
def load (row : HarnessRow) : Nat :=
  row.activeTurnCount + if HarnessDb.reservesTurn row then 1 else 0

namespace Ledger

/-- Writes the Harness with the identity of `row`. -/
def write (ledger : Ledger) (row : HarnessRow) : Ledger :=
  { ledger with
    harnesses := ledger.harnesses.map fun other =>
      if other.harnessInstanceId = row.harnessInstanceId then row else other }

/-- Writes the seat with the identity of `taken`. -/
def reseat (seats : List Seat) (taken : Seat) : List Seat :=
  seats.map fun other => if other.bindingId = taken.bindingId then taken else other

def sandboxLoad (ledger : Ledger) (sandboxRuntimeId : String) : Nat :=
  (ledger.harnesses.map fun row =>
    if row.sandboxRuntimeId = sandboxRuntimeId then load row else 0).sum

@[simp] theorem seats_write (ledger : Ledger) (row : HarnessRow) :
    (ledger.write row).seats = ledger.seats := rfl

theorem write_write {ledger : Ledger} {first second : HarnessRow}
    (same : first.harnessInstanceId = second.harnessInstanceId) :
    (ledger.write first).write second = ledger.write second := by
  unfold write
  congr 1
  rw [List.map_map]
  apply List.map_congr_left
  intro other _
  simp only [Function.comp_apply]
  by_cases here : other.harnessInstanceId = first.harnessInstanceId
  · rw [if_pos here, if_pos same, if_pos (here.trans same)]
  · rw [if_neg here]

end Ledger

/-- A result that was read for the dispatched command of a cell. -/
structure Delivered (platform : HarnessPlatform) (row : HarnessRow) (command : RecordedCommand)
    (receipt : ResultReceipt) : Prop where
  dispatched : row.operationState = .dispatched
  held : row.command = some command
  operationId : receipt.core.operationId = command.operationId
  sequence : receipt.core.sequence = command.sequence
  enveloped : parseResultEnvelope receipt.core.result = .ok ()
  parsed : ∃ result, requireHarnessResult platform command.body.body.operation result
    row.maxActiveTurns = .ok receipt.core

/-- What the success of a command does to the counts of its Harness and to the
seats.  `Reported` restricts the inspections that relabel a seat. -/
inductive Projected (Reported : Seat -> SessionInspection -> Prop) (body : HarnessCommandBody)
    (row : HarnessRow) (seats : List Seat) : HarnessRow -> List Seat -> Prop where
  | kept : Projected Reported body row seats row seats
  | opened (opening : SessionOpenBody) (taken : Seat) (isOpen : body = .sessionOpen opening)
      (member : taken ∈ seats) (housed : taken.harnessInstanceId = row.harnessInstanceId)
      (named : taken.bindingId = opening.agentSessionRuntimeBindingId) :
      Projected Reported body row seats row
        (Ledger.reseat seats { taken with lifecycleState := .opened })
  | relabelled (taken : Seat) (inspection : SessionInspection) (member : taken ∈ seats)
      (housed : taken.harnessInstanceId = row.harnessInstanceId)
      (reported : Reported taken inspection)
      (noBarrier : ¬ (taken.lifecycleState = .active /\ inspection.cleanupState = .clean /\
        (inspection.state = .opened \/ inspection.state = .failed))) :
      Projected Reported body row seats row
        (Ledger.reseat seats { taken with lifecycleState := inspectedLifecycle inspection.state })
  | released (taken : Seat) (lifecycle : BindingLifecycle) (member : taken ∈ seats)
      (housed : taken.harnessInstanceId = row.harnessInstanceId)
      (ran : taken.lifecycleState = .active) (positive : 0 < row.activeTurnCount)
      (idle : lifecycle ≠ .active) :
      Projected Reported body row seats
        { row with activeTurnCount := row.activeTurnCount - 1 }
        (Ledger.reseat seats { taken with lifecycleState := lifecycle, currentTurnId := none })
  | started (start : TurnStartBody) (taken : Seat) (isStart : body = .turnStart start)
      (member : taken ∈ seats) (housed : taken.harnessInstanceId = row.harnessInstanceId)
      (idle : taken.lifecycleState = .opened \/ taken.lifecycleState = .opening)
      (room : row.activeTurnCount < row.maxActiveTurns) :
      Projected Reported body row seats
        { row with activeTurnCount := row.activeTurnCount + 1 }
        (Ledger.reseat seats
          { taken with lifecycleState := .active, currentTurnId := some start.turnId })
  | closed (taken : Seat) (member : taken ∈ seats)
      (housed : taken.harnessInstanceId = row.harnessInstanceId)
      (positive : 0 < row.openSessionCount)
      (room : (if taken.currentTurnId.isNone then 0 else 1) <= row.activeTurnCount) :
      Projected Reported body row seats
        { row with
          openSessionCount := row.openSessionCount - 1
          activeTurnCount := row.activeTurnCount - if taken.currentTurnId.isNone then 0 else 1 }
        (seats.filter (·.bindingId ≠ taken.bindingId))

/-- What a call has done to the command cell of a Harness. -/
inductive CellEvent where
  | quiet
  | queued (harnessInstanceId : String) (sequence : Nat)
  | dispatched (harnessInstanceId : String) (sequence : Nat)
  | settled (harnessInstanceId : String) (sequence : Nat)
deriving DecidableEq

/-- What the answer of a call says about the cells. -/
def cellEvent (call : HarnessCall) (answer : HarnessAnswer) : CellEvent :=
  match call, answer with
  | .queue input, .queued sequence => .queued input.harnessInstanceId sequence
  | .dispatch _, .dispatched (some command) => .dispatched command.harnessInstanceId command.sequence
  | .settle input, .settled .settled =>
    .settled input.result.harnessInstanceId input.result.sequence
  | _, _ => .quiet

/-- What one call may do to the ledger, and what that is to the cells. -/
inductive LedgerStep (platform : HarnessPlatform) (Reported : Seat -> SessionInspection -> Prop)
    (ledger : Ledger) : CellEvent -> Ledger -> Prop where
  | still : LedgerStep platform Reported ledger .quiet ledger
  | created (input : CreateNanoHostHarnessRuntimeInput) (bounds : List (String × Nat))
      (fresh : ∀ other ∈ ledger.harnesses, other.harnessInstanceId ≠ input.harnessInstanceId)
      (bounded : (bounds = ledger.bounds /\
          ∃ bound, (input.sandboxRuntimeId, bound) ∈ ledger.bounds) \/
        (bounds = ledger.bounds ++ [(input.sandboxRuntimeId, input.capacity)] /\
          ∀ bound ∈ ledger.bounds, bound.1 ≠ input.sandboxRuntimeId)) :
      LedgerStep platform Reported ledger .quiet
        { ledger with
          bounds := bounds, harnesses := ledger.harnesses ++ [standing input.harnessRow] }
  | opened (row : HarnessRow) (taken : Seat) (member : row ∈ ledger.harnesses)
      (fresh : ∀ other ∈ ledger.seats, other.bindingId ≠ taken.bindingId)
      (housed : taken.harnessInstanceId = row.harnessInstanceId)
      (opening : taken.lifecycleState = .opening) (idle : taken.currentTurnId = none) :
      LedgerStep platform Reported ledger .quiet
        ({ ledger with seats := ledger.seats ++ [taken] }.write
          { row with openSessionCount := row.openSessionCount + 1 })
  | queued (row : HarnessRow) (command : RecordedCommand) (member : row ∈ ledger.harnesses)
      (accepts : HarnessDb.acceptsCommand row) (current : command.sequence = row.nextSequence)
      (admitted : command.body.body.operation = .turnStart ->
        ∃ bound, (row.sandboxRuntimeId, bound) ∈ ledger.bounds /\
          ledger.sandboxLoad row.sandboxRuntimeId < bound) :
      LedgerStep platform Reported ledger (.queued row.harnessInstanceId command.sequence)
        (ledger.write { row with operationState := .queued, command := some command })
  | dispatched (row : HarnessRow) (command : RecordedCommand) (member : row ∈ ledger.harnesses)
      (waiting : row.operationState = .queued) (held : row.command = some command)
      (current : command.sequence = row.nextSequence)
      (consumed : ∀ receipt, row.receipt = some receipt -> isConsumed platform row receipt)
      (opening : ∀ opening, command.body.body = .sessionOpen opening ->
        ∃ taken ∈ ledger.seats, taken.bindingId = opening.agentSessionRuntimeBindingId /\
          taken.harnessInstanceId = row.harnessInstanceId /\ taken.lifecycleState = .opening) :
      LedgerStep platform Reported ledger (.dispatched row.harnessInstanceId command.sequence)
        (ledger.write { row with operationState := .dispatched, receipt := none })
  | widened (row : HarnessRow) (member : row ∈ ledger.harnesses)
      (unsettled : row.operationState = .queued \/ row.operationState = .dispatched) :
      LedgerStep platform Reported ledger .quiet
        (ledger.write { row with operationState := .unknown })
  | received (row : HarnessRow) (command : RecordedCommand) (receipt : ResultReceipt)
      (member : row ∈ ledger.harnesses) (delivered : Delivered platform row command receipt) :
      LedgerStep platform Reported ledger
        (.settled row.harnessInstanceId receipt.core.sequence)
        (ledger.write { row with operationState := .unknown, receipt := some receipt })
  | settled (row : HarnessRow) (command : RecordedCommand) (receipt : ResultReceipt)
      (counted : HarnessRow) (seats : List Seat) (member : row ∈ ledger.harnesses)
      (delivered : Delivered platform row command receipt)
      (projected : Projected Reported command.body.body row ledger.seats counted seats) :
      LedgerStep platform Reported ledger
        (.settled row.harnessInstanceId receipt.core.sequence)
        ({ ledger with seats := seats }.write
          { counted with
            operationState := .settled, receipt := some receipt
            nextSequence := counted.nextSequence + 1 })
  | acknowledged (row : HarnessRow) (receipt : ResultReceipt)
      (consumption : HarnessResultConsumption) (member : row ∈ ledger.harnesses)
      (retained : row.receipt = some receipt) (unconsumed : receipt.consumption = none)
      (exact : isConsumed platform row { receipt with consumption := some consumption }) :
      LedgerStep platform Reported ledger .quiet
        (ledger.write { row with receipt := some { receipt with consumption := some consumption } })

end Harness
end OpenKit
