import OpenKit.Foundation.Transactions
import OpenKit.PendingRequests.Operations

namespace OpenKit
namespace PendingRequests

open Foundation

/-!
# At most one execution and at most one delivery

Both guarantees speak about two points of one history.  Every row that exists
at the first point exists at the second, and `Progress` says what it has kept;
between two neighbouring points the claim and the delivery make one move.
-/

variable {env : PendingEnvironment}

/-- The table after a history that starts from no requests. -/
def pendingAfter (env : PendingEnvironment) (operations : List PendingOperation) : PendingTable :=
  runCalls (applyOperation env) operations Table.empty

/-! ## Rows along a history -/

variable {table : PendingTable} {name : String} {record after : PendingRequestRecord}
  (operations : List PendingOperation)

private theorem sound_applyOperation (sound : ∀ record ∈ table.rows, Sound record)
    (op : PendingOperation) :
    ∀ record ∈ (applyOperation env op table).rows, Sound record := by
  intro record mem
  have found := Table.find?_of_mem mem
  apply (applyOperation_evolves sound op record.requestId).invariant
  · intro fresh raised
    rcases raised with ⟨input, same⟩
    rw [same]
    exact sound_raised input
  · intro before after step soundBefore
    exact soundBefore.operation step
  · intro before foundBefore
    exact sound before (Table.mem_of_find? foundBefore)
  · exact found

private theorem sound_runCalls (sound : ∀ record ∈ table.rows, Sound record) :
    ∀ record ∈ (runCalls (applyOperation env) operations table).rows, Sound record :=
  runCalls_invariant (fun table : PendingTable => ∀ record ∈ table.rows, Sound record)
    (fun op _ _ before => sound_applyOperation before op) sound

/-- Every row of every history is sound. -/
theorem sound_pendingAfter (found : (pendingAfter env operations).find? name = some record) :
    Sound record := by
  apply sound_runCalls operations ?_ record (Table.mem_of_find? found)
  intro entry never
  cases never

theorem progress_runCalls (sound : ∀ record ∈ table.rows, Sound record)
    (found : table.find? name = some record) :
    ∃ final, (runCalls (applyOperation env) operations table).find? name = some final /\
      Progress record final := by
  induction operations generalizing table record with
  | nil => exact ⟨record, found, .refl record⟩
  | cons op rest ih =>
    have evolved := @applyOperation_evolves env _ sound op name
    rw [found] at evolved
    rcases evolved with ⟨middle, foundMiddle, step⟩
    rcases ih (sound_applyOperation sound op) foundMiddle with ⟨final, foundFinal, later⟩
    have first := (sound record (Table.mem_of_find? found)).operation_progress step
    exact ⟨final, foundFinal, first.trans later⟩

private theorem sound_rows : ∀ record ∈ (pendingAfter env operations).rows, Sound record := by
  intro record mem
  exact sound_pendingAfter operations (Table.find?_of_mem mem)

private theorem step_of_operation {op : PendingOperation}
    (found : (pendingAfter env operations).find? name = some record)
    (foundAfter : (applyOperation env op (pendingAfter env operations)).find? name =
      some after) : OperationStep record after := by
  have evolved := @applyOperation_evolves env _ (@sound_rows env operations) op name
  rw [found, foundAfter] at evolved
  rcases evolved with ⟨later, same, step⟩
  cases same
  exact step

/-! ## A granted command intent -/

private def plainEnvironment : PendingEnvironment where
  sha256Hex := id
  parseObject := some
  executionCallIdForRequest := fun requestId => "call:" ++ requestId

private def planRequest : RaisePendingRequestInput where
  requestId := "request"
  workspaceId := "workspace"
  threadId := "thread"
  raisingTurnId := "turn-1"
  requestItemId := "item"
  kind := .approval
  requesterKind := .coordinator
  agentId := none
  agentSessionId := none
  responsibleUserId := "user"
  call := none
  governedIntent := some ⟨"goal.plan.approve", some "goal", ""⟩
  assistantHandoff := none
  questionDigest := none
  now := "t1"

private def planDecision : Decision :=
  ⟨⟨.user, "user"⟩, none, "t2"⟩

private def planDelivery (turnId now : String) : DeliveryInput where
  workspaceId := "workspace"
  threadId := "thread"
  turnId := turnId
  executor := .coordinator
  agentId := none
  cause := .outcome
  responsibleUserId := none
  now := now
  usable := fun _ => true

private def grantedPlan : List PendingOperation :=
  [.raise planRequest, .grantCommandIntent "request" planDecision]

/-- The grant is claimed twice, finished, and denied too late. -/
private def executedPlan : List PendingOperation :=
  [.claimCommandIntentGrant "request" "t3", .claimCommandIntentGrant "request" "t4",
    .finish "request" .approvedExecuted none none "t5", .deny "request" planDecision]

/-! ## Execution -/

/-- Over every history: a row that has left `pending` keeps its state, its
resolution, its decider, and its time; its claim never goes back and its
disposition is never rewritten; one operation moves the claim by at most one
place and takes it only on an open grant; and a pending row is unclaimed,
undelivered, and without disposition. -/
theorem pendingExecution_at_most_once (env : PendingEnvironment)
    (earlier later : List PendingOperation) :
    (∀ name record, (pendingAfter env earlier).find? name = some record ->
      ∃ final, (runCalls (applyOperation env) later (pendingAfter env earlier)).find? name =
          some final /\ (record.state ≠ .pending ->
          final.state = record.state /\ final.resolution = record.resolution /\
            final.decidingActor = record.decidingActor /\ final.decidedAt = record.decidedAt) /\
        record.claim.rank <= final.claim.rank /\
        (record.disposition ≠ none -> final.disposition = record.disposition)) /\
    (∀ operation name record after, (pendingAfter env earlier).find? name = some record ->
      (applyOperation env operation (pendingAfter env earlier)).find? name = some after ->
        ClaimMove record after) /\
    (∀ name record, (pendingAfter env earlier).find? name = some record ->
      record.state = .pending -> record.claim = .unclaimed /\ record.disposition = none /\
          record.delivery = .undelivered) := by
  refine ⟨?_, ?_, ?_⟩
  · intro name record found
    rcases progress_runCalls later (sound_rows earlier) found with ⟨final, foundFinal, progress⟩
    refine ⟨final, foundFinal, ?_, progress.claim, progress.disposition⟩
    intro decided
    have kept := progress.decision decided
    exact ⟨kept.1, kept.2.1, kept.2.2.1, kept.2.2.2.1⟩
  · intro operation name record after found foundAfter
    exact (sound_pendingAfter earlier found).operation_claimMove
      (step_of_operation earlier found foundAfter)
  · intro name record found
    exact (sound_pendingAfter earlier found).pending

/-- A late denial of an executed plan leaves its grant. -/
theorem executedPlan_keeps_grant : ∃ final, (runCalls (applyOperation plainEnvironment) executedPlan
        (pendingAfter plainEnvironment grantedPlan)).find? "request" = some final /\
      final.resolution = some .granted /\ final.decidedAt = some "t2" := by
  have executed := pendingExecution_at_most_once plainEnvironment grantedPlan executedPlan
  have stored : ((pendingAfter plainEnvironment grantedPlan).find? "request").any (fun record =>
      decide (record.state = .resolved /\ record.resolution = some .granted /\
        record.decidedAt = some "t2")) := by
    decide +kernel
  rcases (Option.any_eq_true _ _).mp stored with ⟨record, found, holds⟩
  rcases of_decide_eq_true holds with ⟨resolved, granted, decided⟩
  rcases executed.1 "request" record found with ⟨final, foundFinal, kept, _, _⟩
  have same := kept (by simp [resolved])
  exact ⟨final, foundFinal, same.2.1.trans granted, same.2.2.2.trans decided⟩

/-! ## Delivery -/

private theorem prove_own_turn {turnId now : String} (found : table.find? name = some record)
    (foundAfter : (applyOperation env (.prove turnId now) table).find? name = some after)
    (undelivered : record.delivery ≠ .delivered) (delivered : after.delivery = .delivered) :
    record.deliveryTurnId = some turnId /\ after.deliveryTurnId = some turnId := by
  have ran : (table.runWhere (.moveFrozen turnId true now) (fun _ => true)).find? name =
      some after := foundAfter
  rw [find?_runWhere, found, Option.map_some, Option.some.injEq] at ran
  split at ran
  next selected =>
    simp only [Bool.true_and, RecordUpdate.guard, Bool.and_eq_true, decide_eq_true_eq] at selected
    rw [<- ran]
    exact ⟨selected.2, selected.2⟩
  · rw [ran] at undelivered
    exact absurd delivered undelivered

/-- Over every history: one operation moves a delivery only along its five
edges; `delivered`, `deliveryUnknown`, and `closedOut` are never left, with the
Turn they name; a frozen row names its Turn and has a final outcome; the
publication Turn is never rewritten; and a delivery is proved only by the Turn
that the row names. -/
theorem outcomeDelivery_at_most_once (env : PendingEnvironment)
    (earlier later : List PendingOperation) :
    (∀ operation name record after, (pendingAfter env earlier).find? name = some record ->
      (applyOperation env operation (pendingAfter env earlier)).find? name = some after ->
        DeliveryMove record after) /\
    (∀ name record, (pendingAfter env earlier).find? name = some record ->
      ∃ final, (runCalls (applyOperation env) later (pendingAfter env earlier)).find? name =
          some final /\ (record.delivery.isTerminal ->
          final.delivery = record.delivery /\ final.deliveryTurnId = record.deliveryTurnId) /\
        (record.publicationTurnId ≠ none -> final.publicationTurnId = record.publicationTurnId)) /\
    (∀ name record, (pendingAfter env earlier).find? name = some record ->
      record.delivery = .frozen ->
        (∃ turnId, record.deliveryTurnId = some turnId) /\ record.isFinalOutcome) /\
    (∀ turnId now name record after, (pendingAfter env earlier).find? name = some record ->
      (applyOperation env (.prove turnId now) (pendingAfter env earlier)).find? name = some after ->
      record.delivery ≠ .delivered -> after.delivery = .delivered ->
        record.deliveryTurnId = some turnId /\ after.deliveryTurnId = some turnId) := by
  refine ⟨?_, ?_, ?_, ?_⟩
  · intro operation name record after found foundAfter
    exact operation_deliveryMove (step_of_operation earlier found foundAfter)
  · intro name record found
    rcases progress_runCalls later (sound_rows earlier) found with ⟨final, foundFinal, progress⟩
    exact ⟨final, foundFinal, progress.delivery, progress.publication⟩
  · intro name record found frozen
    have sound := sound_pendingAfter earlier found
    exact ⟨Option.ne_none_iff_exists'.mp (sound.frozen frozen), sound.final (by simp [frozen])⟩
  · intro turnId now name record after found foundAfter
    exact prove_own_turn found foundAfter

/-- A delivered plan stays delivered in its Turn, whatever is frozen later. -/
theorem deliveredPlan_keeps_turn : ∃ final, (runCalls (applyOperation plainEnvironment)
        [.freeze (planDelivery "turn-3" "t8"), .prove "turn-3" "t9"]
        (pendingAfter plainEnvironment (grantedPlan ++
          [.freeze (planDelivery "turn-2" "t6"), .prove "turn-2" "t7"]))).find? "request" =
          some final /\ final.delivery = .delivered /\ final.deliveryTurnId = some "turn-2" := by
  have delivery := outcomeDelivery_at_most_once plainEnvironment
    (grantedPlan ++ [.freeze (planDelivery "turn-2" "t6"), .prove "turn-2" "t7"])
    [.freeze (planDelivery "turn-3" "t8"), .prove "turn-3" "t9"]
  have stored : ((pendingAfter plainEnvironment (grantedPlan ++
      [.freeze (planDelivery "turn-2" "t6"), .prove "turn-2" "t7"])).find? "request").any
        (fun record => decide (record.delivery = .delivered /\
          record.deliveryTurnId = some "turn-2")) := by
    decide +kernel
  rcases (Option.any_eq_true _ _).mp stored with ⟨record, found, holds⟩
  rcases of_decide_eq_true holds with ⟨delivered, turn⟩
  rcases delivery.2.1 "request" record found with ⟨final, foundFinal, kept, _⟩
  have same := kept (by rw [delivered]; rfl)
  exact ⟨final, foundFinal, same.1.trans delivered, same.2.trans turn⟩

end PendingRequests
end OpenKit
