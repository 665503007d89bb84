import OpenKit.PendingRequests.Guarantees

namespace OpenKit
namespace PendingRequests

open Foundation PendingTable Table RecordUpdate

/-!
# Thread closeout

A closeout runs up to four statements on every selected row.  The row that they
leave passes none of their tests, so it is settled, and a second closeout finds
nothing to do.
-/

variable {table : PendingTable} {record : PendingRequestRecord}

/-- No statement of a closeout applies to the row. -/
structure IsClosedOut (record : PendingRequestRecord) : Prop where
  ended : isOpen record = false
  refused : isAbandonedGrant record = false
  marked : isOutstandingInvalidation record = false
  delivered : record.isReadyOutcome = false

/-! ## One row -/

section Row

variable (input : CloseoutInput) (record : PendingRequestRecord)

theorem isOpen_endedRow : RecordUpdate.isOpen (endedRow input record) = false := by
  unfold endedRow rowAfter
  split
  · rfl
  next kept =>
    simpa [RecordUpdate.guard] using kept

theorem isAbandonedGrant_refusedRow : isAbandonedGrant (refusedRow input record) = false := by
  unfold refusedRow rowAfter
  split
  · simp [RecordUpdate.write, isAbandonedGrant]
  rename_i kept
  by_contra abandoned
  rw [Bool.not_eq_false] at abandoned
  refine kept ⟨abandoned, ?_⟩
  simp only [isAbandonedGrant, Bool.and_eq_true] at abandoned
  simp [RecordUpdate.guard, abandoned]

theorem isOutstandingInvalidation_markedRow :
    isOutstandingInvalidation (markedRow input record) = false := by
  unfold markedRow rowAfter
  split
  · simp [write, isOutstandingInvalidation]
  rename_i kept
  by_contra outstanding
  rw [Bool.not_eq_false] at outstanding
  refine kept ⟨outstanding, ?_⟩
  simp only [isOutstandingInvalidation, Bool.and_eq_true] at outstanding
  exact outstanding.2

/-- A closeout leaves nothing for another one. -/
theorem closeoutRow_isClosedOut : IsClosedOut (closeoutRow input record) := by
  have refused : isOpen (refusedRow input record) = false := by
    rw [<- isOpen_endedRow input record]
    unfold refusedRow rowAfter
    split <;> rfl
  have marked : isOpen (markedRow input record) = isOpen (refusedRow input record) /\
      isAbandonedGrant (markedRow input record) = isAbandonedGrant (refusedRow input record) /\
      (markedRow input record).delivery = (refusedRow input record).delivery := by
    unfold markedRow rowAfter
    split <;> exact ⟨rfl, rfl, rfl⟩
  have ended := marked.1.trans refused
  have settled := marked.2.1.trans (isAbandonedGrant_refusedRow input record)
  have outstanding := isOutstandingInvalidation_markedRow input record
  unfold closeoutRow rowAfter
  split
  · exact ⟨ended, settled, outstanding, rfl⟩
  rename_i kept
  refine ⟨ended, settled, outstanding, ?_⟩
  rw [<- marked.2.2] at kept
  by_contra ready
  rw [Bool.not_eq_false] at ready
  exact kept ⟨ready, (Bool.and_eq_true_iff.mp ready).1⟩

end Row

/-- A closeout leaves a closed-out row alone. -/
theorem closeoutRecord_of_isClosedOut (input : CloseoutInput)
    (listed : table.find? record.requestId = some record) (closed : IsClosedOut record) :
    table.closeoutRecord input record = table := by
  have delivered := closed.delivered
  unfold PendingRequestRecord.isReadyOutcome at delivered
  simp [closeoutRecord, readPendingRequest, runIf, listed, closed.ended, closed.refused,
    closed.marked, delivered]

/-! ## A Thread -/

theorem foldl_closeout_of_isClosedOut {records : List PendingRequestRecord} (input : CloseoutInput)
    (closed : ∀ record ∈ records, table.find? record.requestId = some record /\ IsClosedOut record) :
    records.foldl (fun current record => current.closeoutRecord input record) table = table := by
  induction records with
  | nil => rfl
  | cons record rest ih =>
    rcases closed record List.mem_cons_self with ⟨listed, isClosed⟩
    rw [List.foldl_cons, closeoutRecord_of_isClosedOut input listed isClosed]
    exact ih (fun other mem => closed other (List.mem_cons_of_mem _ mem))

/-- A closeout of closed-out requests changes nothing. -/
theorem closeout_of_isClosedOut {input : CloseoutInput}
    (closed : ∀ record ∈ table.rows, input.selects record ->
      IsClosedOut record /\ record.isExecuting = false) :
    ∃ shown, table.applyPendingCloseout input = (.ok shown, table) := by
  unfold applyPendingCloseout
  dsimp only
  rw [foldl_closeout_of_isClosedOut input, if_neg]
  · exact ⟨_, rfl⟩
  · intro executing
    rcases List.any_eq_true.mp executing with ⟨record, mem, running⟩
    rcases mem_selected.mp mem with ⟨stored, selected⟩
    exact absurd running (Bool.eq_false_iff.mp (closed record stored selected).2)
  · intro record mem
    rcases mem_selected.mp mem with ⟨stored, selected⟩
    exact ⟨find?_of_mem stored, (closed record stored selected).1⟩

/-- A command-intent grant that a closeout left alone cannot be claimed. -/
theorem IsClosedOut.unclaimable (closed : IsClosedOut record)
    (intent : record.isCommandIntentApproval) (callId now : String) :
    (RecordUpdate.claimIntent callId now).guard record = false := by
  by_contra claimable
  simp only [RecordUpdate.guard, RecordUpdate.isOpenGrant, Bool.not_eq_false,
    Bool.and_eq_true] at claimable
  have abandoned : isAbandonedGrant record := by
    simp only [isAbandonedGrant, Bool.and_eq_true]
    exact ⟨⟨⟨intent, claimable.1.1.1.2⟩, claimable.1.1.2⟩, claimable.1.2⟩
  rw [closed.refused] at abandoned
  cases abandoned

/-- What a closeout of a Thread does. -/
structure ClosesOut (env : PendingEnvironment) (table : PendingTable) (input : CloseoutInput) :
    Prop where
  throws : (∃ thrown, (table.applyPendingCloseout input).1 = .error thrown) <->
    ∃ record ∈ table.rows, input.selects record /\ record.isExecuting
  unchanged : ∀ thrown, (table.applyPendingCloseout input).1 = .error thrown ->
    (table.applyPendingCloseout input).2 = table
  others : ∀ record ∈ table.rows, input.selects record = false ->
    (table.applyPendingCloseout input).2.find? record.requestId = some record
  completes : ∀ published, (table.applyPendingCloseout input).1 = .ok published ->
    ∀ record ∈ table.rows, input.selects record ->
    ∃ later, (table.applyPendingCloseout input).2.find? record.requestId = some later /\
      later.state ≠ .pending /\ (later.isFinalOutcome -> later.delivery ≠ .undelivered) /\
      (later.isCommandIntentApproval -> ∀ now,
        ((table.applyPendingCloseout input).2.claimCommandIntentGrant env record.requestId now).1 =
          none)
  /-- Another closeout of the same requests changes nothing. -/
  again : ∀ published, (table.applyPendingCloseout input).1 = .ok published ->
    ∀ next : CloseoutInput, next.selects = input.selects ->
    ∃ more, (table.applyPendingCloseout input).2.applyPendingCloseout next =
      (.ok more, (table.applyPendingCloseout input).2)

/-- After every history of the pending requests a closeout of a Thread throws exactly while one
of its requests executes, and then changes nothing.  Otherwise it leaves no request of
the Thread pending, no final outcome undelivered and no grant that can be claimed. -/
theorem thread_closeout (env : PendingEnvironment) (operations : List PendingOperation)
    (input : CloseoutInput) : ClosesOut env (pendingAfter env operations) input := by
  have sound : ∀ record ∈ (pendingAfter env operations).rows, Sound record :=
    fun record member => sound_pendingAfter operations (find?_of_mem member)
  generalize pendingAfter env operations = table at sound
  rcases closeout_cases table input with ⟨executing, thrown, same⟩ | ⟨idle, ⟨published, returned⟩, rows⟩
  · refine ⟨⟨fun _ => executing, fun _ => ⟨thrown, by rw [same]⟩⟩, ?_, ?_, ?_, ?_⟩
    all_goals rw [same]
    · exact fun _ _ => rfl
    · exact fun record member _ => find?_of_mem member
    · exact fun _ impossible => nomatch impossible
    · exact fun _ impossible => nomatch impossible
  · have writes : ∀ record ∈ table.rows, input.selects record ->
        Relation.ReflTransGen CloseoutWrite record (closeoutRow input record) := by
      intro record member selected
      refine closeoutRow_writes (sound record member) ?_
      rintro ⟨claimed, unfinished⟩
      have running := idle record member selected
      simp [PendingRequestRecord.isExecuting, claimed, unfinished] at running
    refine ⟨⟨?_, ?_⟩, ?_, ?_, ?_, ?_⟩
    · rintro ⟨thrown, impossible⟩
      rw [returned] at impossible
      cases impossible
    · rintro ⟨record, member, selected, running⟩
      rw [idle record member selected] at running
      cases running
    · intro thrown impossible
      rw [returned] at impossible
      cases impossible
    · intro record member unselected
      rw [rows, find?_of_mem member, Option.map_some, if_neg (Bool.eq_false_iff.mp unselected)]
    · intro _ _ record member selected
      have closed := closeoutRow_isClosedOut input record
      have soundLater := (sound record member).operation (.closedOut _ (writes record member selected))
      have found : (table.applyPendingCloseout input).2.find? record.requestId =
          some (closeoutRow input record) := by
        rw [rows, find?_of_mem member, Option.map_some, if_pos selected]
      refine ⟨_, found, ?_, ?_, ?_⟩
      · intro isPending
        have opened := isOpen_iff.mpr ⟨isPending, (soundLater.pending isPending).1⟩
        rw [closed.ended] at opened
        cases opened
      · intro final undelivered
        have ready := closed.delivered
        simp [PendingRequestRecord.isReadyOutcome, final, undelivered] at ready
      · intro intent now
        have unclaimable := closed.unclaimable intent (env.executionCallIdForRequest record.requestId) now
        simp [claimCommandIntentGrant, compareAndSet, changes, readPendingRequest, found, unclaimable]
    · intro _ _ next same
      refine closeout_of_isClosedOut ?_
      intro later stored selected
      have found := find?_of_mem stored
      rw [rows] at found
      rcases Option.map_eq_some_iff.mp found with ⟨record, before, rfl⟩
      have member := mem_of_find? before
      split at selected
      next chosen =>
        rw [if_pos chosen]
        refine ⟨closeoutRow_isClosedOut input record, ?_⟩
        have progress := (sound record member).operation_progress
          (.closedOut _ (writes record member chosen))
        have sameClaim := (closeout_moves (writes record member chosen)).1
        have notRunning := idle record member chosen
        by_cases unfinished : record.disposition = none
        · have unclaimed : record.claim ≠ .claimed := by
            simpa [PendingRequestRecord.isExecuting, unfinished] using notRunning
          simp [PendingRequestRecord.isExecuting, sameClaim, unclaimed]
        · simp [PendingRequestRecord.isExecuting, progress.disposition unfinished,
            Option.isSome_iff_ne_none, unfinished]
      next skipped =>
        rw [same] at selected
        exact absurd selected skipped

end PendingRequests
end OpenKit
