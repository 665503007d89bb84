import OpenKit.PendingRequests.Lifecycle

namespace OpenKit
namespace PendingRequests

open Foundation PendingTable Table List PendingRequestRecord

/-!
# Operations as steps of rows

Every record operation acts on each row by an `OperationStep`, and a raise adds
a row that was just raised.  The batch operations run one statement on a list of
distinct rows; their fold is evaluated once, at every key.  The closeout is the
only operation that runs several statements on one row, and the tests it makes
in between are exactly what makes its last statement admissible.
-/

variable {env : PendingEnvironment} {table : PendingTable}

/-- One operation's effect on all rows. -/
def Evolves (before after : PendingTable) : Prop :=
  ∀ name, RowEvolves OperationStep Raised (before.find? name) (after.find? name)

theorem Evolves.refl (table : PendingTable) : Evolves table table :=
  fun name => RowEvolves.refl (fun _ => .unchanged) (table.find? name)

/-! ## One statement -/

variable {update : RecordUpdate} {record : PendingRequestRecord}

theorem find?_runWhere (update : RecordUpdate) (selects : PendingRequestRecord -> Bool)
    (name : String) : (table.runWhere update selects).find? name =
      (table.find? name).map fun record =>
        if (selects record && update.guard record) then update.write record else record :=
  find?_updateWhere ..

theorem find?_run (update : RecordUpdate) (requestId name : String) :
    (table.run update requestId).find? name = (table.find? name).map fun record =>
        if name = requestId /\ update.guard record then update.write record else record := by
  rw [run, find?_runWhere]
  cases found : table.find? name with
  | none => rfl
  | some =>
    have named := keyOf_of_find? found
    simp [named]

theorem runWhere_evolves {selects : PendingRequestRecord -> Bool}
    (admits : ∀ record ∈ table.rows, selects record -> update.guard record ->
      Admissible update record) : Evolves table (table.runWhere update selects) := by
  intro name
  rw [find?_runWhere]
  apply RowEvolves.of_map
  intro record found
  split
  next selected =>
    rw [Bool.and_eq_true] at selected
    exact .wrote update (admits record (mem_of_find? found) selected.1 selected.2)
  · exact .unchanged

/-- Most statements are admissible wherever their own clause holds. -/
def RecordUpdate.isFree : RecordUpdate -> Bool
  | .freeze .. | .closeOut .. | .refuseOnCloseout .. => false
  | _ => true

theorem admissible_of_isFree (free : update.isFree) (guard : update.guard record) :
    Admissible update record := by
  refine ⟨guard, ?_⟩
  cases update <;> trivial

theorem run_evolves (free : update.isFree) (requestId : String) :
    Evolves table (table.run update requestId) :=
  runWhere_evolves fun _ _ _ guard => admissible_of_isFree free guard

theorem compareAndSet_evolves (free : update.isFree) (requestId : String) :
    Evolves table (table.compareAndSet update requestId).2 :=
  run_evolves free requestId

/-! ## One statement on a batch of rows -/

variable {records : List PendingRequestRecord}

/-- A batch of distinct rows is updated once each. -/
theorem find?_foldl_run (update : RecordUpdate) {requestIds : List String}
    (distinct : requestIds.Nodup) (table : PendingTable) (name : String) :
    (requestIds.foldl (fun current requestId => current.run update requestId) table).find? name =
      (table.find? name).map fun record =>
        if name ∈ requestIds /\ update.guard record then update.write record else record := by
  induction requestIds generalizing table with
  | nil => simp
  | cons requestId rest ih =>
    rw [foldl_cons, ih (nodup_cons.mp distinct).2, find?_run, Option.map_map]
    congr 1
    funext record
    by_cases here : name = requestId
    · have notLater : name ∉ rest := here ▸ (nodup_cons.mp distinct).1
      simp [here, here ▸ notLater]
    · simp [here]

/-- A batch of listed rows evolves when the statement is admissible on them. -/
theorem foldl_run_evolves (distinct : (records.map requestId).Nodup)
    (listed : ∀ record ∈ records, record ∈ table.rows)
    (admits : ∀ record ∈ records, update.guard record -> Admissible update record) : Evolves table
      (records.foldl (fun current record => current.run update record.requestId) table) := by
  intro name
  have folded := find?_foldl_run update distinct table name
  rw [foldl_map] at folded
  rw [folded]
  apply RowEvolves.of_map
  intro record found
  split
  next selected =>
    rcases mem_map.mp selected.1 with ⟨other, mem, named⟩
    have same : other = record := by
      have foundOther := find?_of_mem (listed other mem)
      rw [named, found] at foundOther
      exact (Option.some.inj foundOther).symm
    exact .wrote update (same ▸ admits other mem (same ▸ selected.2))
  · exact .unchanged

private theorem foldl_counting (update : PendingRequestRecord -> RecordUpdate)
    (counts : PendingTable -> PendingRequestRecord -> Bool)
    (records : List PendingRequestRecord) (count : Nat) (table : PendingTable) :
    (records.foldl (fun (state : Nat × PendingTable) record =>
      (if counts state.2 record then state.1 + 1 else state.1,
        state.2.run (update record) record.requestId)) (count, table)).2 =
      records.foldl (fun current record => current.run (update record) record.requestId) table := by
  induction records generalizing count table with
  | nil => rfl
  | cons record rest ih => exact ih _ _

private theorem distinct_filter (table : PendingTable) (keeps : PendingRequestRecord -> Bool) :
    ((table.rows.filter keeps).map requestId).Nodup :=
  table.unique.sublist (filter_sublist.map _)

theorem settleUnfinishedClaims_evolves (now : String) (usable : PendingRequestRecord -> Bool) :
    Evolves table (table.settleUnfinishedClaims now usable).2 := by
  have plain : (table.settleUnfinishedClaims now usable).2 = _ :=
    foldl_counting (fun _ => .settle now)
      (fun current record => current.changes (.settle now) record.requestId) _ 0 table
  rw [plain]
  apply foldl_run_evolves (distinct_filter table _)
  · intro record mem
    exact (mem_filter.mp mem).1
  · intro record _ guard
    exact admissible_of_isFree rfl guard

theorem invalidateGoal_evolves (goalId reason : String) (actor : PendingRequestActor)
    (now : String) (plansOnly : Bool) :
    Evolves table (table.invalidateGoalPendingRequests goalId reason actor now plansOnly).2 := by
  have plain : (table.invalidateGoalPendingRequests goalId reason actor now plansOnly).2 = _ :=
    foldl_counting (fun _ => .endRequest .invalidated (some reason) actor now)
      (fun current record =>
        (current.invalidatePendingRequest record.requestId reason actor now).1.isSome) _ 0 table
  rw [plain]
  apply foldl_run_evolves (distinct_filter table _)
  · intro record mem
    exact (mem_filter.mp mem).1
  · intro record _ guard
    exact admissible_of_isFree rfl guard

/-! ## Raising, deciding, and claiming -/

theorem raise_evolves (input : RaisePendingRequestInput) :
    Evolves table (table.raisePendingRequest env input).2 := by
  unfold raisePendingRequest
  split
  · exact .refl table
  · exact .refl table
  · intro name
    rw [find?_insert]
    cases found : table.find? name with
    | some record => exact ⟨record, rfl, .unchanged⟩
    | none =>
      intro later inserted
      split at inserted
      · cases inserted
        exact ⟨input, rfl⟩
      · cases inserted

theorem deny_evolves (requestId : String) (decision : Decision) :
    Evolves table (table.denyPendingRequest requestId decision).2 := by
  unfold denyPendingRequest
  split
  · exact .refl table
  · split
    · exact compareAndSet_evolves rfl requestId
    · exact .refl table

theorem claimOrRefuseGrant_evolves (requestId : String) (decision : Decision)
    (evaluation : GrantEvaluation) :
    Evolves table (table.claimOrRefuseGrant env requestId decision evaluation).2 := by
  unfold claimOrRefuseGrant
  split
  · exact .refl table
  · split
    · exact .refl table
    · cases evaluation with
      | claim | refuse | endRequest => exact run_evolves rfl requestId

/-! ## Delivery -/

private theorem distinct_listThread (workspaceId threadId : String)
    (keeps : PendingRequestRecord -> Bool) :
    (((table.listThreadPendingRequests workspaceId threadId).filter keeps).map
      requestId).Nodup := by
  have sorted : ((table.listThreadPendingRequests workspaceId threadId).map requestId).Nodup :=
    ((mergeSort_perm _ _).map _).nodup_iff.mpr (distinct_filter table _)
  exact sorted.sublist (filter_sublist.map _)

/-- The selected batch: ready rows of the given list. -/
private theorem mem_selectReadyOutcomes {input : DeliveryInput}
    (mem : record ∈ selectReadyOutcomes records input) :
    record ∈ records /\ record.isReadyOutcome := by
  have kept := mem_filter.mp (mem_mergeSort.mp (mem_of_mem_take mem))
  simp only [Bool.and_eq_true] at kept
  exact ⟨kept.1, kept.2.2⟩

theorem freeze_evolves (input : DeliveryInput) :
    Evolves table (table.freezeReadyOutcomes input).2 := by
  apply foldl_run_evolves
  · refine List.Nodup.sublist ((take_sublist _ _).map _) ?_
    apply ((mergeSort_perm _ _).map _).nodup_iff.mpr
    exact (distinct_listThread _ _ _).sublist (filter_sublist.map _)
  · intro record mem
    have listed := (mem_filter.mp (mem_selectReadyOutcomes mem).1).1
    exact (mem_filter.mp (mem_mergeSort.mp listed)).1
  · intro record mem guard
    have ready := (mem_selectReadyOutcomes mem).2
    rw [isReadyOutcome, Bool.and_eq_true] at ready
    exact ⟨guard, ready.2⟩

/-! ## Closeout -/

variable {input : CloseoutInput}

/-- The row after a statement that runs under a test. -/
def rowAfter (test : Bool) (update : RecordUpdate) (record : PendingRequestRecord) :
    PendingRequestRecord :=
  if test /\ update.guard record then update.write record else record

theorem find?_runIf (test : Bool) (update : RecordUpdate) (requestId name : String) :
    (table.runIf test update requestId).find? name = (table.find? name).map fun record =>
        if name = requestId then rowAfter test update record else record := by
  unfold runIf rowAfter
  cases test with
  | false => simp
  | true =>
    rw [if_pos rfl, find?_run]
    congr 1
    funext record
    by_cases here : name = requestId
    · simp [here]
    · simp [here]

/-- A closeout of one record leaves all other rows alone. -/
theorem find?_closeoutRecord_other {name : String} (other : name ≠ record.requestId) :
    (table.closeoutRecord input record).find? name = table.find? name := by
  unfold closeoutRecord
  simp only [find?_runIf, if_neg other, Option.map_id_fun', id_eq]

section CloseoutRow

variable (input : CloseoutInput) (record : PendingRequestRecord)

def endedRow : PendingRequestRecord :=
  rowAfter (RecordUpdate.isOpen record)
    (.endRequest .invalidated (some (input.invalidatingEvent record)) input.actor input.now) record

def refusedRow : PendingRequestRecord :=
  rowAfter (isAbandonedGrant (endedRow input record))
    (.refuseOnCloseout (input.invalidatingEvent record) input.closeoutTurnId input.now)
    (endedRow input record)

def markedRow : PendingRequestRecord :=
  rowAfter (isOutstandingInvalidation (refusedRow input record))
    (.markInvalidation input.closeoutTurnId input.now) (refusedRow input record)

def closeoutRow : PendingRequestRecord :=
  rowAfter ((refusedRow input record).delivery = .undelivered &&
      (markedRow input record).isFinalOutcome)
    (.closeOut input.closeoutTurnId input.now) (markedRow input record)

end CloseoutRow

theorem find?_closeoutRecord_own (listed : table.find? record.requestId = some record) :
    (table.closeoutRecord input record).find? record.requestId =
      some (closeoutRow input record) := by
  unfold closeoutRecord readPendingRequest closeoutRow markedRow refusedRow endedRow
  simp only [find?_runIf, listed, Option.map_some, if_true, Option.getD_some]

private theorem closeoutWrite_rowAfter {test : Bool} (closeout : update.isCloseout)
    (admits : test -> update.guard record -> Admissible update record) :
    Relation.ReflTransGen CloseoutWrite record (rowAfter test update record) := by
  unfold rowAfter
  split
  next ran =>
    exact .single ⟨update, closeout, admits ran.1 ran.2, rfl⟩
  · exact .refl

/-- After the refusal no final outcome has an unsettled grant: an open request
has no resolution, an abandoned grant was just refused, a claimed one has
stopped the closeout, and a finished one has its disposition. -/
private theorem refusedRow_settled (sound : Sound record)
    (notExecuting : ¬ (record.claim = .claimed /\ record.disposition = none))
    (final : (refusedRow input record).isFinalOutcome) : ¬ (refusedRow input record).Unsettled := by
  intro unsettled
  cases abandoned : isAbandonedGrant (endedRow input record) with
  | true =>
    have refusable : (endedRow input record).claim = .unclaimed /\
        (endedRow input record).disposition = none := by
      simp only [isAbandonedGrant, Bool.and_eq_true, decide_eq_true_eq,
        Option.isNone_iff_eq_none] at abandoned
      exact ⟨abandoned.1.2, abandoned.2⟩
    have disposed := unsettled.2
    simp [refusedRow, rowAfter, abandoned, RecordUpdate.guard, RecordUpdate.write,
      refusable] at disposed
  | false =>
    have kept : refusedRow input record = endedRow input record := by
      simp [refusedRow, rowAfter, abandoned]
    rw [kept] at unsettled final
    cases opened : RecordUpdate.isOpen record with
    | true =>
      have isPending := (isOpen_iff.mp opened).1
      have granted := unsettled.1
      simp only [endedRow, rowAfter, opened, RecordUpdate.guard, and_self, if_true,
        RecordUpdate.write] at granted
      rw [sound.unresolved (by simp [isPending])] at granted
      cases granted
    | false =>
      have same : endedRow input record = record := by
        simp [endedRow, rowAfter, opened]
      rw [same] at unsettled final abandoned
      have intent : record.isCommandIntentApproval := by
        rcases isFinalOutcome_iff.mp final with ended | ⟨_, denied | answered | ⟨_, either⟩⟩
        · have none := sound.unresolved (by simp [ended])
          rw [unsettled.1] at none
          cases none
        · rw [unsettled.1] at denied
          cases denied
        · rw [unsettled.1] at answered
          cases answered
        · rcases either with intent | settled
          · exact intent
          · exact absurd unsettled.2 settled
      cases claim : record.claim with
      | unclaimed =>
        simp [isAbandonedGrant, intent, unsettled.1, unsettled.2, claim] at abandoned
      | claimed => exact notExecuting ⟨claim, unsettled.2⟩
      | finished => exact (sound.finished claim).2 unsettled.2

/-- The closeout of a row is a chain of admissible statements. -/
theorem closeoutRow_writes (sound : Sound record)
    (notExecuting : ¬ (record.claim = .claimed /\ record.disposition = none)) :
    Relation.ReflTransGen CloseoutWrite record (closeoutRow input record) := by
  have ended : Relation.ReflTransGen CloseoutWrite record (endedRow input record) :=
    closeoutWrite_rowAfter rfl fun _ guard => admissible_of_isFree rfl guard
  have refused : Relation.ReflTransGen CloseoutWrite (endedRow input record)
      (refusedRow input record) :=
    closeoutWrite_rowAfter rfl fun abandoned guard => ⟨guard, abandoned⟩
  have marked : Relation.ReflTransGen CloseoutWrite (refusedRow input record)
      (markedRow input record) :=
    closeoutWrite_rowAfter rfl fun _ guard => admissible_of_isFree rfl guard
  have sameOutcome : (markedRow input record).isFinalOutcome =
        (refusedRow input record).isFinalOutcome /\
      ((markedRow input record).Unsettled <-> (refusedRow input record).Unsettled) := by
    unfold markedRow rowAfter
    split
    · exact ⟨rfl, Iff.rfl⟩
    · exact ⟨rfl, Iff.rfl⟩
  have closed : Relation.ReflTransGen CloseoutWrite (markedRow input record)
      (closeoutRow input record) := by
    apply closeoutWrite_rowAfter rfl
    intro tested guard
    rw [Bool.and_eq_true] at tested
    refine ⟨guard, tested.2, ?_⟩
    rw [sameOutcome.2]
    exact refusedRow_settled sound notExecuting (sameOutcome.1 ▸ tested.2)
  exact ((ended.trans refused).trans marked).trans closed

theorem find?_foldl_closeout (distinct : (records.map requestId).Nodup) (table : PendingTable)
    (listed : ∀ record ∈ records, table.find? record.requestId = some record) (name : String) :
    (records.foldl (fun current record => current.closeoutRecord input record) table).find? name =
      (table.find? name).map fun record =>
        if name ∈ records.map requestId then closeoutRow input record else record := by
  induction records generalizing table with
  | nil => simp
  | cons record rest ih =>
    have parts := nodup_cons.mp distinct
    have stillListed : ∀ other ∈ rest,
        (table.closeoutRecord input record).find? other.requestId = some other := by
      intro other mem
      rw [find?_closeoutRecord_other]
      · exact listed other (mem_cons_of_mem _ mem)
      · intro same
        exact parts.1 (same ▸ mem_map_of_mem mem)
    rw [foldl_cons, ih parts.2 _ stillListed, map_cons]
    by_cases here : name = record.requestId
    · have own := listed record mem_cons_self
      rw [here, find?_closeoutRecord_own own, own, Option.map_some, Option.map_some,
        if_neg parts.1, if_pos mem_cons_self]
    · rw [find?_closeoutRecord_other here]
      simp only [mem_cons, here, false_or]

def CloseoutInput.selects (input : CloseoutInput) (record : PendingRequestRecord) : Bool :=
  record.workspaceId = input.workspaceId && record.threadId = input.threadId && input.usable record

/-- A claimed request whose execution has not finished. -/
def PendingRequestRecord.isExecuting (record : PendingRequestRecord) : Bool :=
  record.claim = .claimed && record.disposition.isNone

theorem mem_selected : record ∈
      (table.listThreadPendingRequests input.workspaceId input.threadId).filter input.usable <->
    record ∈ table.rows /\ input.selects record := by
  simp [CloseoutInput.selects, listThreadPendingRequests, mem_mergeSort, and_assoc]

theorem closeout_cases (table : PendingTable) (input : CloseoutInput) :
    ((∃ record ∈ table.rows, input.selects record /\ record.isExecuting) /\
      ∃ thrown, table.applyPendingCloseout input = (.error thrown, table)) \/
    ((∀ record ∈ table.rows, input.selects record -> record.isExecuting = false) /\
      (∃ shown, (table.applyPendingCloseout input).1 = .ok shown) /\
      ∀ name, (table.applyPendingCloseout input).2.find? name = (table.find? name).map fun record =>
          if input.selects record then closeoutRow input record else record) := by
  unfold applyPendingCloseout
  dsimp only
  split
  next executing =>
    rcases any_eq_true.mp executing with ⟨record, mem, running⟩
    exact .inl ⟨⟨record, (mem_selected.mp mem).1, (mem_selected.mp mem).2, running⟩, _, rfl⟩
  next idle =>
    refine .inr ⟨?_, ⟨_, rfl⟩, ?_⟩
    · intro record mem selected
      by_contra running
      rw [Bool.not_eq_false] at running
      exact idle (any_eq_true.mpr ⟨record, mem_selected.mpr ⟨mem, selected⟩, running⟩)
    · intro name
      rw [find?_foldl_closeout (distinct_listThread _ _ _) table
        (fun record mem => find?_of_mem (mem_selected.mp mem).1) name]
      cases found : table.find? name with
      | none => rfl
      | some record =>
        have chosen : name ∈ ((table.listThreadPendingRequests input.workspaceId
            input.threadId).filter input.usable).map requestId <->
            input.selects record := by
          constructor
          · intro inBatch
            rcases mem_map.mp inBatch with ⟨other, mem, same⟩
            have foundOther := find?_of_mem (mem_selected.mp mem).1
            rw [same, found] at foundOther
            cases foundOther
            exact (mem_selected.mp mem).2
          · intro selected
            exact mem_map.mpr
              ⟨record, mem_selected.mpr ⟨mem_of_find? found, selected⟩, keyOf_of_find? found⟩
        simp only [Option.map_some, chosen]

theorem closeout_evolves (sound : ∀ record ∈ table.rows, Sound record) (input : CloseoutInput) :
    Evolves table (table.applyPendingCloseout input).2 := by
  rcases closeout_cases table input with ⟨_, _, same⟩ | ⟨idle, _, rows⟩
  · rw [same]
    exact .refl table
  intro name
  rw [rows]
  refine .of_map ?_
  intro record found
  have mem := mem_of_find? found
  split
  next selected =>
    refine .closedOut _ (closeoutRow_writes (sound record mem) ?_)
    rintro ⟨claimed, unfinished⟩
    have running := idle record mem selected
    simp [isExecuting, claimed, unfinished] at running
  · exact .unchanged

/-! ## All operations -/

theorem applyOperation_evolves (sound : ∀ record ∈ table.rows, Sound record)
    (op : PendingOperation) : Evolves table (applyOperation env op table) := by
  cases op with
  | raise input => exact raise_evolves input
  | deny requestId decision => exact deny_evolves requestId decision
  | answer requestId | withdraw requestId | invalidate requestId | grantCommandIntent requestId
  | claimCommandIntentGrant requestId | refuseCommandIntentGrant requestId | finish requestId =>
    exact compareAndSet_evolves rfl requestId
  | invalidateGoal goalId reason actor now plansOnly =>
    exact invalidateGoal_evolves goalId reason actor now plansOnly
  | claimOrRefuseGrant requestId decision evaluation =>
    exact claimOrRefuseGrant_evolves requestId decision evaluation
  | settleUnfinishedClaims now usable => exact settleUnfinishedClaims_evolves now usable
  | freeze input => exact freeze_evolves input
  | release | prove | markUnknown => 
    exact runWhere_evolves fun _ _ _ guard => admissible_of_isFree rfl guard
  | closeout input => exact closeout_evolves sound input

end PendingRequests
end OpenKit
