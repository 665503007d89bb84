import Mathlib.Data.List.Pairwise
import OpenKit.ExecutionAttempts.Records
import OpenKit.Foundation.Fallible

namespace OpenKit
namespace ExecutionAttempts

open Foundation Writes SchedulerDb Table

/-!
# Attempts progress one way

`Advance` lists what a statement may do to one attempt, and `SchedulerStep` what
the statements of one call may do to the two tables together.  Every call is a
sequence of such steps, also when it throws after a write.  The invariants are
read off the steps: attempts only progress, and a live attempt belongs to an
admitted entry.

The second one rests on the index of live Turns.  A requeued entry has no other
live attempt, because all attempts of an entry are attempts of its Turn.
-/

variable {db after : SchedulerDb} {key : String} {platform : SchedulerPlatform}
  {call : SchedulerCall} {before : SchedulerExecutionAttempt}

/-! ## Steps -/

/-- The operations that write an attempt. -/
inductive AttemptAct where
  | bind | finalize | operate | observe | close | release | fence
deriving DecidableEq

/-- How a call may write an attempt. -/
def SchedulerCall.actOn (call : SchedulerCall) (attemptId : String) : Option AttemptAct :=
  match call with
  | .bind input => if input.attemptId = attemptId then some .bind else none
  | .finalize input => if input.attemptId = attemptId then some .finalize else none
  | .recordOperation input => if input.attemptId = attemptId then some .operate else none
  | .acceptObservation (some observation) =>
    if observation.correlation.attemptId = attemptId then some .observe else none
  | .markClosing input => if input.attemptId = attemptId then some .close else none
  | .closeWithoutEffects input => if input.attemptId = attemptId then some .release else none
  | .closeWithFence input => if input.correlation.attemptId = attemptId then some .fence else none
  | .markForTerminalTurn _ => some .close
  | _ => none

/-- What one statement may do to an attempt. -/
inductive Advance : AttemptAct -> SchedulerExecutionAttempt -> SchedulerExecutionAttempt -> Prop where
  | bound (before : SchedulerExecutionAttempt) (agentSessionId timestamp : String)
      (opened : before.phase = .opened) :
      Advance .bind before
        { before with agentSessionId := some agentSessionId, updatedAt := timestamp }
  | finalized (before : SchedulerExecutionAttempt) (inputRef bindingRef timestamp : String)
      (opened : before.phase = .opened) :
      Advance .finalize before
        { before with
          inputRef := some inputRef, bindingRef := some bindingRef, updatedAt := timestamp }
  | operated (before : SchedulerExecutionAttempt) (operationId timestamp : String)
      (deadline : Option String) (opened : before.phase = .opened)
      (fixed : before.deadline = none \/ deadline = before.deadline) :
      Advance .operate before
        { before with
          operationId := some operationId, disposition := .unknown, deadline := deadline
          updatedAt := timestamp }
  | observed (before : SchedulerExecutionAttempt) (disposition : ExecutionOperationDisposition)
      (outcomeRef fenceRef : Option String) (timestamp : String) (live : before.phase ≠ .closed)
      (operated : before.operationId ≠ none)
      (definite : before.disposition = .accepted -> disposition = .accepted) :
      Advance .observe before
        { before with
          disposition := disposition, outcomeRef := before.outcomeRef.or outcomeRef
          fenceRef := before.fenceRef.or fenceRef, updatedAt := timestamp }
  | closing (before : SchedulerExecutionAttempt) (cause timestamp : String)
      (outcomeRef : Option String) (live : before.phase ≠ .closed) :
      Advance .close before
        { before with
          phase := .closing, terminalCause := before.terminalCause.or (some cause)
          outcomeRef := before.outcomeRef.or outcomeRef, updatedAt := timestamp }
  | released (before : SchedulerExecutionAttempt) (cause timestamp : String)
      (live : before.phase ≠ .closed) (unaccepted : before.disposition ≠ .accepted) :
      Advance .release before
        { before with
          phase := .closed, disposition := .notAccepted
          terminalCause := before.terminalCause.or (some cause), updatedAt := timestamp }
  | fenced (before : SchedulerExecutionAttempt) (fenceRef timestamp : String)
      (closing : before.phase = .closing)
      (free : before.fenceRef = none \/ before.fenceRef = some fenceRef) :
      Advance .fence before
        { before with phase := .closed, fenceRef := some fenceRef, updatedAt := timestamp }

structure AttemptWritten (db after : SchedulerDb) (before later : SchedulerExecutionAttempt) :
    Prop where
  found : db.attempt? before.attemptId = some before
  attempts : ∀ name, after.attempt? name =
    if name = before.attemptId then some later else db.attempt? name

structure EntryWritten (db after : SchedulerDb) (before later : SchedulerAdmissionEntry) : Prop where
  found : db.admission? before.queueEntryId = some before
  entries : ∀ name, after.admission? name =
    if name = before.queueEntryId then some later else db.admission? name

theorem AttemptWritten.eq_of_found {row later attempt : SchedulerExecutionAttempt}
    (wrote : AttemptWritten db after row later) (here : key = row.attemptId)
    (found : db.attempt? key = some attempt) : row = attempt :=
  Option.some.inj (wrote.found.symm.trans (here ▸ found))

theorem EntryWritten.eq_of_found {row later entry : SchedulerAdmissionEntry} {entryId : String}
    (wrote : EntryWritten db after row later) (here : entryId = row.queueEntryId)
    (found : db.admission? entryId = some entry) : row = entry :=
  Option.some.inj (wrote.found.symm.trans (here ▸ found))

/-- What the statements of a call may do to the tables. -/
inductive SchedulerStep (call : SchedulerCall) (db after : SchedulerDb) : Prop where
  | enqueued (entry : SchedulerAdmissionEntry) (fresh : db.admission? entry.queueEntryId = none)
      (entries : ∀ name, after.admission? name =
        if name = entry.queueEntryId then some entry else db.admission? name)
      (attempts : after.attempts = db.attempts)
  | restated (entry later : SchedulerAdmissionEntry) (written : EntryWritten db after entry later)
      (idle : entry.status ≠ .admitted) (sameTurn : later.turnId = entry.turnId)
      (attempts : after.attempts = db.attempts)
  | admitted (entry : SchedulerAdmissionEntry) (input : CreateSchedulerExecutionAttemptInput)
      (written : EntryWritten db after entry { entry with status := .admitted })
      (fresh : db.attempt? input.attemptId = none)
      (attempts : ∀ name, after.attempt? name =
        if name = input.attemptId then some (newAttempt entry input) else db.attempt? name)
  | advanced (act : AttemptAct) (before later : SchedulerExecutionAttempt)
      (acts : call.actOn before.attemptId = some act) (advance : Advance act before later)
      (written : AttemptWritten db after before later) (entries : after.entries = db.entries)
  | requeued (before later : SchedulerExecutionAttempt) (entry : SchedulerAdmissionEntry)
      (acts : call.actOn before.attemptId = some .release)
      (advance : Advance .release before later) (written : AttemptWritten db after before later)
      (owner : entry.queueEntryId = before.queueEntryId)
      (returned : EntryWritten db after entry { entry with status := .queued })

/-- What a whole call may do. -/
abbrev SchedulerSteps (call : SchedulerCall) : SchedulerDb -> SchedulerDb -> Prop :=
  Relation.ReflTransGen (SchedulerStep call)

/-! ## Statements -/

namespace SchedulerDb

variable {row : SchedulerExecutionAttempt}

theorem attemptId_of_attempt? (found : db.attempt? key = some row) : row.attemptId = key :=
  keyOf_of_find? found

variable {entryId : String}

theorem queueEntryId_of_admission? {row : SchedulerAdmissionEntry}
    (found : db.admission? entryId = some row) : row.queueEntryId = entryId :=
  keyOf_of_find? found

theorem attempt?_congr (same : after.attempts = db.attempts) (name : String) :
    after.attempt? name = db.attempt? name := by
  unfold attempt?
  rw [same]

theorem admission?_congr (same : after.entries = db.entries) (name : String) :
    after.admission? name = db.admission? name := by
  unfold admission?
  rw [same]

theorem readAttempt_ok (read : db.readAttempt platform key = .ok row) :
    db.attempt? key = some row := by
  unfold readAttempt at read
  split at read
  · cases read
  rename_i found
  split at read
  · cases read
    exact found
  · cases read

theorem readEntry_ok {ownership : Option String} {row : SchedulerAdmissionEntry}
    (read : db.readEntry platform entryId ownership = .ok row) :
    db.admission? entryId = some row := by
  unfold readEntry at read
  split at read
  · cases read
  rename_i found
  split at read
  · cases read
    exact (Option.filter_eq_some_iff.mp found).1
  · cases read

theorem putAttempts_ok
    {attempts : Table SchedulerExecutionAttempt String SchedulerExecutionAttempt.attemptId}
    (put : db.putAttempts attempts = .ok after) :
    after.attempts = attempts /\ after.entries = db.entries := by
  unfold putAttempts at put
  split at put
  · cases put
    exact ⟨rfl, rfl⟩
  · cases put

theorem putEntries_ok
    {entries : Table SchedulerAdmissionEntry String SchedulerAdmissionEntry.queueEntryId}
    (put : db.putEntries entries = .ok after) :
    after.entries = entries /\ after.attempts = db.attempts := by
  unfold putEntries at put
  split at put
  · cases put
    exact ⟨rfl, rfl⟩
  · cases put

variable {changed : Bool}

theorem updateAttempt_ok {guard : SchedulerExecutionAttempt -> Bool}
    {write : SchedulerExecutionAttempt -> SchedulerExecutionAttempt}
    {keeps : ∀ row, (write row).attemptId = row.attemptId}
    (updated : updateAttempt key guard write keeps db = .ok (changed, after)) :
    (after = db /\ ∀ row, db.attempt? key = some row -> guard row = false) \/
      ∃ row, row.attemptId = key /\ guard row /\
        AttemptWritten db after row (write row) /\ after.entries = db.entries := by
  unfold updateAttempt at updated
  split at updated
  next selected =>
    rcases exists_of_map_ok updated with ⟨_, put, same⟩
    cases same
    rw [Option.any_eq_true] at selected
    rcases selected with ⟨row, found, passes⟩
    have named := attemptId_of_attempt? found
    rcases putAttempts_ok put with ⟨attempts, entries⟩
    refine .inr ⟨row, named, passes, ⟨by rw [named]; exact found, ?_⟩, entries⟩
    intro name
    unfold attempt?
    rw [attempts, named]
    exact find?_updateWhere_key_eq found write keeps name
  next missed =>
    cases updated
    refine .inl ⟨rfl, ?_⟩
    intro row found
    rw [found, Option.any_some, Bool.not_eq_true] at missed
    exact missed

theorem updateEntry_ok {guard : SchedulerAdmissionEntry -> Bool}
    {write : SchedulerAdmissionEntry -> SchedulerAdmissionEntry}
    {keeps : ∀ row, (write row).queueEntryId = row.queueEntryId}
    (updated : updateEntry entryId guard write keeps db = .ok (changed, after)) :
    (changed = false /\ after = db) \/ ∃ row, row.queueEntryId = entryId /\ guard row /\
        EntryWritten db after row (write row) /\ after.attempts = db.attempts := by
  unfold updateEntry at updated
  split at updated
  next selected =>
    rcases exists_of_map_ok updated with ⟨_, put, same⟩
    cases same
    rw [Option.any_eq_true] at selected
    rcases selected with ⟨row, found, passes⟩
    have named := queueEntryId_of_admission? found
    rcases putEntries_ok put with ⟨entries, attempts⟩
    refine .inr ⟨row, named, passes, ⟨by rw [named]; exact found, ?_⟩, attempts⟩
    intro name
    unfold admission?
    rw [entries, named]
    exact find?_updateWhere_key_eq found write keeps name
  · cases updated
    exact .inl ⟨rfl, rfl⟩

variable {result : Unit}

theorem insertAttempt_ok {attempt : SchedulerExecutionAttempt}
    (inserted : db.insertAttempt attempt = .ok (result, after)) :
    db.attempt? attempt.attemptId = none /\ after.entries = db.entries /\
      ∀ name, after.attempt? name =
        if name = attempt.attemptId then some attempt else db.attempt? name := by
  unfold insertAttempt at inserted
  split at inserted
  · cases inserted
  rename_i free
  rcases exists_of_map_ok inserted with ⟨_, put, same⟩
  cases same
  rcases putAttempts_ok put with ⟨attempts, entries⟩
  refine ⟨free, entries, ?_⟩
  intro name
  unfold attempt?
  rw [attempts]
  exact find?_insert_of_free free name

theorem insertEntry_ok {entry : SchedulerAdmissionEntry}
    (inserted : db.insertEntry entry = .ok (result, after)) :
    db.admission? entry.queueEntryId = none /\ after.attempts = db.attempts /\
      ∀ name, after.admission? name =
        if name = entry.queueEntryId then some entry else db.admission? name := by
  unfold insertEntry at inserted
  split at inserted
  · cases inserted
  rename_i free
  rcases exists_of_map_ok inserted with ⟨_, put, same⟩
  cases same
  rcases putEntries_ok put with ⟨entries, attempts⟩
  refine ⟨free, attempts, ?_⟩
  intro name
  unfold admission?
  rw [entries]
  exact find?_insert_of_free free name

end SchedulerDb

/-! ## Calls take steps -/

section Calls

variable {current : SchedulerDb}

variable {world : SchedulerWorld}

/-- A statement on an attempt, after which the call only reads. -/
theorem steps_of_updateAttempt {α : Type} {guard : SchedulerExecutionAttempt -> Bool}
    {write : SchedulerExecutionAttempt -> SchedulerExecutionAttempt}
    {keeps : ∀ row, (write row).attemptId = row.attemptId} {act : AttemptAct}
    {next : Bool -> SchedulerWrites α} (reached : SchedulerSteps call db current)
    (acts : call.actOn key = some act)
    (advances : ∀ row, current.attempt? key = some row -> guard row ->
      Advance act row (write row)) (reads : ∀ changed after, SchedulerSteps call db after ->
      SchedulerSteps call db (final (next changed) after)) : SchedulerSteps call db
      (final (statement (updateAttempt key guard write keeps) >>= next) current) := by
  refine final_bind_statement reached ?_
  intro changed after updated
  apply reads
  rcases updateAttempt_ok updated with ⟨same, _⟩ | ⟨row, named, passes, wrote, entries⟩
  · exact same ▸ reached
  · refine reached.tail (.advanced act row (write row) (named ▸ acts) ?_ wrote entries)
    exact advances row (named ▸ wrote.found) passes

theorem steps_of_updateEntry {α : Type} {entryId : String}
    {guard : SchedulerAdmissionEntry -> Bool}
    {write : SchedulerAdmissionEntry -> SchedulerAdmissionEntry}
    {keeps : ∀ row, (write row).queueEntryId = row.queueEntryId} {next : Bool -> SchedulerWrites α}
    (idle : ∀ row, db.admission? entryId = some row -> guard row ->
      row.status ≠ .admitted) (sameTurn : ∀ row, (write row).turnId = row.turnId)
    (reads : ∀ changed after, SchedulerSteps call db after ->
      SchedulerSteps call db (final (next changed) after)) : SchedulerSteps call db
      (final (statement (updateEntry entryId guard write keeps) >>= next) db) := by
  refine final_bind_statement .refl ?_
  intro changed after updated
  apply reads
  rcases updateEntry_ok updated with ⟨_, same⟩ | ⟨row, named, passes, wrote, attempts⟩
  · exact same ▸ .refl
  · refine .single (.restated row (write row) wrote ?_ (sameTurn row) attempts)
    exact idle row (named ▸ wrote.found) passes

/-- Reading a row back after a checked update. -/
theorem steps_of_readBack {α : Type} {refused : Prop} [Decidable refused] {error : SchedulerError}
    {read : SchedulerDb -> Except SchedulerError α} (reached : SchedulerSteps call db after) :
    SchedulerSteps call db (final (throwIf refused error >>= fun _ => query read) after) :=
  final_bind_throwIf reached (fun _ => reached)

theorem createEntry_steps (call : SchedulerCall) (input : CreateSchedulerAdmissionEntryInput) :
    SchedulerSteps call db (final (createSchedulerAdmissionEntry platform input) db) := by
  refine final_bind_throwIf .refl (fun _ => final_atomically .refl ?_)
  intro value after ran
  rcases bind_query_ok ran with ⟨existing, _, rest⟩
  cases existing with
  | some =>
    rw [(pure_ok rest).2]
  | none =>
    rcases bind_statement_ok rest with ⟨_, wrote, inserted, readBack⟩
    rw [(query_ok readBack).2]
    rcases insertEntry_ok inserted with ⟨free, attempts, entries⟩
    exact .single (.enqueued input.entry free entries attempts)

theorem deny_steps (call : SchedulerCall) (entryId : String)
    (denialReason : AdmissionDenialReason) : SchedulerSteps call db
      (final (denySchedulerAdmissionEntry platform entryId denialReason) db) := by
  refine final_bind_query .refl ?_
  intro entry read
  refine final_bind_throwIf .refl ?_
  intro isQueued
  refine steps_of_updateEntry ?_ (fun _ => rfl) (fun _ _ reached => reached)
  intro row found _
  -- The statement has no guard, but the row is the one that was read.
  rw [readEntry_ok read] at found
  cases found
  rw [not_not.mp isQueued]
  decide

theorem retryDenied_steps (call : SchedulerCall) (entryId workspaceId : String) :
    SchedulerSteps call db
      (final (retryDeniedSchedulerAdmissionEntry platform world entryId workspaceId) db) := by
  refine final_atomically .refl ?_
  intro value after ran
  rcases bind_query_ok ran with ⟨entry, _, afterEntry⟩
  rcases bind_throwIf_ok afterEntry with ⟨_, afterStatus⟩
  rcases bind_query_ok afterStatus with ⟨_, _, afterQueue⟩
  rcases bind_statement_ok afterQueue with ⟨_, wrote, updated, afterUpdate⟩
  rcases bind_throwIf_ok afterUpdate with ⟨_, readBack⟩
  rw [(query_ok readBack).2]
  rcases updateEntry_ok updated with ⟨_, same⟩ | ⟨row, _, passes, isWritten, attempts⟩
  · exact same ▸ .refl
  · simp only [Bool.and_eq_true, decide_eq_true_eq] at passes
    refine .single (.restated row _ isWritten ?_ rfl attempts)
    rw [passes.2]
    decide

theorem cancel_steps (call : SchedulerCall) (entryId workspaceId : String) :
    SchedulerSteps call db
      (final (cancelSchedulerAdmissionEntry platform entryId workspaceId) db) := by
  refine final_bind_query .refl ?_
  intro entry _
  refine final_bind_throwIf .refl ?_
  intro actionable
  refine steps_of_updateEntry ?_ (fun _ => rfl) (fun _ _ reached => steps_of_readBack reached)
  intro row _ passes isAdmitted
  simp only [Bool.and_eq_true, decide_eq_true_eq] at passes
  apply actionable
  rw [<- passes.2, isAdmitted]
  decide

theorem create_steps (call : SchedulerCall) (input : CreateSchedulerExecutionAttemptInput) :
    SchedulerSteps call db (final (createSchedulerExecutionAttempt platform world input) db) := by
  refine final_atomically .refl ?_
  intro value after ran
  rcases bind_query_ok ran with ⟨entry, isRead, afterEntry⟩
  rcases bind_throwIf_ok afterEntry with ⟨_, afterStatus⟩
  rcases bind_statement_ok afterStatus with ⟨_, inserted, insertion, afterInsert⟩
  rcases bind_statement_ok afterInsert with ⟨acquired, wrote, updated, afterUpdate⟩
  rcases bind_throwIf_ok afterUpdate with ⟨isAcquired, readBack⟩
  rw [(query_ok readBack).2]
  rcases insertAttempt_ok insertion with ⟨free, sameEntries, attempts⟩
  rcases updateEntry_ok updated with ⟨still, _⟩ | ⟨row, named, _, isWritten, sameAttempts⟩
  · exact absurd still isAcquired
  have found := readEntry_ok isRead
  have entries := admission?_congr sameEntries
  have isEntry : row = entry :=
    isWritten.eq_of_found (named.trans (queueEntryId_of_admission? found)).symm
      ((entries _).trans found)
  subst isEntry
  refine .single (.admitted row input ⟨?_, ?_⟩ free ?_)
  · rw [<- entries]
    exact isWritten.found
  · intro name
    rw [isWritten.entries, entries]
  · intro name
    rw [attempt?_congr sameAttempts]
    exact attempts name

theorem bind_steps (input : BindSchedulerExecutionAttemptSessionInput) :
    SchedulerSteps (.bind input) db
      (final (bindSchedulerExecutionAttemptSession platform input) db) := by
  refine final_bind_query .refl ?_
  intro attempt read
  refine final_bind_throwIf .refl (fun _ => ?_)
  rw [attemptId_of_attempt? (readAttempt_ok read)]
  refine steps_of_updateAttempt .refl (if_pos rfl) ?_ (fun _ _ reached => steps_of_readBack reached)
  intro row _ passes
  simp only [Bool.and_eq_true, decide_eq_true_eq] at passes
  exact .bound row _ _ passes.1

theorem finalize_steps (input : FinalizeSchedulerExecutionAttemptInput) :
    SchedulerSteps (.finalize input) db
      (final (finalizeSchedulerExecutionAttemptInput platform input) db) := by
  refine final_bind_query .refl ?_
  intro attempt read
  refine final_bind_throwIf .refl (fun _ => ?_)
  rw [attemptId_of_attempt? (readAttempt_ok read)]
  refine steps_of_updateAttempt .refl (if_pos rfl) ?_ (fun _ _ reached => steps_of_readBack reached)
  intro row _ passes
  simp only [Bool.and_eq_true, decide_eq_true_eq] at passes
  exact .finalized row _ _ _ passes.1.1

/-- The deadline of an operation is the one before it, or the first one. -/
theorem operationDeadline_fixed {attempt : SchedulerExecutionAttempt}
    {input : RecordSchedulerExecutionOperationInput} {deadline : Option String}
    (computed : operationDeadline platform attempt input = .ok deadline)
    (once : ¬ (input.submission /\ attempt.deadline ≠ none)) :
    attempt.deadline = none \/ deadline = attempt.deadline := by
  unfold operationDeadline at computed
  split at computed
  next submits =>
    left
    by_contra present
    exact once ⟨submits, present⟩
  · cases computed
    exact .inr rfl

theorem recordOperation_steps (input : RecordSchedulerExecutionOperationInput) :
    SchedulerSteps (.recordOperation input) db
      (final (recordSchedulerExecutionOperation platform world input) db) := by
  refine final_bind_throwIf .refl (fun _ => ?_)
  refine final_bind_query .refl ?_
  intro attempt read
  refine final_bind_query .refl (fun _ _ => ?_)
  refine final_bind_throwIf .refl (fun _ => ?_)
  refine final_bind_throwIf .refl (fun _ => ?_)
  refine final_bind_throwIf .refl (fun _ => ?_)
  refine final_bind_throwIf .refl (fun once => ?_)
  refine final_bind_query .refl (fun deadline computed => ?_)
  rw [attemptId_of_attempt? (readAttempt_ok read)]
  refine steps_of_updateAttempt .refl (if_pos rfl) ?_ (fun _ _ reached => steps_of_readBack reached)
  intro row _ passes
  simp only [Bool.and_eq_true, decide_eq_true_eq] at passes
  refine .operated row _ _ _ passes.1.1 ?_
  rw [passes.2]
  exact operationDeadline_fixed computed once

/-- A matching observation names the operation and keeps acceptance. -/
theorem observedDisposition_definite {attempt : SchedulerExecutionAttempt}
    {observation : ExecutionBackendObservation} {disposition : ExecutionOperationDisposition}
    (observed : observedDisposition attempt observation = some disposition)
    (accepted : attempt.disposition = .accepted) : disposition = .accepted := by
  unfold observedDisposition at observed
  split at observed
  · cases observed
  rename_i reported _
  split at observed
  · cases observed
  · cases reported <;> simp_all

theorem observedAttempt_ok {attempt : SchedulerExecutionAttempt}
    (read : db.observedAttempt platform key = .ok (some attempt)) :
    db.attempt? key = some attempt := by
  unfold observedAttempt at read
  split at read
  · cases read
  rename_i found
  split at read
  · cases read
    exact found
  · cases read

theorem acceptObservation_steps (observation : Option ExecutionBackendObservation) :
    SchedulerSteps (.acceptObservation observation) db
      (final (acceptSchedulerExecutionObservation platform observation) db) := by
  cases observation with
  | none => exact .refl
  | some observation =>
    refine final_bind_query .refl ?_
    intro found read
    cases found with
    | none => exact .refl
    | some attempt =>
      have hit := observedAttempt_ok read
      cases observed : observedDisposition attempt observation with
      | none =>
        simp only [observed]
        exact .refl
      | some =>
        simp only [observed]
        split
        · exact .refl
        rename_i live
        rw [attemptId_of_attempt? hit]
        refine steps_of_updateAttempt .refl (if_pos rfl) ?_
          (fun _ _ reached => final_bind_query reached (fun _ _ => reached))
        intro row foundRow passes
        simp only [Bool.and_eq_true, decide_eq_true_eq, Option.isSome_iff_ne_none] at passes
        rw [hit] at foundRow
        cases foundRow
        exact .observed attempt _ _ _ _ live passes.1.2 (observedDisposition_definite observed)

theorem markClosing_steps (input : MarkSchedulerExecutionAttemptClosingInput)
    (acts : call.actOn input.attemptId = some .close) (reached : SchedulerSteps call db current) :
    SchedulerSteps call db
      (final (markSchedulerExecutionAttemptClosing platform input) current) := by
  refine final_bind_query reached (fun _ _ => ?_)
  refine steps_of_updateAttempt reached acts ?_ (fun _ _ reached => reached)
  intro row _ passes
  exact .closing row _ _ _ (of_decide_eq_true passes)

theorem closeWithoutEffects_step (input : CloseSchedulerExecutionAttemptWithoutEffectsInput) :
    Relation.ReflGen (SchedulerStep (.closeWithoutEffects input)) db
      (final (closeSchedulerExecutionAttemptWithoutEffects platform input) db) := by
  refine final_atomically .refl ?_
  intro value after ran
  rcases bind_query_ok ran with ⟨attempt, read, afterAttempt⟩
  rcases bind_throwIf_ok afterAttempt with ⟨_, afterProof⟩
  have found := readAttempt_ok read
  have sameId := attemptId_of_attempt? found
  split at afterProof
  · rw [(pure_ok afterProof).2]
  rename_i live
  rcases bind_throwIf_ok afterProof with ⟨unaccepted, afterDisposition⟩
  rcases bind_query_ok afterDisposition with ⟨_, _, afterEntry⟩
  rcases bind_statement_ok afterEntry with ⟨_, closed, closes, afterClose⟩
  have isClosed : ∃ later, Advance .release attempt later /\
      AttemptWritten db closed attempt later /\ closed.entries = db.entries := by
    rcases updateAttempt_ok closes with ⟨_, missed⟩ | ⟨row, named, _, wrote, entries⟩
    · -- The row was live when it was read, so the statement did write it.
      have isClosed := missed attempt (sameId ▸ found)
      exact absurd (decide_eq_true live) (Bool.not_eq_true _ ▸ isClosed)
    · have isRow : row = attempt := wrote.eq_of_found (named.trans sameId).symm found
      subst isRow
      exact ⟨_, .released row _ _ live unaccepted, wrote, entries⟩
  rcases isClosed with ⟨later, advance, wrote, sameEntries⟩
  have acts : (SchedulerCall.closeWithoutEffects input).actOn attempt.attemptId =
      some .release := if_pos sameId.symm
  rcases bind_ok afterClose with ⟨_, final, requeues, readBack⟩
  rw [(query_ok readBack).2]
  unfold requeueEntry at requeues
  split at requeues
  · rcases updateEntry_ok (statement_ok requeues) with
      ⟨_, same⟩ | ⟨entry, named, _, returned, sameAttempts⟩
    · exact same ▸ .single (.advanced .release attempt later acts advance wrote sameEntries)
    · have entries := admission?_congr sameEntries
      refine .single (.requeued attempt later entry acts advance ⟨wrote.found, ?_⟩ named ⟨?_, ?_⟩)
      · intro name
        rw [<- wrote.attempts, attempt?_congr sameAttempts]
      · rw [<- entries]
        exact returned.found
      · intro name
        rw [returned.entries, entries]
  · rw [(pure_ok requeues).2]
    exact .single (.advanced .release attempt later acts advance wrote sameEntries)

theorem closeWithFence_steps (input : CloseSchedulerExecutionAttemptWithFenceInput) :
    SchedulerSteps (.closeWithFence input) db
      (final (closeSchedulerExecutionAttemptWithFence platform input) db) := by
  refine final_bind_query .refl ?_
  intro attempt read
  have found := readAttempt_ok read
  refine final_bind_query .refl (fun _ _ => ?_)
  refine final_bind_throwIf .refl (fun proved => ?_)
  split
  · exact .refl
  refine final_bind_throwIf .refl (fun _ => ?_)
  rw [attemptId_of_attempt? found]
  refine steps_of_updateAttempt .refl (if_pos rfl) ?_ (fun _ _ reached => steps_of_readBack reached)
  intro row foundRow passes
  rw [found] at foundRow
  cases foundRow
  simp only [Bool.and_eq_true, decide_eq_true_eq] at passes
  refine .fenced attempt _ _ passes.1.1 ?_
  by_contra conflicts
  rw [not_or] at conflicts
  exact proved (.inr (.inr (.inl conflicts)))

theorem markEach_steps (turn : TerminalTurn) (attempts : List SchedulerExecutionAttempt)
    (reached : SchedulerSteps (.markForTerminalTurn turn) db current) :
    SchedulerSteps (.markForTerminalTurn turn) db
      (final (markEach platform turn attempts) current) := by
  induction attempts generalizing current with
  | nil => exact reached
  | cons attempt rest ih =>
    unfold markEach
    split
    · exact ih reached
    · exact final_bind (markClosing_steps _ rfl reached) (fun _ _ _ marked => ih marked)

theorem markForTerminalTurn_steps (turn : TerminalTurn) :
    SchedulerSteps (.markForTerminalTurn turn) db
      (final (markSchedulerAttemptForTerminalTurn platform turn) db) := by
  unfold markSchedulerAttemptForTerminalTurn
  split
  · exact final_bind_query .refl (fun attempts _ => markEach_steps turn attempts .refl)
  · exact .refl

/-- Every call takes the tables by steps, whether or not it throws. -/
theorem applyCall_steps (platform : SchedulerPlatform) (event : SchedulerEvent) (db : SchedulerDb) :
    SchedulerSteps event.call db (applyCall platform event db) := by
  unfold applyCall
  cases event.call with
  | createEntry input => exact createEntry_steps _ input
  | deny entryId denialReason => exact deny_steps _ entryId denialReason
  | retryDenied entryId workspaceId => exact retryDenied_steps _ entryId workspaceId
  | cancel entryId workspaceId => exact cancel_steps _ entryId workspaceId
  | create input => exact create_steps _ input
  | bind input => exact bind_steps input
  | finalize input => exact finalize_steps input
  | recordOperation input => exact recordOperation_steps input
  | acceptObservation observation => exact acceptObservation_steps observation
  | markClosing input => exact markClosing_steps input (if_pos rfl) .refl
  | closeWithoutEffects input => exact (closeWithoutEffects_step input).to_reflTransGen
  | closeWithFence input => exact closeWithFence_steps input
  | markForTerminalTurn turn => exact markForTerminalTurn_steps turn

end Calls

/-! ## Progress of one attempt -/

variable {first second : SchedulerExecutionAttempt}

/-- The order of the phases. -/
def ExecutionPhase.rank : ExecutionPhase -> Nat
  | .opened => 0
  | .closing => 1
  | .closed => 2

/-- A reference that is set stays. -/
def Kept (before later : Option String) : Prop :=
  ∀ value, before = some value -> later = some value

theorem Kept.refl (value : Option String) : Kept value value :=
  fun _ present => present

theorem Kept.trans {first second third : Option String} (earlier : Kept first second)
    (later : Kept second third) : Kept first third :=
  fun value present => later value (earlier value present)

theorem Kept.or (value other : Option String) : Kept value (value.or other) := by
  intro data present
  rw [present, Option.some_or]

theorem Kept.of_free {before later : Option String} (free : before = none \/ later = before) :
    Kept before later := by
  intro value present
  rcases free with unset | same
  · rw [unset] at present
    cases present
  · exact same.trans present

/-- What never goes back about an attempt. -/
structure Progress (before later : SchedulerExecutionAttempt) : Prop where
  phase : before.phase.rank <= later.phase.rank
  closed : before.phase = .closed -> later = before
  deadline : Kept before.deadline later.deadline
  terminalCause : Kept before.terminalCause later.terminalCause
  outcomeRef : Kept before.outcomeRef later.outcomeRef
  fenceRef : Kept before.fenceRef later.fenceRef

theorem Progress.refl (attempt : SchedulerExecutionAttempt) : Progress attempt attempt where
  phase := Nat.le_refl _
  closed := fun _ => rfl
  deadline := .refl _
  terminalCause := .refl _
  outcomeRef := .refl _
  fenceRef := .refl _

theorem Progress.trans {third : SchedulerExecutionAttempt} (earlier : Progress first second)
    (later : Progress second third) : Progress first third where
  phase := Nat.le_trans earlier.phase later.phase
  closed := by
    intro isClosed
    have same := earlier.closed isClosed
    rw [later.closed (same ▸ isClosed), same]
  deadline := earlier.deadline.trans later.deadline
  terminalCause := earlier.terminalCause.trans later.terminalCause
  outcomeRef := earlier.outcomeRef.trans later.outcomeRef
  fenceRef := earlier.fenceRef.trans later.fenceRef

namespace Advance

variable {act : AttemptAct} {later : SchedulerExecutionAttempt}

/-- A statement writes no closed attempt. -/
theorem live (advance : Advance act before later) : before.phase ≠ .closed := by
  intro isClosed
  cases advance with
  | bound _ _ _ opened | finalized _ _ _ _ opened | operated _ _ _ _ opened =>
    rw [opened] at isClosed
    cases isClosed
  | observed _ _ _ _ _ live | closing _ _ _ _ live | released _ _ _ live => exact live isClosed
  | fenced _ _ _ closing =>
    rw [closing] at isClosed
    cases isClosed

/-- A statement keeps what the attempt belongs to. -/
theorem identity (advance : Advance act before later) :
    later.attemptId = before.attemptId /\ later.queueEntryId = before.queueEntryId /\
      later.turnId = before.turnId := by
  cases advance <;> exact ⟨rfl, rfl, rfl⟩

theorem closes (advance : Advance .release before later) : later.phase = .closed := by
  cases advance
  rfl

theorem rank_le_closed (phase : ExecutionPhase) : phase.rank <= ExecutionPhase.closed.rank := by
  cases phase <;> decide

theorem progress (advance : Advance act before later) : Progress before later := by
  have live := advance.live
  have closed : before.phase = .closed -> later = before := fun isClosed => absurd isClosed live
  cases advance with
  | bound _ | finalized _ =>
    exact ⟨Nat.le_refl _, closed, .refl _, .refl _, .refl _, .refl _⟩
  | operated _ operationId timestamp deadline opened fixed =>
    exact ⟨Nat.le_refl _, closed, .of_free fixed, .refl _, .refl _, .refl _⟩
  | observed =>
    exact ⟨Nat.le_refl _, closed, .refl _, .refl _, .or _ _, .or _ _⟩
  | closing =>
    refine ⟨?_, closed, .refl _, .or _ _, .or _ _, .refl _⟩
    change before.phase.rank <= ExecutionPhase.closing.rank
    cases isPhase : before.phase with
    | opened | closing => decide
    | closed => exact absurd isPhase live
  | released =>
    exact ⟨rank_le_closed _, closed, .refl _, .or _ _, .refl _, .refl _⟩
  | fenced _ fenceRef timestamp closing free =>
    exact ⟨rank_le_closed _, closed, .refl _, .refl _, .refl _, .of_free (free.imp_right Eq.symm)⟩

end Advance

/-! ## Progress of the tables -/

namespace SchedulerStep

theorem attempt (stepped : SchedulerStep call db after)
    (found : db.attempt? key = some before) : after.attempt? key = some before \/
      ∃ act later, call.actOn key = some act /\ Advance act before later /\
        after.attempt? key = some later := by
  -- A written attempt is this one or leaves this one alone.
  have of_written {row later : SchedulerExecutionAttempt} {act : AttemptAct}
      (acts : call.actOn row.attemptId = some act) (advance : Advance act row later)
      (wrote : AttemptWritten db after row later) :
      after.attempt? key = some before \/
        ∃ act later, call.actOn key = some act /\ Advance act before later /\
          after.attempt? key = some later := by
    by_cases here : key = row.attemptId
    · have same : row = before := wrote.eq_of_found here found
      subst same
      exact .inr ⟨act, later, here ▸ acts, advance, by rw [wrote.attempts, if_pos here]⟩
    · left
      rw [wrote.attempts, if_neg here, found]
  have of_same (same : after.attempts = db.attempts) : after.attempt? key = some before :=
    (attempt?_congr same key).trans found
  cases stepped with
  | enqueued _ _ _ attempts | restated _ _ _ _ _ attempts => exact .inl (of_same attempts)
  | admitted entry input wrote fresh attempts =>
    left
    rw [attempts, if_neg, found]
    intro here
    rw [here, fresh] at found
    cases found
  | advanced act row later acts advance wrote => exact of_written acts advance wrote
  | requeued row later entry acts advance wrote =>
    exact of_written acts advance wrote

theorem progress (stepped : SchedulerStep call db after) (found : db.attempt? key = some before) :
    ∃ later, after.attempt? key = some later /\ Progress before later := by
  rcases stepped.attempt found with kept | ⟨_, later, _, advance, wrote⟩
  · exact ⟨before, kept, .refl before⟩
  · exact ⟨later, wrote, advance.progress⟩

end SchedulerStep

theorem progress_applyCall (platform : SchedulerPlatform) (event : SchedulerEvent)
    (found : db.attempt? key = some before) :
    ∃ later, (applyCall platform event db).attempt? key = some later /\
      Progress before later := by
  generalize isAfter : applyCall platform event db = after
  have steps := isAfter ▸ applyCall_steps platform event db
  clear isAfter
  induction steps with
  | refl => exact ⟨before, found, .refl before⟩
  | tail _ stepped ih =>
    rcases ih with ⟨middle, foundMiddle, earlier⟩
    rcases stepped.progress foundMiddle with ⟨later, foundLater, next⟩
    exact ⟨later, foundLater, earlier.trans next⟩

/-! ## Entries of live attempts -/

/-- Every attempt has an entry of its Turn, which is admitted while the attempt is live. -/
def Owned (db : SchedulerDb) : Prop :=
  ∀ attemptId attempt, db.attempt? attemptId = some attempt ->
    ∃ entry, db.admission? attempt.queueEntryId = some entry /\ entry.turnId = attempt.turnId /\
      (attempt.phase ≠ .closed -> entry.status = .admitted)

/-- Two rows hold one of the boundaries that live attempts exclude each other from. -/
def SharesBoundary (first second : SchedulerExecutionAttempt) : Prop :=
  first.turnId = second.turnId \/
    (first.workspaceId = second.workspaceId /\ first.threadId = second.threadId) \/
    (first.agentSessionId ≠ none /\ first.agentSessionId = second.agentSessionId)

/-- The live indexes let no two attempts share a boundary. -/
theorem SchedulerDb.eq_of_sharesBoundary (db : SchedulerDb) (left : first ∈ db.attempts.rows)
    (right : second ∈ db.attempts.rows) (leftLive : first.phase ≠ .closed)
    (rightLive : second.phase ≠ .closed) (shares : SharesBoundary first second) :
    first = second := by
  have leftIn : first ∈ db.attempts.rows.filter (·.isLive) :=
    List.mem_filter.mpr ⟨left, decide_eq_true leftLive⟩
  have rightIn : second ∈ db.attempts.rows.filter (·.isLive) :=
    List.mem_filter.mpr ⟨right, decide_eq_true rightLive⟩
  rcases shares with turn | ⟨workspace, thread⟩ | ⟨bound, session⟩
  · exact List.inj_on_of_nodup_map db.liveIndexes.turn leftIn rightIn turn
  · exact List.inj_on_of_nodup_map db.liveIndexes.thread leftIn rightIn (Prod.ext workspace thread)
  · by_contra differs
    rcases Option.ne_none_iff_exists'.mp bound with ⟨agentSessionId, isBound⟩
    have symmetric : Std.Symm (fun one other : SchedulerExecutionAttempt =>
        ∀ here, one.agentSessionId = some here -> ∀ there, other.agentSessionId = some there ->
          here ≠ there) :=
      ⟨fun _ _ distinct there isThere here isHere => (distinct here isHere there isThere).symm⟩
    have apart := (List.pairwise_filterMap.mp db.liveIndexes.session).forall leftIn rightIn differs
    exact apart _ isBound _ (session ▸ isBound) rfl

namespace Owned

/-- Attempts that are as before, or advanced, keep an entry that stays. -/
theorem of_entries (owned : Owned db) (stepped : SchedulerStep call db after)
    (old : ∀ key later, after.attempt? key = some later ->
      ∃ before, db.attempt? key = some before)
    (entries : ∀ key before later, db.attempt? key = some before ->
      after.attempt? key = some later -> ∀ entry,
      db.admission? before.queueEntryId = some entry ->
      ∃ kept, after.admission? before.queueEntryId = some kept /\ kept.turnId = entry.turnId /\
        (later.phase ≠ .closed -> entry.status = .admitted -> kept.status = .admitted)) :
    Owned after := by
  intro key later foundLater
  rcases old key later foundLater with ⟨before, found⟩
  rcases owned key before found with ⟨entry, hit, sameTurn, admitted⟩
  rcases entries key before later found foundLater entry hit with
    ⟨kept, isKept, keptTurn, keptStatus⟩
  have carried : later.queueEntryId = before.queueEntryId /\ later.turnId = before.turnId /\
      (later.phase ≠ .closed -> before.phase ≠ .closed) := by
    rcases stepped.attempt found with same | ⟨_, other, _, advance, wrote⟩
    · rw [foundLater] at same
      cases same
      exact ⟨rfl, rfl, id⟩
    · rw [foundLater] at wrote
      cases wrote
      exact ⟨advance.identity.2.1, advance.identity.2.2, fun _ => advance.live⟩
  refine ⟨kept, by rw [carried.1]; exact isKept, ?_, ?_⟩
  · rw [keptTurn, sameTurn, carried.2.1]
  · intro live
    exact keptStatus live (admitted (carried.2.2 live))

/-- An entry that is written under its identity, read at any identity. -/
theorem entry_written {wrote later entry : SchedulerAdmissionEntry}
    (isWritten : EntryWritten db after wrote later) (sameTurn : later.turnId = wrote.turnId)
    {entryId : String} (hit : db.admission? entryId = some entry)
    (status : entryId = wrote.queueEntryId -> wrote = entry ->
      entry.status = .admitted -> later.status = .admitted) :
    ∃ kept, after.admission? entryId = some kept /\ kept.turnId = entry.turnId /\
      (entry.status = .admitted -> kept.status = .admitted) := by
  by_cases here : entryId = wrote.queueEntryId
  · have same : wrote = entry := isWritten.eq_of_found here hit
    refine ⟨later, by rw [isWritten.entries, if_pos here], ?_, status here same⟩
    rw [sameTurn, same]
  · exact ⟨entry, by rw [isWritten.entries, if_neg here, hit], rfl, id⟩

/-- An attempt that another one does not name is left alone. -/
theorem before_of_written {row wrote : SchedulerExecutionAttempt}
    (isWritten : AttemptWritten db after row wrote) (key : String)
    (later : SchedulerExecutionAttempt) (found : after.attempt? key = some later) :
    ∃ before, db.attempt? key = some before := by
  rw [isWritten.attempts] at found
  split at found
  next here =>
    exact ⟨row, here ▸ isWritten.found⟩
  · exact ⟨later, found⟩

theorem step (owned : Owned db) (stepped : SchedulerStep call db after) : Owned after := by
  cases stepped with
  | enqueued entry fresh entries attempts =>
    intro key attempt found
    rw [attempt?_congr attempts] at found
    rcases owned key attempt found with ⟨owner, hit, rest⟩
    refine ⟨owner, ?_, rest⟩
    rw [entries, if_neg, hit]
    intro here
    rw [here, fresh] at hit
    cases hit
  | restated entry later wrote idle sameTurn attempts =>
    intro key attempt found
    rw [attempt?_congr attempts] at found
    rcases owned key attempt found with ⟨owner, hit, ownTurn, admitted⟩
    rcases entry_written wrote sameTurn hit
        (fun _ same isAdmitted => absurd (same ▸ isAdmitted) idle) with
      ⟨kept, isKept, keptTurn, keptStatus⟩
    exact ⟨kept, isKept, keptTurn.trans ownTurn, fun live => keptStatus (admitted live)⟩
  | admitted entry input wrote fresh attempts =>
    intro key attempt found
    rw [attempts] at found
    split at found
    · cases found
      refine ⟨{ entry with status := .admitted }, ?_, rfl, fun _ => rfl⟩
      rw [wrote.entries]
      exact if_pos rfl
    · rcases owned key attempt found with ⟨owner, hit, ownTurn, admitted⟩
      rcases entry_written wrote rfl hit (fun _ _ _ => rfl) with
        ⟨kept, isKept, keptTurn, keptStatus⟩
      exact ⟨kept, isKept, keptTurn.trans ownTurn, fun live => keptStatus (admitted live)⟩
  | advanced act row later acts advance wrote entries =>
    refine owned.of_entries (.advanced act row later acts advance wrote entries)
      (before_of_written wrote) ?_
    intro key before next _ _ entry hit
    exact ⟨entry, (admission?_congr entries _).trans hit, rfl, fun _ => id⟩
  | requeued row later entry acts advance wrote owner returned =>
    refine owned.of_entries (.requeued row later entry acts advance wrote owner returned)
      (before_of_written wrote) ?_
    intro key before next found foundNext held hit
    by_cases here : before.queueEntryId = entry.queueEntryId
    · have isHeld : entry = held := returned.eq_of_found here hit
      refine ⟨{ entry with status := .queued }, by rw [returned.entries, if_pos here],
        by rw [isHeld], ?_⟩
      -- Another live attempt of the entry would be one of the same Turn.
      intro live _
      have notRow : key ≠ row.attemptId := by
        intro same
        rw [wrote.attempts, if_pos same] at foundNext
        cases foundNext
        exact live advance.closes
      have sameNext : before = next := by
        rw [wrote.attempts, if_neg notRow, found] at foundNext
        exact Option.some.inj foundNext
      have beforeLive : before.phase ≠ .closed := sameNext ▸ live
      rcases owned key before found with ⟨first, foundFirst, firstTurn, _⟩
      rcases owned row.attemptId row wrote.found with ⟨second, foundSecond, secondTurn, _⟩
      have sameEntry : first = second := by
        rw [here, owner, foundSecond] at foundFirst
        exact (Option.some.inj foundFirst).symm
      have isRow : before = row :=
        db.eq_of_sharesBoundary (mem_of_find? found) (mem_of_find? wrote.found)
          beforeLive advance.live (.inl (by rw [<- firstTurn, <- secondTurn, sameEntry]))
      exact absurd ((attemptId_of_attempt? found).symm.trans
        (congrArg SchedulerExecutionAttempt.attemptId isRow)) notRow
    · exact ⟨held, by rw [returned.entries, if_neg here, hit], rfl, fun _ => id⟩

end Owned

/-! ## Runs -/

variable (platform : SchedulerPlatform)

theorem owned_schedulerAfter (events : List SchedulerEvent) :
    Owned (schedulerAfter platform events) := by
  apply runCalls_invariant Owned
  · intro event _ db owned
    exact (applyCall_steps platform event db).rec owned (fun _ stepped ih => ih.step stepped)
  · intro key attempt found
    cases found

theorem schedulerAfter_append (events later : List SchedulerEvent) :
    schedulerAfter platform (events ++ later) =
      runCalls (applyCall platform) later (schedulerAfter platform events) :=
  List.foldl_append

theorem progress_runCalls (later : List SchedulerEvent) (found : db.attempt? key = some before) :
    ∃ last, (runCalls (applyCall platform) later db).attempt? key = some last /\
      Progress before last := by
  apply runCalls_invariant (fun current : SchedulerDb =>
    ∃ last, current.attempt? key = some last /\ Progress before last)
  · rintro event _ current ⟨middle, foundMiddle, earlier⟩
    rcases progress_applyCall platform event foundMiddle with ⟨last, foundLast, next⟩
    exact ⟨last, foundLast, earlier.trans next⟩
  · exact ⟨before, found, .refl before⟩

/-- In every run of attempt and scheduler operations, an attempt only progresses,
every live attempt belongs to an admitted entry, and live attempts share no Turn,
Thread or AgentSession. -/
theorem attempts_progress_one_way (events later : List SchedulerEvent) : (∀ attemptId before,
      (schedulerAfter platform events).attempt? attemptId = some before ->
      ∃ last, (schedulerAfter platform (events ++ later)).attempt? attemptId = some last /\
        Progress before last) /\
      (∀ attempt ∈ (schedulerAfter platform events).attempts.rows, attempt.phase ≠ .closed ->
        ∃ entry ∈ (schedulerAfter platform events).entries.rows,
          entry.queueEntryId = attempt.queueEntryId /\ entry.status = .admitted) /\
      ∀ first ∈ (schedulerAfter platform events).attempts.rows,
        ∀ second ∈ (schedulerAfter platform events).attempts.rows,
        first.phase ≠ .closed -> second.phase ≠ .closed -> SharesBoundary first second ->
        first = second := by
  refine ⟨?_, ?_, ?_⟩
  · intro attemptId before found
    rw [schedulerAfter_append]
    exact progress_runCalls platform later found
  · intro attempt member live
    rcases owned_schedulerAfter platform events attempt.attemptId attempt
        (find?_of_mem member) with ⟨entry, located, _, admitted⟩
    exact ⟨entry, mem_of_find? located, queueEntryId_of_admission? located, admitted live⟩
  · intro first left second right leftLive rightLive shares
    exact eq_of_sharesBoundary _ left right leftLive rightLive shares

end ExecutionAttempts
end OpenKit
