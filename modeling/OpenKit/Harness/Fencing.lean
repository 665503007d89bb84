import OpenKit.Harness.CommandCell

namespace OpenKit
namespace Harness

open Foundation HarnessDb Table Option

/-!
# Fenced Sandboxes

A fence closes the admission of a Sandbox and of all its Harnesses.  It is raised
by an operation whose outcome is unknown, by an expiry, or by an explicit fence or
drain.  Admission is read when a command is queued, so a closed Sandbox takes no
further `session.open` or `turn.start`.

Dispatching does not read it again.  A command that was queued before the fence is
still delivered, also one that waits on a sibling of the Harness that failed.  What
a closed Sandbox delivers is therefore exactly what was waiting in its cells, each
at most once.
-/

variable {db middle after : HarnessDb} {platform : HarnessPlatform} {world : HarnessWorld}
  {name now host : String}

/-! ## Closed Sandboxes -/

def HarnessOperation.isNewWork (operation : HarnessOperation) : Bool :=
  operation = .sessionOpen || operation = .turnStart

def RecordedCommand.isNewWork (command : RecordedCommand) : Bool :=
  command.body.body.operation.isNewWork

structure IsClosed (db : HarnessDb) (sandboxRuntimeId : String) : Prop where
  sandbox : ∃ row, db.sandbox? sandboxRuntimeId = some row /\ row.drainState = .draining
  harnesses : ∀ harnessInstanceId row, db.harness? harnessInstanceId = some row ->
    row.sandboxRuntimeId = sandboxRuntimeId -> row.drainState = .draining

/-- Every Harness has a Sandbox, and its binding names no other Harness. -/
structure Placed (db : HarnessDb) : Prop where
  housed : ∀ harnessInstanceId row, db.harness? harnessInstanceId = some row ->
    ∃ sandbox, db.sandbox? row.sandboxRuntimeId = some sandbox
  bound : ∀ first second left right, db.harness? first = some left ->
    db.harness? second = some right -> left.harnessBindingRef = right.harnessBindingRef ->
    first = second

/-! ## What a call keeps of admission -/

/-- A Harness stays where it is and never reopens.  While it drains its cell takes
no new work. -/
structure RowStep (before after : HarnessRow) : Prop where
  placed : after.sandboxRuntimeId = before.sandboxRuntimeId
  bound : after.harnessBindingRef = before.harnessBindingRef
  drained : before.drainState = .draining -> after.drainState = .draining
  takes : ∀ command, after.operationState = .queued -> after.command = some command ->
    command.isNewWork -> before.drainState = .draining ->
    before.operationState = .queued /\ before.command = some command

theorem RowStep.refl (row : HarnessRow) : RowStep row row :=
  ⟨rfl, rfl, id, fun _ waiting held _ _ => ⟨waiting, held⟩⟩

theorem RowStep.trans {first second third : HarnessRow} (earlier : RowStep first second)
    (later : RowStep second third) : RowStep first third where
  placed := later.placed.trans earlier.placed
  bound := later.bound.trans earlier.bound
  drained := later.drained ∘ earlier.drained
  takes command waiting held newWork draining := by
    rcases later.takes command waiting held newWork (earlier.drained draining) with ⟨before, same⟩
    exact earlier.takes command before same newWork draining

/-- A write beside the command cell. -/
theorem RowStep.of_cell {before after : HarnessRow}
    (placed : after.sandboxRuntimeId = before.sandboxRuntimeId)
    (bound : after.harnessBindingRef = before.harnessBindingRef)
    (drained : before.drainState = .draining -> after.drainState = .draining)
    (state : after.operationState = .queued -> before.operationState = .queued)
    (command : after.command = before.command) : RowStep before after :=
  ⟨placed, bound, drained, fun _ waiting held _ _ => ⟨state waiting, command ▸ held⟩⟩

/-- A Sandbox never reopens. -/
def SandboxStep (before after : SandboxRow) : Prop :=
  before.drainState = .draining -> after.drainState = .draining

theorem SandboxStep.trans {first second third : SandboxRow} (earlier : SandboxStep first second)
    (later : SandboxStep second third) : SandboxStep first third :=
  fun draining => later (earlier draining)

/-- No row appears, and each takes its step. -/
structure Evolves (db after : HarnessDb) : Prop where
  rows : ∀ harnessInstanceId, RowEvolves RowStep (fun _ => False)
    (db.harness? harnessInstanceId) (after.harness? harnessInstanceId)
  sandboxes : ∀ sandboxRuntimeId, RowEvolves SandboxStep (fun _ => False)
    (db.sandbox? sandboxRuntimeId) (after.sandbox? sandboxRuntimeId)

namespace Evolves

theorem of_same (harnesses : after.harnesses = db.harnesses) (sandboxes : after.sandboxes = db.sandboxes) :
    Evolves db after := by
  refine ⟨?_, ?_⟩
  · intro name
    unfold harness?
    rw [harnesses]
    exact .refl RowStep.refl _
  · intro host
    unfold sandbox?
    rw [sandboxes]
    exact .refl (fun _ => id) _

theorem trans (earlier : Evolves db middle) (later : Evolves middle after) : Evolves db after where
  rows name :=
    (earlier.rows name).trans (fun first second => first.trans second)
      (fun absent _ => absent) (later.rows name)
  sandboxes host :=
    (earlier.sandboxes host).trans (fun first second => first.trans second)
      (fun absent _ => absent) (later.sandboxes host)

theorem before (evolves : Evolves db after) {later : HarnessRow}
    (found : after.harness? name = some later) :
    ∃ row, db.harness? name = some row /\ RowStep row later := by
  have evolved := evolves.rows name
  cases present : db.harness? name with
  | none =>
    rw [present] at evolved
    exact (evolved later found).elim
  | some row =>
    rw [present] at evolved
    rcases evolved with ⟨other, same, stepped⟩
    rw [same] at found
    cases found
    exact ⟨row, rfl, stepped⟩

theorem isClosed (evolves : Evolves db after) (closed : IsClosed db host) :
    IsClosed after host := by
  refine ⟨?_, ?_⟩
  · rcases closed.sandbox with ⟨row, found, draining⟩
    have evolved := evolves.sandboxes host
    rw [found] at evolved
    rcases evolved with ⟨later, foundLater, stepped⟩
    exact ⟨later, foundLater, stepped draining⟩
  · intro name later found hosted
    rcases evolves.before found with ⟨row, present, stepped⟩
    exact stepped.drained (closed.harnesses _ row present (stepped.placed ▸ hosted))

theorem placed (evolves : Evolves db after) (placed : Placed db) : Placed after := by
  refine ⟨?_, ?_⟩
  · intro name later found
    rcases evolves.before found with ⟨row, present, stepped⟩
    rcases placed.housed _ row present with ⟨sandbox, hosted⟩
    have evolved := evolves.sandboxes row.sandboxRuntimeId
    rw [hosted] at evolved
    rcases evolved with ⟨laterSandbox, foundSandbox, _⟩
    rw [stepped.placed]
    exact ⟨laterSandbox, foundSandbox⟩
  · intro first second left right foundLeft foundRight same
    rcases evolves.before foundLeft with ⟨leftRow, leftPresent, leftStep⟩
    rcases evolves.before foundRight with ⟨rightRow, rightPresent, rightStep⟩
    rw [leftStep.bound, rightStep.bound] at same
    exact placed.bound first second leftRow rightRow leftPresent rightPresent same

end Evolves

/-- Besides, a cell becomes unknown only behind a fence. -/
structure Frame (db after : HarnessDb) : Prop where
  evolves : Evolves db after
  unknown : ∀ harnessInstanceId row later, db.harness? harnessInstanceId = some row ->
    after.harness? harnessInstanceId = some later -> later.operationState = .unknown ->
    row.operationState = .unknown \/ IsClosed after row.sandboxRuntimeId

namespace Frame

theorem of_same (harnesses : after.harnesses = db.harnesses) (sandboxes : after.sandboxes = db.sandboxes) :
    Frame db after := by
  refine ⟨.of_same harnesses sandboxes, ?_⟩
  intro name row later found foundLater state
  unfold harness? at found foundLater
  rw [harnesses, found] at foundLater
  cases foundLater
  exact .inl state

theorem refl (db : HarnessDb) : Frame db db :=
  .of_same rfl rfl

theorem trans (earlier : Frame db middle) (later : Frame middle after) : Frame db after := by
  refine ⟨earlier.evolves.trans later.evolves, ?_⟩
  intro name row final found foundFinal state
  rcases later.evolves.before foundFinal with ⟨between, foundBetween, _⟩
  have stepped := (earlier.evolves.before foundBetween)
  rcases stepped with ⟨old, foundOld, step⟩
  rw [found] at foundOld
  cases foundOld
  rcases later.unknown _ between final foundBetween foundFinal state with earlierUnknown | closed
  · rcases earlier.unknown _ row between found foundBetween earlierUnknown with unknown | closed
    · exact .inl unknown
    · exact .inr (later.evolves.isClosed closed)
  · rw [step.placed] at closed
    exact .inr closed

end Frame

namespace HarnessDb

variable {harnessBindingRef : String}

variable (placed : Placed db)

/-! ### Statements -/

variable {message : String} {guard : HarnessRow -> Bool} {write : HarnessRow -> HarnessRow}

theorem updateWhere_frame (guard : HarnessRow -> Bool) (write : HarnessRow -> HarnessRow)
    (keeps : ∀ row, (write row).harnessInstanceId = row.harnessInstanceId)
    (steps : ∀ row, guard row -> RowStep row (write row))
    (settled : ∀ row, (write row).operationState = .unknown -> row.operationState = .unknown) :
    Frame db { db with harnesses := db.harnesses.updateWhere guard write keeps } := by
  have rows (name : String) :
      { db with harnesses := db.harnesses.updateWhere guard write keeps }.harness? name =
        (db.harness? name).map (fun row => if guard row then write row else row) :=
    find?_updateWhere db.harnesses guard write keeps name
  refine ⟨⟨?_, fun _ => .refl (fun _ => id) _⟩, ?_⟩
  · intro name
    rw [rows]
    refine .of_map ?_
    intro row _
    split
    next passes =>
      exact steps row passes
    · exact .refl row
  · intro name row later found foundLater state
    rw [rows, found, map_some, some.injEq] at foundLater
    subst foundLater
    split at state
    · exact .inl (settled row state)
    · exact .inl state

variable {keeps : ∀ row, (write row).harnessInstanceId = row.harnessInstanceId}
  (updated : db.updateHarness name guard write keeps message = .ok after)

include updated

theorem updateHarness_evolves (steps : ∀ row, db.harness? name = some row ->
      guard row -> RowStep row (write row)) :
    Evolves db after /\ ∃ row, db.harness? name = some row /\
      ∀ other, after.harness? other =
        if other = name then some (write row) else db.harness? other := by
  rcases updateHarness_ok updated with ⟨row, found, passes, _, rows, _, sandboxes⟩
  refine ⟨⟨?_, ?_⟩, row, found, rows⟩
  · intro other
    rw [rows]
    by_cases here : other = name
    · subst here
      rw [if_pos rfl, found]
      exact ⟨write row, rfl, steps row found passes⟩
    · rw [if_neg here]
      exact .refl RowStep.refl _
  · intro host
    unfold sandbox?
    rw [sandboxes]
    exact .refl (fun _ => id) _

theorem updateHarness_frame (steps : ∀ row, db.harness? name = some row ->
      guard row -> RowStep row (write row))
    (settled : ∀ row, (write row).operationState = .unknown -> row.operationState = .unknown) :
    Frame db after := by
  rcases updateHarness_evolves updated steps with ⟨evolves, row, found, rows⟩
  refine ⟨evolves, ?_⟩
  intro other before later foundBefore foundLater state
  rw [rows] at foundLater
  split at foundLater
  next here =>
    rw [here, found] at foundBefore
    cases foundBefore
    cases foundLater
    exact .inl (settled row state)
  · rw [foundBefore] at foundLater
    cases foundLater
    exact .inl state

/-- What admission and commands read of a Harness. -/
def admissionOf (row : HarnessRow) : String × String × DrainState × OperationState ×
    Option RecordedCommand :=
  (row.sandboxRuntimeId, row.harnessBindingRef, row.drainState, row.operationState, row.command)

theorem updateHarness_beside (same : ∀ row, admissionOf (write row) = admissionOf row) :
    Frame db after := by
  simp only [admissionOf, Prod.mk.injEq] at same
  refine updateHarness_frame updated ?_ ?_
  · intro row _ _
    rcases same row with ⟨placed, bound, drain, state, command⟩
    exact .of_cell placed bound (drain.trans ·) (state.symm.trans ·) command
  · intro row unknown
    exact (same row).2.2.2.1.symm.trans unknown

omit updated

theorem updateBinding_frame {bindingId : String} {guard : BindingRow -> Bool}
    {write : BindingRow -> BindingRow}
    {keeps : ∀ row, (write row).agentSessionRuntimeBindingId = row.agentSessionRuntimeBindingId}
    (updated : db.updateBinding bindingId name guard write keeps message = .ok after) :
    Frame db after := by
  rcases bind_inv updated with ⟨_, _, wrote⟩
  cases wrote
  exact .of_same rfl rfl

/-! ### Fences -/

variable {sandbox : SandboxRow}

theorem drainedRow_step (now : Option String) (row : HarnessRow) :
    RowStep row (drainedRow now row) :=
  .of_cell rfl rfl (fun _ => rfl) id rfl

/-- A statement on Sandbox rows that reopens none. -/
theorem updateSandboxes_frame (guard : SandboxRow -> Bool) (write : SandboxRow -> SandboxRow)
    (keeps : ∀ row, (write row).sandboxRuntimeId = row.sandboxRuntimeId)
    (closes : ∀ row, (write row).drainState = .draining) :
    Frame db { db with sandboxes := db.sandboxes.updateWhere guard write keeps } := by
  refine ⟨⟨fun _ => .refl RowStep.refl _, ?_⟩, ?_⟩
  · intro host
    unfold sandbox?
    rw [find?_updateWhere]
    refine .of_map ?_
    intro row _ draining
    split
    · exact closes row
    · exact draining
  · intro name row later found foundLater state
    have same : later = row := some.inj (foundLater.symm.trans found)
    exact .inl (same ▸ state)

theorem drainHarnesses_frame (now : Option String) (selects : String -> Bool) :
    Frame db (db.drainHarnesses now selects) :=
  updateWhere_frame _ _ _ (fun row _ => drainedRow_step now row) (fun _ state => state)

def fencedSandbox (row : SandboxRow) : SandboxRow :=
  { row with
    lifecycleState := .failed, healthState := .unknown, drainState := .draining
    cleanupState := .unknown }

def drainingSandbox (row : SandboxRow) : SandboxRow :=
  { row with drainState := .draining }

theorem fenceSandbox_frame (sandbox : Option SandboxRow) (now : String) :
    Frame db (db.fenceSandbox sandbox now) := by
  cases sandbox with
  | none => exact .refl db
  | some found =>
    have fenced : Frame db { db with
        sandboxes := db.sandboxes.updateWhere
          (·.sandboxRuntimeId = found.sandboxRuntimeId) fencedSandbox (fun _ => rfl) } :=
      updateSandboxes_frame _ _ _ (fun _ => rfl)
    exact fenced.trans (drainHarnesses_frame (some now) (· = found.sandboxRuntimeId))

theorem drainSandbox_frame (sandboxBindingRef originPhysicalEpoch : String) :
    Frame db (db.drainNanoHostSandboxAdmission sandboxBindingRef originPhysicalEpoch) := by
  let resident := fun row : SandboxRow =>
    row.sandboxBindingRef = sandboxBindingRef && row.originPhysicalEpoch = originPhysicalEpoch
  have drained : Frame db { db with
      sandboxes := db.sandboxes.updateWhere resident drainingSandbox (fun _ => rfl) } :=
    updateSandboxes_frame _ _ _ (fun _ => rfl)
  exact drained.trans (drainHarnesses_frame none
    (fun host => (db.sandbox? host).any resident))

theorem drainHarnesses_closed (now : Option String) (selects : String -> Bool)
    (selected : selects host) (found : db.sandbox? host = some sandbox)
    (draining : sandbox.drainState = .draining) :
    IsClosed (db.drainHarnesses now selects) host := by
  refine ⟨⟨sandbox, found, draining⟩, ?_⟩
  intro name later foundLater hosted
  have rows : (db.drainHarnesses now selects).harness? name =
      (db.harness? name).map
        (fun row => if selects row.sandboxRuntimeId then drainedRow now row else row) :=
    find?_updateWhere db.harnesses _ (drainedRow now) (fun _ => rfl) name
  rw [rows] at foundLater
  rcases map_eq_some_iff.mp foundLater with ⟨row, _, rfl⟩
  have here : selects row.sandboxRuntimeId := by
    split at hosted
    next chosen =>
      exact chosen
    · rw [hosted]
      exact selected
  rw [if_pos here]
  rfl

theorem fenceSandbox_closed (found : db.sandbox? sandbox.sandboxRuntimeId = some sandbox) :
    IsClosed (db.fenceSandbox (some sandbox) now) sandbox.sandboxRuntimeId := by
  have fenced : { db with
      sandboxes := db.sandboxes.updateWhere
        (·.sandboxRuntimeId = sandbox.sandboxRuntimeId) fencedSandbox
        (fun _ => rfl) }.sandbox? sandbox.sandboxRuntimeId = some (fencedSandbox sandbox) :=
    find?_updateWhere_key found fencedSandbox (fun _ => rfl)
  exact drainHarnesses_closed (some now)
    (· = sandbox.sandboxRuntimeId) (decide_eq_true rfl) fenced rfl

theorem drainSandbox_closed (found : db.sandbox? host = some sandbox) :
    IsClosed (db.drainNanoHostSandboxAdmission sandbox.sandboxBindingRef sandbox.originPhysicalEpoch)
      host := by
  let resident := fun row : SandboxRow =>
    row.sandboxBindingRef = sandbox.sandboxBindingRef &&
      row.originPhysicalEpoch = sandbox.originPhysicalEpoch
  have here : resident sandbox := by simp [resident]
  have drained : { db with
      sandboxes := db.sandboxes.updateWhere resident drainingSandbox
        (fun _ => rfl) }.sandbox? host = some (drainingSandbox sandbox) := by
    refine (find?_updateWhere db.sandboxes resident drainingSandbox (fun _ => rfl) _).trans ?_
    rw [sandbox?] at found
    rw [found, map_some, if_pos here]
  refine drainHarnesses_closed none
    (fun host => (db.sandbox? host).any resident) ?_ drained rfl
  rw [found]
  exact here

include placed

theorem sandboxOfHarnessBinding?_of_placed {row : HarnessRow}
    (found : db.harness? name = some row) :
    ∃ sandbox, db.sandboxOfHarnessBinding? row.harnessBindingRef = some sandbox /\
      db.sandbox? row.sandboxRuntimeId = some sandbox := by
  rcases placed.housed _ row found with ⟨sandbox, hosted⟩
  refine ⟨sandbox, ?_, hosted⟩
  have named : (db.harnessByBinding? row.harnessBindingRef).isSome := by
    unfold harnessByBinding?
    rw [List.find?_isSome]
    exact ⟨row, mem_of_find? found, decide_eq_true rfl⟩
  rcases isSome_iff_exists.mp named with ⟨other, hit⟩
  have same : other.harnessBindingRef = row.harnessBindingRef := by simpa using List.find?_some hit
  have otherFound : db.harness? other.harnessInstanceId = some other :=
    find?_of_mem (List.mem_of_find?_eq_some hit)
  have sameId := placed.bound _ _ other row otherFound found same
  rw [sameId, found] at otherFound
  cases otherFound
  unfold sandboxOfHarnessBinding?
  rw [hit]
  exact hosted

/-- A cell that becomes unknown closes its Sandbox. -/
theorem setHarnessUnknown_frame {fromState : OperationState}
    (widened : db.setHarnessUnknown name now fromState = .ok after) : Frame db after := by
  rcases bind_inv widened with ⟨harness, hit, rest⟩
  rcases bind_inv rest with ⟨marked, updated, rest⟩
  cases rest
  rw [requireHarness, requireRow_eq_ok_iff] at hit
  rcases updateHarness_evolves updated
    (fun row _ _ => .of_cell rfl rfl (fun _ => rfl) (fun queued => by cases queued) rfl) with
    ⟨evolves, row, found, rows⟩
  have same : row = harness := some.inj (found.symm.trans hit)
  subst same
  have markedRow : marked.harness? name = some (unknownRow now row) := by
    rw [rows, if_pos rfl]
  rcases sandboxOfHarnessBinding?_of_placed (evolves.placed placed) markedRow with
    ⟨sandbox, named, hosted⟩
  have target : marked.sandboxOfHarnessBinding? row.harnessBindingRef = some sandbox := named
  rw [target]
  have fence : Frame marked (marked.fenceSandbox (some sandbox) now) := fenceSandbox_frame _ _
  refine ⟨evolves.trans fence.evolves, ?_⟩
  intro other before later foundBefore foundLater state
  by_cases here : other = name
  · rw [here, found] at foundBefore
    cases foundBefore
    have key : sandbox.sandboxRuntimeId = row.sandboxRuntimeId := keyOf_of_find? hosted
    rw [<- key]
    exact .inr (fenceSandbox_closed (find?_keyOf hosted))
  · have still : marked.harness? other = some before := by
      rw [rows, if_neg here]
      exact foundBefore
    exact fence.unknown other before later still foundLater state

omit placed

theorem drainHarnessAdmission_frame
    (drained : db.drainHarnessAdmission harnessBindingRef now = .ok after) : Frame db after := by
  rcases bind_inv drained with ⟨harness, _, wrote⟩
  split at wrote
  · cases wrote
    exact .refl _
  · exact updateHarness_frame wrote (fun row _ _ => drainedRow_step _ row) (fun _ state => state)

/-! ### Operations -/

variable {input : QueueNanoHostHarnessOperationInput} {sequence : Nat} {command : RecordedCommand}
  {receipt : ResultReceipt}

theorem openBinding_frame {input : OpenNanoHostAgentSessionBindingInput}
    (opened : db.openNanoHostAgentSessionBinding input = .ok after) : Frame db after := by
  simp only [openNanoHostAgentSessionBinding, bind_eq_ok_iff] at opened
  rcases opened with ⟨_, _, _, _, _, _, _, _, _, _, _, _, _, _, updated⟩
  have inserted : Frame db { db with bindings := db.bindings.insert input.bindingRow } :=
    .of_same rfl rfl
  exact inserted.trans (updateHarness_beside updated (fun _ => rfl))

theorem queue_admits
    (queued : db.queueNanoHostHarnessOperation platform world input = .ok (sequence, after)) :
    ∃ row, db.harness? input.harnessInstanceId = some row /\
      (input.body.operation.isNewWork -> row.drainState = .accepting) := by
  simp only [queueNanoHostHarnessOperation, requireHarness, bind_eq_ok_iff, requireRow_eq_ok_iff,
    refuseIf_eq_ok_iff] at queued
  rcases queued with ⟨harness, hit, _, _, _, admitted, _⟩
  refine ⟨harness, hit, ?_⟩
  intro newWork
  by_contra closed
  exact admitted ⟨by simpa [HarnessOperation.isNewWork] using newWork, .inr closed⟩

theorem queue_frame
    (queued : db.queueNanoHostHarnessOperation platform world input = .ok (sequence, after)) :
    Frame db after := by
  rcases queue_admits queued with ⟨admitted, admittedFound, accepting⟩
  simp only [queueNanoHostHarnessOperation, bind_eq_ok_iff, refuseIf_eq_ok_iff, not_or,
    not_not] at queued
  rcases queued with ⟨_, _, _, _, _, _, _, _, durableBody, _, _, ⟨_, _, _, sameBody, _⟩, _, updated,
    answered⟩
  cases answered
  refine updateHarness_frame updated ?_ (fun _ state => by cases state)
  intro row found _
  have same : row = admitted := some.inj (found.symm.trans admittedFound)
  subst same
  refine ⟨rfl, rfl, id, ?_⟩
  intro command _ held newWork draining
  cases held
  rw [accepting (sameBody ▸ newWork)] at draining
  cases draining

theorem bindOpen_frame (bound : db.bindOpen name command = .ok after) : Frame db after := by
  unfold bindOpen at bound
  split at bound
  · exact updateBinding_frame bound
  · cases bound
  · cases bound
    exact .refl _

include placed

theorem dispatch_frame {input : DispatchNanoHostHarnessOperationInput}
    {answer : Option NanoHostHarnessCommand}
    (sent : db.dispatchNanoHostHarnessOperation platform world input = .ok (answer, after)) :
    Frame db after := by
  rcases dispatch_cases sent with ⟨_, rfl | ⟨_, widened⟩⟩ |
    ⟨_, _, _, _, _, _, _, _, _, _, _, delivered, updated⟩
  · exact .refl _
  · exact setHarnessUnknown_frame placed widened
  · exact (bindOpen_frame delivered).trans (updateHarness_frame updated
      (fun row _ _ => .of_cell rfl rfl id nofun rfl) (fun _ state => by cases state))

theorem expire_frame
    (expired : db.expireNanoHostHarnessQueuedOperation harnessBindingRef now = .ok after) :
    Frame db after := by
  simp only [expireNanoHostHarnessQueuedOperation, bind_eq_ok_iff] at expired
  rcases expired with ⟨_, _, _, _, widened⟩
  exact setHarnessUnknown_frame placed widened

theorem markUnknown_frame {operationId : String}
    (marked : db.markNanoHostHarnessOperationUnknown harnessBindingRef operationId now =
      .ok after) : Frame db after := by
  simp only [markNanoHostHarnessOperationUnknown, bind_eq_ok_iff] at marked
  rcases marked with ⟨_, _, _, _, _, _, widened⟩
  exact setHarnessUnknown_frame placed widened

omit placed

/-- A success moves counts and seats, and may drain its own Harness. -/
theorem project_frame {body : HarnessCommandBody} {success : HarnessSuccess}
    (shown : db.projectSuccessfulResult name body success = .ok after) : Frame db after := by
  unfold projectSuccessfulResult at shown
  split at shown
  · cases shown
    exact updateWhere_frame _ drainingRow _
      (fun _ _ => .of_cell rfl rfl (fun _ => rfl) id rfl) (fun _ state => state)
  · rcases bind_inv shown with ⟨removed, _, updated⟩
    have deleted (key : String) : Frame db { db with bindings := db.bindings.delete key } :=
      .of_same rfl rfl
    exact (deleted _).trans (updateHarness_beside updated (fun _ => rfl))
  · cases shown
    exact .refl _
  · simp only [projectStart, bind_eq_ok_iff] at shown
    rcases shown with ⟨_, _, _, seated, updated⟩
    exact (updateBinding_frame seated).trans (updateHarness_beside updated (fun _ => rfl))
  · rcases bind_inv shown with ⟨binding, _, inspected⟩
    split at inspected
    · rcases bind_inv inspected with ⟨middle, released, updated⟩
      exact (updateBinding_frame released).trans (updateHarness_beside updated (fun _ => rfl))
    · exact updateBinding_frame inspected
  · exact updateBinding_frame shown
  · cases shown

theorem settleCell_frame (settled : db.settleCell name receipt now = .ok after) : Frame db after :=
  updateHarness_frame settled (fun row _ _ => .of_cell rfl rfl id nofun rfl)
    (fun _ state => by cases state)

include placed

theorem settleDispatched_frame {harness : HarnessRow}
    (settled : db.settleDispatched harness command receipt now = .ok after) : Frame db after := by
  unfold settleDispatched at settled
  split at settled
  · rcases bind_inv settled with ⟨fenced, widened, updated⟩
    exact (setHarnessUnknown_frame placed widened).trans
      (updateHarness_beside updated (fun _ => rfl))
  · rcases bind_inv settled with ⟨drained, admission, updated⟩
    refine Frame.trans ?_ (settleCell_frame updated)
    unfold drainIfCleanupRequired at admission
    split at admission
    · exact drainHarnessAdmission_frame admission
    · cases admission
      exact .refl _
  · rcases bind_inv settled with ⟨middle, shown, updated⟩
    exact (project_frame shown).trans (settleCell_frame updated)

theorem settle_frame {input : SettleNanoHostHarnessOperationInput} {outcome : SettleOutcome}
    (settled : db.settleNanoHostHarnessOperation platform world input = .ok (outcome, after)) :
    Frame db after := by
  rcases bind_inv settled with ⟨_, _, settled⟩
  rcases bind_inv settled with ⟨harness, _, settled⟩
  split at settled
  · rcases bind_inv settled with ⟨_, _, replayed⟩
    cases replayed
    exact .refl _
  · rcases bind_inv settled with ⟨wrote, first, settled⟩
    cases settled
    unfold settleFirst at first
    split at first
    · rcases bind_inv first with ⟨_, _, thrown⟩
      cases thrown
    · simp only [bind_eq_ok_iff] at first
      rcases first with ⟨_, _, _, _, _, _, _, _, delivered⟩
      exact settleDispatched_frame placed delivered

omit placed

theorem acknowledge_frame {input : AcknowledgeNanoHostHarnessResultInput}
    (acknowledged : db.acknowledgeNanoHostHarnessResult platform input = .ok after) :
    Frame db after := by
  simp only [acknowledgeNanoHostHarnessResult, bind_eq_ok_iff] at acknowledged
  rcases acknowledged with ⟨_, _, _, _, _, _, _, _, _, _, _, _, _, _, _, _, recorded⟩
  split at recorded
  · rcases bind_inv recorded with ⟨_, _, afterCheck⟩
    rcases bind_inv afterCheck with ⟨_, _, same⟩
    cases same
    exact .refl _
  · simp only [bind_eq_ok_iff] at recorded
    rcases recorded with ⟨_, _, _, _, _, _, updated⟩
    exact updateHarness_beside updated (fun _ => rfl)

/-! ### New Harnesses -/

/-- A Sandbox that takes one more Harness is new or accepting, and the others keep
their rows. -/
theorem ensureSandbox_open {input : CreateNanoHostHarnessRuntimeInput} {hosted : HarnessDb}
    (ensured : db.ensureSandbox input = .ok hosted) : hosted.harnesses = db.harnesses /\
      (∀ sandbox, db.sandbox? input.sandboxRuntimeId = some sandbox ->
        sandbox.drainState = .accepting) /\
      (∃ sandbox, hosted.sandbox? input.sandboxRuntimeId = some sandbox) /\
      ∀ other sandbox, db.sandbox? other = some sandbox -> hosted.sandbox? other = some sandbox := by
  unfold ensureSandbox at ensured
  cases found : db.sandbox? input.sandboxRuntimeId with
  | some sandbox =>
    rw [found] at ensured
    rcases bind_inv ensured with ⟨_, retained, same⟩
    cases same
    rcases bind_inv retained with ⟨_, _, retained⟩
    rcases bind_inv retained with ⟨_, admitting, _⟩
    rw [refuseIf_eq_ok_iff] at admitting
    simp only [not_or, not_not] at admitting
    refine ⟨rfl, ?_, ⟨sandbox, found⟩, fun _ _ present => present⟩
    intro other same
    cases same
    exact admitting.2.2.1
  | none =>
    rw [found] at ensured
    rcases bind_inv ensured with ⟨_, _, ensured⟩
    cases ensured
    have free : db.sandboxes.find? input.sandboxRow.sandboxRuntimeId = none := found
    have rows (other : String) : (db.sandboxes.insert input.sandboxRow).find? other =
        if other = input.sandboxRuntimeId then some input.sandboxRow else db.sandboxes.find? other :=
      find?_insert_of_free free other
    refine ⟨rfl, nofun, ⟨input.sandboxRow, ?_⟩, ?_⟩
    · unfold sandbox?
      rw [rows, if_pos rfl]
    · intro other sandbox present
      unfold sandbox? at found present ⊢
      rw [rows, if_neg]
      · exact present
      · intro here
        rw [here, found] at present
        cases present

end HarnessDb

/-! ## One call -/

variable {event : HarnessEvent}

def Waiting (db : HarnessDb) (sandboxRuntimeId harnessInstanceId : String)
    (command : RecordedCommand) : Prop :=
  ∃ row, db.harness? harnessInstanceId = some row /\ row.sandboxRuntimeId = sandboxRuntimeId /\
    row.operationState = .queued /\ row.command = some command /\ command.isNewWork

/-- What every call keeps: Harnesses stay placed, a closed Sandbox stays closed and
takes no new work, and a cell becomes unknown only behind a fence. -/
structure AdmissionStep (db after : HarnessDb) : Prop where
  placed : Placed after
  closed : ∀ sandboxRuntimeId, IsClosed db sandboxRuntimeId -> IsClosed after sandboxRuntimeId
  waiting : ∀ sandboxRuntimeId harnessInstanceId command, IsClosed db sandboxRuntimeId ->
    Waiting after sandboxRuntimeId harnessInstanceId command ->
    Waiting db sandboxRuntimeId harnessInstanceId command
  unknown : ∀ harnessInstanceId row later, db.harness? harnessInstanceId = some row ->
    after.harness? harnessInstanceId = some later -> later.operationState = .unknown ->
    row.operationState = .unknown \/ IsClosed after row.sandboxRuntimeId

theorem Frame.admission (frame : Frame db after) (placed : Placed db) : AdmissionStep db after where
  placed := frame.evolves.placed placed
  closed _ closed := frame.evolves.isClosed closed
  waiting host name command closed waits := by
    rcases waits with ⟨later, found, hosted, queued, held, newWork⟩
    rcases frame.evolves.before found with ⟨row, present, step⟩
    have here : row.sandboxRuntimeId = host := step.placed ▸ hosted
    rcases step.takes command queued held newWork (closed.harnesses _ row present here) with
      ⟨before, same⟩
    exact ⟨row, present, here, before, same, newWork⟩
  unknown := frame.unknown

theorem create_admission (placed : Placed db) {input : CreateNanoHostHarnessRuntimeInput}
    (created : db.createNanoHostHarnessRuntime world input = .ok after) :
    AdmissionStep db after := by
  simp only [createNanoHostHarnessRuntime, bind_eq_ok_iff] at created
  rcases created with ⟨_, _, _, _, hosted, ensured, _, free, created⟩
  cases created
  rw [refuseIf_eq_ok_iff, Bool.not_eq_true, List.any_eq_false] at free
  rcases ensureSandbox_open ensured with ⟨harnesses, accepting, housed, kept⟩
  rw [harnesses] at free
  have absent : db.harnesses.find? input.harnessRow.harnessInstanceId = none := by
    refine find?_eq_none_iff.mpr ?_
    intro row mem same
    have differs := free row mem
    simp [same, CreateNanoHostHarnessRuntimeInput.harnessRow] at differs
  have unbound : ∀ id row, db.harness? id = some row ->
      row.harnessBindingRef ≠ input.harnessBindingRef := by
    intro id row found same
    have differs := free row (mem_of_find? found)
    simp [same] at differs
  have rows (id : String) : { hosted with
      harnesses := hosted.harnesses.insert input.harnessRow }.harness? id =
        if id = input.harnessInstanceId then some input.harnessRow else db.harness? id := by
    unfold harness?
    rw [harnesses]
    exact find?_insert_of_free absent id
  -- a Harness afterwards is the new one or was there
  have cases (id : String) (later : HarnessRow) (found : { hosted with
        harnesses := hosted.harnesses.insert input.harnessRow }.harness? id = some later) :
      (id = input.harnessInstanceId /\ later = input.harnessRow) \/ db.harness? id = some later := by
    rw [rows] at found
    split at found
    next here =>
      exact .inl ⟨here, (some.inj found).symm⟩
    · exact .inr found
  refine ⟨⟨?_, ?_⟩, ?_, ?_, ?_⟩
  · intro id later found
    rcases cases id later found with ⟨_, rfl⟩ | present
    · exact housed
    · rcases placed.housed id later present with ⟨sandbox, resident⟩
      exact ⟨sandbox, kept _ _ resident⟩
  · intro first second left right foundLeft foundRight same
    rcases cases first left foundLeft with ⟨firstHere, rfl⟩ | leftPresent
    · rcases cases second right foundRight with ⟨secondHere, _⟩ | rightPresent
      · rw [firstHere, secondHere]
      · exact absurd same.symm (unbound second right rightPresent)
    · rcases cases second right foundRight with ⟨_, rfl⟩ | rightPresent
      · exact absurd same (unbound first left leftPresent)
      · exact placed.bound first second left right leftPresent rightPresent same
  · intro host closed
    rcases closed.sandbox with ⟨sandbox, found, draining⟩
    refine ⟨⟨sandbox, kept _ _ found, draining⟩, ?_⟩
    intro id later foundLater here
    rcases cases id later foundLater with ⟨_, rfl⟩ | present
    · have open_ := accepting sandbox (by rw [<- found]; exact congrArg db.sandbox? here)
      rw [draining] at open_
      cases open_
    · exact closed.harnesses id later present here
  · rintro host id command _ ⟨later, found, here, queued, held, newWork⟩
    rcases cases id later found with ⟨_, rfl⟩ | present
    · cases queued
    · exact ⟨later, present, here, queued, held, newWork⟩
  · intro id row later found foundLater state
    rcases cases id later foundLater with ⟨here, _⟩ | present
    · rw [here] at found
      exact absurd (found.symm.trans absent) (some_ne_none _)
    · rw [found] at present
      cases present
      exact .inl state

theorem answerCall_admission {answer : HarnessAnswer} (placed : Placed db)
    (answered : answerCall platform event db = .ok (answer, after)) : AdmissionStep db after := by
  unfold answerCall at answered
  cases called : event.call
  all_goals rw [called] at answered
  case drainSandbox sandboxBindingRef originPhysicalEpoch =>
    cases answered
    exact (drainSandbox_frame _ _).admission placed
  all_goals
    rcases bind_inv answered with ⟨result, wrote, same⟩
    cases same
  case create input => exact create_admission placed wrote
  case openBinding input => exact (openBinding_frame wrote).admission placed
  case queue input => exact (queue_frame wrote).admission placed
  case dispatch input => exact (dispatch_frame placed wrote).admission placed
  case settle input => exact (settle_frame placed wrote).admission placed
  case acknowledge input => exact (acknowledge_frame wrote).admission placed
  case markUnknown harnessBindingRef operationId now =>
    exact (markUnknown_frame placed wrote).admission placed
  case expire harnessBindingRef now => exact (expire_frame placed wrote).admission placed
  case drainHarness harnessBindingRef now =>
    rcases bind_inv wrote with ⟨_, _, admission⟩
    exact (drainHarnessAdmission_frame admission).admission placed
  case fence =>
    rw [fence_ok wrote]
    exact (fenceSandbox_frame _ _).admission placed

theorem admission_applyEvent (platform : HarnessPlatform) (event : HarnessEvent)
    (placed : Placed db) : AdmissionStep db (applyEvent platform event db) := by
  unfold applyEvent
  cases answered : answerCall platform event db with
  | error => exact (Frame.refl db).admission placed
  | ok =>
    exact answerCall_admission placed answered

theorem placed_harnessesAfter (platform : HarnessPlatform) (events : List HarnessEvent) :
    Placed (harnessesAfter platform events) := by
  refine runCalls_invariant Placed ?_ ⟨?_, ?_⟩
  · intro event _ db placed
    exact (admission_applyEvent platform event placed).placed
  · intro name row found
    cases found
  · intro first second left right found
    cases found

/-! ## Deliveries -/

variable {command : NanoHostHarnessCommand}

/-- A dispatch delivers the command of a queued cell and takes it out of the queue. -/
theorem dispatch_delivers {input : DispatchNanoHostHarnessOperationInput}
    (sent : db.dispatchNanoHostHarnessOperation platform world input =
      .ok (some command, after)) :
    ∃ row later, db.harness? command.harnessInstanceId = some row /\ row.operationState = .queued /\
      row.command = some ⟨command.operationId, command.sequence, command.body⟩ /\
      after.harness? command.harnessInstanceId = some later /\ later.operationState = .dispatched := by
  rcases dispatch_cases sent with ⟨absent, _⟩ |
    ⟨harness, recorded, bound, guard, message, found, waiting, held, _, _, answered, _, updated⟩
  · cases absent
  cases answered
  rcases updateHarness_ok updated with ⟨row, _, _, _, rows, _⟩
  exact ⟨harness, dispatchedRow input.now row, found, waiting, held, (rows _).trans (if_pos rfl),
    rfl⟩

theorem dispatch_of_answerCall
    (answered : answerCall platform event db = .ok (.dispatched (some command), after)) :
    ∃ input, db.dispatchNanoHostHarnessOperation platform event.world input =
      .ok (some command, after) := by
  unfold answerCall at answered
  cases called : event.call with
  | dispatch input =>
    rw [called] at answered
    rcases bind_inv answered with ⟨⟨_, _⟩, wrote, same⟩
    cases same
    exact ⟨input, wrote⟩
  | drainSandbox =>
    rw [called] at answered
    cases answered
  | create _ | openBinding _ | queue _ | settle _ | acknowledge _ | markUnknown _ _ _ | expire _ _
  | drainHarness _ _ | fence _ _ =>
    rw [called] at answered
    rcases bind_inv answered with ⟨_, _, same⟩
    cases same

def deliveredWork (platform : HarnessPlatform) (sandboxRuntimeId : String) (event : HarnessEvent)
    (db : HarnessDb) : Option NanoHostHarnessCommand :=
  match answerCall platform event db with
  | .ok (.dispatched (some command), _) =>
    if command.body.body.operation.isNewWork && (db.harness? command.harnessInstanceId).any
          (·.sandboxRuntimeId = sandboxRuntimeId)
    then some command else none
  | _ => none

theorem deliveredWork_eq_some (delivered : deliveredWork platform host event db = some command) :
    Waiting db host command.harnessInstanceId
        ⟨command.operationId, command.sequence, command.body⟩ /\
      ∀ other, ¬Waiting (applyEvent platform event db) host command.harnessInstanceId
        other := by
  unfold deliveredWork at delivered
  split at delivered
  next found after answered =>
    split at delivered
    next chosen =>
      cases delivered
      rw [Bool.and_eq_true, any_eq_true] at chosen
      rcases chosen with ⟨newWork, hosting, present, here⟩
      have applied : applyEvent platform event db = after := by
        unfold applyEvent
        rw [answered]
      rw [applied]
      rcases dispatch_of_answerCall answered with ⟨input, wrote⟩
      rcases dispatch_delivers wrote with ⟨row, later, found, waiting, held, foundLater, state⟩
      have same : hosting = row := some.inj (present.symm.trans found)
      subst same
      refine ⟨⟨hosting, found, of_decide_eq_true here, waiting, held, newWork⟩, ?_⟩
      rintro other ⟨again, foundAgain, _, queued, _⟩
      rw [foundLater] at foundAgain
      cases foundAgain
      rw [state] at queued
      cases queued
    · cases delivered
  · cases delivered

/-- A closed Sandbox delivers only what waited in its cells, each once. -/
theorem closed_deliveries (platform : HarnessPlatform) (host : String)
    (events : List HarnessEvent) (placed : Placed db) (closed : IsClosed db host) :
    ((observations (applyEvent platform) (deliveredWork platform host) events db).map
        NanoHostHarnessCommand.harnessInstanceId).Nodup /\
      ∀ command ∈ observations (applyEvent platform) (deliveredWork platform host)
          events db, Waiting db host command.harnessInstanceId
          ⟨command.operationId, command.sequence, command.body⟩ := by
  induction events generalizing db with
  | nil => exact ⟨List.nodup_nil, nofun⟩
  | cons event rest ih =>
    have step := admission_applyEvent platform event placed
    rcases ih step.placed (step.closed _ closed) with ⟨distinct, held⟩
    -- what is delivered later waits behind this call, so it waited before it
    have earlier : ∀ command ∈ observations (applyEvent platform)
        (deliveredWork platform host) rest (applyEvent platform event db),
        Waiting db host command.harnessInstanceId
          ⟨command.operationId, command.sequence, command.body⟩ :=
      fun command mem => step.waiting _ _ _ closed (held command mem)
    unfold observations
    cases delivered : deliveredWork platform host event db with
    | none => exact ⟨distinct, earlier⟩
    | some =>
      rcases deliveredWork_eq_some delivered with ⟨waits, gone⟩
      refine ⟨List.nodup_cons.mpr ⟨?_, distinct⟩, ?_⟩
      · intro again
        rcases List.mem_map.mp again with ⟨other, mem, same⟩
        have still := held other mem
        rw [same] at still
        exact gone _ still
      · intro other mem
        rcases List.mem_cons.mp mem with rfl | later
        · exact waits
        · exact earlier other later

/-! ## Fences -/

/-- A call fences or drains a Sandbox: an operation of one of its Harnesses becomes
unknown, or the call names the Sandbox. -/
inductive FencedBy (platform : HarnessPlatform) (event : HarnessEvent) (db : HarnessDb) :
    String -> Prop
  | unknown (harnessInstanceId : String) (row later : HarnessRow)
      (found : db.harness? harnessInstanceId = some row)
      (foundLater : (applyEvent platform event db).harness? harnessInstanceId = some later)
      (known : row.operationState ≠ .unknown) (unknown : later.operationState = .unknown) :
      FencedBy platform event db row.sandboxRuntimeId
  | fence (target : HarnessDb.FenceTarget) (timestamp : String) (sandbox : SandboxRow)
      (after : HarnessDb) (called : event.call = .fence target timestamp)
      (answered : db.fenceNanoHostSandboxRuntime target timestamp = .ok after)
      (named : target.sandbox? db = some sandbox) :
      FencedBy platform event db sandbox.sandboxRuntimeId
  | drain (sandboxRuntimeId : String) (sandbox : SandboxRow)
      (called : event.call = .drainSandbox sandbox.sandboxBindingRef sandbox.originPhysicalEpoch)
      (found : db.sandbox? sandboxRuntimeId = some sandbox) :
      FencedBy platform event db sandboxRuntimeId

theorem FencedBy.isClosed (fenced : FencedBy platform event db host)
    (placed : Placed db) : IsClosed (applyEvent platform event db) host := by
  cases fenced with
  | unknown name row later found foundLater known unknown =>
    have step := admission_applyEvent platform event placed
    exact (step.unknown _ row later found foundLater unknown).resolve_left known
  | fence target now sandbox after called answered named =>
    have applied : applyEvent platform event db = after := by
      unfold applyEvent answerCall
      rw [called]
      dsimp only
      rw [answered]
      rfl
    rw [applied, fence_ok answered, named]
    apply fenceSandbox_closed
    cases target with
    | harnessBinding =>
      rcases bind_eq_some_iff.mp named with ⟨harness, _, hosted⟩
      exact find?_keyOf hosted
    | sandboxBinding => exact find?_of_mem (List.mem_of_find?_eq_some named)
  | drain host sandbox called found =>
    have applied : applyEvent platform event db = db.drainNanoHostSandboxAdmission
        sandbox.sandboxBindingRef sandbox.originPhysicalEpoch := by
      unfold applyEvent answerCall
      rw [called]
    rw [applied]
    exact drainSandbox_closed found

/-- What a fence promises about everything that follows it. -/
structure FenceHolds (platform : HarnessPlatform) (sandboxRuntimeId : String) (fenced : HarnessDb) :
    Prop where
  /-- No new work is queued on a Harness of the Sandbox. -/
  refused : ∀ events world input row answer,
    (runCalls (applyEvent platform) events fenced).harness? input.harnessInstanceId = some row ->
    row.sandboxRuntimeId = sandboxRuntimeId -> input.body.operation.isNewWork ->
    (runCalls (applyEvent platform) events fenced).queueNanoHostHarnessOperation platform world input ≠
      .ok answer
  /-- Delivered new work was waiting in its cell when the fence was raised. -/
  held : ∀ events, ∀ command ∈ observations (applyEvent platform)
      (deliveredWork platform sandboxRuntimeId) events fenced,
    Waiting fenced sandboxRuntimeId command.harnessInstanceId
      ⟨command.operationId, command.sequence, command.body⟩
  /-- A Harness delivers it at most once. -/
  once : ∀ events, ((observations (applyEvent platform) (deliveredWork platform sandboxRuntimeId)
    events fenced).map NanoHostHarnessCommand.harnessInstanceId).Nodup

theorem fenceHolds_of_closed (platform : HarnessPlatform) {fenced : HarnessDb}
    (placed : Placed fenced) (closed : IsClosed fenced host) :
    FenceHolds platform host fenced where
  refused events world input row answer found here newWork queued := by
    have still : Placed (runCalls (applyEvent platform) events fenced) /\
        IsClosed (runCalls (applyEvent platform) events fenced) host := by
      refine runCalls_invariant (fun db => Placed db /\ IsClosed db host) ?_ ⟨placed, closed⟩
      rintro event _ db ⟨placed, closed⟩
      have step := admission_applyEvent platform event placed
      exact ⟨step.placed, step.closed _ closed⟩
    rcases queue_admits queued with ⟨admitted, present, open_⟩
    rw [found] at present
    cases present
    have draining := still.2.harnesses _ row found here
    rw [open_ newWork] at draining
    cases draining
  held events := (closed_deliveries platform host events placed closed).2
  once events := (closed_deliveries platform host events placed closed).1

/-- After every run, a call that fences or drains a Sandbox ends the admission of
new work to it, up to the commands that were already queued on its Harnesses. -/
theorem fenced_sandbox_takes_no_new_work (platform : HarnessPlatform) (earlier : List HarnessEvent)
    (event : HarnessEvent) (sandboxRuntimeId : String)
    (fenced : FencedBy platform event (harnessesAfter platform earlier) sandboxRuntimeId) :
    FenceHolds platform sandboxRuntimeId
      (applyEvent platform event (harnessesAfter platform earlier)) := by
  have placed := placed_harnessesAfter platform earlier
  exact fenceHolds_of_closed platform (admission_applyEvent platform event placed).placed
    (fenced.isClosed placed)

/-! ## A start behind a fence -/

/-- A second Harness in the Sandbox of the first. -/
def siblingCreate : HarnessEvent :=
  sampleEvent (.create
    { maxActiveTurns := some 2
      harnessBindingRef := "hb2"
      harnessCompatibilityKey := sampleDigest 'a'
      harnessInstanceId := "h2"
      imageDigest := "sha256:" ++ sampleDigest 'f', originPhysicalEpoch := sampleDigest 'e'
      sandboxBindingRef := "sb"
      sandboxCompatibilityKey := sampleDigest 'd'
      sandboxIntegrationBindingRef := "i"
      sandboxRuntimeId := "x"
      runtimeTargetId := "r"
      adapterVersion := "1"
      timestamp := "n" })

def siblingQueue : HarnessEvent :=
  sampleEvent (.queue
    { prepared := ⟨⟨"h2", sampleOperationId 0, 0, ⟨.harnessDrain, .none⟩⟩, ⟨.harnessDrain, .none⟩⟩
      body := .harnessDrain
      harnessInstanceId := "h2"
      timestamp := "n" })

/-- A Turn start waits on one Harness when an operation of the other one expires. -/
def startBesideExpiry : List HarnessEvent :=
  [sampleCreate, sampleOpen, siblingCreate, sampleQueueStart 0 "t1" 0, siblingQueue]

def siblingExpiry : HarnessEvent :=
  sampleEvent (.expire "hb2" "n")

/-- The start that waited on the first Harness is dispatched behind the fence. -/
theorem start_is_delivered_behind_fence :
    FencedBy samplePlatform siblingExpiry (harnessesAfter samplePlatform startBesideExpiry) "x" /\
      (observations (applyEvent samplePlatform) (deliveredWork samplePlatform "x") [sampleDispatch]
          (applyEvent samplePlatform siblingExpiry
            (harnessesAfter samplePlatform startBesideExpiry))).map
        (fun command => (command.harnessInstanceId, command.body.body.operation)) =
        [("h", .turnStart)] := by
  refine ⟨?_, by decide +kernel⟩
  have found : ∃ row, (harnessesAfter samplePlatform startBesideExpiry).harness? "h2" = some row /\
      row.operationState ≠ .unknown /\ row.sandboxRuntimeId = "x" :=
    ⟨_, rfl, by decide +kernel, by decide +kernel⟩
  have foundLater : ∃ row, (applyEvent samplePlatform siblingExpiry
      (harnessesAfter samplePlatform startBesideExpiry)).harness? "h2" = some row /\
      row.operationState = .unknown :=
    ⟨_, rfl, by decide +kernel⟩
  rcases found with ⟨row, present, known, here⟩
  rcases foundLater with ⟨later, presentLater, unknown⟩
  rw [<- here]
  exact .unknown "h2" row later present presentLater known unknown

/-- A drain before the start is queued keeps it out. -/
theorem drained_sandbox_holds :
    FencedBy samplePlatform (sampleEvent (.drainSandbox "sb" (sampleDigest 'e')))
        (harnessesAfter samplePlatform [sampleCreate, sampleOpen]) "x" /\
      FenceHolds samplePlatform "x"
        (applyEvent samplePlatform (sampleEvent (.drainSandbox "sb" (sampleDigest 'e')))
          (harnessesAfter samplePlatform [sampleCreate, sampleOpen])) := by
  have fenced : FencedBy samplePlatform (sampleEvent (.drainSandbox "sb" (sampleDigest 'e')))
      (harnessesAfter samplePlatform [sampleCreate, sampleOpen]) "x" := by
    have found : ∃ sandbox, (harnessesAfter samplePlatform [sampleCreate, sampleOpen]).sandbox? "x" =
        some sandbox /\ sandbox.sandboxBindingRef = "sb" /\
        sandbox.originPhysicalEpoch = sampleDigest 'e' :=
      ⟨_, rfl, by decide +kernel, by decide +kernel⟩
    rcases found with ⟨sandbox, present, binding, epoch⟩
    refine .drain "x" sandbox ?_ present
    rw [binding, epoch]
    rfl
  exact ⟨fenced, fenced_sandbox_takes_no_new_work samplePlatform _ _ _ fenced⟩

end Harness
end OpenKit
