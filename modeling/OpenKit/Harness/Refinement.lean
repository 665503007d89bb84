import OpenKit.Harness.Ledger

namespace OpenKit
namespace Harness

open Foundation HarnessDb Table List Ledger

/-!
# The operations refine the ledger

Every call that does not throw takes the ledger of its tables by one
`LedgerStep`.  Each helper of the operations has one lemma here that says what
it read and what it did to the ledger; the operations are taken apart into
these.
-/

/-! ## Reading the ledger -/

theorem load_standing (row : HarnessRow) : load (standing row) = load row := rfl

@[simp] theorem seat_bindingId (row : BindingRow) :
    (seat row).bindingId = row.agentSessionRuntimeBindingId := rfl

/-- The Harness of an identity. -/
def Ledger.harness? (ledger : Ledger) (harnessInstanceId : String) : Option HarnessRow :=
  ledger.harnesses.find? (·.harnessInstanceId = harnessInstanceId)

theorem Ledger.harness?_write {ledger : Ledger} (row : HarnessRow) {old : HarnessRow}
    (present : ledger.harness? row.harnessInstanceId = some old) (name : String) :
    (ledger.write row).harness? name =
      if name = row.harnessInstanceId then some row
      else ledger.harness? name := by
  have sameId (other : HarnessRow) : (if other.harnessInstanceId = row.harnessInstanceId then row
      else other).harnessInstanceId = other.harnessInstanceId := by
    split
    next same =>
      exact same.symm
    · rfl
  have unfolded : (ledger.write row).harness? name =
      (ledger.harness? name).map (fun other =>
        if other.harnessInstanceId = row.harnessInstanceId then row else other) := by
    unfold harness? write
    rw [find?_map]
    simp only [Function.comp_def, sameId]
  rw [unfolded]
  by_cases here : name = row.harnessInstanceId
  · have oldId : old.harnessInstanceId = row.harnessInstanceId := by
      simpa using find?_some present
    rw [here, present, Option.map_some, if_pos oldId, if_pos rfl]
  · rw [if_neg here]
    cases found : ledger.harness? name with
    | none => rfl
    | some other =>
      have otherId : other.harnessInstanceId = name := by
        simpa using find?_some found
      rw [Option.map_some, if_neg (fun same => here (otherId.symm.trans same))]

namespace HarnessDb

variable {platform : HarnessPlatform} {world : HarnessWorld} {db after : HarnessDb}
  {Reported : Seat -> SessionInspection -> Prop}

theorem harness?_ledger (db : HarnessDb) (name : String) :
    db.ledger.harness? name = (db.harness? name).map standing := by
  unfold Ledger.harness? ledger harness? Table.find?
  rw [find?_map]
  rfl

variable {name : String} {row : HarnessRow}

theorem mem_ledger (found : db.harness? name = some row) : standing row ∈ db.ledger.harnesses :=
  mem_map.mpr ⟨row, mem_of_find? found, rfl⟩

theorem harnessInstanceId_of_harness? (found : db.harness? name = some row) :
    row.harnessInstanceId = name :=
  keyOf_of_find? found

variable {bindingId : String}

theorem mem_seats {row : BindingRow} (found : db.binding? bindingId name = some row) :
    seat row ∈ db.ledger.seats /\ row.agentSessionRuntimeBindingId = bindingId /\
      row.harnessInstanceId = name := by
  rcases Option.filter_eq_some_iff.mp found with ⟨hit, housed⟩
  refine ⟨mem_map.mpr ⟨row, mem_of_find? hit, rfl⟩, keyOf_of_find? hit, ?_⟩
  simpa using housed

variable {harnessBindingRef : String}

theorem harness?_of_binding (found : db.requireHarnessByBinding harnessBindingRef = .ok row) :
    db.harness? row.harnessInstanceId = some row /\ row.harnessBindingRef = harnessBindingRef := by
  rcases bind_inv found with ⟨_, _, hit⟩
  rw [requireRow_eq_ok_iff] at hit
  refine ⟨find?_of_mem (mem_of_find?_eq_some hit), ?_⟩
  simpa using find?_some hit

/-- A Harness found through its Integration is the one of its identity. -/
theorem harness?_of_integration {sandboxIntegrationBindingRef : String}
    (owned : db.requireHarnessForIntegration sandboxIntegrationBindingRef name =
      .ok row) : db.harness? name = some row := by
  rcases bind_inv owned with ⟨_, _, owned⟩
  rcases bind_inv owned with ⟨_, _, owned⟩
  rw [requireRow_eq_ok_iff] at owned
  exact (Option.filter_eq_some_iff.mp owned).1

/-! ## Writing the ledger -/

variable {now : String} {harness : HarnessRow} {write : HarnessRow -> HarnessRow}
  {message : String} {fromState : OperationState}

theorem updateHarness_ok {guard : HarnessRow -> Bool}
    {keeps : ∀ row, (write row).harnessInstanceId = row.harnessInstanceId}
    (updated : db.updateHarness name guard write keeps message = .ok after) :
    ∃ row, db.harness? name = some row /\ guard row /\
      after.ledger = db.ledger.write (standing (write row)) /\ (∀ other, after.harness? other =
        if other = name then some (write row) else db.harness? other) /\
      after.bindings = db.bindings /\ after.sandboxes = db.sandboxes := by
  rcases bind_inv updated with ⟨_, selected, wrote⟩
  rw [refuseIf_eq_ok_iff, not_not, Option.any_eq_true] at selected
  rcases selected with ⟨row, found, passes⟩
  cases wrote
  refine ⟨row, found, passes, ?_, ?_, rfl, rfl⟩
  · unfold ledger Ledger.write
    congr 1
    have sameKey : (standing (write row)).harnessInstanceId = name :=
      (keeps row).trans (harnessInstanceId_of_harness? found)
    rw [sameKey]
    exact map_updateWhere_key found write keeps standing HarnessRow.harnessInstanceId (fun _ => rfl)
  · exact find?_updateWhere_key_eq found write keeps

theorem updateBinding_ok {guard : BindingRow -> Bool} {write : BindingRow -> BindingRow}
    {keeps : ∀ row, (write row).agentSessionRuntimeBindingId = row.agentSessionRuntimeBindingId}
    (updated : db.updateBinding bindingId name guard write keeps message = .ok after) :
    ∃ row, db.binding? bindingId name = some row /\ guard row /\
      after.ledger = { db.ledger with seats := reseat db.ledger.seats (seat (write row)) } /\
      after.harnesses = db.harnesses := by
  rcases bind_inv updated with ⟨_, selected, wrote⟩
  rw [refuseIf_eq_ok_iff, not_not, Option.any_eq_true] at selected
  rcases selected with ⟨row, found, passes⟩
  cases wrote
  refine ⟨row, found, passes, ?_, rfl⟩
  have hit := (Option.filter_eq_some_iff.mp found).1
  unfold ledger reseat
  congr 1
  have sameKey : (seat (write row)).bindingId = bindingId :=
    (keeps row).trans (keyOf_of_find? hit)
  rw [sameKey]
  exact map_updateWhere_key hit write keeps seat Seat.bindingId (fun _ => rfl)

/-- A statement on admission columns leaves the ledger alone. -/
theorem ledger_updateWhere_of_standing (guard : HarnessRow -> Bool)
    {keeps : ∀ row, (write row).harnessInstanceId = row.harnessInstanceId}
    (same : ∀ row, standing (write row) = standing row) :
    { db with harnesses := db.harnesses.updateWhere guard write keeps }.ledger = db.ledger := by
  unfold ledger
  congr 1
  exact map_updateWhere_of_keeps db.harnesses guard write keeps same

theorem ledger_drainHarnesses (now : Option String) (selects : String -> Bool) :
    (db.drainHarnesses now selects).ledger = db.ledger :=
  ledger_updateWhere_of_standing _ (fun _ => rfl)

theorem ledger_updateSandboxes (guard : SandboxRow -> Bool) {write : SandboxRow -> SandboxRow}
    {keeps : ∀ row, (write row).sandboxRuntimeId = row.sandboxRuntimeId}
    (same : ∀ row, (write row).maxActiveTurns = row.maxActiveTurns) :
    { db with sandboxes := db.sandboxes.updateWhere guard write keeps }.ledger = db.ledger := by
  unfold ledger
  congr 1
  apply map_updateWhere_of_keeps db.sandboxes guard write keeps
  intro row
  rw [keeps, same]

theorem ledger_fenceSandbox (sandbox : Option SandboxRow) (now : String) :
    (db.fenceSandbox sandbox now).ledger = db.ledger := by
  cases sandbox with
  | none => rfl
  | some =>
    exact (ledger_drainHarnesses _ _).trans (ledger_updateSandboxes _ (fun _ => rfl))

/-- The Sandbox that a fence names. -/
def FenceTarget.sandbox? (target : FenceTarget) (db : HarnessDb) : Option SandboxRow :=
  match target with
  | .harnessBinding harnessBindingRef => db.sandboxOfHarnessBinding? harnessBindingRef
  | .sandboxBinding sandboxBindingRef => db.sandboxByBinding? sandboxBindingRef

theorem fence_ok {target : FenceTarget}
    (fenced : db.fenceNanoHostSandboxRuntime target now = .ok after) :
    after = db.fenceSandbox (target.sandbox? db) now := by
  cases target
  all_goals
    rcases bind_inv fenced with ⟨_, _, same⟩
    cases same
    rfl

theorem ledger_drainSandbox (sandboxBindingRef originPhysicalEpoch : String) :
    (db.drainNanoHostSandboxAdmission sandboxBindingRef originPhysicalEpoch).ledger = db.ledger := by
  unfold drainNanoHostSandboxAdmission
  rw [ledger_drainHarnesses]
  exact ledger_updateSandboxes _ (fun _ => rfl)

theorem drainHarnessAdmission_ok
    (drained : db.drainHarnessAdmission harnessBindingRef now = .ok after) :
    after.ledger = db.ledger := by
  rcases bind_inv drained with ⟨harness, _, wrote⟩
  split at wrote
  · cases wrote
    rfl
  · rcases bind_inv wrote with ⟨_, _, result⟩
    cases result
    exact ledger_updateWhere_of_standing _ (fun _ => rfl)

theorem drainIfCleanupRequired_ok {refusal : HarnessRefusal}
    (drained : db.drainIfCleanupRequired harness refusal now = .ok after) :
    after.ledger = db.ledger := by
  unfold drainIfCleanupRequired at drained
  split at drained
  · exact drainHarnessAdmission_ok drained
  · cases drained
    rfl

theorem harness?_congr (same : after.harnesses = db.harnesses) (name : String) :
    after.harness? name = db.harness? name := by
  unfold harness?
  rw [same]

theorem setHarnessUnknown_ok (marked : db.setHarnessUnknown name now fromState = .ok after) :
    ∃ row, db.harness? name = some row /\ row.operationState = fromState /\
      after.ledger = db.ledger.write { standing row with operationState := .unknown } := by
  rcases bind_inv marked with ⟨harness, _, rest⟩
  rcases bind_inv rest with ⟨middle, updated, rest⟩
  rcases updateHarness_ok updated with ⟨row, found, passes, wrote, _⟩
  refine ⟨row, found, by simpa using passes, ?_⟩
  cases rest
  exact (ledger_fenceSandbox _ _).trans wrote

theorem ledgerStep_setHarnessUnknown (marked : db.setHarnessUnknown name now fromState = .ok after)
    (waits : fromState = .queued \/ fromState = .dispatched) :
    LedgerStep platform Reported db.ledger .quiet after.ledger := by
  rcases setHarnessUnknown_ok marked with ⟨row, found, state, wrote⟩
  rw [wrote]
  exact .widened (standing row) (mem_ledger found) (state ▸ waits)

/-! ## Creating and opening -/

variable {input : CreateNanoHostHarnessRuntimeInput}

/-- The Sandbox of a new Harness: a retained one, or a new one under a free
identity. -/
theorem ensureSandbox_ok (hosted : db.ensureSandbox input = .ok after) :
    after.ledger.harnesses = db.ledger.harnesses /\ after.ledger.seats = db.ledger.seats /\
      ((after.ledger.bounds = db.ledger.bounds /\
          ∃ bound, (input.sandboxRuntimeId, bound) ∈ db.ledger.bounds) \/
        (after.ledger.bounds = db.ledger.bounds ++ [(input.sandboxRuntimeId, input.capacity)] /\
          ∀ bound ∈ db.ledger.bounds, bound.1 ≠ input.sandboxRuntimeId)) := by
  unfold ensureSandbox at hosted
  cases found : db.sandbox? input.sandboxRuntimeId with
  | some sandbox =>
    rw [found] at hosted
    rcases bind_inv hosted with ⟨_, _, same⟩
    cases same
    have bounded : (input.sandboxRuntimeId, sandbox.maxActiveTurns) ∈ db.ledger.bounds := by
      apply mem_map.mpr
      refine ⟨sandbox, mem_of_find? found, ?_⟩
      rw [keyOf_of_find? found]
    exact ⟨rfl, rfl, .inl ⟨rfl, _, bounded⟩⟩
  | none =>
    rw [found] at hosted
    rcases bind_inv hosted with ⟨_, _, hosted⟩
    cases hosted
    have free : db.sandboxes.find? input.sandboxRow.sandboxRuntimeId = none := found
    refine ⟨rfl, rfl, .inr ⟨?_, ?_⟩⟩
    · unfold ledger
      rw [rows_insert free, map_append]
      rfl
    · intro bound mem
      rcases mem_map.mp mem with ⟨sandbox, stored, same⟩
      rw [<- same]
      exact find?_eq_none_iff.mp found sandbox stored

theorem create_ok (created : db.createNanoHostHarnessRuntime world input = .ok after) :
    LedgerStep platform Reported db.ledger .quiet after.ledger := by
  simp only [createNanoHostHarnessRuntime, bind_eq_ok_iff] at created
  rcases created with ⟨_, _, _, _, hosted, ensured, _, free, created⟩
  rw [refuseIf_eq_ok_iff] at free
  cases created
  rcases ensureSandbox_ok ensured with ⟨sameHarnesses, sameSeats, bounded⟩
  have fresh : ∀ other ∈ hosted.harnesses.rows,
      other.harnessInstanceId ≠ input.harnessInstanceId := by
    intro other mem same
    apply free
    apply any_eq_true.mpr
    exact ⟨other, mem, by simp [same]⟩
  have free : hosted.harnesses.find? input.harnessRow.harnessInstanceId = none :=
    find?_eq_none_iff.mpr fresh
  have wrote : { hosted with harnesses := hosted.harnesses.insert input.harnessRow }.ledger =
      ⟨hosted.ledger.bounds, db.ledger.harnesses ++ [standing input.harnessRow],
        db.ledger.seats⟩ := by
    rw [<- sameHarnesses, <- sameSeats]
    unfold ledger
    rw [rows_insert free, map_append]
    rfl
  rw [wrote]
  refine .created input hosted.ledger.bounds ?_ bounded
  intro other mem
  rw [<- sameHarnesses] at mem
  rcases mem_map.mp mem with ⟨row, stored, same⟩
  rw [<- same]
  exact fresh row stored

theorem openBinding_ok {input : OpenNanoHostAgentSessionBindingInput}
    (opened : db.openNanoHostAgentSessionBinding input = .ok after) :
    LedgerStep platform Reported db.ledger .quiet after.ledger := by
  simp only [openNanoHostAgentSessionBinding, bind_eq_ok_iff] at opened
  rcases opened with ⟨_, _, harness, _, _, _, _, _, _, _, _, _, _, unique, opened⟩
  rw [refuseIf_eq_ok_iff] at unique
  rcases updateHarness_ok opened with ⟨row, found, _, wrote, _⟩
  have fresh : ∀ other ∈ db.bindings.rows,
      other.agentSessionRuntimeBindingId ≠ input.agentSessionRuntimeBindingId := by
    intro other mem same
    apply unique
    apply any_eq_true.mpr
    exact ⟨other, mem, by simp [same]⟩
  have free : db.bindings.find? input.bindingRow.agentSessionRuntimeBindingId = none :=
    find?_eq_none_iff.mpr fresh
  have seated : { db with bindings := db.bindings.insert input.bindingRow }.ledger =
      { db.ledger with seats := db.ledger.seats ++ [seat input.bindingRow] } := by
    unfold ledger
    rw [rows_insert free, map_append]
    rfl
  rw [wrote, seated]
  have hit : db.harness? input.harnessInstanceId = some row := found
  refine .opened (standing row) (seat input.bindingRow) (mem_ledger hit) ?_ ?_ rfl rfl
  · intro other mem
    rcases mem_map.mp mem with ⟨binding, stored, same⟩
    rw [<- same]
    exact fresh binding stored
  · exact (harnessInstanceId_of_harness? hit).symm

/-! ## Queueing -/

variable {body : HarnessCommandBody}

/-- The load of a Sandbox is that of its Harnesses. -/
theorem sum_load_harnessesOf (db : HarnessDb) (host : String) :
    ((db.harnessesOf host).map load).sum = db.ledger.sandboxLoad host := by
  unfold harnessesOf sandboxLoad ledger
  rw [map_map]
  induction db.harnesses.rows with
  | nil => rfl
  | cons row rest ih =>
    rw [filter_cons, map_cons, sum_cons, <- ih]
    by_cases inside : row.sandboxRuntimeId = host
    · rw [if_pos (by simpa using inside), map_cons, sum_cons, Function.comp_apply,
        if_pos (show (standing row).sandboxRuntimeId = _ from inside), load_standing]
    · rw [if_neg (by simpa using inside), Function.comp_apply,
        if_neg (show ¬ (standing row).sandboxRuntimeId = _ from inside), Nat.zero_add]

/-- The occupied capacity of a Sandbox is its load, for a Harness that reserves
no start of its own. -/
theorem occupied_eq_load (found : db.harness? name = some harness)
    (free : reservesTurn harness = false) :
    db.occupied harness = db.ledger.sandboxLoad harness.sandboxRuntimeId := by
  rw [<- sum_load_harnessesOf]
  unfold occupied
  congr 1
  apply map_congr_left
  intro row mem
  rw [load]
  by_cases same : row.harnessInstanceId = harness.harnessInstanceId
  · have here : row = harness :=
      inj_on_of_nodup_map db.harnesses.unique (mem_filter.mp mem).1 (mem_of_find? found) same
    rw [if_neg (·.1 same), here, free]
    rfl
  · simp only [ne_eq, same, not_false_eq_true, true_and]

/-- A Turn start is only admitted below the bound of its Sandbox. -/
theorem occupied_of_lineage (lineage : db.requireOperationLineage world harness body = .ok ())
    (isStart : body.operation = .turnStart) :
    ∃ sandbox, db.sandbox? harness.sandboxRuntimeId = some sandbox /\
      db.occupied harness < sandbox.maxActiveTurns := by
  cases body with
  | turnStart =>
    rcases bind_inv lineage with ⟨binding, _, started⟩
    rcases bind_inv started with ⟨sandbox, found, started⟩
    rcases bind_inv started with ⟨_, room, _⟩
    rw [requireRow_eq_ok_iff] at found
    rw [refuse_eq_ok_iff, decide_eq_false_iff_not, Nat.not_le] at room
    exact ⟨sandbox, found, room⟩
  | _ => cases isStart

theorem not_reservesTurn (accepts : acceptsCommand row) : reservesTurn row = false := by
  unfold reservesTurn
  rcases Bool.or_eq_true_iff.mp accepts with idle | settled
  · simp [of_decide_eq_true idle]
  · simp [of_decide_eq_true settled]

theorem queue_ok {input : QueueNanoHostHarnessOperationInput} {sequence : Nat}
    (queued : db.queueNanoHostHarnessOperation platform world input = .ok (sequence, after)) :
    LedgerStep platform Reported db.ledger (.queued input.harnessInstanceId sequence) after.ledger := by
  simp only [queueNanoHostHarnessOperation, bind_eq_ok_iff] at queued
  rcases queued with
    ⟨harness, hit, _, accepts, _, _, _, lineage, durableBody, _, _, identity, final, updated,
      queued⟩
  cases queued
  rw [requireHarness, requireRow_eq_ok_iff] at hit
  rw [refuseIf_eq_ok_iff, not_not] at accepts
  rw [refuseIf_eq_ok_iff] at identity
  simp only [not_or, not_not] at identity
  rcases identity with ⟨_, current, _, sameBody, _⟩
  rcases updateHarness_ok updated with ⟨row, found, _, wrote, _⟩
  have same : row = harness := Option.some.inj (found.symm.trans hit)
  subst same
  rw [wrote, current]
  have queuedCell : standing (queuedRow input.prepared.command durableBody input.timestamp row) =
      { standing row with
        operationState := .queued
        command := some ⟨input.prepared.command.operationId, row.nextSequence, durableBody⟩ } := rfl
  rw [queuedCell, <- harnessInstanceId_of_harness? found]
  refine .queued (standing row) ⟨input.prepared.command.operationId, row.nextSequence, durableBody⟩
    (mem_ledger found) accepts rfl ?_
  intro isStart
  have startBody : input.body.operation = .turnStart := sameBody ▸ isStart
  rcases occupied_of_lineage lineage startBody with ⟨sandbox, hosted, room⟩
  refine ⟨sandbox.maxActiveTurns, ?_, ?_⟩
  · apply mem_map.mpr
    refine ⟨sandbox, mem_of_find? hosted, ?_⟩
    rw [keyOf_of_find? hosted]
    rfl
  · have counted := occupied_eq_load found (not_reservesTurn accepts)
    rw [counted] at room
    exact room

/-! ## Dispatching -/

variable {command : RecordedCommand} {receipt : ResultReceipt}
  {answer : Option NanoHostHarnessCommand}

theorem mem_of_nextQueued? {host : String} (next : db.nextQueued? host = some harness) :
    db.harness? harness.harnessInstanceId = some harness /\ harness.operationState = .queued := by
  have mem := mem_of_first? next
  rcases mem_filter.mp mem with ⟨hosted, waiting⟩
  exact ⟨find?_of_mem (mem_filter.mp hosted).1, of_decide_eq_true waiting⟩

/-- Delivering the credentials of a session open leaves the ledger alone, and
needs an opening binding. -/
theorem bindOpen_ok (bound : db.bindOpen name command = .ok after) :
    after.ledger = db.ledger /\ after.harnesses = db.harnesses /\
      ∀ opening, command.body.body = .sessionOpen opening ->
        ∃ taken ∈ db.ledger.seats, taken.bindingId = opening.agentSessionRuntimeBindingId /\
          taken.harnessInstanceId = name /\ taken.lifecycleState = .opening := by
  unfold bindOpen at bound
  split at bound
  next capability inference isOpen _ =>
    have kept : after.ledger = db.ledger := by
      rcases bind_inv bound with ⟨_, _, wrote⟩
      cases wrote
      unfold ledger
      congr 1
      exact map_updateWhere_of_keeps db.bindings _ (deliveredRow capability inference)
        (fun _ => rfl) (fun _ => rfl)
    rcases updateBinding_ok bound with ⟨row, found, passes, _, sameHarnesses⟩
    simp only [Bool.and_eq_true, decide_eq_true_eq] at passes
    refine ⟨kept, sameHarnesses, ?_⟩
    intro other isOther
    rw [isOpen] at isOther
    cases isOther
    rcases mem_seats found with ⟨mem, named, housed⟩
    exact ⟨seat row, mem, named, housed, passes.1.1.2⟩
  · cases bound
  next notOpen _ =>
    cases bound
    refine ⟨rfl, rfl, ?_⟩
    intro opening isOpen
    exact (notOpen opening isOpen).elim

theorem isConsumed_of_require (checked : requireConsumedHarnessResult platform harness = .ok ())
    (retained : harness.receipt = some receipt) : isConsumed platform harness receipt := by
  unfold requireConsumedHarnessResult at checked
  rw [retained] at checked
  rcases bind_inv checked with ⟨_, _, checked⟩
  rw [refuseIf_eq_ok_iff, not_not] at checked
  exact checked

/-- A dispatch that answers with nothing has found nothing to deliver or an expired
cell; otherwise it delivers the next queued cell. -/
theorem dispatch_cases {input : DispatchNanoHostHarnessOperationInput}
    (sent : db.dispatchNanoHostHarnessOperation platform world input = .ok (answer, after)) :
    (answer = none /\ (after = db \/ ∃ name,
        db.setHarnessUnknown name input.now .queued = .ok after)) \/
      ∃ harness command bound guard message,
        db.harness? harness.harnessInstanceId = some harness /\ harness.operationState = .queued /\
        harness.command = some command /\ command.sequence = harness.nextSequence /\
        requireConsumedHarnessResult platform harness = .ok () /\
        answer = some ⟨harness.harnessInstanceId, command.operationId, command.sequence,
          command.body⟩ /\ db.bindOpen harness.harnessInstanceId command = .ok bound /\
        bound.updateHarness harness.harnessInstanceId guard (dispatchedRow input.now)
          (fun _ => rfl) message = .ok after := by
  rcases bind_inv sent with ⟨_, _, sent⟩
  rcases bind_inv sent with ⟨sandbox, _, sent⟩
  split at sent
  · cases sent
    exact .inl ⟨rfl, .inl rfl⟩
  rename_i harness next
  rcases mem_of_nextQueued? next with ⟨found, waiting⟩
  split at sent
  · cases sent
    exact .inl ⟨rfl, .inl rfl⟩
  rcases bind_inv sent with ⟨_, checked, sent⟩
  split at sent
  · rcases bind_inv sent with ⟨expired, marked, answered⟩
    cases answered
    exact .inl ⟨rfl, .inr ⟨_, marked⟩⟩
  · rcases bind_inv sent with ⟨command, recorded, sent⟩
    rcases bind_inv sent with ⟨_, _, afterBody⟩
    rcases bind_inv afterBody with ⟨_, _, afterId⟩
    rcases bind_inv afterId with ⟨_, _, afterId⟩
    rcases bind_inv afterId with ⟨_, _, afterId⟩
    rcases bind_inv afterId with ⟨bound, delivered, afterId⟩
    rcases bind_inv afterId with ⟨final, updated, answered⟩
    cases answered
    rw [requireRow_eq_ok_iff, Option.filter_eq_some_iff] at recorded
    have current : command.sequence = harness.nextSequence := of_decide_eq_true recorded.2
    exact .inr ⟨harness, command, bound, _, _, found, waiting, recorded.1, current, checked,
      by rw [current], delivered, updated⟩

theorem dispatch_ok {input : DispatchNanoHostHarnessOperationInput}
    (sent : db.dispatchNanoHostHarnessOperation platform world input = .ok (answer, after)) :
    LedgerStep platform Reported db.ledger (cellEvent (.dispatch input) (.dispatched answer))
      after.ledger := by
  rcases dispatch_cases sent with ⟨rfl, rfl | ⟨_, marked⟩⟩ |
    ⟨harness, command, bound, guard, message, found, waiting, held, current, checked, rfl, delivered,
      updated⟩
  · exact .still
  · exact ledgerStep_setHarnessUnknown marked (.inl rfl)
  · rcases bindOpen_ok delivered with ⟨sameLedger, sameHarnesses, opening⟩
    rcases updateHarness_ok updated with ⟨row, foundRow, _, wrote, _⟩
    rw [harness?_congr sameHarnesses, found] at foundRow
    cases foundRow
    rw [wrote, sameLedger]
    exact .dispatched (standing harness) command (mem_ledger found) waiting held current
      (fun receipt retained => isConsumed_of_require checked retained) opening

theorem expire_ok
    (expired : db.expireNanoHostHarnessQueuedOperation harnessBindingRef now = .ok after) :
    LedgerStep platform Reported db.ledger .quiet after.ledger := by
  rcases bind_inv expired with ⟨harness, _, expired⟩
  rcases bind_inv expired with ⟨_, _, marked⟩
  exact ledgerStep_setHarnessUnknown marked (.inl rfl)

theorem markUnknown_ok {operationId : String}
    (marked : db.markNanoHostHarnessOperationUnknown harnessBindingRef operationId now =
      .ok after) : LedgerStep platform Reported db.ledger .quiet after.ledger := by
  rcases bind_inv marked with ⟨_, _, marked⟩
  rcases bind_inv marked with ⟨harness, _, marked⟩
  rcases bind_inv marked with ⟨_, _, marked⟩
  exact ledgerStep_setHarnessUnknown marked (.inr rfl)

/-! ## Settling -/

variable (found : db.harness? name = some row) {core : HarnessResultCore}
  {input : SettleNanoHostHarnessOperationInput} {binding : BindingRow} {handle : NativeHandle}
  {selector : SessionSelector} {report : SessionInspection} {op : HarnessOperation}
  {result : NanoHostHarnessResult} {maxActiveTurns : Nat}

include found

/-- Writing the row that is there changes nothing. -/
theorem write_standing : db.ledger.write (standing row) = db.ledger := by
  unfold write
  congr 1
  refine (map_congr_left ?_).trans (map_id db.ledger.harnesses)
  intro other mem
  rcases mem_map.mp mem with ⟨stored, inTable, same⟩
  by_cases here : other.harnessInstanceId = (standing row).harnessInstanceId
  · have sameKey : stored.harnessInstanceId = row.harnessInstanceId := by
      rw [<- same] at here
      exact here
    rw [if_pos here, <- same,
      inj_on_of_nodup_map db.harnesses.unique inTable (mem_of_find? found) sameKey]
    rfl
  · rw [if_neg here, id_eq]

/-- What a projection did: the counts of its Harness and the seats follow the
success, and nothing else has changed. -/
def Projects (Reported : Seat -> SessionInspection -> Prop) (db after : HarnessDb)
    (harnessInstanceId : String) (row : HarnessRow) (body : HarnessCommandBody) : Prop :=
  ∃ counted, after.harness? harnessInstanceId = some counted /\
    Projected Reported body (standing row) db.ledger.seats (standing counted) after.ledger.seats /\
    after.ledger = { db.ledger with seats := after.ledger.seats }.write (standing counted)

theorem projects_of_updateBinding {write : BindingRow -> BindingRow} (wrote : after.ledger =
      { db.ledger with seats := reseat db.ledger.seats (seat (write binding)) })
    (sameHarnesses : after.harnesses = db.harnesses)
    (shown : Projected Reported body (standing row) db.ledger.seats (standing row)
      (reseat db.ledger.seats (seat (write binding)))) :
    Projects Reported db after name row body := by
  refine ⟨row, (harness?_congr sameHarnesses _).trans found, ?_, ?_⟩
  · rw [wrote]
    exact shown
  · rw [wrote]
    have untouched := write_standing found
    rw [Ledger.mk.injEq] at untouched ⊢
    exact ⟨rfl, untouched.2.1.symm, rfl⟩

theorem projectClose_ok (closed : db.projectClose name bindingId = .ok after) :
    Projects Reported db after name row body := by
  rcases bind_inv closed with ⟨removed, hit, closed⟩
  rw [requireRow_eq_ok_iff] at hit
  rcases updateHarness_ok closed with ⟨stored, foundRow, passes, wrote, rows, sameBindings, _⟩
  have same : stored = row := Option.some.inj (foundRow.symm.trans found)
  subst same
  simp only [Bool.and_eq_true, decide_eq_true_eq] at passes
  rcases mem_seats hit with ⟨mem, named, housed⟩
  have unseated : after.ledger.seats =
      db.ledger.seats.filter (·.bindingId ≠ (seat removed).bindingId) := by
    rw [wrote]
    unfold ledger
    simp only [seats_write, Table.delete, filter_map, seat_bindingId, named]
    rfl
  refine ⟨_, (rows _).trans (if_pos rfl), ?_, ?_⟩
  · rw [unseated]
    exact .closed (seat removed) mem
      (housed.trans (harnessInstanceId_of_harness? found).symm) passes.1 passes.2
  · rw [wrote]
    rfl

theorem projectStart_ok {start : TurnStartBody}
    (started : db.projectStart name start handle = .ok after) :
    Projects Reported db after name row (.turnStart start) := by
  rcases bind_inv started with ⟨_, _, started⟩
  rcases bind_inv started with ⟨middle, seated, updated⟩
  rcases updateBinding_ok seated with ⟨binding, hit, idle, reseated, sameHarnesses⟩
  rcases updateHarness_ok updated with ⟨stored, foundRow, room, wrote, rows, _⟩
  rw [harness?_congr sameHarnesses, found] at foundRow
  cases foundRow
  simp only [Bool.and_eq_true, Bool.or_eq_true, decide_eq_true_eq] at idle room
  rcases mem_seats hit with ⟨mem, _, housed⟩
  refine ⟨_, (rows _).trans (if_pos rfl), ?_, ?_⟩
  · rw [wrote, reseated]
    exact .started start (seat binding) rfl mem
      (housed.trans (harnessInstanceId_of_harness? found).symm) idle.1 room
  · rw [wrote, reseated]
    rfl

theorem projectInspect_ok (reports : ∀ binding,
      db.binding? selector.agentSessionRuntimeBindingId name = some binding ->
      Reported (seat binding) report)
    (inspected : db.projectInspect name selector.agentSessionRuntimeBindingId
      report = .ok after) : Projects Reported db after name row (.sessionInspect selector) := by
  rcases bind_inv inspected with ⟨binding, hit, shown⟩
  rw [requireRow_eq_ok_iff] at hit
  rcases mem_seats hit with ⟨mem, _, housed⟩
  have seatedHere : (seat binding).harnessInstanceId = (standing row).harnessInstanceId :=
    housed.trans (harnessInstanceId_of_harness? found).symm
  split at shown
  next barrier =>
    rcases bind_inv shown with ⟨middle, released, updated⟩
    rcases updateBinding_ok released with ⟨other, foundBinding, _, reseated, sameHarnesses⟩
    have sameBinding : other = binding := Option.some.inj (foundBinding.symm.trans hit)
    subst sameBinding
    rcases updateHarness_ok updated with ⟨stored, foundRow, positive, wrote, rows, _⟩
    rw [harness?_congr sameHarnesses, found] at foundRow
    cases foundRow
    simp only [provesBarrier, Bool.and_eq_true, Bool.or_eq_true, decide_eq_true_eq] at barrier
    have idle : inspectedLifecycle report.state ≠ .active := by
      rcases barrier.2 with reported | reported <;> rw [reported] <;> decide
    refine ⟨_, (rows _).trans (if_pos rfl), ?_, ?_⟩
    · rw [wrote, reseated]
      exact .released (seat other) _ mem seatedHere barrier.1.1 (of_decide_eq_true positive) idle
    · rw [wrote, reseated]
      rfl
  next noBarrier =>
    rcases updateBinding_ok shown with ⟨other, foundBinding, _, reseated, sameHarnesses⟩
    have sameBinding : other = binding := Option.some.inj (foundBinding.symm.trans hit)
    subst sameBinding
    apply projects_of_updateBinding found reseated sameHarnesses
    refine .relabelled (seat other) report mem seatedHere (reports other hit) ?_
    intro proves
    apply noBarrier
    simp only [provesBarrier, Bool.and_eq_true, Bool.or_eq_true, decide_eq_true_eq]
    exact ⟨⟨proves.1, proves.2.1⟩, proves.2.2⟩

theorem projectOpen_ok {opening : SessionOpenBody}
    (opened : db.relabel opening.agentSessionRuntimeBindingId name .opened handle =
      .ok after) : Projects Reported db after name row (.sessionOpen opening) := by
  rcases updateBinding_ok opened with ⟨binding, hit, _, reseated, sameHarnesses⟩
  rcases mem_seats hit with ⟨mem, named, housed⟩
  apply projects_of_updateBinding found reseated sameHarnesses
  exact .opened opening (seat binding) rfl mem
    (housed.trans (harnessInstanceId_of_harness? found).symm) named

/-- A projection that leaves counts and seats alone. -/
theorem projects_of_ledger (same : after.ledger = db.ledger) :
    Projects Reported db after name row body := by
  have kept := harness?_ledger after name
  rw [same, harness?_ledger db, found, Option.map_some] at kept
  rcases Option.map_eq_some_iff.mp kept.symm with ⟨later, foundAfter, sameRow⟩
  refine ⟨later, foundAfter, ?_, ?_⟩
  · rw [sameRow, same]
    exact .kept
  · rw [sameRow, same]
    exact (write_standing found).symm

theorem project_ok {success : HarnessSuccess}
    (reports : ∀ selector report binding, body = .sessionInspect selector ->
      success = .sessionInspect report ->
      db.binding? selector.agentSessionRuntimeBindingId name = some binding ->
      Reported (seat binding) report)
    (shown : db.projectSuccessfulResult name body success = .ok after) :
    Projects Reported db after name row body := by
  unfold projectSuccessfulResult at shown
  split at shown
  · cases shown
    exact projects_of_ledger found (ledger_updateWhere_of_standing _ (fun _ => rfl))
  · exact projectClose_ok found shown
  · cases shown
    exact projects_of_ledger found rfl
  · exact projectStart_ok found shown
  · exact projectInspect_ok found
      (fun binding hit => reports _ _ binding rfl rfl hit) shown
  · exact projectOpen_ok found shown
  · cases shown

/-- The binding and the report of a result that settles an inspection. -/
def inspectionOf? (platform : HarnessPlatform) (db : HarnessDb)
    (input : SettleNanoHostHarnessOperationInput) : Option (BindingRow × SessionInspection) :=
  (db.harness? input.result.harnessInstanceId).bind fun harness =>
    harness.command.bind fun command =>
      match command.body.body, parseHarnessResultBody platform.isDatetime .sessionInspect
        input.result.disposition input.result.body with
      | .sessionInspect selector, some (.succeeded (.sessionInspect inspection)) =>
        (db.binding? selector.agentSessionRuntimeBindingId harness.harnessInstanceId).map
          (fun binding => (binding, inspection))
      | _, _ => none

omit found

theorem requireHarnessResult_ok
    (parsed : requireHarnessResult platform op result maxActiveTurns = .ok core) :
    parseHarnessResultBody platform.isDatetime op result.disposition result.body =
        some core.body /\ declaresOtherCapacity maxActiveTurns core.body = false /\
      core = ⟨result.harnessInstanceId, result.operationId, result.sequence, core.body⟩ := by
  rcases bind_inv parsed with ⟨body, readAs, parsed⟩
  rcases bind_inv parsed with ⟨_, declared, same⟩
  rw [requireRow_eq_ok_iff] at readAs
  rw [refuseIf_eq_ok_iff, Bool.not_eq_true] at declared
  cases same
  exact ⟨readAs, declared, rfl⟩

theorem requireHarnessResult_of_parse
    (parsed : parseHarnessResultBody platform.isDatetime op result.disposition result.body =
      some core.body) (declared : declaresOtherCapacity maxActiveTurns core.body = false)
    (same : core = ⟨result.harnessInstanceId, result.operationId, result.sequence, core.body⟩) :
    requireHarnessResult platform op result maxActiveTurns = .ok core := by
  unfold requireHarnessResult
  rw [parsed]
  refine bind_eq_ok_iff.mpr ⟨core.body, rfl, ?_⟩
  refine bind_eq_ok_iff.mpr ⟨(), ?_, congrArg Except.ok same.symm⟩
  rw [refuseIf_eq_ok_iff, Bool.not_eq_true]
  exact declared

theorem inspectionOf?_eq_some (found : db.harness? input.result.harnessInstanceId = some harness)
    (held : harness.command = some command)
    (isInspect : command.body.body = .sessionInspect selector)
    (parsed : requireHarnessResult platform command.body.body.operation input.result
      harness.maxActiveTurns = .ok core)
    (succeeded : core.body = .succeeded (.sessionInspect report))
    (hit : db.binding? selector.agentSessionRuntimeBindingId harness.harnessInstanceId =
      some binding) : inspectionOf? platform db input = some (binding, report) := by
  have readAs := (requireHarnessResult_ok parsed).1
  rw [isInspect, succeeded] at readAs
  unfold inspectionOf?
  simp only [found, Option.bind_some, held, isInspect]
  rw [show parseHarnessResultBody platform.isDatetime .sessionInspect input.result.disposition
    input.result.body = some (.succeeded (.sessionInspect report)) from readAs]
  simp only [hit, Option.map_some]

theorem newReceipt_ok (made : db.newReceipt platform world harness command core = .ok receipt) :
    receipt.core = core := by
  unfold newReceipt at made
  split at made
  · simp only [bind_eq_ok_iff] at made
    rcases made with ⟨_, _, _, _, _, _, _, _, same⟩
    cases same
    rfl
  · cases made
    rfl

include found

theorem settleCell_ok {middle : HarnessDb}
    (delivered : Delivered platform (standing row) command receipt)
    (projects : Projects Reported db middle name row command.body.body)
    (settled : middle.settleCell name receipt now = .ok after) :
    LedgerStep platform Reported db.ledger (.settled name receipt.core.sequence)
      after.ledger := by
  rcases projects with ⟨counted, foundCounted, shown, wrote⟩
  rcases updateHarness_ok settled with ⟨stored, foundRow, _, writtenCell, _⟩
  have same : stored = counted := Option.some.inj (foundRow.symm.trans foundCounted)
  subst same
  have replaced (ledger : Ledger) : (ledger.write (standing stored)).write
      (standing (settledRow receipt now stored)) =
        ledger.write (standing (settledRow receipt now stored)) :=
    write_write rfl
  rw [writtenCell, wrote, replaced, <- harnessInstanceId_of_harness? found]
  exact .settled (standing row) command receipt (standing stored) middle.ledger.seats
    (mem_ledger found) delivered shown

omit found

theorem settleFirst_ok (found : db.harness? input.result.harnessInstanceId = some harness)
    (enveloped : parseResultEnvelope input.result = .ok ())
    (reports : ∀ binding report, inspectionOf? platform db input = some (binding, report) ->
      Reported (seat binding) report)
    (settled : db.settleFirst platform world harness input = .ok after) :
    LedgerStep platform Reported db.ledger
      (.settled input.result.harnessInstanceId input.result.sequence) after.ledger := by
  unfold settleFirst at settled
  split at settled
  · rcases bind_inv settled with ⟨_, _, thrown⟩
    cases thrown
  rename_i command held
  simp only [bind_eq_ok_iff] at settled
  rcases settled with ⟨core, parsed, _, _, _, matched, receipt, made, wrote⟩
  rw [refuseIf_eq_ok_iff] at matched
  simp only [not_or, not_not] at matched
  rcases matched with ⟨sent, sameOperation, sameSequence⟩
  have sameCore := newReceipt_ok made
  have sameId := harnessInstanceId_of_harness? found
  have delivered : Delivered platform (standing harness) command receipt :=
    { dispatched := sent
      held := held, operationId := sameCore ▸ sameOperation.symm
      sequence := sameCore ▸ sameSequence.symm
      enveloped := by
        rw [sameCore, (requireHarnessResult_ok parsed).2.2]
        exact enveloped
      parsed := ⟨input.result, sameCore ▸ parsed⟩ }
  have hit : db.harness? harness.harnessInstanceId = some harness := sameId ▸ found
  have sameLabel : input.result.sequence = receipt.core.sequence := by
    rw [sameCore, (requireHarnessResult_ok parsed).2.2]
  rw [sameLabel, <- sameId]
  unfold settleDispatched at wrote
  split at wrote
  · rcases bind_inv wrote with ⟨fenced, marked, updated⟩
    rcases setHarnessUnknown_ok marked with ⟨row, foundRow, _, writtenUnknown⟩
    have same : row = harness := Option.some.inj (foundRow.symm.trans hit)
    subst same
    rcases updateHarness_ok updated with ⟨stored, foundStored, _, writtenReceipt, _⟩
    have received : standing (receivedRow receipt stored) =
        { standing row with operationState := .unknown, receipt := some receipt } := by
      have seen := harness?_ledger fenced row.harnessInstanceId
      have present : db.ledger.harness? row.harnessInstanceId = some (standing row) := by
        rw [harness?_ledger, hit]
        rfl
      have marked : (db.ledger.write { standing row with operationState := .unknown }).harness?
          row.harnessInstanceId = some { standing row with operationState := .unknown } :=
        (harness?_write { standing row with operationState := .unknown } present _).trans
          (if_pos rfl)
      rw [foundStored, writtenUnknown, marked] at seen
      exact congrArg (receivedRow receipt) (Option.some.inj seen).symm
    rw [writtenReceipt, writtenUnknown, received]
    rw [show ∀ first second : HarnessRow, first.harnessInstanceId = second.harnessInstanceId ->
      (db.ledger.write first).write second = db.ledger.write second from
        fun _ _ same => write_write same]
    · exact .received (standing row) command receipt (mem_ledger hit) delivered
    · rfl
  · rcases bind_inv wrote with ⟨drained, admission, updated⟩
    exact settleCell_ok hit delivered
      (projects_of_ledger hit (drainIfCleanupRequired_ok admission)) updated
  next succeeded =>
    rcases bind_inv wrote with ⟨projectedDb, shown, updated⟩
    refine settleCell_ok hit delivered (project_ok hit ?_ shown) updated
    intro selector report binding isInspect isInspection foundBinding
    apply reports
    have inspected : core.body = .succeeded (.sessionInspect report) := by
      rw [<- sameCore, succeeded, isInspection]
    exact inspectionOf?_eq_some found held isInspect parsed inspected foundBinding

theorem settle_ok {outcome : SettleOutcome} (reports : outcome = .settled -> ∀ binding report,
      inspectionOf? platform db input = some (binding, report) ->
      Reported (seat binding) report)
    (settled : db.settleNanoHostHarnessOperation platform world input = .ok (outcome, after)) :
    LedgerStep platform Reported db.ledger (cellEvent (.settle input) (.settled outcome))
      after.ledger := by
  rcases bind_inv settled with ⟨_, enveloped, settled⟩
  rcases bind_inv settled with ⟨harness, owned, settled⟩
  have found := harness?_of_integration owned
  split at settled
  · rcases bind_inv settled with ⟨_, _, replayed⟩
    cases replayed
    exact .still
  · rcases bind_inv settled with ⟨wrote, first, settled⟩
    cases settled
    exact settleFirst_ok found enveloped (reports rfl) first

/-! ## Acknowledging -/

theorem acknowledge_ok {input : AcknowledgeNanoHostHarnessResultInput}
    (acknowledged : db.acknowledgeNanoHostHarnessResult platform input = .ok after) :
    LedgerStep platform Reported db.ledger .quiet after.ledger := by
  simp only [acknowledgeNanoHostHarnessResult, bind_eq_ok_iff] at acknowledged
  rcases acknowledged with
    ⟨_, _, _, _, harness, hit, receipt, retained, _, _, _, _, _, _, _, _, recorded⟩
  rw [requireRow_eq_ok_iff] at retained
  split at recorded
  · rcases bind_inv recorded with ⟨_, _, afterCheck⟩
    rcases bind_inv afterCheck with ⟨_, _, same⟩
    cases same
    exact .still
  next unconsumed =>
    simp only [bind_eq_ok_iff] at recorded
    rcases recorded with ⟨command, _, _, _, _, namespaced, updated⟩
    rcases harness?_of_binding hit with ⟨found, sameBinding⟩
    rcases updateHarness_ok updated with ⟨row, foundRow, _, wrote, _⟩
    have same : row = harness := Option.some.inj (foundRow.symm.trans found)
    subst same
    rw [wrote]
    refine .acknowledged (standing row) receipt _ (mem_ledger found) retained unconsumed ?_
    cases consumer : input.consumerReceipt with
    | idle =>
      rw [consumer] at namespaced
      cases namespaced
    | step =>
      rw [<- sameBinding]
      simp [isConsumed, standing]

/-! ## The refinement -/

end HarnessDb

theorem answerCall_ledgerStep {platform : HarnessPlatform} {event : HarnessEvent}
    {db after : HarnessDb} {answer : HarnessAnswer} {Reported : Seat -> SessionInspection -> Prop}
    (reports : ∀ input binding report, event.call = .settle input ->
      answer = .settled .settled -> inspectionOf? platform db input = some (binding, report) ->
      Reported (seat binding) report)
    (answered : answerCall platform event db = .ok (answer, after)) :
    LedgerStep platform Reported db.ledger (cellEvent event.call answer) after.ledger := by
  unfold answerCall at answered
  cases called : event.call
  all_goals rw [called] at answered
  case drainSandbox sandboxBindingRef originPhysicalEpoch =>
    cases answered
    rw [ledger_drainSandbox]
    exact .still
  all_goals
    rcases bind_inv answered with ⟨result, wrote, same⟩
    cases same
  case create input => exact create_ok wrote
  case openBinding input => exact openBinding_ok wrote
  case queue input => exact queue_ok wrote
  case dispatch input => exact dispatch_ok wrote
  case settle input =>
    refine settle_ok ?_ wrote
    intro first binding report
    exact reports input binding report called (congrArg HarnessAnswer.settled first)
  case acknowledge input => exact acknowledge_ok wrote
  case markUnknown harnessBindingRef operationId now => exact markUnknown_ok wrote
  case expire harnessBindingRef now => exact expire_ok wrote
  case drainHarness harnessBindingRef now =>
    rcases bind_inv wrote with ⟨_, _, admission⟩
    rw [drainHarnessAdmission_ok admission]
    exact .still
  case fence target now =>
    rw [fence_ok wrote, ledger_fenceSandbox]
    exact .still

end Harness
end OpenKit
