import OpenKit.Harness.Occupancy

namespace OpenKit
namespace Harness

open Foundation HarnessDb List

/-!
# The command cell of a Harness

One cell serves all commands of a Harness in turn, and the receipt of a command
stays in it while its successor is already queued.  This module follows one
cell through every run: a cell takes one `CellStep` a call, and the sequences
that it dispatches and settles grow strictly.

The replay of a retained result is accepted while the cell still knows the
command of that result, or is queued.  A cell whose queued successor expired is
`unknown`, names the successor's operation, and refuses a replay that this
operation cannot read.
-/

variable {receipt : ResultReceipt} {platform : HarnessPlatform} {row : HarnessRow} {ledger : Ledger}
  {op : HarnessOperation} {sequence : Nat} {db : HarnessDb}

/-! ## Cells -/

structure Cell where
  harnessBindingRef : String
  (maxActiveTurns nextSequence : Nat)
  operationState : OperationState
  command : Option RecordedCommand
  receipt : Option ResultReceipt

def cell (row : HarnessRow) : Cell :=
  { row with }

def Acknowledged (platform : HarnessPlatform) (receipt : ResultReceipt) : Prop :=
  ∃ consumption, receipt.consumption = some consumption /\
    consumption.operationId = receipt.core.operationId /\
    consumption.sequence = receipt.core.sequence /\
    consumption.resultFingerprint = resultFingerprint platform receipt.core

/-- What a call does to one cell. -/
inductive CellAct where
  | quiet
  | queued (sequence : Nat)
  | dispatched (sequence : Nat)
  | settled (sequence : Nat)
deriving DecidableEq

/-- What a call does to the cell of one Harness. -/
def CellEvent.actAt (harnessInstanceId : String) : CellEvent -> CellAct
  | .quiet => .quiet
  | .queued named sequence => if named = harnessInstanceId then .queued sequence else .quiet
  | .dispatched named sequence => if named = harnessInstanceId then .dispatched sequence else .quiet
  | .settled named sequence => if named = harnessInstanceId then .settled sequence else .quiet

/-- A result that was read for the dispatched command of a cell. -/
structure Receives (platform : HarnessPlatform) (current : Cell) (command : RecordedCommand)
    (receipt : ResultReceipt) : Prop where
  dispatched : current.operationState = .dispatched
  held : current.command = some command
  operationId : receipt.core.operationId = command.operationId
  sequence : receipt.core.sequence = command.sequence
  enveloped : parseResultEnvelope receipt.core.result = .ok ()
  parsed : ∃ result, requireHarnessResult platform command.body.body.operation result
    current.maxActiveTurns = .ok receipt.core

inductive CellStep (platform : HarnessPlatform) (current : Cell) : CellAct -> Cell -> Prop where
  | kept : CellStep platform current .quiet current
  | queued (command : RecordedCommand)
      (accepts : current.operationState = .idle \/ current.operationState = .settled)
      (next : command.sequence = current.nextSequence) :
      CellStep platform current (.queued command.sequence)
        { current with operationState := .queued, command := some command }
  | dispatched (command : RecordedCommand) (waiting : current.operationState = .queued)
      (held : current.command = some command) (next : command.sequence = current.nextSequence)
      (consumed : ∀ receipt, current.receipt = some receipt -> Acknowledged platform receipt) :
      CellStep platform current (.dispatched command.sequence)
        { current with operationState := .dispatched, receipt := none }
  | widened
      (unsettled : current.operationState = .queued \/ current.operationState = .dispatched) :
      CellStep platform current .quiet { current with operationState := .unknown }
  | received (command : RecordedCommand) (receipt : ResultReceipt)
      (receives : Receives platform current command receipt) :
      CellStep platform current (.settled receipt.core.sequence)
        { current with operationState := .unknown, receipt := some receipt }
  | settled (command : RecordedCommand) (receipt : ResultReceipt)
      (receives : Receives platform current command receipt) :
      CellStep platform current (.settled receipt.core.sequence)
        { current with
          operationState := .settled, receipt := some receipt
          nextSequence := current.nextSequence + 1 }
  | acknowledged (receipt : ResultReceipt) (consumption : HarnessResultConsumption)
      (retained : current.receipt = some receipt) (unconsumed : receipt.consumption = none) :
      CellStep platform current .quiet
        { current with receipt := some { receipt with consumption := some consumption } }

/-- The cell of a new Harness. -/
def Cell.IsFresh (current : Cell) : Prop :=
  current.nextSequence = 0 /\ current.operationState = .idle /\ current.command = none /\
    current.receipt = none

/-! ## A call takes every cell by one step -/

variable {act : CellAct}

/-- A Harness of a ledger is the one of its identity. -/
theorem Ledger.harness?_of_mem (keyed : ledger.Keyed) (mem : row ∈ ledger.harnesses) :
    ledger.harness? row.harnessInstanceId = some row := by
  cases found : ledger.harness? row.harnessInstanceId with
  | none =>
    have differs := find?_eq_none.mp found row mem
    simp only [decide_true, not_true_eq_false] at differs
  | some other =>
    have same : other.harnessInstanceId = row.harnessInstanceId := by
      simpa using find?_some found
    rw [inj_on_of_nodup_map keyed.harnesses (mem_of_find?_eq_some found) mem same]

/-- What one call does to all cells. -/
structure CellsStep (platform : HarnessPlatform) (ledger : Ledger) (happened : CellEvent)
    (after : Ledger) : Prop where
  present : ∀ harnessInstanceId row, ledger.harness? harnessInstanceId = some row ->
    ∃ later, after.harness? harnessInstanceId = some later /\
      CellStep platform (cell row) (happened.actAt harnessInstanceId) (cell later)
  absent : ∀ harnessInstanceId, ledger.harness? harnessInstanceId = none ->
    happened.actAt harnessInstanceId = .quiet /\
      ∀ later, after.harness? harnessInstanceId = some later -> (cell later).IsFresh

namespace CellsStep

variable {after : Ledger} {happened : CellEvent}

/-- A call that leaves the Harnesses alone. -/
theorem of_same (same : after.harnesses = ledger.harnesses) :
    CellsStep platform ledger .quiet after := by
  have sameFind (name : String) :
      after.harness? name = ledger.harness? name := by
    unfold Ledger.harness?
    rw [same]
  refine ⟨?_, ?_⟩
  · intro name row found
    exact ⟨row, (sameFind name).trans found, .kept⟩
  · intro name missing
    refine ⟨rfl, ?_⟩
    intro later found
    rw [sameFind, missing] at found
    cases found

/-- A call that writes one Harness, and maybe seats. -/
theorem of_write {wrote : HarnessRow} {seats : List Seat} (keyed : ledger.Keyed)
    (mem : row ∈ ledger.harnesses) (same : wrote.harnessInstanceId = row.harnessInstanceId)
    (labelled : ∀ name, happened.actAt name =
      if row.harnessInstanceId = name then act else .quiet)
    (stepped : CellStep platform (cell row) act (cell wrote)) :
    CellsStep platform ledger happened ({ ledger with seats := seats }.write wrote) := by
  have present := Ledger.harness?_of_mem keyed mem
  have found (name : String) :
      ({ ledger with seats := seats }.write wrote).harness? name =
      if name = row.harnessInstanceId then some wrote
      else ledger.harness? name := by
    have read := Ledger.harness?_write wrote (same ▸ present) name
    rw [same] at read
    exact read
  refine ⟨?_, ?_⟩
  · intro name old hit
    by_cases here : name = row.harnessInstanceId
    · subst here
      rw [present] at hit
      cases hit
      rw [labelled, if_pos rfl]
      exact ⟨wrote, (found _).trans (if_pos rfl), stepped⟩
    · rw [labelled, if_neg (Ne.symm here)]
      exact ⟨old, (found _).trans ((if_neg here).trans hit), .kept⟩
  · intro name missing
    have here : name ≠ row.harnessInstanceId := by
      intro here
      rw [here, present] at missing
      cases missing
    refine ⟨(labelled _).trans (if_neg (Ne.symm here)), ?_⟩
    intro later hit
    rw [found, if_neg here, missing] at hit
    cases hit

/-- A call that adds a Harness with an empty cell. -/
theorem of_append (empty : (cell row).IsFresh)
    (harnesses : after.harnesses = ledger.harnesses ++ [row]) :
    CellsStep platform ledger .quiet after := by
  have found (name : String) : after.harness? name =
      (ledger.harness? name).or
        ([row].find? (·.harnessInstanceId = name)) := by
    unfold Ledger.harness?
    rw [harnesses, find?_append]
  refine ⟨?_, ?_⟩
  · intro name old hit
    refine ⟨old, ?_, .kept⟩
    rw [found, hit, Option.some_or]
  · intro name missing
    refine ⟨rfl, ?_⟩
    intro later hit
    rw [found, missing, Option.none_or] at hit
    rw [mem_singleton.mp (mem_of_find?_eq_some hit)]
    exact empty

end CellsStep

theorem CellEvent.actAt_quiet (owner name : String) :
    CellEvent.quiet.actAt name =
      if owner = name then .quiet else .quiet :=
  (ite_self _).symm

theorem Receives.of_delivered {command : RecordedCommand}
    (delivered : Delivered platform row command receipt) :
    Receives platform (cell row) command receipt where
  dispatched := delivered.dispatched
  held := delivered.held
  operationId := delivered.operationId
  sequence := delivered.sequence
  enveloped := delivered.enveloped
  parsed := delivered.parsed

theorem LedgerStep.cells {Reported : Seat -> SessionInspection -> Prop} {after : Ledger}
    {happened : CellEvent} (keyed : ledger.Keyed)
    (stepped : LedgerStep platform Reported ledger happened after) :
    CellsStep platform ledger happened after := by
  cases stepped with
  | still => exact .of_same rfl
  | created => exact .of_append ⟨rfl, rfl, rfl, rfl⟩ rfl
  | opened row taken mem =>
    exact .of_write keyed mem (by rfl) (CellEvent.actAt_quiet _) .kept
  | queued row command mem accepts current =>
    apply CellsStep.of_write keyed mem (by rfl) (fun _ => rfl)
    simp only [acceptsCommand, Bool.or_eq_true, decide_eq_true_eq] at accepts
    exact CellStep.queued command accepts current
  | dispatched row command mem waiting held current consumed =>
    apply CellsStep.of_write keyed mem (by rfl) (fun _ => rfl)
    apply CellStep.dispatched command waiting held current
    intro receipt retained
    rcases (Option.any_eq_true _ _).mp (consumed receipt retained) with
      ⟨consumption, recorded, checks⟩
    simp only [Bool.and_eq_true, decide_eq_true_eq] at checks
    exact ⟨consumption, recorded, checks.1.1.1.2, checks.1.1.2, checks.1.2⟩
  | widened row mem unsettled =>
    exact .of_write keyed mem (by rfl) (CellEvent.actAt_quiet _) (.widened unsettled)
  | received row command receipt mem delivered =>
    exact .of_write keyed mem (by rfl) (fun _ => rfl)
      (.received command receipt (.of_delivered delivered))
  | settled row command receipt counted seats mem delivered shown =>
    have sameId : counted.harnessInstanceId = row.harnessInstanceId := by
      rw [shown.counts_only]
    have sameCell : cell counted = cell row := by
      rw [shown.counts_only]
      rfl
    apply CellsStep.of_write keyed mem (by exact sameId) (fun _ => rfl)
    have wrote := CellStep.settled command receipt (Receives.of_delivered delivered)
    exact sameCell ▸ wrote
  | acknowledged row receipt consumption mem retained unconsumed exact =>
    exact .of_write keyed mem (by rfl) (CellEvent.actAt_quiet _)
      (.acknowledged receipt consumption retained unconsumed)

/-! ## Reading one result by several operations -/

variable {maxActiveTurns : Nat} {core : HarnessResultCore} {result : NanoHostHarnessResult}

open HarnessDb (requireHarnessResult_ok requireHarnessResult_of_parse)

/-- The readers of an operation admit a stored core. -/
def Admits (platform : HarnessPlatform) (maxActiveTurns : Nat) (operation : HarnessOperation)
    (core : HarnessResultCore) : Prop :=
  requireHarnessResult platform operation core.result maxActiveTurns = .ok core

theorem admits_iff : Admits platform maxActiveTurns op core <->
      core.body.wellFormed platform.isDatetime op /\
        declaresOtherCapacity maxActiveTurns core.body = false := by
  constructor
  · intro admits
    rcases requireHarnessResult_ok admits with ⟨parsed, declared, _⟩
    exact ⟨(wellFormed_of_parse parsed).1, declared⟩
  · rintro ⟨admitted, declared⟩
    have parsed := parse_encode platform.isDatetime op core.body
    rw [if_pos admitted] at parsed
    exact requireHarnessResult_of_parse parsed declared rfl

theorem core_of_read {other : HarnessResultCore}
    (readAs : requireHarnessResult platform op core.result maxActiveTurns = .ok other) :
    other = core := by
  rcases requireHarnessResult_ok readAs with ⟨parsed, _, same⟩
  have sameBody : other.body = core.body := by
    have encoded := parse_encode platform.isDatetime op core.body
    rw [show parseHarnessResultBody platform.isDatetime op core.body.disposition
      core.body.encode = some other.body from parsed] at encoded
    split at encoded
    · exact Option.some.inj encoded
    · cases encoded
  rw [same, sameBody]
  rfl

theorem read_congr {first second : HarnessOperation}
    (readAs : requireHarnessResult platform first result maxActiveTurns = .ok core)
    (admits : Admits platform maxActiveTurns second core) :
    requireHarnessResult platform second result maxActiveTurns = .ok core := by
  rcases requireHarnessResult_ok readAs with ⟨parsed, declared, same⟩
  rcases admits_iff.mp admits with ⟨admitted, _⟩
  have disposed := (wellFormed_of_parse parsed).2
  refine requireHarnessResult_of_parse ?_ declared same
  cases read : core.body with
  | unknown =>
    rw [read] at parsed disposed admitted
    exact parse_congr parsed (disposed ▸ rfl) admitted
  | refused =>
    rw [read] at parsed disposed admitted
    exact parse_congr parsed (disposed ▸ rfl) admitted
  | succeeded success =>
    -- A success names its operation, so both readers are the same one.
    have left := (wellFormed_of_parse parsed).1
    rw [read] at left admitted
    rw [<- (operation_of_wellFormed left).symm.trans (operation_of_wellFormed admitted), <- read]
    exact parsed

/-- A reader that admits a core sees it unchanged exactly in the results of that core. -/
theorem readsAlike_iff {harness : HarnessRow} :
    readsAlike platform harness core result op <->
      Admits platform harness.maxActiveTurns op core /\
        requireHarnessResult platform op result harness.maxActiveTurns = .ok core := by
  unfold readsAlike
  constructor
  · intro alike
    split at alike
    next before after stored readAs =>
      have same : before = after := by simpa using alike
      have isCore := core_of_read stored
      exact ⟨isCore ▸ stored, by rw [readAs, <- same, isCore]⟩
    · cases alike
  · rintro ⟨admits, readAs⟩
    rw [show requireHarnessResult platform op core.result harness.maxActiveTurns =
      .ok core from admits, readAs]
    exact decide_eq_true rfl

/-! ## Sound cells -/

def Cell.Holds (current : Cell) (core : HarnessResultCore) : Prop :=
  ∃ command, current.command = some command /\ command.operationId = core.operationId /\
    command.sequence = core.sequence

/-- What holds of every cell: a waiting or dispatched command has the next
sequence, a dispatched one has no receipt beside it, a settled one is the
command of the receipt, and a receipt is older than the next command and can be
read by some operation, by its own if the cell still holds its command. -/
structure Cell.Sound (platform : HarnessPlatform) (current : Cell) : Prop where
  numbered : current.operationState = .queued \/ current.operationState = .dispatched ->
    ∀ command, current.command = some command -> command.sequence = current.nextSequence
  vacant : current.operationState = .idle \/ current.operationState = .dispatched ->
    current.receipt = none
  matched : current.operationState = .settled -> ∀ receipt, current.receipt = some receipt ->
    current.Holds receipt.core
  older : current.operationState = .settled \/ current.operationState = .queued ->
    ∀ receipt, current.receipt = some receipt -> receipt.core.sequence < current.nextSequence
  enveloped : ∀ receipt, current.receipt = some receipt ->
    parseResultEnvelope receipt.core.result = .ok ()
  readable : ∀ receipt, current.receipt = some receipt ->
    ∃ operation, Admits platform current.maxActiveTurns operation receipt.core
  own : ∀ receipt command, current.receipt = some receipt -> current.command = some command ->
    command.operationId = receipt.core.operationId -> command.sequence = receipt.core.sequence ->
    Admits platform current.maxActiveTurns command.body.body.operation receipt.core

namespace Cell

variable {current later : Cell} {act : CellAct}

variable (stepped : CellStep platform current act later) (sound : current.Sound platform)

theorem Sound.of_no_receipt (none : current.receipt = none)
    (numbered : current.operationState = .queued \/ current.operationState = .dispatched ->
      ∀ command, current.command = some command -> command.sequence = current.nextSequence) :
    current.Sound platform := by
  refine ⟨numbered, fun _ => none, ?_, ?_, ?_, ?_, ?_⟩
  all_goals simp [none]

include sound

/-- A cell that waits for a command has its receipt below the next sequence. -/
theorem Sound.older_of_accepts
    (accepts : current.operationState = .idle \/ current.operationState = .settled)
    (retained : current.receipt = some receipt) : receipt.core.sequence < current.nextSequence := by
  rcases accepts with idle | settled
  · rw [sound.vacant (.inl idle)] at retained
    cases retained
  · exact sound.older (.inl settled) receipt retained

omit sound

variable {command : RecordedCommand}

/-- A received result has an envelope, and its operation admits it. -/
theorem enveloped_of_receives (receives : Receives platform current command receipt) :
    ∀ retained, some receipt = some retained ->
      parseResultEnvelope retained.core.result = .ok () := by
  intro retained same
  rw [<- Option.some.inj same]
  exact receives.enveloped

theorem own_of_receives (receives : Receives platform current command receipt) :
    ∀ retained held, some receipt = some retained -> current.command = some held ->
      Admits platform current.maxActiveTurns held.body.body.operation retained.core := by
  intro retained held same isHeld
  rw [<- Option.some.inj same, <- Option.some.inj (receives.held.symm.trans isHeld)]
  rcases receives.parsed with ⟨result, readAs⟩
  rcases requireHarnessResult_ok readAs with ⟨parsed, declared, _⟩
  exact admits_iff.mpr ⟨(wellFormed_of_parse parsed).1, declared⟩

include stepped sound

theorem Sound.step : later.Sound platform := by
  cases stepped with
  | kept => exact sound
  | queued command accepts next =>
    exact
      { numbered := fun _ _ held => Option.some.inj held ▸ next
        vacant := by simp, matched := by simp
        older := fun _ _ retained => sound.older_of_accepts accepts retained
        enveloped := sound.enveloped, readable := sound.readable
        own := by
          -- The new command has the next sequence, so it is not the receipt's.
          intro receipt held retained isHeld _ sameSequence
          have older := sound.older_of_accepts accepts retained
          rw [<- Option.some.inj isHeld, next] at sameSequence
          exact absurd sameSequence.symm (Nat.ne_of_lt older) }
  | dispatched command waiting =>
    exact .of_no_receipt rfl (fun _ => sound.numbered (.inl waiting))
  | widened =>
    exact
      { numbered := by simp, vacant := by simp, matched := by simp, older := by simp
        enveloped := sound.enveloped, readable := sound.readable, own := sound.own }
  | received command receipt receives =>
    exact
      { numbered := by simp, vacant := by simp, matched := by simp, older := by simp
        enveloped := enveloped_of_receives receives
        readable := fun retained same =>
          ⟨_, own_of_receives receives retained command same receives.held⟩
        own := fun retained held same isHeld _ _ =>
          own_of_receives receives retained held same isHeld }
  | settled command receipt receives =>
    have sequence : receipt.core.sequence = current.nextSequence :=
      receives.sequence.trans (sound.numbered (.inr receives.dispatched) command receives.held)
    exact
      { numbered := by simp, vacant := by simp
        matched := by
          intro _ retained same
          rw [<- Option.some.inj same]
          exact ⟨command, receives.held, receives.operationId.symm, receives.sequence.symm⟩
        older := by
          intro _ retained same
          rw [<- Option.some.inj same, sequence]
          exact Nat.lt_succ_self _
        enveloped := enveloped_of_receives receives
        readable := fun retained same =>
          ⟨_, own_of_receives receives retained command same receives.held⟩
        own := fun retained held same isHeld _ _ =>
          own_of_receives receives retained held same isHeld }
  | acknowledged receipt consumption retained =>
    -- Only the consumption changes, and no clause reads it.
    have occupied : ¬ (current.operationState = .idle \/ current.operationState = .dispatched) := by
      intro vacant
      rw [sound.vacant vacant] at retained
      cases retained
    exact
      { numbered := sound.numbered
        vacant := fun state => absurd state occupied
        matched := by
          intro state kept same
          rw [<- Option.some.inj same]
          exact sound.matched state receipt retained
        older := by
          intro state kept same
          rw [<- Option.some.inj same]
          exact sound.older state receipt retained
        enveloped := by
          intro kept same
          rw [<- Option.some.inj same]
          exact sound.enveloped receipt retained
        readable := by
          intro kept same
          rw [<- Option.some.inj same]
          exact sound.readable receipt retained
        own := by
          intro kept command same held sameId sameSequence
          rw [<- Option.some.inj same] at sameId sameSequence ⊢
          exact sound.own receipt command retained held sameId sameSequence }

/-! ## Ranks -/

/-- The number below which no sequence is dispatched any more. -/
def dispatchRank (current : Cell) : Nat :=
  current.nextSequence +
    if current.operationState = .dispatched \/ current.operationState = .unknown then 1 else 0

/-- The number below which no sequence is settled any more. -/
def settleRank (current : Cell) : Nat :=
  current.nextSequence + if current.operationState = .unknown then 1 else 0

omit sound

/-- No step lowers a rank. -/
theorem ranks_le :
    current.dispatchRank <= later.dispatchRank /\ current.settleRank <= later.settleRank := by
  unfold dispatchRank settleRank
  cases stepped with
  | kept => exact ⟨Nat.le_refl _, Nat.le_refl _⟩
  | queued command accepts =>
    rcases accepts with state | state <;> simp [state]
  | dispatched command waiting => simp [waiting]
  | widened unsettled =>
    rcases unsettled with state | state <;> simp [state]
  | received _ _ receives | settled _ _ receives => simp [receives.dispatched]
  | acknowledged =>
    exact ⟨Nat.le_refl _, Nat.le_refl _⟩

omit stepped

/-- A dispatch lies between the ranks around it. -/
theorem dispatchRank_of_dispatched
    (stepped : CellStep platform current (.dispatched sequence) later) :
    current.operationState = .queued /\ current.nextSequence = sequence /\
      current.dispatchRank <= sequence /\ sequence < later.dispatchRank := by
  cases stepped with
  | dispatched command waiting held next =>
    refine ⟨waiting, next.symm, ?_, ?_⟩
    · simp [dispatchRank, waiting, next]
    · simp [dispatchRank, next]

include sound

/-- A settlement lies between the ranks around it. -/
theorem settleRank_of_settled (stepped : CellStep platform current (.settled sequence) later) :
    current.settleRank <= sequence /\ sequence < later.settleRank := by
  have numbered {command : RecordedCommand} {receipt : ResultReceipt}
      (receives : Receives platform current command receipt) :
      receipt.core.sequence = current.nextSequence :=
    receives.sequence.trans (sound.numbered (.inr receives.dispatched) command receives.held)
  cases stepped with
  | received _ _ receives | settled _ _ receives =>
    simp [settleRank, receives.dispatched, numbered receives]

include stepped

theorem receipt_kept (retained : current.receipt = some receipt) : Acknowledged platform receipt \/
      ∃ kept, later.receipt = some kept /\ kept.core = receipt.core := by
  have vacant {command : RecordedCommand} {other : ResultReceipt}
      (receives : Receives platform current command other) : False := by
    rw [sound.vacant (.inr receives.dispatched)] at retained
    cases retained
  cases stepped with
  | kept | queued | widened => exact .inr ⟨receipt, retained, rfl⟩
  | dispatched command waiting held next consumed => exact .inl (consumed receipt retained)
  | received _ _ receives | settled _ _ receives => exact (vacant receives).elim
  | acknowledged other consumption isRetained =>
    refine .inr ⟨_, rfl, ?_⟩
    rw [Option.some.inj (isRetained.symm.trans retained)]

omit sound

/-- An unknown cell stays unknown and does nothing. -/
theorem unknown_kept (isUnknown : current.operationState = .unknown) :
    act = .quiet /\ later.operationState = .unknown := by
  cases stepped with
  | kept | acknowledged => exact ⟨rfl, isUnknown⟩
  | queued command accepts =>
    rcases accepts with state | state <;> simp [isUnknown] at state
  | dispatched command waiting => simp [isUnknown] at waiting
  | widened => exact ⟨rfl, rfl⟩
  | received _ _ receives | settled _ _ receives =>
    have state := receives.dispatched
    simp [isUnknown] at state

end Cell

/-! ## Runs of cells -/

def happening (platform : HarnessPlatform) (event : HarnessEvent) (db : HarnessDb) : CellEvent :=
  match answerCall platform event db with
  | .ok (answer, _) => cellEvent event.call answer
  | .error _ => .quiet

def actOn (platform : HarnessPlatform) (harnessInstanceId : String) (event : HarnessEvent)
    (db : HarnessDb) : CellAct :=
  (happening platform event db).actAt harnessInstanceId

def CellAct.dispatched? : CellAct -> Option Nat
  | .dispatched sequence => some sequence
  | _ => none

def CellAct.settled? : CellAct -> Option Nat
  | .settled sequence => some sequence
  | _ => none

/-- The sequences that a run dispatches for a Harness, in order. -/
def dispatchedSequences (platform : HarnessPlatform) (harnessInstanceId : String)
    (events : List HarnessEvent) : List Nat :=
  observations (applyEvent platform)
    (fun event db => (actOn platform harnessInstanceId event db).dispatched?) events .empty

/-- The sequences that a run settles for a Harness, in order. -/
def settledSequences (platform : HarnessPlatform) (harnessInstanceId : String)
    (events : List HarnessEvent) : List Nat :=
  observations (applyEvent platform)
    (fun event db => (actOn platform harnessInstanceId event db).settled?) events .empty

theorem CellAct.dispatched?_eq_some (shown : act.dispatched? = some sequence) :
    act = .dispatched sequence := by
  cases act <;> simp_all [CellAct.dispatched?]

theorem CellAct.settled?_eq_some (shown : act.settled? = some sequence) :
    act = .settled sequence := by
  cases act <;> simp_all [CellAct.settled?]

section Runs

variable {event : HarnessEvent} {name : String}

theorem cells_applyEvent (platform : HarnessPlatform) (event : HarnessEvent) (db : HarnessDb) :
    CellsStep platform db.ledger (happening platform event db)
      (applyEvent platform event db).ledger := by
  unfold happening applyEvent
  cases answered : answerCall platform event db with
  | error => exact .of_same rfl
  | ok result =>
    rcases result with ⟨answer, after⟩
    have stepped : LedgerStep platform (fun _ _ => True) db.ledger
        (cellEvent event.call answer) after.ledger :=
      answerCall_ledgerStep (fun _ _ _ _ _ _ => trivial) answered
    exact stepped.cells db.keyed_ledger

/-- A call takes the cell of a present Harness by one step. -/
theorem cellStep_applyEvent (platform : HarnessPlatform) (event : HarnessEvent)
    (found : db.harness? name = some row) :
    ∃ later, (applyEvent platform event db).harness? name = some later /\
      CellStep platform (cell row) (actOn platform name event db) (cell later) := by
  have hit : db.ledger.harness? name = some (standing row) := by
    rw [harness?_ledger, found, Option.map_some]
  rcases (cells_applyEvent platform event db).present _ _ hit with ⟨standingLater, after, stepped⟩
  rw [harness?_ledger] at after
  rcases Option.map_eq_some_iff.mp after with ⟨later, foundLater, rfl⟩
  exact ⟨later, foundLater, stepped⟩

/-- A call does nothing to an absent cell but create it. -/
theorem fresh_applyEvent (missing : db.harness? name = none) :
    actOn platform name event db = .quiet /\
      ∀ later, (applyEvent platform event db).harness? name = some later ->
        (cell later).IsFresh := by
  have absent : db.ledger.harness? name = none := by
    rw [harness?_ledger, missing, Option.map_none]
  rcases (cells_applyEvent platform event db).absent _ absent with ⟨quiet, fresh⟩
  refine ⟨quiet, ?_⟩
  intro later found
  apply fresh (standing later)
  rw [harness?_ledger, found, Option.map_some]

/-- The cells of the tables are sound. -/
def CellsSound (platform : HarnessPlatform) (db : HarnessDb) : Prop :=
  ∀ harnessInstanceId row, db.harness? harnessInstanceId = some row ->
    (cell row).Sound platform

theorem CellsSound.applyEvent (sound : CellsSound platform db) :
    CellsSound platform (applyEvent platform event db) := by
  intro name later after
  cases found : db.harness? name with
  | none =>
    rcases (fresh_applyEvent found).2 later after with ⟨_, isIdle, _, noReceipt⟩
    exact .of_no_receipt noReceipt (by simp [isIdle])
  | some row =>
    rcases cellStep_applyEvent platform event found with
      ⟨_, isLater, stepped⟩
    rw [after] at isLater
    cases isLater
    exact (sound name row found).step stepped

theorem cellsSound_empty : CellsSound platform .empty := by
  intro name row found
  cases found

theorem cellsSound_harnessesAfter (platform : HarnessPlatform) (events : List HarnessEvent) :
    CellsSound platform (harnessesAfter platform events) :=
  runCalls_invariant (CellsSound platform) (fun _ _ _ sound => sound.applyEvent) cellsSound_empty

/-- Shown sequences increase if a rank of cells never falls and brackets each of them. -/
theorem shown_increase {shown? : CellAct -> Option Nat} {rank : Cell -> Nat}
    (quiet : shown? .quiet = none)
    (monotone : ∀ current act later, CellStep platform current act later ->
      rank current <= rank later)
    (bracketed : ∀ current act later sequence, current.Sound platform ->
      CellStep platform current act later -> shown? act = some sequence ->
      rank current <= sequence /\ sequence < rank later) (events : List HarnessEvent) :
    (observations (applyEvent platform)
      (fun event db => shown? (actOn platform name event db)) events
      .empty).Pairwise (· < ·) := by
  let rankOf (db : HarnessDb) : Nat :=
    (db.harness? name).elim 0 (fun row => rank (cell row))
  refine (observations_increase (CellsSound platform) rankOf (fun _ _ sound => sound.applyEvent)
    ?_ ?_ events cellsSound_empty).1
  · intro event db _
    cases found : db.harness? name with
    | none =>
      have none : rankOf db = 0 := by
        simp only [rankOf, found, Option.elim_none]
      exact none ▸ Nat.zero_le _
    | some =>
      rcases cellStep_applyEvent platform event found with
        ⟨later, after, stepped⟩
      simp only [rankOf, found, after, Option.elim_some]
      exact monotone _ _ _ stepped
  · intro event db sequence sound shown
    cases found : db.harness? name with
    | none =>
      rw [(fresh_applyEvent found).1, quiet] at shown
      cases shown
    | some row =>
      rcases cellStep_applyEvent platform event found with
        ⟨later, after, stepped⟩
      simp only [rankOf, found, after, Option.elim_some]
      exact bracketed _ _ _ _ (sound _ row found) stepped shown

end Runs

/-! ## Replays -/

def Awaits (row : HarnessRow) (result : NanoHostHarnessResult) : Prop :=
  row.operationState = .dispatched /\ ∃ command, row.command = some command /\
    command.operationId = result.operationId /\ command.sequence = result.sequence

/-- Some operation reads a result as exactly the retained core. -/
def Replays (platform : HarnessPlatform) (row : HarnessRow) (result : NanoHostHarnessResult) :
    Prop :=
  ∃ receipt operation, row.receipt = some receipt /\
    requireHarnessResult platform operation result row.maxActiveTurns = .ok receipt.core

/-- The receipt of the cell belongs to the command that the cell holds. -/
def HoldsReceipt (row : HarnessRow) : Prop :=
  ∃ receipt, row.receipt = some receipt /\ holdsCommand receipt.core row

theorem holdsCommand_iff : holdsCommand core row <-> ∃ command, row.command = some command /\
      command.operationId = core.operationId /\ command.sequence = core.sequence := by
  simp only [holdsCommand, Option.any_eq_true, Bool.and_eq_true, decide_eq_true_eq]

namespace HarnessDb

variable {world : HarnessWorld} {after : HarnessDb} {input : SettleNanoHostHarnessOperationInput}

/-- A first settlement is one of the dispatched operation. -/
theorem awaits_of_settleFirst (settled : db.settleFirst platform world row input = .ok after) :
    Awaits row input.result := by
  unfold settleFirst at settled
  split at settled
  · rcases bind_inv settled with ⟨_, _, never⟩
    cases never
  rename_i command held
  rcases bind_inv settled with ⟨core, readAs, settled⟩
  rcases bind_inv settled with ⟨_, _, settled⟩
  rcases bind_inv settled with ⟨_, isCurrent, _⟩
  rw [refuseIf_eq_ok_iff] at isCurrent
  simp only [not_or, not_not] at isCurrent
  have same := (requireHarnessResult_ok readAs).2.2
  rw [same] at isCurrent
  exact ⟨isCurrent.1, command, held, isCurrent.2⟩

theorem replays_of_requireReplay (retained : row.receipt = some receipt)
    (accepted : requireReplay platform row receipt.core input.result = .ok ()) :
    Replays platform row input.result := by
  rcases bind_inv accepted with ⟨_, present, alike⟩
  rw [refuseIf_eq_ok_iff, List.isEmpty_iff] at present
  rw [refuseIf_eq_ok_iff, not_not, all_eq_true] at alike
  rcases exists_mem_of_ne_nil _ present with ⟨op, mem⟩
  exact ⟨receipt, op, retained, (readsAlike_iff.mp (alike op mem)).2⟩

theorem settle_answers {outcome : SettleOutcome}
    (settled : db.settleNanoHostHarnessOperation platform world input = .ok (outcome, after)) :
    ∃ row, db.harness? input.result.harnessInstanceId = some row /\
      ((outcome = .settled /\ Awaits row input.result) \/
        (outcome = .replayed /\ after = db /\ Replays platform row input.result)) := by
  rcases bind_inv settled with ⟨_, _, settled⟩
  rcases bind_inv settled with ⟨row, owned, settled⟩
  refine ⟨row, harness?_of_integration owned, ?_⟩
  split at settled
  next prior =>
    rcases bind_inv settled with ⟨_, accepted, same⟩
    cases same
    refine .inr ⟨rfl, rfl, replays_of_requireReplay ?_ accepted⟩
    unfold priorReceipt? at prior
    split at prior
    · exact (Option.filter_eq_some_iff.mp prior).1
    · cases prior
  · rcases bind_inv settled with ⟨_, first, same⟩
    cases same
    exact .inl ⟨rfl, awaits_of_settleFirst first⟩

/-- Every candidate reader of a sound cell admits the retained core, if the cell
is queued or holds the command of that core. -/
theorem admits_of_candidate (sound : (cell row).Sound platform)
    (retained : row.receipt = some receipt)
    (known : row.operationState = .queued \/ holdsCommand receipt.core row)
    (other : op ∈ replayCandidates platform row receipt.core) :
    Admits platform row.maxActiveTurns op receipt.core := by
  unfold replayCandidates at other
  split at other
  · rcases mem_filter.mp other with ⟨_, admitted⟩
    cases readAs : requireHarnessResult platform op receipt.core.result
        row.maxActiveTurns with
    | error thrown =>
      rw [readAs] at admitted
      cases admitted
    | ok core => exact (core_of_read readAs) ▸ readAs
  next notQueued =>
    rcases holdsCommand_iff.mp (known.resolve_left notQueued) with ⟨command, held, same⟩
    rw [held] at other
    simp only [Option.map_some, Option.toList_some, mem_singleton] at other
    rw [other]
    exact sound.own receipt command retained held same.1 same.2

theorem replayCandidates_ne_nil (sound : (cell row).Sound platform)
    (retained : row.receipt = some receipt)
    (known : row.operationState = .queued \/ holdsCommand receipt.core row) :
    replayCandidates platform row receipt.core ≠ [] := by
  unfold replayCandidates
  split
  · rcases sound.readable receipt retained with ⟨op, admits⟩
    apply ne_nil_of_mem (a := op)
    refine mem_filter.mpr ⟨HarnessOperation.mem_all op, ?_⟩
    rw [show requireHarnessResult platform op receipt.core.result row.maxActiveTurns =
      .ok receipt.core from admits]
    rfl
  next notQueued =>
    rcases holdsCommand_iff.mp (known.resolve_left notQueued) with ⟨command, held, _⟩
    rw [held]
    exact cons_ne_nil _ _

/-- A replay of the retained result is accepted and changes nothing, unless the
cell is unknown and holds another command. -/
theorem settle_replayed (sound : (cell row).Sound platform)
    (owned : db.requireHarnessForIntegration input.sandboxIntegrationBindingRef
      input.result.harnessInstanceId = .ok row) (replays : Replays platform row input.result)
    (known : row.operationState ≠ .unknown \/ HoldsReceipt row) :
    db.settleNanoHostHarnessOperation platform world input = .ok (.replayed, db) := by
  rcases replays with ⟨receipt, op, retained, readAs⟩
  have occupied : ¬ (row.operationState = .idle \/ row.operationState = .dispatched) := by
    intro vacant
    rw [show row.receipt = none from sound.vacant vacant] at retained
    cases retained
  have sameId : receipt.core.operationId = input.result.operationId := by
    rw [(requireHarnessResult_ok readAs).2.2]
  have replayable : row.operationState = .settled \/ row.operationState = .queued \/
      row.operationState = .unknown := by
    cases state : row.operationState <;> simp_all
  have prior : priorReceipt? row input.result = some receipt := by
    unfold priorReceipt?
    rw [if_pos replayable, retained]
    exact Option.filter_eq_some_iff.mpr ⟨rfl, decide_eq_true sameId⟩
  have knows : row.operationState = .queued \/ holdsCommand receipt.core row := by
    rcases known with certain | ⟨other, isRetained, holds⟩
    · rcases replayable with isSettled | isQueued | isUnknown
      · exact .inr (holdsCommand_iff.mpr (sound.matched isSettled receipt retained))
      · exact .inl isQueued
      · exact absurd isUnknown certain
    · rw [retained] at isRetained
      cases isRetained
      exact .inr holds
  have accepted : requireReplay platform row receipt.core input.result = .ok () := by
    refine bind_eq_ok_iff.mpr ⟨(), ?_, ?_⟩
    · rw [refuseIf_eq_ok_iff, List.isEmpty_iff]
      exact replayCandidates_ne_nil sound retained knows
    · rw [refuseIf_eq_ok_iff, not_not, all_eq_true]
      intro candidate mem
      have admits := admits_of_candidate sound retained knows mem
      exact readsAlike_iff.mpr ⟨admits, read_congr readAs admits⟩
  -- an envelope depends on the identity of a result alone
  have enveloped := sound.enveloped receipt retained
  rw [(requireHarnessResult_ok readAs).2.2] at enveloped
  refine bind_eq_ok_iff.mpr ⟨(), enveloped, ?_⟩
  refine bind_eq_ok_iff.mpr ⟨row, owned, ?_⟩
  rw [prior]
  exact bind_eq_ok_iff.mpr ⟨(), accepted, rfl⟩

/-- A Harness with an unsettled command takes no other. -/
theorem queue_refused {queued : QueueNanoHostHarnessOperationInput}
    (found : db.harness? queued.harnessInstanceId = some row)
    (unsettled : row.operationState = .queued \/ row.operationState = .dispatched) :
    ∃ thrown, db.queueNanoHostHarnessOperation platform world queued = .error thrown := by
  have refuses : ¬ acceptsCommand row := by
    rcases unsettled with state | state <;> simp [acceptsCommand, state]
  cases answered : db.queueNanoHostHarnessOperation platform world queued with
  | error thrown => exact ⟨thrown, rfl⟩
  | ok =>
    unfold queueNanoHostHarnessOperation requireHarness at answered
    rcases bind_inv answered with ⟨other, hit, afterRow⟩
    rcases bind_inv afterRow with ⟨_, accepts, _⟩
    rw [requireRow_eq_ok_iff, found] at hit
    cases hit
    rw [refuseIf_eq_ok_iff, not_not] at accepts
    exact absurd accepts refuses

end HarnessDb

/-! ## The discipline of the cell -/

/-- Commands are dispatched and settled at most once, results are retained until
they are acknowledged, and `unknown` is final, after the run `events`. -/
structure CommandDiscipline (platform : HarnessPlatform) (events : List HarnessEvent) : Prop where
  dispatchedOnce : ∀ harnessInstanceId,
    (dispatchedSequences platform harnessInstanceId events).Pairwise (· < ·)
  settledOnce : ∀ harnessInstanceId,
    (settledSequences platform harnessInstanceId events).Pairwise (· < ·)
  /-- An unsettled command keeps every other one out. -/
  oneCommand : ∀ world input row,
    (harnessesAfter platform events).harness? input.harnessInstanceId = some row ->
    row.operationState = .queued \/ row.operationState = .dispatched ->
    ∃ thrown, (harnessesAfter platform events).queueNanoHostHarnessOperation platform world input =
      .error thrown
  /-- Only the queued command is dispatched. -/
  dispatchesQueued : ∀ event harnessInstanceId sequence,
    actOn platform harnessInstanceId event (harnessesAfter platform events) = .dispatched sequence ->
    ∃ row, (harnessesAfter platform events).harness? harnessInstanceId = some row /\
      row.operationState = .queued /\ row.nextSequence = sequence
  /-- A settlement is the first one of the dispatched operation or the replay of
  the retained result, and every other result is refused. -/
  answers : ∀ world input outcome after,
    (harnessesAfter platform events).settleNanoHostHarnessOperation platform world input =
      .ok (outcome, after) ->
    ∃ row, (harnessesAfter platform events).harness? input.result.harnessInstanceId = some row /\
      ((outcome = .settled /\ Awaits row input.result) \/
        (outcome = .replayed /\ after = harnessesAfter platform events /\
          Replays platform row input.result))
  /-- A replay of the retained result is accepted, unless the cell is unknown and
  holds another command. -/
  replays : ∀ world input row,
    (harnessesAfter platform events).requireHarnessForIntegration
      input.sandboxIntegrationBindingRef input.result.harnessInstanceId = .ok row ->
    Replays platform row input.result ->
    row.operationState ≠ .unknown \/ HoldsReceipt row ->
    (harnessesAfter platform events).settleNanoHostHarnessOperation platform world input =
      .ok (.replayed, harnessesAfter platform events)
  /-- The next call keeps a result that is not acknowledged. -/
  retains : ∀ event harnessInstanceId row receipt,
    (harnessesAfter platform events).harness? harnessInstanceId = some row ->
    row.receipt = some receipt ->
    Acknowledged platform receipt \/
      ∃ later kept, (harnessesAfter platform (events ++ [event])).harness? harnessInstanceId =
        some later /\ later.receipt = some kept /\ kept.core = receipt.core
  /-- An unknown cell stays unknown, and no later call queues, dispatches or
  settles anything in it. -/
  unknownAbsorbs : ∀ harnessInstanceId row later,
    (harnessesAfter platform events).harness? harnessInstanceId = some row ->
    row.operationState = .unknown ->
    (∃ last, (harnessesAfter platform (events ++ later)).harness? harnessInstanceId = some last /\
      last.operationState = .unknown) /\
      ∀ event, actOn platform harnessInstanceId event (harnessesAfter platform (events ++ later)) =
        .quiet

theorem harnessesAfter_append (platform : HarnessPlatform) (events later : List HarnessEvent) :
    harnessesAfter platform (events ++ later) =
      runCalls (applyEvent platform) later (harnessesAfter platform events) :=
  foldl_append

theorem unknown_runCalls {name : String}
    (found : db.harness? name = some row) (isUnknown : row.operationState = .unknown)
    (later : List HarnessEvent) :
    ∃ last, (runCalls (applyEvent platform) later db).harness? name = some last /\
      last.operationState = .unknown := by
  apply runCalls_invariant (fun db : HarnessDb =>
    ∃ last, db.harness? name = some last /\ last.operationState = .unknown)
  · rintro event _ current ⟨last, hit, state⟩
    rcases cellStep_applyEvent platform event hit with ⟨next, after, stepped⟩
    exact ⟨next, after, (Cell.unknown_kept stepped state).2⟩
  · exact ⟨row, found, isUnknown⟩

/-- In every run of calls, with results in any order and number, the command
cells keep their discipline. -/
theorem command_discipline (platform : HarnessPlatform) (events : List HarnessEvent) :
    CommandDiscipline platform events := by
  have sound := cellsSound_harnessesAfter platform events
  refine ⟨?_, ?_, ?_, ?_, ?_, ?_, ?_, ?_⟩
  · intro harnessInstanceId
    refine shown_increase rfl (fun _ _ _ stepped => (Cell.ranks_le stepped).1) ?_ events
    intro current act later sequence _ stepped shown
    rw [CellAct.dispatched?_eq_some shown] at stepped
    exact (Cell.dispatchRank_of_dispatched stepped).2.2
  · intro harnessInstanceId
    refine shown_increase rfl (fun _ _ _ stepped => (Cell.ranks_le stepped).2) ?_ events
    intro current act later sequence sound stepped shown
    rw [CellAct.settled?_eq_some shown] at stepped
    exact Cell.settleRank_of_settled sound stepped
  · intro world input row found unsettled
    exact queue_refused found unsettled
  · intro event harnessInstanceId sequence shown
    cases found : (harnessesAfter platform events).harness? harnessInstanceId with
    | none =>
      rw [(fresh_applyEvent found).1] at shown
      cases shown
    | some row =>
      rcases cellStep_applyEvent platform event found with ⟨later, _, stepped⟩
      rw [shown] at stepped
      rcases Cell.dispatchRank_of_dispatched stepped with ⟨waiting, next, _⟩
      exact ⟨row, rfl, waiting, next⟩
  · intro world input outcome after settled
    exact settle_answers settled
  · intro world input row owned replayed known
    exact settle_replayed (sound _ row (harness?_of_integration owned)) owned
      replayed known
  · intro event harnessInstanceId row receipt found retained
    rcases cellStep_applyEvent platform event found with ⟨later, after, stepped⟩
    rcases Cell.receipt_kept stepped (sound _ row found) retained with
      acknowledged | ⟨kept, isKept, sameCore⟩
    · exact .inl acknowledged
    · rw [harnessesAfter_append]
      exact .inr ⟨later, kept, after, isKept, sameCore⟩
  · intro harnessInstanceId row later found isUnknown
    rw [harnessesAfter_append]
    rcases unknown_runCalls found isUnknown later with ⟨last, located, state⟩
    refine ⟨⟨last, located, state⟩, ?_⟩
    intro event
    rcases cellStep_applyEvent platform event located with ⟨_, _, stepped⟩
    exact (Cell.unknown_kept stepped state).1

/-! ## A replay that is refused -/

/-- A Turn is started, and the inspection that is queued after it expires. -/
def expiredSuccessor : List HarnessEvent :=
  [sampleCreate, sampleOpen, sampleQueueStart 0 "t1" 0, sampleDispatch,
    sampleSettle (sampleStarted 0), sampleQueue 1 sampleInspect sampleInspect,
    sampleEvent (.expire "hb" "n")]

/-- The cell of an expired inspection still retains the result of the start
before it, and refuses the exact replay of that result. -/
theorem expired_successor_refuses_replay :
    ((harnessesAfter samplePlatform expiredSuccessor).harness? "h").bind HarnessRow.receipt =
        some ⟨⟨"h", sampleOperationId 0, 0, .succeeded (.turnStart ⟨.pending, none⟩)⟩, none, none⟩ /\
      ((harnessesAfter samplePlatform expiredSuccessor).settleNanoHostHarnessOperation samplePlatform
        sampleWorld ⟨"i", sampleStarted 0, "n"⟩).map Prod.fst =
        .error ⟨"NanoHost Harness result replay conflicts with the settled result.", none⟩ := by
  decide +kernel

end Harness
end OpenKit
