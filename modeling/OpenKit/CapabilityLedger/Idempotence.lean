import OpenKit.CapabilityLedger.Model

namespace OpenKit
namespace CapabilityLedger

open Foundation Ledger Table List

/-!
# The ledger is idempotent

Every command is a sequence of four writes: a call is inserted, bound to a
schema, measured or ended.  `Coherent` ties the calls to their events, and
`Later` says what a ledger keeps; both follow from the four writes, and a
committed command finds its own row again in every later ledger.

The replay of a start compares the schema snapshot too.  A stamp changes it, so
a start that named no snapshot cannot be delivered again after the stamp.
-/

variable {formats : LedgerFormats} {ledger next : Ledger}

/-! ## Writes -/

/-- What a step may do to one call: its identity stays, a binding stays, and an
ended call stays as it is. -/
structure CallStep (before after : CallRow) : Prop where
  callId : after.callId = before.callId
  requestId : after.requestId = before.requestId
  family : after.family = before.family
  operation : after.operation = before.operation
  attribution : after.attribution = before.attribution
  bound : before.schemaSnapshotId ≠ none -> after.schemaSnapshotId = before.schemaSnapshotId
  ended : before.completedAt ≠ none -> after = before

theorem CallStep.refl (row : CallRow) : CallStep row row :=
  ⟨rfl, rfl, rfl, rfl, rfl, fun _ => rfl, fun _ => rfl⟩

theorem CallStep.trans {first second third : CallRow} (earlier : CallStep first second)
    (later : CallStep second third) : CallStep first third where
  callId := later.callId.trans earlier.callId
  requestId := later.requestId.trans earlier.requestId
  family := later.family.trans earlier.family
  operation := later.operation.trans earlier.operation
  attribution := later.attribution.trans earlier.attribution
  bound := by
    intro bound
    have kept := earlier.bound bound
    rw [<- kept] at bound
    rw [later.bound bound, kept]
  ended := by
    intro ended
    have kept := earlier.ended ended
    rw [kept] at later
    rw [later.ended ended]

def Ledger.countEvents (ledger : Ledger) (action : CapabilityAuditAction) (callId : String) : Nat :=
  ledger.audits.countP (fun event => event.action = action && event.capabilityCallId = callId)

/-- The writes of which every command is made. -/
inductive LedgerWrite : Ledger -> Ledger -> Prop where
  | inserted (ledger : Ledger) (row : CallRow) (events : List AuditRow)
      (fresh : ∀ old ∈ ledger.calls.rows, collides old row = false)
      (running : row.status = .running) (unended : row.completedAt = none)
      (admissions : events.length <= 1)
      (admits : ∀ event ∈ events, event.action = .admitted /\ event.capabilityCallId = row.callId) :
      LedgerWrite ledger
        { ledger with calls := ledger.calls.insert row, audits := ledger.audits ++ events }
  | bound (ledger : Ledger) (callId schemaSnapshotId : String) :
      LedgerWrite ledger (ledger.bindSchema callId schemaSnapshotId)
  | measured (ledger : Ledger) (usage : UsageRow) :
      LedgerWrite ledger { ledger with usages := ledger.usages ++ [usage] }
  | ended (ledger : Ledger) (input : FinishInput) (call : CallRow)
      (present : ledger.calls.find? input.callId = some call) (unended : call.completedAt = none) :
      LedgerWrite ledger (ledger.endCall input call)

/-! ## Calls and their events -/

variable {callId : String} {row call : CallRow}

/-- What holds of the ledger after every history. -/
structure Coherent (ledger : Ledger) : Prop where
  terminal : ∀ row ∈ ledger.calls.rows, (row.status = .running /\ row.completedAt = none) \/
    ((∃ outcome, row.status = .ended outcome) /\ row.completedAt ≠ none)
  finishes : ∀ row ∈ ledger.calls.rows,
    ledger.countEvents .finish row.callId = if row.completedAt = none then 0 else 1
  admissions : ∀ callId, ledger.countEvents .admitted callId <= 1
  known : ∀ event ∈ ledger.audits, ∃ row ∈ ledger.calls.rows, row.callId = event.capabilityCallId

theorem coherent_empty (owner : LedgerOwner) : Coherent (.empty owner) := by
  constructor <;> intros <;> first | contradiction | exact Nat.zero_le _

theorem countEvents_eq_zero (coherent : Coherent ledger)
    (absent : ∀ row ∈ ledger.calls.rows, row.callId ≠ callId) (action : CapabilityAuditAction) :
    ledger.countEvents action callId = 0 := by
  unfold countEvents
  rw [countP_eq_zero]
  intro event mem
  rcases coherent.known event mem with ⟨row, stored, owns⟩
  have apart := absent row stored
  rw [owns] at apart
  simp [apart]

/-- An inserted row keeps clear of every other key. -/
theorem callId_ne_of_fresh (fresh : ∀ old ∈ ledger.calls.rows, collides old row = false) :
    ∀ old ∈ ledger.calls.rows, old.callId ≠ row.callId := by
  intro old mem same
  have clear := fresh old mem
  simp [collides, same] at clear

theorem rows_insert_fresh (fresh : ∀ old ∈ ledger.calls.rows, collides old row = false) :
    (ledger.calls.insert row).rows = ledger.calls.rows ++ [row] :=
  rows_insert (find?_eq_none_iff.mpr (callId_ne_of_fresh fresh))

/-- The events of an inserted row count for nothing else. -/
theorem countP_admits {events : List AuditRow} {action : CapabilityAuditAction}
    (admits : ∀ event ∈ events, event.action = .admitted /\ event.capabilityCallId = row.callId)
    (other : action = .admitted -> row.callId ≠ callId) :
    events.countP (fun event => event.action = action && event.capabilityCallId = callId) = 0 := by
  rw [countP_eq_zero]
  intro event mem
  rcases admits event mem with ⟨admitted, owner⟩
  cases action <;> simp_all

theorem Coherent.inserted (coherent : Coherent ledger) {events : List AuditRow}
    (fresh : ∀ old ∈ ledger.calls.rows, collides old row = false) (running : row.status = .running)
    (unended : row.completedAt = none) (admissions : events.length <= 1)
    (admits : ∀ event ∈ events, event.action = .admitted /\ event.capabilityCallId = row.callId) :
    Coherent { ledger with calls := ledger.calls.insert row, audits := ledger.audits ++ events } := by
  have rows := rows_insert_fresh fresh
  refine ⟨?_, ?_, ?_, ?_⟩
  · intro entry mem
    rw [rows, mem_append, mem_singleton] at mem
    rcases mem with old | rfl
    · exact coherent.terminal entry old
    · exact .inl ⟨running, unended⟩
  · intro entry mem
    rw [rows, mem_append, mem_singleton] at mem
    unfold countEvents
    rw [countP_append, countP_admits admits (by simp), Nat.add_zero]
    rcases mem with old | rfl
    · exact coherent.finishes entry old
    · rw [if_pos unended]
      exact countEvents_eq_zero coherent (callId_ne_of_fresh fresh) .finish
  · intro callId
    unfold countEvents
    rw [countP_append]
    by_cases own : callId = row.callId
    · have none := countEvents_eq_zero coherent (callId_ne_of_fresh fresh) .admitted
      unfold countEvents at none
      rw [own, none, Nat.zero_add]
      exact le_trans countP_le_length admissions
    · rw [countP_admits admits (fun _ => Ne.symm own), Nat.add_zero]
      exact coherent.admissions callId
  · intro event mem
    rw [mem_append] at mem
    rcases mem with old | new
    · rcases coherent.known event old with ⟨entry, stored, owns⟩
      refine ⟨entry, ?_, owns⟩
      rw [rows]
      exact mem_append_left _ stored
    · refine ⟨row, ?_, (admits event new).2.symm⟩
      rw [rows]
      exact mem_append_right _ mem_cons_self

/-- Updates that keep ids, statuses and completion times keep the coherence. -/
theorem Coherent.of_map (coherent : Coherent ledger) {change : CallRow -> CallRow}
    (callId : ∀ row, (change row).callId = row.callId)
    (status : ∀ row, (change row).status = row.status)
    (completedAt : ∀ row, (change row).completedAt = row.completedAt)
    (rows : next.calls.rows = ledger.calls.rows.map change) (audits : next.audits = ledger.audits) :
    Coherent next := by
  have counts : ∀ action id, next.countEvents action id = ledger.countEvents action id := by
    intro action id
    unfold countEvents
    rw [audits]
  refine ⟨?_, ?_, ?_, ?_⟩
  · intro row mem
    rw [rows] at mem
    rcases mem_map.mp mem with ⟨old, stored, rfl⟩
    rw [status, completedAt]
    exact coherent.terminal old stored
  · intro row mem
    rw [rows] at mem
    rcases mem_map.mp mem with ⟨old, stored, rfl⟩
    rw [counts, callId, completedAt]
    exact coherent.finishes old stored
  · intro id
    rw [counts]
    exact coherent.admissions id
  · intro event mem
    rw [audits] at mem
    rcases coherent.known event mem with ⟨old, stored, owns⟩
    refine ⟨change old, ?_, (callId old).trans owns⟩
    rw [rows]
    exact mem_map_of_mem stored

theorem Coherent.ended (coherent : Coherent ledger) {input : FinishInput}
    (present : ledger.calls.find? input.callId = some call) (unended : call.completedAt = none) :
    Coherent (ledger.endCall input call) := by
  have ownId : call.callId = input.callId := keyOf_of_find? present
  have unique : ∀ row ∈ ledger.calls.rows, row.callId = input.callId -> row = call := by
    intro row mem same
    have found := find?_of_mem mem
    rw [same, present] at found
    exact (Option.some.inj found).symm
  have newFinish : ∀ callId, (ledger.endCall input call).countEvents .finish callId =
      ledger.countEvents .finish callId + if call.callId = callId then 1 else 0 := by
    intro callId
    unfold countEvents endCall
    by_cases own : call.callId = callId <;> simp [finishEvent, own]
  have sameAdmit : ∀ callId, (ledger.endCall input call).countEvents .admitted callId =
      ledger.countEvents .admitted callId := by
    intro callId
    unfold countEvents endCall
    simp [finishEvent]
  refine ⟨?_, ?_, ?_, ?_⟩
  · intro row mem
    rcases mem_map.mp mem with ⟨old, stored, rfl⟩
    split
    · exact .inr ⟨⟨input.status, rfl⟩, Option.some_ne_none _⟩
    · exact coherent.terminal old stored
  · intro row mem
    rcases mem_map.mp mem with ⟨old, stored, rfl⟩
    by_cases own : old.callId = input.callId
    · have same := unique old stored own
      subst same
      rw [if_pos (by simp [own, unended]), newFinish]
      have before := coherent.finishes old stored
      rw [if_pos unended] at before
      change ledger.countEvents .finish old.callId + (if old.callId = old.callId then 1 else 0) = _
      rw [before]
      simp [finishedCall]
    · rw [if_neg (by simp [own]), newFinish, if_neg (by rw [ownId]; exact Ne.symm own)]
      exact coherent.finishes old stored
  · intro callId
    rw [sameAdmit]
    exact coherent.admissions callId
  · intro event mem
    have keeps : ∀ old ∈ ledger.calls.rows, ∃ row ∈ (ledger.endCall input call).calls.rows,
        row.callId = old.callId := by
      intro old stored
      refine ⟨_, mem_map_of_mem stored, ?_⟩
      split <;> rfl
    rcases mem_append.mp mem with old | new
    · rcases coherent.known event old with ⟨row, stored, owns⟩
      rcases keeps row stored with ⟨later, kept, same⟩
      exact ⟨later, kept, same.trans owns⟩
    · rw [mem_singleton] at new
      rcases keeps call (mem_of_find? present) with ⟨later, kept, same⟩
      exact ⟨later, kept, by rw [same, new]; rfl⟩

theorem Coherent.write (coherent : Coherent ledger) (write : LedgerWrite ledger next) :
    Coherent next := by
  cases write with
  | inserted row events fresh running unended admissions admits =>
    exact coherent.inserted fresh running unended admissions admits
  | bound =>
    refine coherent.of_map ?_ ?_ ?_ rfl rfl
    all_goals
      intro row
      split <;> rfl
  | measured =>
    exact ⟨coherent.terminal, coherent.finishes, coherent.admissions, coherent.known⟩
  | ended input call present unended => exact coherent.ended present unended

/-! ## What a ledger keeps -/

/-- Every later ledger has the rows of this one, each after some steps, its
usage in the same order, and the same admissions. -/
structure Later (before after : Ledger) : Prop where
  owner : after.owner = before.owner
  calls : ∃ change more, after.calls.rows = before.calls.rows.map change ++ more /\
    ∀ row ∈ before.calls.rows, CallStep row (change row)
  usages : ∃ more, after.usages = before.usages ++ more
  admissions : ∀ row ∈ before.calls.rows,
    after.countEvents .admitted row.callId = before.countEvents .admitted row.callId

theorem Later.refl (ledger : Ledger) : Later ledger ledger where
  owner := rfl
  calls := ⟨id, [], by simp, fun row _ => CallStep.refl row⟩
  usages := ⟨[], by simp⟩
  admissions := fun _ _ => rfl

theorem Later.trans {first second third : Ledger} (earlier : Later first second)
    (later : Later second third) : Later first third := by
  rcases earlier.calls with ⟨change, more, rows, steps⟩
  rcases later.calls with ⟨change', more', rows', steps'⟩
  have inSecond : ∀ row ∈ first.calls.rows, change row ∈ second.calls.rows := by
    intro row mem
    rw [rows]
    exact mem_append_left _ (mem_map_of_mem mem)
  refine ⟨later.owner.trans earlier.owner, ⟨change' ∘ change, more.map change' ++ more', ?_, ?_⟩,
    ?_, ?_⟩
  · rw [rows', rows, map_append, map_map, append_assoc]
  · intro row mem
    exact (steps row mem).trans (steps' _ (inSecond row mem))
  · rcases earlier.usages with ⟨usages, sameUsages⟩
    rcases later.usages with ⟨usages', sameUsages'⟩
    exact ⟨usages ++ usages', by rw [sameUsages', sameUsages, append_assoc]⟩
  · intro row mem
    have kept := later.admissions (change row) (inSecond row mem)
    rw [(steps row mem).callId] at kept
    rw [kept, earlier.admissions row mem]

theorem Coherent.later (coherent : Coherent ledger) (write : LedgerWrite ledger next) :
    Later ledger next := by
  cases write with
  | inserted row events fresh running unended admissions admits =>
    refine ⟨rfl, ⟨id, [row], ?_, fun old _ => CallStep.refl old⟩, ⟨[], by simp⟩, ?_⟩
    · rw [map_id]
      exact rows_insert_fresh fresh
    · intro old mem
      unfold countEvents
      rw [countP_append, countP_admits admits, Nat.add_zero]
      exact fun _ => Ne.symm (callId_ne_of_fresh fresh old mem)
  | bound =>
    refine ⟨rfl, ⟨_, [], (append_nil _).symm, ?_⟩, ⟨[], (append_nil _).symm⟩, fun _ _ => rfl⟩
    intro row mem
    split
    next guard =>
      simp only [Bool.and_eq_true, decide_eq_true_eq, Option.isNone_iff_eq_none] at guard
      refine ⟨rfl, rfl, rfl, rfl, rfl, fun bound => absurd guard.2 bound, fun ended => ?_⟩
      rcases coherent.terminal row mem with ⟨_, unended⟩ | ⟨⟨outcome, status⟩, _⟩
      · exact absurd unended ended
      · rw [status] at guard
        exact absurd guard.1.2 (by nofun)
    · exact CallStep.refl row
  | measured usage =>
    exact ⟨rfl, ⟨id, [], by simp, fun row _ => CallStep.refl row⟩, ⟨[usage], rfl⟩, fun _ _ => rfl⟩
  | ended =>
    refine ⟨rfl, ⟨_, [], (append_nil _).symm, ?_⟩, ⟨[], (append_nil _).symm⟩, ?_⟩
    · intro row mem
      split
      next guard =>
        simp only [Bool.and_eq_true, Option.isNone_iff_eq_none] at guard
        exact ⟨rfl, rfl, rfl, rfl, rfl, fun _ => rfl, fun ended => absurd guard.2 ended⟩
      · exact CallStep.refl row
    · intro row mem
      unfold countEvents endCall
      simp [finishEvent]

/-! ## Commands -/

variable {input : StartInput} {started : StartedCall} {done : Unit} {id : String}
  {ids : List String} {record : Measurement} {records : List Measurement}

/-- The writes of a command. -/
abbrev LedgerWrites : Ledger -> Ledger -> Prop := Relation.ReflTransGen LedgerWrite

theorem Coherent.writes (coherent : Coherent ledger) (writes : LedgerWrites ledger next) :
    Coherent next /\ Later ledger next := by
  induction writes with
  | refl => exact ⟨coherent, Later.refl ledger⟩
  | tail _ write ih => exact ⟨ih.1.write write, ih.2.trans (ih.1.later write)⟩

theorem fresh_of_not_any (free : ¬ ledger.calls.rows.any (collides · row)) :
    ∀ old ∈ ledger.calls.rows, collides old row = false := by
  intro old mem
  by_contra collision
  exact free (any_eq_true.mpr ⟨old, mem, by simpa using collision⟩)

theorem insertOrIgnore_writes (input : StartInput) (ledger : Ledger) :
    LedgerWrites ledger (ledger.insertOrIgnore input).1 := by
  unfold insertOrIgnore
  dsimp only
  split
  · exact .refl
  rename_i free
  refine .single (.inserted ledger _ _ (fresh_of_not_any free) rfl rfl ?_ ?_)
  · split <;> simp
  · intro event mem
    split at mem
    · rw [mem_singleton] at mem
      rw [mem]
      exact ⟨rfl, rfl⟩
    · cases mem

/-- What a committed start did and found. -/
structure StartOk (formats : LedgerFormats) (input : StartInput) (ledger next : Ledger)
    (started : StartedCall) : Prop where
  actor : ¬ (ledger.owner ≠ .server /\ (input.family = .llm \/ input.family = .mcp) /\
    input.authorityActor = none)
  format : formats.start input
  owner : input.owner = ledger.owner
  written : ledger.insertOrIgnore input = (next, started.inserted)
  found : next.findCapabilityCallByIdOrIdempotency input = .ok started.call
  same : matchesAttribution started.call (protocolCall input)
  id : started.id = started.call.callId

theorem startCapabilityCall_ok (ok : ledger.startCapabilityCall formats input = .ok (started, next)) :
    StartOk formats input ledger next started := by
  unfold startCapabilityCall at ok
  split at ok
  · cases ok
  rename_i actor
  split at ok
  · cases ok
  rename_i format
  split at ok
  · cases ok
  rename_i owner
  rcases bind_inv ok with ⟨stored, found, ok⟩
  split at ok
  next same =>
    cases ok
    exact ⟨actor, by simpa using format, by simpa using owner, rfl, found, same, rfl⟩
  · cases ok

theorem startCapabilityCall_writes
    (ok : ledger.startCapabilityCall formats input = .ok (started, next)) :
    LedgerWrites ledger next := by
  have writes := insertOrIgnore_writes input ledger
  rw [(startCapabilityCall_ok ok).written] at writes
  exact writes

theorem stampCapabilityCallSchemaSnapshot_writes {schemaSnapshotId : String}
    (ok : ledger.stampCapabilityCallSchemaSnapshot callId schemaSnapshotId = .ok (done, next)) :
    LedgerWrites ledger next := by
  unfold stampCapabilityCallSchemaSnapshot at ok
  split at ok
  · cases ok
    exact .refl
  dsimp only at ok
  split at ok
  · cases ok
    exact .single (.bound ledger callId schemaSnapshotId)
  · cases ok

theorem recordMeasurement_writes {input : UsageInput}
    (ok : ledger.recordMeasurement formats input record = .ok (id, next)) :
    LedgerWrites ledger next := by
  unfold recordMeasurement at ok
  split at ok
  · cases ok
  dsimp only at ok
  split at ok
  · cases ok
    exact .refl
  · split at ok
    · cases ok
    · cases ok
      exact .single (.measured ledger _)

theorem recordMeasurements_writes {input : UsageInput}
    (ok : recordMeasurements formats input records ledger = .ok (ids, next)) :
    LedgerWrites ledger next := by
  induction records generalizing ledger ids with
  | nil =>
    cases ok
    exact .refl
  | cons record rest ih =>
    rcases bind_inv ok with ⟨⟨first, middle⟩, recorded, ok⟩
    rcases bind_inv ok with ⟨⟨others, final⟩, later, ok⟩
    cases ok
    exact (recordMeasurement_writes recorded).trans (ih later)

theorem recordUsage_ok {input : UsageInput}
    (ok : ledger.recordUsage formats input = .ok (ids, next)) : input.owner = ledger.owner /\
      recordMeasurements formats input input.records ledger = .ok (ids, next) := by
  unfold recordUsage at ok
  split at ok
  · cases ok
  next owner =>
    exact ⟨by simpa using owner, ok⟩

theorem finishCapabilityCall_writes {input : FinishInput}
    (ok : ledger.finishCapabilityCall formats input = .ok (done, next)) :
    LedgerWrites ledger next := by
  unfold finishCapabilityCall at ok
  split at ok
  · cases ok
    exact .refl
  rename_i call present
  split at ok
  · cases ok
    exact .refl
  rename_i unended
  split at ok
  · cases ok
  · cases ok
    exact .single (.ended ledger input call present (by simpa using unended))

theorem recoverCalls_writes (now : Nat) (calls : List CallRow) :
    LedgerWrites ledger (recoverCalls formats now calls ledger) := by
  induction calls generalizing ledger with
  | nil => exact .refl
  | cons call rest ih =>
    unfold recoverCalls
    split
    next ok =>
      exact (finishCapabilityCall_writes ok).trans ih
    · exact .refl

theorem apply_writes (call : LedgerCall) (ledger : Ledger) :
    LedgerWrites ledger (ledger.apply formats call) := by
  unfold apply
  cases call with
  | start =>
    dsimp only
    split
    next ok =>
      exact startCapabilityCall_writes ok
    · exact .refl
  | stamp =>
    dsimp only
    split
    next ok =>
      exact stampCapabilityCallSchemaSnapshot_writes ok
    · exact .refl
  | usage =>
    dsimp only
    split
    next ok =>
      exact recordMeasurements_writes (recordUsage_ok ok).2
    · exact .refl
  | finish =>
    dsimp only
    split
    next ok =>
      exact finishCapabilityCall_writes ok
    · exact .refl
  | recover now => exact recoverCalls_writes now _

/-- A history from a coherent ledger. -/
theorem Coherent.run (coherent : Coherent ledger) (formats : LedgerFormats)
    (calls : List LedgerCall) :
    Coherent (ledger.run formats calls) /\ Later ledger (ledger.run formats calls) := by
  refine coherent.writes ?_
  refine runCalls_invariant (LedgerWrites ledger ·) ?_ .refl
  exact fun call _ state writes => writes.trans (apply_writes call state)

/-! ## Deliveries of the same command -/

variable {after : Ledger} {stored : CallRow}

/-- The first row that a stable test finds stays the first one. -/
theorem Later.find? (later : Later ledger after) {test : CallRow -> Bool}
    (stable : ∀ row step, CallStep row step -> test step = test row)
    (found : ledger.calls.rows.find? test = some row) :
    ∃ step, after.calls.rows.find? test = some step /\ CallStep row step := by
  rcases later.calls with ⟨change, more, rows, steps⟩
  have same : (ledger.calls.rows.map change).find? test =
      (ledger.calls.rows.find? test).map change := by
    rw [find?_map, <- head?_filter, <- head?_filter]
    congr 2
    refine filter_congr ?_
    intro entry mem
    exact stable entry (change entry) (steps entry mem)
  refine ⟨change row, ?_, steps row (mem_of_find?_eq_some found)⟩
  rw [rows, find?_append, same, found]
  rfl

theorem Later.byId (later : Later ledger after) (found : ledger.calls.find? callId = some row) :
    ∃ step, after.calls.find? callId = some step /\ CallStep row step := by
  refine later.find? ?_ found
  intro entry step stepped
  rw [stepped.callId]

theorem hasKey_stable {key : Option String} {family : CapabilityCallFamily}
    {op : String} (row step : CallRow) (stepped : CallStep row step) :
    hasKey key family op step = hasKey key family op row := by
  unfold hasKey
  rw [stepped.requestId, stepped.family, stepped.operation]

/-- A call that a start can be found by again: through its request or its id. -/
def StartInput.isIdentified (input : StartInput) : Bool :=
  input.requestId.isSome || input.callId.isSome

/-- A start as it is delivered once more. -/
def StartInput.again (input : StartInput) (allocatedId : String) (now : Nat) : StartInput :=
  { input with allocatedId := allocatedId, now := now }

theorem found_again (found : ledger.findCapabilityCallByIdOrIdempotency input = .ok stored)
    (later : Later ledger after) (identified : input.isIdentified) (allocatedId : String)
    (now : Nat) : ∃ row, CallStep stored row /\
      after.findCapabilityCallByIdOrIdempotency (input.again allocatedId now) = .ok row /\
      row ∈ after.calls.rows /\ hasKey input.requestId input.family input.operation row /\
      (input.requestId = none -> some row.callId = input.callId) := by
  unfold findCapabilityCallByIdOrIdempotency at found ⊢
  unfold StartInput.again
  cases requested : input.requestId with
  | some request =>
    rw [requested] at found
    simp only [Option.isSome_some, if_true] at found ⊢
    cases byRequest : ledger.calls.rows.find?
        (hasKey (some request) input.family input.operation) with
    | some first =>
      rw [byRequest] at found
      cases found
      rcases later.find? hasKey_stable byRequest with ⟨row, again, stepped⟩
      refine ⟨row, stepped, by rw [again], mem_of_find?_eq_some again, find?_some again, by simp⟩
    | none =>
      -- a row with the key would have been found through its request
      rw [byRequest] at found
      dsimp only at found
      split at found
      next present =>
        split at found
        next key =>
          exact absurd key (find?_eq_none.mp byRequest _ (mem_of_find? present))
        · cases found
      · cases found
  | none =>
    rw [requested] at found
    simp only [Option.isSome_none, Bool.false_eq_true, if_false] at found ⊢
    unfold StartInput.isIdentified at identified
    rw [requested] at identified
    simp only [Option.isSome_none, Bool.false_or, Option.isSome_iff_exists] at identified
    rcases identified with ⟨callId, named⟩
    unfold findCapabilityCallById at found ⊢
    simp only [named, Option.getD_some] at found ⊢
    cases present : ledger.calls.find? callId with
    | none =>
      rw [present] at found
      cases found
    | some =>
      rw [present] at found
      dsimp only at found
      split at found
      next key =>
        cases found
        rcases later.byId present with ⟨row, again, stepped⟩
        have rowKey : hasKey none input.family input.operation row := by
          rw [hasKey_stable _ _ stepped]
          exact key
        refine ⟨row, stepped, ?_, mem_of_find? again, rowKey,
          fun _ => congrArg some (keyOf_of_find? again)⟩
        rw [again]
        exact if_pos rowKey
      · cases found

/-- A start that is delivered again returns its call and writes nothing, unless
the call was bound to another schema since. -/
theorem start_again (ok : ledger.startCapabilityCall formats input = .ok (started, next))
    (sameOwner : next.owner = ledger.owner) (later : Later next after)
    (identified : input.isIdentified) (allocatedId : String) (now : Nat) :
    ∃ row, after.calls.find? started.id = some row /\
      after.startCapabilityCall formats (input.again allocatedId now) =
        if row.schemaSnapshotId = input.schemaSnapshotId then
          .ok (⟨started.id, false, row, (after.admission? started.id).bind (·.actor)⟩, after)
        else .error .attributionConflicts := by
  have committed := startCapabilityCall_ok ok
  rcases found_again committed.found later identified allocatedId now with
    ⟨row, stepped, found, stored, key, named⟩
  have sameId : row.callId = started.id := stepped.callId.trans committed.id.symm
  refine ⟨row, ?_, ?_⟩
  · rw [<- sameId]
    exact find?_of_mem stored
  have ignored : after.insertOrIgnore (input.again allocatedId now) = (after, false) := by
    unfold insertOrIgnore
    rw [if_pos]
    refine any_eq_true.mpr ⟨row, stored, ?_⟩
    unfold collides
    rw [Bool.or_eq_true]
    cases requested : input.requestId with
    | some =>
      refine .inr ?_
      rw [requested] at key
      change (input.requestId.isSome && hasKey input.requestId input.family input.operation row)
      rw [requested, key]
      rfl
    | none =>
      refine .inl ?_
      have callId := named requested
      change decide (row.callId = input.callId.getD allocatedId)
      rw [<- callId]
      simp
  have matched : matchesAttribution row (protocolCall (input.again allocatedId now)) =
      decide (row.schemaSnapshotId = input.schemaSnapshotId) := by
    have before := committed.same
    unfold matchesAttribution at before ⊢
    rw [Bool.and_eq_true, Bool.and_eq_true] at before
    rw [stepped.attribution]
    change (_ && row.schemaSnapshotId = input.schemaSnapshotId && _) = _
    rw [show decide (({ started.call.attribution with sourceIds := [] } : CallAttribution) =
        { (protocolCall (input.again allocatedId now)).attribution with sourceIds := [] })
      from before.1.1,
      show decide (normalizeSourceIds (normalizeSourceIds started.call.attribution.sourceIds) =
        normalizeSourceIds (protocolCall (input.again allocatedId now)).attribution.sourceIds)
      from before.2, Bool.true_and, Bool.and_true]
  have owner : input.owner = after.owner :=
    committed.owner.trans (later.owner.trans sameOwner).symm
  unfold startCapabilityCall
  rw [if_neg, if_neg, if_neg]
  · dsimp only
    rw [ignored, found]
    change (if matchesAttribution row (protocolCall (input.again allocatedId now)) then _
      else _) = _
    rw [matched, sameId]
    by_cases sameSchema : row.schemaSnapshotId = input.schemaSnapshotId
    · rw [if_pos (by simpa using sameSchema), if_pos sameSchema]
    · rw [if_neg (by simpa using sameSchema), if_neg sameSchema]
  · exact not_not.mpr owner
  · rw [StartInput.again, formats.start_stable, committed.format]
    exact Bool.noConfusion
  · rw [later.owner, sameOwner]
    exact committed.actor

/-- An accepted measurement has an equivalent afterwards. -/
theorem recordMeasurement_equivalent {input : UsageInput}
    (ok : ledger.recordMeasurement formats input record = .ok (id, next)) :
    formats.measurement input record /\
      next.hasEquivalentUsageRecord (usageRecord input record) = some id := by
  unfold recordMeasurement at ok
  split at ok
  · cases ok
  rename_i format
  refine ⟨by simpa using format, ?_⟩
  dsimp only at ok
  split at ok
  next found =>
    cases ok
    exact found
  next absent =>
    split at ok
    · cases ok
    cases ok
    unfold hasEquivalentUsageRecord at absent ⊢
    rw [Option.map_eq_none_iff] at absent
    have itself : isEquivalentUsage (usageRecord input record) (usageRecord input record) =
        true := by
      simp [isEquivalentUsage]
    rw [find?_append, absent, Option.none_or, find?_singleton, if_pos itself]
    rfl

/-- An equivalent measurement stays the first one. -/
theorem Later.equivalent (later : Later ledger after) {usage : UsageRow}
    (found : ledger.hasEquivalentUsageRecord usage = some id) :
    after.hasEquivalentUsageRecord usage = some id := by
  rcases later.usages with ⟨more, usages⟩
  unfold hasEquivalentUsageRecord at found ⊢
  rcases Option.map_eq_some_iff.mp found with ⟨stored, first, rfl⟩
  rw [usages, find?_append, first]
  rfl

/-- A measurement as it is delivered once more. -/
def SameMeasurement (record again : Measurement) : Prop :=
  ∃ allocatedId, again = { record with allocatedId := allocatedId }

theorem recordMeasurements_again {input : UsageInput} {again : List Measurement}
    (ok : recordMeasurements formats input records ledger = .ok (ids, next))
    (coherent : Coherent ledger) (later : Later next after) (now : Nat) (others : List Measurement)
    (same : List.Forall₂ SameMeasurement records again) :
    recordMeasurements formats { input with records := others, now := now } again after =
      .ok (ids, after) := by
  induction same generalizing ledger ids with
  | nil =>
    cases ok
    rfl
  | @cons record repeated rest againRest sameRecord _ ih =>
    rcases bind_inv ok with ⟨⟨id, middle⟩, recorded, ok⟩
    rcases bind_inv ok with ⟨⟨restIds, final⟩, recordedRest, ok⟩
    cases ok
    have middleCoherent := (coherent.writes (recordMeasurement_writes recorded)).1
    have middleLater := (middleCoherent.writes (recordMeasurements_writes recordedRest)).2
    rcases recordMeasurement_equivalent recorded with ⟨format, equivalent⟩
    have found := (middleLater.trans later).equivalent equivalent
    rcases sameRecord with ⟨allocatedId, rfl⟩
    have kept : after.recordMeasurement formats { input with records := others, now := now }
        { record with allocatedId := allocatedId } = .ok (id, after) := by
      unfold recordMeasurement
      rw [formats.measurement_stable, format]
      dsimp only
      have sameUsage : after.hasEquivalentUsageRecord
          (usageRecord { input with records := others, now := now }
            { record with allocatedId := allocatedId }) =
          after.hasEquivalentUsageRecord (usageRecord input record) := rfl
      rw [sameUsage, found]
      rfl
    unfold recordMeasurements
    rw [kept]
    change (recordMeasurements formats { input with records := others, now := now }
      againRest after >>= _) = _
    rw [ih recordedRest middleCoherent]
    rfl

theorem finishCapabilityCall_ended {input : FinishInput}
    (ok : ledger.finishCapabilityCall formats input = .ok (done, next))
    (known : ledger.calls.find? input.callId = some call) :
    ∃ row, next.calls.find? input.callId = some row /\ row.completedAt ≠ none := by
  unfold finishCapabilityCall findCapabilityCallById at ok
  rw [known] at ok
  dsimp only at ok
  split at ok
  next ended =>
    cases ok
    exact ⟨call, known, Option.isSome_iff_ne_none.mp ended⟩
  next unended =>
    split at ok
    · cases ok
    cases ok
    refine ⟨finishedCall input call, ?_, Option.some_ne_none _⟩
    refine (find?_updateWhere ledger.calls _ (finishedCall input) (fun _ => rfl)
      input.callId).trans ?_
    have own : call.callId = input.callId := keyOf_of_find? known
    rw [known, Option.map_some, if_pos (by simpa [own] using unended)]

theorem finish_again {input : FinishInput}
    (ok : ledger.finishCapabilityCall formats input = .ok (done, next))
    (known : ledger.calls.find? input.callId = some call) (later : Later next after) (now : Nat) :
    after.finishCapabilityCall formats { input with now := now } = .ok ((), after) := by
  rcases finishCapabilityCall_ended ok known with ⟨row, stored, ended⟩
  rcases later.byId stored with ⟨step, found, stepped⟩
  rw [stepped.ended ended] at found
  unfold finishCapabilityCall findCapabilityCallById
  rw [found]
  dsimp only
  rw [if_pos (Option.isSome_iff_ne_none.mpr ended)]

/-- An inserted call is the one that the start returns. -/
theorem insertOrIgnore_found (inserted : ledger.insertOrIgnore input = (next, true))
    (found : next.findCapabilityCallByIdOrIdempotency input = .ok stored) :
    stored ∈ next.calls.rows /\ stored.callId = input.callId.getD input.allocatedId := by
  unfold insertOrIgnore at inserted
  dsimp only at inserted
  split at inserted
  · cases inserted
  rename_i free
  have fresh := fresh_of_not_any free
  have rows := rows_insert_fresh fresh
  cases inserted
  unfold findCapabilityCallByIdOrIdempotency findCapabilityCallById at found
  cases byRequest : (if input.requestId.isSome then
      (ledger.calls.insert (storedCall (protocolCall input))).rows.find?
        (hasKey input.requestId input.family input.operation)
    else none) with
  | some first =>
    rw [byRequest] at found
    cases found
    split at byRequest
    next requested =>
      have mem := mem_of_find?_eq_some byRequest
      have key := find?_some byRequest
      refine ⟨mem, ?_⟩
      rw [rows, mem_append, mem_singleton] at mem
      rcases mem with old | new
      · -- an old row with the key would have kept the new one out
        have clear := fresh _ old
        unfold collides at clear
        rw [Bool.or_eq_false_iff] at clear
        have unkeyed : (input.requestId.isSome &&
            hasKey input.requestId input.family input.operation _) = false := clear.2
        rw [requested, key] at unkeyed
        cases unkeyed
      · rw [new]
        rfl
    · cases byRequest
  | none =>
    rw [byRequest] at found
    split at found
    next present =>
      split at found
      · cases found
        exact ⟨mem_of_find? present, keyOf_of_find? present⟩
      · cases found
    · cases found

theorem insertOrIgnore_admissions (coherent : Coherent ledger)
    (inserted : ledger.insertOrIgnore input = (next, true)) :
    next.countEvents .admitted (input.callId.getD input.allocatedId) =
      if input.authorityActor.isSome then 1 else 0 := by
  unfold insertOrIgnore at inserted
  dsimp only at inserted
  split at inserted
  · cases inserted
  rename_i free
  cases inserted
  have none := countEvents_eq_zero coherent (callId_ne_of_fresh (fresh_of_not_any free)) .admitted
  unfold countEvents at none ⊢
  rw [countP_append]
  refine (congrArg (· + _) none).trans ((Nat.zero_add _).trans ?_)
  split
  · simp [admissionEvent, storedCall, protocolCall]
  · rfl

/-! ## Promises -/

/-- What the ledger promises about its calls and about deliveries of a command
that was committed in it. -/
structure LedgerPromises (formats : LedgerFormats) (ledger : Ledger) : Prop where
  /-- A call is ended exactly when it has a completion time and one finish event. -/
  terminal : ∀ row ∈ ledger.calls.rows,
    ((∃ outcome, row.status = .ended outcome) <-> row.completedAt ≠ none) /\
      (row.completedAt ≠ none <-> ledger.countEvents .finish row.callId = 1) /\
      (row.completedAt = none <-> ledger.countEvents .finish row.callId = 0)
  /-- An ended call and a schema binding never change. -/
  kept : ∀ row ∈ ledger.calls.rows, ∀ history, ∃ later,
    (ledger.run formats history).calls.find? row.callId = some later /\
      (row.completedAt ≠ none -> later = row) /\
      (row.schemaSnapshotId ≠ none -> later.schemaSnapshotId = row.schemaSnapshotId)
  /-- An inserted call with an actor has one admission event for ever. -/
  admitted : ∀ input started next,
    ledger.startCapabilityCall formats input = .ok (started, next) -> started.inserted ->
    ∀ history, (next.run formats history).countEvents .admitted started.id =
      if input.authorityActor.isSome then 1 else 0
  /-- A start is delivered again: the same call, nothing written, unless the
  call was bound to a schema that the start does not name. -/
  starts : ∀ input started next,
    ledger.startCapabilityCall formats input = .ok (started, next) -> input.isIdentified ->
    ∀ history allocatedId now, ∃ row,
      (next.run formats history).calls.find? started.id = some row /\
      (next.run formats history).startCapabilityCall formats (input.again allocatedId now) =
        if row.schemaSnapshotId = input.schemaSnapshotId then
          .ok (⟨started.id, false, row,
            ((next.run formats history).admission? started.id).bind (·.actor)⟩,
            next.run formats history)
        else .error .attributionConflicts
  /-- Usage is delivered again: the same ids, nothing written. -/
  usages : ∀ input ids next, ledger.recordUsage formats input = .ok (ids, next) ->
    ∀ history now again, List.Forall₂ SameMeasurement input.records again ->
      (next.run formats history).recordUsage formats { input with records := again, now := now } =
        .ok (ids, next.run formats history)
  /-- A finish of a known call is delivered again: nothing written. -/
  finishes : ∀ input call next, ledger.calls.find? input.callId = some call ->
    ledger.finishCapabilityCall formats input = .ok ((), next) ->
    ∀ history now, (next.run formats history).finishCapabilityCall formats
      { input with now := now } = .ok ((), next.run formats history)

theorem Coherent.promises (coherent : Coherent ledger) : LedgerPromises formats ledger where
  terminal := by
    intro row mem
    have finishes := coherent.finishes row mem
    rcases coherent.terminal row mem with ⟨running, unended⟩ | ⟨ended, completed⟩
    · rw [finishes]
      refine ⟨⟨fun ended => ?_, fun completed => absurd unended completed⟩, by simp [unended],
        by simp [unended]⟩
      rcases ended with ⟨outcome, status⟩
      rw [running] at status
      cases status
    · rw [finishes]
      exact ⟨⟨fun _ => completed, fun _ => ended⟩, by simp [completed], by simp [completed]⟩
  kept := by
    intro row mem history
    have later := (coherent.run formats history).2
    rcases later.byId (find?_of_mem mem) with ⟨step, found, stepped⟩
    exact ⟨step, found, stepped.ended, stepped.bound⟩
  admitted := by
    intro input started next ok inserted history
    have committed := startCapabilityCall_ok ok
    have wrote := committed.written
    rw [inserted] at wrote
    rcases insertOrIgnore_found wrote committed.found with ⟨stored, callId⟩
    have nextCoherent := (coherent.writes (startCapabilityCall_writes ok)).1
    have later := (nextCoherent.run formats history).2
    rw [committed.id, later.admissions _ stored, callId]
    exact insertOrIgnore_admissions coherent wrote
  starts := by
    intro input started next ok identified history allocatedId now
    rcases coherent.writes (startCapabilityCall_writes ok) with ⟨nextCoherent, nextLater⟩
    exact start_again ok nextLater.owner (nextCoherent.run formats history).2 identified
      allocatedId now
  usages := by
    intro input ids next ok history now again same
    rcases recordUsage_ok ok with ⟨owner, recorded⟩
    rcases coherent.writes (recordMeasurements_writes recorded) with ⟨nextCoherent, nextLater⟩
    have later := (nextCoherent.run formats history).2
    unfold recordUsage
    rw [if_neg]
    · exact recordMeasurements_again recorded coherent later now again same
    · rw [not_not, later.owner, nextLater.owner]
      exact owner
  finishes := by
    intro input call next known ok history now
    have nextCoherent := (coherent.writes (finishCapabilityCall_writes ok)).1
    exact finish_again ok known (nextCoherent.run formats history).2 now

/-- After every history the ledger keeps its promises. -/
theorem capability_ledger_idempotent (formats : LedgerFormats) (owner : LedgerOwner)
    (history : List LedgerCall) : LedgerPromises formats ((empty owner).run formats history) :=
  ((coherent_empty owner).run formats history).1.promises

/-! ## A start after a stamp -/

/-- Formats that admit everything. -/
def anyFormat : LedgerFormats where
  start := fun _ => true
  measurement := fun _ _ => true
  finish := fun _ => true
  start_stable := fun _ _ _ => rfl
  measurement_stable := fun _ _ _ _ _ => rfl

/-- The start of an MCP tool call without a schema snapshot. -/
def toolStart : StartInput where
  owner := .workspace "w"
  callId := some "c"
  allocatedId := ""
  requestId := some "r"
  family := .mcp
  operation := "o"
  attribution :=
    { capabilityId := "o", threadId := none, turnId := none, itemId := none, agentId := none,
      agentSessionId := none, packageSnapshotId := none, runtimeOriginRef := none,
      runtimeCacheLineageRef := none, sourceIds := ["b", "a", "b"], providerRef := some "p",
      serviceRef := none, redactionClass := "m" }
  schemaSnapshotId := none
  summary := none
  authorityActor := some (.user "u")
  authentication := none
  auditLineage := none
  now := 1

/-- The start is committed, its call is bound to a schema, and the same start is
refused. -/
theorem stamped_start_is_refused :
    (((empty (.workspace "w")).startCapabilityCall anyFormat toolStart).map
      (fun result => (result.1.id, result.1.inserted))) = .ok ("c", true) /\
    (((empty (.workspace "w")).run anyFormat
      [.start toolStart, .stamp "c" "s"]).startCapabilityCall anyFormat toolStart).map
        (·.1.id) = .error .attributionConflicts := by
  decide +kernel

/-- The call of a start is ended by a recovery, and the same start finds it. -/
theorem ended_start_is_found : ∃ started next row,
    (empty (.workspace "w")).startCapabilityCall anyFormat toolStart = .ok (started, next) /\
      (next.run anyFormat [.recover 5]).calls.find? "c" = some row /\ row.completedAt = some 5 /\
      (next.run anyFormat [.recover 5]).startCapabilityCall anyFormat (toolStart.again "other" 7) =
        .ok (⟨"c", false, row, some (.user "u")⟩, next.run anyFormat [.recover 5]) := by
  have promises := capability_ledger_idempotent anyFormat (.workspace "w") []
  have facts : ((empty (.workspace "w")).startCapabilityCall anyFormat toolStart).map (fun result =>
      let later := result.2.run anyFormat [.recover 5]
      (result.1.id, (later.calls.find? "c").map fun row => (row.schemaSnapshotId, row.completedAt),
        (later.admission? "c").bind (·.actor))) =
      .ok ("c", some (none, some 5), some (.user "u")) := by
    decide +kernel
  cases first : (empty (.workspace "w")).startCapabilityCall anyFormat toolStart with
  | error =>
    rw [first] at facts
    cases facts
  | ok result =>
    rw [first] at facts
    have values := Except.ok.inj facts
    simp only [Prod.mk.injEq, Option.map_eq_some_iff] at values
    rcases values with ⟨named, ⟨_, stored, unbound, completed⟩, actor⟩
    rcases promises.starts toolStart result.1 result.2 first (by decide) [.recover 5] "other" 7 with
      ⟨row, found, again⟩
    rw [named] at found again
    cases stored.symm.trans found
    have unnamed : toolStart.schemaSnapshotId = none := rfl
    rw [actor, unnamed, if_pos unbound] at again
    exact ⟨result.1, result.2, _, rfl, found, completed, again⟩

end CapabilityLedger
end OpenKit
