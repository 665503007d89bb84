import Mathlib.Algebra.Order.BigOperators.Group.List
import Mathlib.Algebra.Order.Group.Nat
import OpenKit.Foundation.Transactions
import OpenKit.Harness.Refinement

namespace OpenKit
namespace Harness

open Foundation Ledger HarnessDb List HarnessRow

/-!
# Occupancy

A Harness counts its open sessions and its active Turns in two columns.  Three
facts tie them to the rest of the tables: each Harness has as many sessions as
bindings, as many Turns as bindings that name one, and the Turns of a Sandbox
stay within its bound.

Sessions and bounds are exact in every run.  Turns are not: an inspection may
report `open` for a binding that still holds its Turn, and the next start then
overwrites that Turn and counts a second one.  They are exact in every run
whose inspections report `active` only for a binding with a Turn, and `open`
only for a binding without one or past its Turn barrier.
-/

variable {ledger : Ledger} {row counted wrote : HarnessRow} {seats after : List Seat}
  {taken : Seat} {Reported : Seat -> SessionInspection -> Prop} {body : HarnessCommandBody}

/-! ## Ledgers with keys -/

/-- No identity of the ledger occurs twice. -/
structure Ledger.Keyed (ledger : Ledger) : Prop where
  bounds : (ledger.bounds.map Prod.fst).Nodup
  harnesses : (ledger.harnesses.map harnessInstanceId).Nodup
  seats : (ledger.seats.map Seat.bindingId).Nodup

theorem HarnessDb.keyed_ledger (db : HarnessDb) : db.ledger.Keyed where
  bounds := by
    unfold ledger
    rw [map_map]
    exact db.sandboxes.unique
  harnesses := by
    unfold ledger
    rw [map_map]
    exact db.harnesses.unique
  seats := by
    unfold ledger
    rw [map_map]
    exact db.bindings.unique

namespace Ledger

theorem mem_write {other : HarnessRow} (mem : other ∈ (ledger.write row).harnesses) :
    other = row \/ (other ∈ ledger.harnesses /\
      other.harnessInstanceId ≠ row.harnessInstanceId) :=
  Table.mem_map_key mem

theorem mem_reseat {other : Seat} (mem : other ∈ reseat seats taken) :
    other = taken \/ (other ∈ seats /\ other.bindingId ≠ taken.bindingId) :=
  Table.mem_map_key mem

theorem forall_reseat {holds : Seat -> Prop} (all : ∀ other ∈ seats, holds other)
    (new : holds taken) : ∀ other ∈ reseat seats taken, holds other := by
  intro other mem
  rcases mem_reseat mem with same | ⟨kept, _⟩
  · exact same ▸ new
  · exact all other kept

theorem sandboxLoad_write (keyed : ledger.Keyed) (mem : row ∈ ledger.harnesses)
    (sameId : wrote.harnessInstanceId = row.harnessInstanceId) (host : String) :
    (ledger.write wrote).sandboxLoad host +
        (if row.sandboxRuntimeId = host then load row else 0) =
      ledger.sandboxLoad host +
        (if wrote.sandboxRuntimeId = host then load wrote else 0) := by
  have summed := Table.sum_map_key keyed.harnesses mem (fun _ => wrote)
    (fun other => if other.sandboxRuntimeId = host then load other else 0)
  unfold sandboxLoad write
  rw [sameId]
  exact summed

end Ledger

/-! ## What a projection counts -/

def seatedAt (harnessInstanceId : String) (taken : Seat) : Bool :=
  taken.harnessInstanceId = harnessInstanceId

def runsAt (harnessInstanceId : String) (taken : Seat) : Bool :=
  seatedAt harnessInstanceId taken && taken.currentTurnId.isSome

theorem seatedAt_elsewhere {name : String}
    (housed : taken.harnessInstanceId = row.harnessInstanceId)
    (elsewhere : name ≠ row.harnessInstanceId) : seatedAt name taken = false := by
  simp only [seatedAt, housed, decide_eq_false_iff_not]
  exact Ne.symm elsewhere

/-- A Harness counts as many more seats as it gains, and no other Harness gains
any. -/
def CountFollows (test : String -> Seat -> Bool) (count : HarnessRow -> Nat)
    (row counted : HarnessRow) (seats after : List Seat) : Prop :=
  ∀ harnessInstanceId, after.countP (test harnessInstanceId) +
      (if harnessInstanceId = row.harnessInstanceId then count row else 0) =
    seats.countP (test harnessInstanceId) +
      (if harnessInstanceId = row.harnessInstanceId then count counted else 0)

namespace CountFollows

variable {test : String -> Seat -> Bool} {count : HarnessRow -> Nat}

theorem of_moved (gone come : String -> Nat) (moved : ∀ name, after.countP (test name) + gone name =
      seats.countP (test name) + come name) (elsewhere : ∀ name, name ≠ row.harnessInstanceId ->
      gone name = come name)
    (here : come row.harnessInstanceId + count row = gone row.harnessInstanceId + count counted) :
    CountFollows test count row counted seats after := by
  intro name
  have total := moved name
  by_cases same : name = row.harnessInstanceId
  · rw [same] at total ⊢
    rw [if_pos rfl, if_pos rfl]
    omega
  · rw [if_neg same, if_neg same]
    have equal := elsewhere name same
    omega

/-- A count that follows one seat which is taken in another way. -/
theorem of_reseat {wrote : Seat} (unique : (seats.map Seat.bindingId).Nodup)
    (mem : taken ∈ seats) (sameId : wrote.bindingId = taken.bindingId)
    (elsewhere : ∀ name, name ≠ row.harnessInstanceId ->
      test name taken = test name wrote)
    (here : (if test row.harnessInstanceId wrote then 1 else 0) + count row =
      (if test row.harnessInstanceId taken then 1 else 0) + count counted) :
    CountFollows test count row counted seats (reseat seats wrote) := by
  refine of_moved (fun id => if test id taken then 1 else 0)
    (fun id => if test id wrote then 1 else 0) (fun id => ?_) ?_ here
  · unfold reseat
    rw [sameId]
    exact Table.countP_map_key unique mem (fun _ => wrote) (test id)
  intro name differs
  rw [elsewhere name differs]

/-- A count that follows one seat which is given up. -/
theorem of_filter (unique : (seats.map Seat.bindingId).Nodup) (mem : taken ∈ seats)
    (elsewhere : ∀ name, name ≠ row.harnessInstanceId ->
      test name taken = false)
    (here : count row = (if test row.harnessInstanceId taken then 1 else 0) + count counted) :
    CountFollows test count row counted seats
      (seats.filter (·.bindingId ≠ taken.bindingId)) := by
  refine of_moved _ (fun _ => 0) (fun id => Table.countP_filter_key unique mem (test id)) ?_
    ((Nat.zero_add _).trans here)
  intro name differs
  rw [elsewhere name differs]
  rfl

theorem write (follows : CountFollows test count row wrote ledger.seats seats)
    (mem : row ∈ ledger.harnesses) (sameId : wrote.harnessInstanceId = row.harnessInstanceId)
    (counts : ∀ other ∈ ledger.harnesses,
      count other = ledger.seats.countP (test other.harnessInstanceId)) :
    ∀ other ∈ ({ ledger with seats := seats }.write wrote).harnesses,
      count other = seats.countP (test other.harnessInstanceId) := by
  intro other found
  rcases mem_write found with here | ⟨kept, differs⟩
  · have followed := follows row.harnessInstanceId
    rw [if_pos rfl, if_pos rfl, <- counts row mem] at followed
    rw [here, sameId]
    omega
  · have followed := follows other.harnessInstanceId
    rw [sameId] at differs
    rw [if_neg differs, if_neg differs, <- counts other kept] at followed
    exact followed.symm

end CountFollows

namespace Projected

variable (shown : Projected Reported body row seats counted after)

include shown

/-- A projection writes the two counts of its Harness. -/
theorem counts_only : counted = { row with
      openSessionCount := counted.openSessionCount
      activeTurnCount := counted.activeTurnCount } := by
  cases shown <;> rfl

/-- Every seat after a projection was one of the same Harness before. -/
theorem housed :
    ∀ taken ∈ after, ∃ old ∈ seats, old.harnessInstanceId = taken.harnessInstanceId := by
  have present : ∀ taken ∈ seats,
      ∃ old ∈ seats, old.harnessInstanceId = taken.harnessInstanceId :=
    fun taken mem => ⟨taken, mem, rfl⟩
  cases shown with
  | kept => exact present
  | opened _ taken _ mem | relabelled taken _ mem | released taken _ mem
  | started _ taken _ mem => exact forall_reseat present ⟨taken, mem, rfl⟩
  | closed =>
    exact fun other found => present other (mem_filter.mp found).1

theorem sessions (unique : (seats.map Seat.bindingId).Nodup) :
    CountFollows seatedAt openSessionCount row counted seats after := by
  cases shown with
  | kept => exact fun _ => rfl
  | opened _ _ _ mem | relabelled _ _ mem | released _ _ mem | started _ _ _ mem =>
    exact .of_reseat unique mem (by rfl) (fun _ _ => rfl) rfl
  | closed taken mem housed =>
    refine .of_filter unique mem (fun _ => seatedAt_elsewhere housed) ?_
    have seated : seatedAt row.harnessInstanceId taken := decide_eq_true housed
    rw [seated, if_pos rfl]
    dsimp only
    omega

omit shown

/-- A settled command holds no more than its Harness did: a start takes the Turn
that it had reserved. -/
theorem load_le {platform : HarnessPlatform} {command : RecordedCommand} {receipt : ResultReceipt}
    (shown : Projected Reported command.body.body row seats counted after)
    (delivered : Delivered platform row command receipt) : load { counted with
      operationState := .settled, receipt := some receipt
      nextSequence := counted.nextSequence + 1 } <= load row := by
  have settled : load { counted with
      operationState := .settled, receipt := some receipt
      nextSequence := counted.nextSequence + 1 } = counted.activeTurnCount := by
    simp [load, reservesTurn]
  rw [settled]
  cases shown with
  | kept | opened | relabelled => exact Nat.le_add_right _ _
  | released | closed => exact Nat.le_trans (Nat.sub_le _ _) (Nat.le_add_right _ _)
  | started start taken isStart =>
    simp [load, reservesTurn, delivered.dispatched, delivered.held, isStart,
      HarnessCommandBody.operation]

end Projected

/-! ## Sessions and bounds -/

/-- What holds in every run: sessions are counted and bounds are kept. -/
structure Accounted (ledger : Ledger) : Prop where
  placed : ∀ row ∈ ledger.harnesses, ∃ bound, (row.sandboxRuntimeId, bound) ∈ ledger.bounds
  housed : ∀ taken ∈ ledger.seats, ∃ row ∈ ledger.harnesses,
    row.harnessInstanceId = taken.harnessInstanceId
  sessions : ∀ row ∈ ledger.harnesses,
    row.openSessionCount = ledger.seats.countP (seatedAt row.harnessInstanceId)
  capacity : ∀ bound ∈ ledger.bounds, ledger.sandboxLoad bound.1 <= bound.2

namespace Accounted

variable (accounted : Accounted ledger)

include accounted

section Write

variable (keyed : ledger.Keyed) (mem : row ∈ ledger.harnesses)
  (sameId : wrote.harnessInstanceId = row.harnessInstanceId)
  (sameSandbox : wrote.sandboxRuntimeId = row.sandboxRuntimeId)

include keyed mem sameId sameSandbox

theorem write (houses : ∀ taken ∈ seats, ∃ other ∈ ledger.harnesses,
      other.harnessInstanceId = taken.harnessInstanceId)
    (sessions : CountFollows seatedAt openSessionCount row wrote ledger.seats seats)
    (room : ∀ bound, (row.sandboxRuntimeId, bound) ∈ ledger.bounds ->
      ledger.sandboxLoad row.sandboxRuntimeId + load wrote <= bound + load row) :
    Accounted ({ ledger with seats := seats }.write wrote) where
  placed := by
    intro other found
    rcases mem_write found with here | ⟨kept, _⟩
    · rw [here, sameSandbox]
      exact accounted.placed row mem
    · exact accounted.placed other kept
  housed := by
    intro taken found
    rcases houses taken found with ⟨other, stored, same⟩
    by_cases here : other.harnessInstanceId = wrote.harnessInstanceId
    · refine ⟨wrote, mem_map.mpr ⟨other, stored, if_pos here⟩, ?_⟩
      rw [<- here, same]
    · exact ⟨other, mem_map.mpr ⟨other, stored, if_neg here⟩, same⟩
  sessions := sessions.write mem sameId accounted.sessions
  capacity := by
    intro bound found
    have loaded := sandboxLoad_write keyed mem sameId bound.1
    have within := accounted.capacity bound found
    have sameLoad : ({ ledger with seats := seats }.write wrote).sandboxLoad bound.1 =
        (ledger.write wrote).sandboxLoad bound.1 := rfl
    rw [sameSandbox] at loaded
    by_cases here : row.sandboxRuntimeId = bound.1
    · rw [if_pos here, if_pos here] at loaded
      have spare := room bound.2 (by rw [here]; exact found)
      rw [here] at spare
      omega
    · rw [if_neg here, if_neg here] at loaded
      omega

theorem write_row (sameSessions : wrote.openSessionCount = row.openSessionCount)
    (room : ∀ bound, (row.sandboxRuntimeId, bound) ∈ ledger.bounds ->
      ledger.sandboxLoad row.sandboxRuntimeId + load wrote <= bound + load row) :
    Accounted (ledger.write wrote) := by
  refine accounted.write keyed mem sameId sameSandbox accounted.housed ?_ room
  intro name
  rw [sameSessions]

end Write

/-- A new Harness has no sessions and no load. -/
theorem create {input : CreateNanoHostHarnessRuntimeInput} {bounds : List (String × Nat)}
    (fresh : ∀ other ∈ ledger.harnesses, other.harnessInstanceId ≠ input.harnessInstanceId)
    (bounded : (bounds = ledger.bounds /\
        ∃ bound, (input.sandboxRuntimeId, bound) ∈ ledger.bounds) \/
      (bounds = ledger.bounds ++ [(input.sandboxRuntimeId, input.capacity)] /\
        ∀ bound ∈ ledger.bounds, bound.1 ≠ input.sandboxRuntimeId)) : Accounted { ledger with
      bounds := bounds, harnesses := ledger.harnesses ++ [standing input.harnessRow] } where
  placed := by
    refine forall_mem_concat (fun row old => ?_) ?_
    · rcases accounted.placed row old with ⟨bound, stored⟩
      rcases bounded with ⟨same, _⟩ | ⟨same, _⟩
      · exact ⟨bound, same ▸ stored⟩
      · exact ⟨bound, same ▸ mem_append_left _ stored⟩
    · rcases bounded with ⟨same, bound, stored⟩ | ⟨same, _⟩
      · exact ⟨bound, same ▸ stored⟩
      · exact ⟨input.capacity, same ▸ mem_append_right _ (mem_singleton.mpr rfl)⟩
  housed := by
    intro taken found
    rcases accounted.housed taken found with ⟨row, stored, same⟩
    exact ⟨row, mem_append_left _ stored, same⟩
  sessions := by
    refine forall_mem_concat accounted.sessions (countP_eq_zero.mpr ?_).symm
    intro taken seated here
    rcases accounted.housed taken seated with ⟨row, stored, same⟩
    exact fresh row stored (same.trans (of_decide_eq_true here))
  capacity := by
    intro bound found
    have loaded : sandboxLoad { ledger with
        bounds := bounds, harnesses := ledger.harnesses ++ [standing input.harnessRow] } bound.1 =
        ledger.sandboxLoad bound.1 := by
      unfold sandboxLoad
      simp [standing, load, reservesTurn, CreateNanoHostHarnessRuntimeInput.harnessRow]
    rw [loaded]
    rcases bounded with ⟨same, _⟩ | ⟨same, absent⟩
    · exact accounted.capacity bound (same ▸ found)
    rw [same] at found
    rcases mem_append.mp found with old | new
    · exact accounted.capacity bound old
    have empty : ledger.sandboxLoad bound.1 = 0 := by
      apply sum_eq_zero
      intro weight weighed
      rcases mem_map.mp weighed with ⟨row, stored, same⟩
      rcases accounted.placed row stored with ⟨other, placed⟩
      rw [<- same, if_neg]
      rw [mem_singleton.mp new]
      exact absent _ placed
    rw [empty]
    exact Nat.zero_le _

/-- A load that does not grow leaves room. -/
theorem room_of_le (lighter : load wrote <= load row) :
    ∀ bound, (row.sandboxRuntimeId, bound) ∈ ledger.bounds ->
      ledger.sandboxLoad row.sandboxRuntimeId + load wrote <= bound + load row := by
  intro bound found
  have within := accounted.capacity _ found
  have within : ledger.sandboxLoad row.sandboxRuntimeId <= bound := within
  omega

theorem step {platform : HarnessPlatform} {happened : CellEvent} {after : Ledger}
    (keyed : ledger.Keyed) (stepped : LedgerStep platform Reported ledger happened after) :
    Accounted after := by
  cases stepped with
  | still => exact accounted
  | created input bounds fresh bounded => exact accounted.create fresh bounded
  | opened row taken mem fresh housed =>
    refine accounted.write keyed mem rfl rfl ?_ ?_ (accounted.room_of_le (Nat.le_refl _))
    · exact forall_mem_concat accounted.housed ⟨row, mem, housed.symm⟩
    · apply CountFollows.of_moved (fun _ => 0) _ (fun _ => countP_append)
      · intro name differs
        rw [countP_singleton, seatedAt_elsewhere housed differs]
        rfl
      · have seated : seatedAt row.harnessInstanceId taken := decide_eq_true housed
        rw [countP_singleton, seated, if_pos rfl]
        dsimp only
        omega
  | queued row command mem accepts current admitted =>
    refine accounted.write_row keyed mem rfl rfl rfl ?_
    have free : load row = row.activeTurnCount := by
      unfold load
      rw [not_reservesTurn accepts]
      rfl
    intro bound found
    by_cases isStart : command.body.body.operation = .turnStart
    · rcases admitted isStart with ⟨other, foundOther, room⟩
      have same : other = bound := 
        congrArg Prod.snd (inj_on_of_nodup_map keyed.bounds foundOther found rfl)
      have heavier : load { row with operationState := .queued, command := some command } =
          row.activeTurnCount + 1 := by
        simp [load, reservesTurn, isStart]
      omega
    · have within : ledger.sandboxLoad row.sandboxRuntimeId <= bound := accounted.capacity _ found
      have unchanged : load { row with operationState := .queued, command := some command } =
          row.activeTurnCount := by
        simp [load, reservesTurn, isStart]
      omega
  | dispatched row command mem waiting =>
    refine accounted.write_row keyed mem rfl rfl rfl (accounted.room_of_le ?_)
    simp [load, reservesTurn, waiting]
  | widened _ mem | received _ _ _ mem =>
    refine accounted.write_row keyed mem rfl rfl rfl (accounted.room_of_le ?_)
    simp [load, reservesTurn]
  | settled row command receipt counted seats mem delivered shown =>
    have kept := shown.counts_only
    refine accounted.write keyed mem ?_ ?_ ?_ (shown.sessions keyed.seats)
      (accounted.room_of_le (shown.load_le delivered))
    · rw [kept]
    · rw [kept]
    · intro taken found
      rcases shown.housed taken found with ⟨old, stored, same⟩
      rw [<- same]
      exact accounted.housed old stored
  | acknowledged row receipt consumption mem =>
    exact accounted.write_row keyed mem rfl rfl rfl (accounted.room_of_le (Nat.le_refl _))

end Accounted

/-! ## Turns -/

/-- An inspection reports `active` only for a seat with a Turn, and `open` only
for a seat without one or past its Turn barrier. -/
def FaithfulReport (taken : Seat) (inspection : SessionInspection) : Prop :=
  (inspection.state = .active -> taken.currentTurnId.isSome) /\
    (inspection.state = .opened -> taken.currentTurnId = none \/
      (taken.lifecycleState = .active /\ inspection.cleanupState = .clean))

/-- What faithful reports keep: Turns are counted, and a seat that may start a
Turn has none. -/
structure Seated (ledger : Ledger) : Prop where
  turns : ∀ row ∈ ledger.harnesses,
    row.activeTurnCount = ledger.seats.countP (runsAt row.harnessInstanceId)
  active : ∀ taken ∈ ledger.seats, taken.lifecycleState = .active -> taken.currentTurnId.isSome
  idle : ∀ taken ∈ ledger.seats,
    taken.lifecycleState = .opening \/ taken.lifecycleState = .opened -> taken.currentTurnId = none
  opening : ∀ row ∈ ledger.harnesses, row.operationState = .dispatched ->
    ∀ command opening, row.command = some command -> command.body.body = .sessionOpen opening ->
      ∀ taken ∈ ledger.seats, taken.bindingId = opening.agentSessionRuntimeBindingId ->
        taken.harnessInstanceId = row.harnessInstanceId -> taken.lifecycleState = .opening

namespace Projected

/-- A projection leaves the seats of other Harnesses alone. -/
theorem mem_of_elsewhere (shown : Projected Reported body row seats counted after)
    (mem : taken ∈ after) (elsewhere : taken.harnessInstanceId ≠ row.harnessInstanceId) :
    taken ∈ seats := by
  have reseated {wrote : Seat} (here : wrote.harnessInstanceId = row.harnessInstanceId)
      (found : taken ∈ reseat seats wrote) : taken ∈ seats := by
    rcases mem_reseat found with same | ⟨kept, _⟩
    · exact absurd (same ▸ here) elsewhere
    · exact kept
  cases shown with
  | kept => exact mem
  | opened _ _ _ _ housed | relabelled _ _ _ housed | released _ _ _ housed
  | started _ _ _ _ housed => exact reseated (by exact housed) mem
  | closed => exact (mem_filter.mp mem).1

def RunWhenActive (seats : List Seat) : Prop :=
  ∀ taken ∈ seats, taken.lifecycleState = .active -> taken.currentTurnId.isSome

def IdleBeforeStart (seats : List Seat) : Prop :=
  ∀ taken ∈ seats, taken.lifecycleState = .opening \/ taken.lifecycleState = .opened ->
    taken.currentTurnId = none

theorem turns (shown : Projected Reported body row seats counted after)
    (unique : (seats.map Seat.bindingId).Nodup) (active : RunWhenActive seats)
    (idle : IdleBeforeStart seats) :
    CountFollows runsAt activeTurnCount row counted seats after := by
  have elsewhere {taken : Seat} (housed : taken.harnessInstanceId = row.harnessInstanceId)
      (name : String) (differs : name ≠ row.harnessInstanceId) :
      runsAt name taken = false := by
    rw [runsAt, seatedAt_elsewhere housed differs]
    rfl
  cases shown with
  | kept => exact fun _ => rfl
  | opened _ _ _ mem | relabelled _ _ mem =>
    exact .of_reseat unique mem (by rfl) (fun _ _ => rfl) rfl
  | released taken lifecycle mem housed ran =>
    refine .of_reseat unique mem (by rfl) ?_ ?_
    · intro name differs
      rw [elsewhere housed _ differs, elsewhere (by exact housed) _ differs]
    · simp [runsAt, seatedAt, housed, active taken mem ran]
      omega
  | started start taken isStart mem housed quiet =>
    refine .of_reseat unique mem (by rfl) ?_ ?_
    · intro name differs
      rw [elsewhere housed _ differs, elsewhere (by exact housed) _ differs]
    · simp [runsAt, seatedAt, housed, idle taken mem quiet.symm]
      omega
  | closed taken mem housed positive room =>
    refine .of_filter unique mem (elsewhere housed) ?_
    have running : runsAt row.harnessInstanceId taken = taken.currentTurnId.isSome := by
      simp [runsAt, seatedAt, housed]
    rw [running]
    cases held : taken.currentTurnId with
    | none => simp
    | some =>
      simp only [held, Option.isNone_some, Bool.false_eq_true, if_false] at room
      simp
      omega

theorem active_of_faithful (shown : Projected FaithfulReport body row seats counted after)
    (active : RunWhenActive seats) : RunWhenActive after := by
  cases shown with
  | kept => exact active
  | opened => exact forall_reseat active (fun never => by cases never)
  | relabelled old report mem housed reported =>
    apply forall_reseat active
    intro isActive
    apply reported.1
    cases state : report.state <;> simp_all [inspectedLifecycle]
  | released old lifecycle mem housed ran positive idle =>
    exact forall_reseat active (absurd · idle)
  | started => exact forall_reseat active (fun _ => rfl)
  | closed =>
    exact fun taken found => active taken (mem_filter.mp found).1

theorem idle_of_faithful (shown : Projected FaithfulReport body row seats counted after)
    (idle : IdleBeforeStart seats)
    (opening : ∀ opening, body = .sessionOpen opening -> ∀ taken ∈ seats,
      taken.bindingId = opening.agentSessionRuntimeBindingId ->
      taken.harnessInstanceId = row.harnessInstanceId -> taken.lifecycleState = .opening) :
    IdleBeforeStart after := by
  cases shown with
  | kept => exact idle
  | opened body old isOpen mem housed named =>
    apply forall_reseat idle
    intro _
    exact idle old mem (.inl (opening body isOpen old mem named housed))
  | relabelled old report mem housed reported noBarrier =>
    apply forall_reseat idle
    intro mayStart
    have opened : report.state = .opened := by
      cases state : report.state <;> simp_all [inspectedLifecycle]
    rcases reported.2 opened with free | ⟨ran, clean⟩
    · exact free
    · exact absurd ⟨ran, clean, .inl opened⟩ noBarrier
  | released => exact forall_reseat idle (fun _ => rfl)
  | started =>
    exact forall_reseat idle (fun never => by rcases never with h | h <;> cases h)
  | closed =>
    exact fun taken found => idle taken (mem_filter.mp found).1

end Projected

namespace Seated

theorem write (seated : Seated ledger) (mem : row ∈ ledger.harnesses)
    (sameId : wrote.harnessInstanceId = row.harnessInstanceId)
    (turns : CountFollows runsAt activeTurnCount row wrote ledger.seats seats)
    (active : Projected.RunWhenActive seats) (idle : Projected.IdleBeforeStart seats)
    (elsewhere : ∀ taken ∈ seats, taken.harnessInstanceId ≠ row.harnessInstanceId ->
      taken ∈ ledger.seats) (opening : wrote.operationState = .dispatched -> ∀ command opening,
      wrote.command = some command -> command.body.body = .sessionOpen opening ->
      ∀ taken ∈ seats, taken.bindingId = opening.agentSessionRuntimeBindingId ->
        taken.harnessInstanceId = row.harnessInstanceId -> taken.lifecycleState = .opening) :
    Seated ({ ledger with seats := seats }.write wrote) where
  turns := turns.write mem sameId seated.turns
  active := active
  idle := idle
  opening := by
    intro other found sent command opened held isOpen taken stored named housed
    rcases mem_write found with here | ⟨kept, differs⟩
    · rw [here] at sent held housed
      exact opening sent command opened held isOpen taken stored named (housed.trans sameId)
    · rw [sameId] at differs
      have old := elsewhere taken stored (fun same => differs (housed.symm.trans same))
      exact seated.opening other kept sent command opened held isOpen taken old named housed

theorem write_row (seated : Seated ledger)
    (mem : row ∈ ledger.harnesses) (sameId : wrote.harnessInstanceId = row.harnessInstanceId)
    (sameTurns : wrote.activeTurnCount = row.activeTurnCount)
    (opening : wrote.operationState = .dispatched -> ∀ command opening,
      wrote.command = some command -> command.body.body = .sessionOpen opening ->
      ∀ taken ∈ ledger.seats, taken.bindingId = opening.agentSessionRuntimeBindingId ->
        taken.harnessInstanceId = row.harnessInstanceId -> taken.lifecycleState = .opening) :
    Seated (ledger.write wrote) := by
  refine seated.write mem sameId ?_ seated.active seated.idle (fun _ stored _ => stored) opening
  intro name
  rw [sameTurns]

theorem step {platform : HarnessPlatform} {happened : CellEvent} {after : Ledger}
    (seated : Seated ledger) (accounted : Accounted ledger) (keyed : ledger.Keyed)
    (stepped : LedgerStep platform FaithfulReport ledger happened after) : Seated after := by
  cases stepped with
  | still => exact seated
  | created input bounds fresh =>
    refine ⟨?_, seated.active, seated.idle, ?_⟩
    · refine forall_mem_concat seated.turns (countP_eq_zero.mpr ?_).symm
      intro taken stored here
      rcases accounted.housed taken stored with ⟨row, placed, same⟩
      have housed := (Bool.and_eq_true_iff.mp here).1
      exact fresh row placed (same.trans (of_decide_eq_true housed))
    · refine forall_mem_concat seated.opening ?_
      intro sent
      cases sent
  | opened row taken mem fresh housed opening idle =>
    refine seated.write mem rfl ?_ ?_ ?_ ?_ ?_
    · intro name
      have free : runsAt name taken = false := by
        simp [runsAt, idle]
      rw [countP_append, countP_singleton, free]
      rfl
    · refine forall_mem_concat seated.active ?_
      rw [opening]
      exact fun never => by cases never
    · exact forall_mem_concat seated.idle (fun _ => idle)
    · exact forall_mem_concat (fun _ old _ => old) (fun differs => absurd housed differs)
    · intro sent command opened held isOpen
      exact forall_mem_concat (seated.opening row mem sent command opened held isOpen)
        (fun _ _ => opening)
  | queued _ _ mem | widened _ mem | received _ _ _ mem =>
    exact seated.write_row mem rfl rfl (fun never => by cases never)
  | dispatched row command mem waiting held current consumed opening =>
    refine seated.write_row mem rfl rfl ?_
    intro _ other opened heldOther isOpen taken stored named housed
    have same : other = command := Option.some.inj (heldOther.symm.trans held)
    rcases opening opened (same ▸ isOpen) with ⟨found, storedFound, namedFound, _, isOpening⟩
    have sameSeat : taken = found :=
      inj_on_of_nodup_map keyed.seats stored storedFound (named.trans namedFound.symm)
    exact sameSeat ▸ isOpening
  | settled row command receipt counted seats mem delivered shown =>
    have opening : ∀ opening, command.body.body = .sessionOpen opening ->
        ∀ taken ∈ ledger.seats, taken.bindingId = opening.agentSessionRuntimeBindingId ->
          taken.harnessInstanceId = row.harnessInstanceId -> taken.lifecycleState = .opening :=
      fun opened isOpen => seated.opening row mem delivered.dispatched command opened
        delivered.held isOpen
    have kept := shown.counts_only
    refine seated.write mem ?_ (shown.turns keyed.seats seated.active seated.idle)
      (shown.active_of_faithful seated.active)
      (shown.idle_of_faithful seated.idle opening) ?_ (fun never => by cases never)
    · rw [kept]
    · exact fun taken found differs => shown.mem_of_elsewhere found differs
  | acknowledged row receipt consumption mem =>
    exact seated.write_row mem rfl rfl (seated.opening row mem)

end Seated

/-! ## Runs -/

variable {platform : HarnessPlatform}

/-- Counters match reality: sessions are the bindings of a Harness, active Turns
the bindings that name one, and a Sandbox has no more of them than its bound. -/
def OccupancyMatches (db : HarnessDb) : Prop :=
  (∀ harness ∈ db.harnesses.rows,
    harness.openSessionCount = db.bindings.rows.countP
        (·.harnessInstanceId = harness.harnessInstanceId) /\
      harness.activeTurnCount = db.bindings.rows.countP (fun binding =>
        binding.harnessInstanceId = harness.harnessInstanceId && binding.currentTurnId.isSome)) /\
    ∀ sandbox ∈ db.sandboxes.rows,
      ((db.harnessesOf sandbox.sandboxRuntimeId).map activeTurnCount).sum <=
        sandbox.maxActiveTurns

instance (db : HarnessDb) : Decidable (OccupancyMatches db) :=
  inferInstanceAs (Decidable (_ /\ _))

def harnessesAfter (platform : HarnessPlatform) (events : List HarnessEvent) : HarnessDb :=
  runCalls (applyEvent platform) events .empty

/-- Whether a call that settles an inspection does so with a faithful report. -/
def reportsFaithfully (platform : HarnessPlatform) (event : HarnessEvent) (db : HarnessDb) : Bool :=
  match event.call, answerCall platform event db with
  | .settle input, .ok (.settled .settled, _) =>
    (inspectionOf? platform db input).all fun (binding, inspection) =>
      (inspection.state ≠ .active || binding.currentTurnId.isSome) &&
        (inspection.state ≠ .opened || binding.currentTurnId.isNone ||
          (binding.lifecycleState = .active && inspection.cleanupState = .clean))
  | _, _ => true

theorem ledgerStep_of_faithful {event : HarnessEvent} {db after : HarnessDb}
    {answer : HarnessAnswer} (faithful : reportsFaithfully platform event db)
    (answered : answerCall platform event db = .ok (answer, after)) :
    LedgerStep platform FaithfulReport db.ledger (cellEvent event.call answer) after.ledger := by
  refine answerCall_ledgerStep ?_ answered
  intro input binding report called first inspected
  unfold reportsFaithfully at faithful
  rw [called, answered, first] at faithful
  simp only [inspected, Option.all_some, Bool.and_eq_true, Bool.or_eq_true,
    decide_eq_true_eq] at faithful
  refine ⟨?_, ?_⟩
  · intro isActive
    rcases faithful.1 with other | runs
    · exact absurd isActive other
    · exact runs
  · intro isOpen
    rcases faithful.2 with (other | free) | barrier
    · exact absurd isOpen other
    · exact .inl (Option.isNone_iff_eq_none.mp free)
    · exact .inr barrier

/-- Sessions and bounds are accounted for after every run. -/
theorem accounted_harnessesAfter (platform : HarnessPlatform) (events : List HarnessEvent) :
    Accounted (harnessesAfter platform events).ledger := by
  apply runCalls_invariant (fun db : HarnessDb => Accounted db.ledger)
  · intro event _ db accounted
    unfold applyEvent
    cases answered : answerCall platform event db with
    | error => exact accounted
    | ok result =>
      rcases result with ⟨answer, after⟩
      have stepped : LedgerStep platform (fun _ _ => True) db.ledger
          (cellEvent event.call answer) after.ledger :=
        answerCall_ledgerStep (fun _ _ _ _ _ _ => trivial) answered
      exact accounted.step db.keyed_ledger stepped
  · exact
      { placed := forall_mem_nil _
        housed := forall_mem_nil _
        sessions := forall_mem_nil _
        capacity := forall_mem_nil _ }

theorem seated_harnessesAfter {events : List HarnessEvent}
    (faithful : everyStep (applyEvent platform) (reportsFaithfully platform) events .empty) :
    Seated (harnessesAfter platform events).ledger := by
  have both : Accounted (harnessesAfter platform events).ledger /\
      Seated (harnessesAfter platform events).ledger := by
    apply runCalls_invariant_of_everyStep
      (fun db : HarnessDb => Accounted db.ledger /\ Seated db.ledger) _ faithful
    · refine ⟨accounted_harnessesAfter platform [], ?_⟩
      exact
        { turns := forall_mem_nil _
          active := forall_mem_nil _
          idle := forall_mem_nil _
          opening := forall_mem_nil _ }
    · intro event db met holds
      unfold applyEvent
      cases answered : answerCall platform event db with
      | error => exact holds
      | ok =>
        have stepped := ledgerStep_of_faithful met answered
        exact ⟨holds.1.step db.keyed_ledger stepped, holds.2.step holds.1 db.keyed_ledger stepped⟩
  exact both.2

theorem turns_le_sandboxLoad (db : HarnessDb) (host : String) :
    ((db.harnessesOf host).map activeTurnCount).sum <= db.ledger.sandboxLoad host := by
  rw [<- sum_load_harnessesOf]
  exact sum_le_sum (fun row _ => Nat.le_add_right _ _)

/-- In every run, whatever the inspections report, the active Turns of a Sandbox and
the starts that are queued or dispatched in it stay within its bound, every AgentSession
binding has its Harness, and every Harness counts its bindings. -/
theorem sandbox_capacity_in_every_run (platform : HarnessPlatform) (events : List HarnessEvent) :
    let db := harnessesAfter platform events
    (∀ sandbox ∈ db.sandboxes.rows,
      ((db.harnessesOf sandbox.sandboxRuntimeId).map load).sum <= sandbox.maxActiveTurns) /\
    (∀ binding ∈ db.bindings.rows, ∃ harness ∈ db.harnesses.rows,
      harness.harnessInstanceId = binding.harnessInstanceId) /\
    ∀ harness ∈ db.harnesses.rows, harness.openSessionCount =
      db.bindings.rows.countP (·.harnessInstanceId = harness.harnessInstanceId) := by
  intro db
  have accounted := accounted_harnessesAfter platform events
  refine ⟨?_, ?_, ?_⟩
  · intro sandbox stored
    rw [sum_load_harnessesOf]
    exact accounted.capacity (sandbox.sandboxRuntimeId, sandbox.maxActiveTurns)
      (mem_map.mpr ⟨sandbox, stored, rfl⟩)
  · intro binding stored
    rcases accounted.housed (seat binding) (mem_map.mpr ⟨binding, stored, rfl⟩) with
      ⟨_, mem, same⟩
    rcases mem_map.mp mem with ⟨harness, found, rfl⟩
    exact ⟨harness, found, same⟩
  · intro harness stored
    have sessions := accounted.sessions (standing harness) (mem_map.mpr ⟨harness, stored, rfl⟩)
    unfold ledger at sessions
    rw [countP_map] at sessions
    exact sessions

/-- In every run whose settled inspections all report faithfully, the occupancy
counters match reality. -/
theorem occupancy_matches_of_faithful_reports (platform : HarnessPlatform)
    (events : List HarnessEvent)
    (faithful : everyStep (applyEvent platform) (reportsFaithfully platform) events .empty) :
    OccupancyMatches (harnessesAfter platform events) := by
  have accounted := accounted_harnessesAfter platform events
  have seated := seated_harnessesAfter faithful
  refine ⟨?_, ?_⟩
  · intro harness stored
    have member : standing harness ∈ (harnessesAfter platform events).ledger.harnesses :=
      mem_map.mpr ⟨harness, stored, rfl⟩
    have sessions := accounted.sessions _ member
    have turns := seated.turns _ member
    unfold ledger at sessions turns
    rw [countP_map] at sessions turns
    exact ⟨sessions, turns⟩
  · intro sandbox stored
    have bounded := accounted.capacity (sandbox.sandboxRuntimeId, sandbox.maxActiveTurns)
      (mem_map.mpr ⟨sandbox, stored, rfl⟩)
    exact Nat.le_trans (turns_le_sandboxLoad _ _) bounded

/-! ## A Turn that is overwritten -/

def sampleDigest (digit : Char) : String :=
  String.ofList (List.replicate 64 digit)

/-- A platform whose operation identities end in their sequence. -/
def samplePlatform : HarnessPlatform where
  sha256Hex := id
  hashWorkerRouteToken := fun token => sampleDigest (token.toList.headD '0')
  isRouteToken := fun _ => true
  canonicalCommand := fun _ sequence _ =>
    String.ofList (List.replicate 63 '0' ++ [Nat.digitChar sequence])
  canonicalResult := fun core => core.operationId
  dateParse := fun _ => none
  isDatetime := fun _ => true

/-- A world with one published target, in which every lease runs the Turn of its
own name. -/
def sampleWorld : HarnessWorld where
  target? := fun _ => some ⟨some (sampleDigest 'e'), true, true, true⟩
  attempt? := fun leaseId =>
    some ⟨"w", "t", leaseId, "s", "p", .opened, "sb"⟩
  attemptPhases := fun _ => []
  acceptedFinal := fun _ => false
  launch? := fun _ _ _ _ _ => none
  bindRouteTokenHashes := fun _ _ _ => .ok ()

def sampleEvent (call : HarnessCall) : HarnessEvent :=
  ⟨sampleWorld, call⟩

def sampleCreate : HarnessEvent :=
  sampleEvent (.create
    { maxActiveTurns := some 2
      harnessBindingRef := "hb"
      harnessCompatibilityKey := sampleDigest 'c'
      harnessInstanceId := "h"
      imageDigest := "sha256:" ++ sampleDigest 'f', originPhysicalEpoch := sampleDigest 'e'
      sandboxBindingRef := "sb"
      sandboxCompatibilityKey := sampleDigest 'd'
      sandboxIntegrationBindingRef := "i"
      sandboxRuntimeId := "x"
      runtimeTargetId := "r"
      adapterVersion := "1"
      timestamp := "n" })

def sampleOpen : HarnessEvent :=
  sampleEvent (.openBinding
    { nativeEnvironment := none
      agentSessionCompatibilityKey := sampleDigest 'b'
      agentSessionId := "s"
      agentSessionRuntimeBindingId := "b"
      effectiveSetupGeneration := 1
      harnessInstanceId := "h"
      threadId := "t"
      timestamp := "n"
      workspaceId := "w" })

variable (sequence : Nat)

def sampleOperationId : String :=
  samplePlatform.canonicalCommand "hb" sequence ⟨.harnessDrain, .none⟩

def sampleQueue (wireBody durableBody : CommandBody) : HarnessEvent :=
  sampleEvent (.queue
    { prepared := ⟨⟨"h", sampleOperationId sequence, sequence, durableBody⟩, wireBody⟩
      body := wireBody.body
      harnessInstanceId := "h"
      timestamp := "n" })

def sampleDispatch : HarnessEvent :=
  sampleEvent (.dispatch ⟨"i", "n"⟩)

def sampleResult (disposition : Disposition) (body : JsonFields) : NanoHostHarnessResult :=
  ⟨"h", sampleOperationId sequence, sequence, disposition, body⟩

def sampleSettle (result : NanoHostHarnessResult) : HarnessEvent :=
  sampleEvent (.settle ⟨"i", result, "n"⟩)

def sampleAcknowledge (result : NanoHostHarnessResult) (turnId : String) : HarnessEvent :=
  sampleEvent (.acknowledge
    ⟨result, "hb", .step "w" turnId "e" "q", "n"⟩)

/-- The instruction that starts a Turn. -/
def sampleStart (turnId : String) (turnSequence : Nat) : HarnessCommandBody :=
  .turnStart
    { agentSessionId := "s"
      agentSessionRuntimeBindingId := "b"
      workspaceId := "w"
      threadId := "t"
      turnId := turnId, leaseId := turnId
      packageSnapshotId := "p"
      turnSequence := turnSequence, details := "" }

def sampleQueueStart (turnId : String) (turnSequence : Nat) : HarnessEvent :=
  sampleQueue sequence ⟨sampleStart turnId turnSequence, .route "a" "b" "c"⟩
    ⟨sampleStart turnId turnSequence, .route (sampleDigest 'a') (sampleDigest 'b') (sampleDigest 'c')⟩

def sampleStarted : NanoHostHarnessResult :=
  sampleResult sequence .succeeded (HarnessSuccess.turnStart ⟨.pending, none⟩).encode

def sampleInspect : CommandBody :=
  ⟨.sessionInspect ⟨"s", "b"⟩, .none⟩

def sampleInspected (state : InspectedState) (cleanupState : CleanupState) :
    NanoHostHarnessResult :=
  sampleResult sequence .succeeded
    (HarnessSuccess.sessionInspect ⟨.running, cleanupState, ⟨.pending, none⟩, state⟩).encode

def inspectedTurn (cleanupState : CleanupState) : List HarnessEvent :=
  [sampleCreate, sampleOpen, sampleQueueStart 0 "t1" 0, sampleDispatch,
    sampleSettle (sampleStarted 0), sampleAcknowledge (sampleStarted 0) "t1",
    sampleQueue 1 sampleInspect sampleInspect, sampleDispatch,
    sampleSettle (sampleInspected 1 .opened cleanupState),
    sampleAcknowledge (sampleInspected 1 .opened cleanupState) "t1",
    sampleQueueStart 2 "t2" 1, sampleDispatch, sampleSettle (sampleStarted 2)]

/-- An inspection that reports `open` before the cleanup of the first Turn lets a
second one take its seat: the Harness counts two Turns, and one binding names one. -/
theorem overwritten_turn_is_counted :
    ¬ OccupancyMatches (harnessesAfter samplePlatform (inspectedTurn .pending)) := by
  decide +kernel

theorem clean_inspection_frees_turn :
    everyStep (applyEvent samplePlatform) (reportsFaithfully samplePlatform) (inspectedTurn .clean)
        .empty /\
      (harnessesAfter samplePlatform (inspectedTurn .clean)).harnesses.rows.map
        activeTurnCount = [1] /\
      OccupancyMatches (harnessesAfter samplePlatform (inspectedTurn .clean)) :=
  have faithful : everyStep (applyEvent samplePlatform) (reportsFaithfully samplePlatform)
      (inspectedTurn .clean) .empty := by decide +kernel
  ⟨faithful, by decide +kernel,
    occupancy_matches_of_faithful_reports samplePlatform (inspectedTurn .clean) faithful⟩

end Harness
end OpenKit
