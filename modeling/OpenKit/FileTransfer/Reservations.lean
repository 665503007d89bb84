import Mathlib.Algebra.GroupWithZero.Nat
import Mathlib.Data.List.Nodup

namespace OpenKit
namespace FileTransfer

open List

/-!
# Disk reservations of file stages

A stage on disk reserves its worst case before the first body byte.  Every byte
written moves from the reservation to the disk, and a dropped stage returns the
rest, unless its directory could not be removed.

A thread changes its own stage first and takes the lock of the count afterwards:
the amounts that are still to be subtracted are part of the state.  An amount
that is larger than the number it is subtracted from has no result.
-/

def CHUNK_BYTES : Nat := 65536

def EVIDENCE_BYTES : Nat := 256 * 1024 * 1024

def RESERVE_BYTES : Nat := 1000000000

/-- A stage, also when it has become a verified file.  The digest is the bytes
that it was updated with. -/
structure FileStage where
  onDisk : Bool
  (length maximum overlap remaining : Nat)
  digest : List UInt8
  verified : Bool
deriving DecidableEq

/-- The count under the lock, the live stages, the amounts that threads have yet
to subtract, and the stages whose directories could not be removed. -/
structure Staging where
  reserved : Nat
  stages : List FileStage
  owed : List Nat
  unremoved : List FileStage

def checkedAdd (left right : Nat) : Option Nat :=
  if left + right < 2 ^ 64 then some (left + right) else none

def checkedSub (value amount : Nat) : Option Nat :=
  if amount <= value then some (value - amount) else none

def requireCapacity (available reserved : Nat) : Bool :=
  RESERVE_BYTES + reserved <= available

namespace Staging

/-- `create`, where `available` is the space of the disk and `opened` says whether
the other system calls succeeded. -/
def create (maximum overlap available : Nat) (opened : Bool) (state : Staging) : Staging :=
  match (checkedAdd maximum overlap).bind (checkedAdd · 65536) with
  | none => state
  | some wanted =>
    match checkedAdd state.reserved wanted with
    | none => state
    | some nextReserved =>
      if requireCapacity available nextReserved && opened then
        { state with
          reserved := nextReserved
          stages := ⟨true, 0, maximum, overlap, wanted, [], false⟩ :: state.stages }
      else state

def createMemory (maximum : Nat) (opened : Bool) (state : Staging) : Staging :=
  if maximum <= EVIDENCE_BYTES /\ opened then
    { state with stages := ⟨false, 0, maximum, 0, 0, [], false⟩ :: state.stages }
  else state

/-- The owner of a stage changes it. -/
def exchange (stage changed : FileStage) (owed : List Nat) (state : Staging) : Staging :=
  { state with stages := changed :: state.stages.erase stage, owed := owed }

/-- `write` up to the lock.  The file takes some of the bytes or fails. -/
def write (stage : FileStage) (bytes : List UInt8) (taken : Option Nat) (state : Staging) :
    Option Staging := do
  let room <- checkedSub stage.maximum stage.length
  if CHUNK_BYTES < bytes.length \/ room < bytes.length then return state
  else
    match taken with
    | none => return state
    | some taken =>
      let written := min taken bytes.length
      let changed :=
        { stage with
          digest := stage.digest ++ bytes.take written, length := stage.length + written }
      if stage.onDisk then
        let remaining <- checkedSub stage.remaining written
        return state.exchange stage { changed with remaining := remaining } (written :: state.owed)
      else return state.exchange stage changed state.owed

/-- `drop` up to the lock. -/
def drop (stage : FileStage) (removed : Bool) (state : Staging) : Staging :=
  let left := { state with stages := state.stages.erase stage }
  if stage.onDisk then
    if removed then { left with owed := stage.remaining :: state.owed }
    else { left with unremoved := stage :: state.unremoved }
  else left

/-- `complete`: a stage that fails a check or a system call is dropped. -/
def complete (sha256 : List UInt8 -> String) (stage : FileStage) (expected : Option (Nat × String))
    (available : Nat) (done removed : Bool) (state : Staging) : Staging :=
  let refused := (stage.onDisk && !requireCapacity available state.reserved) ||
    expected.any (fun (length, hash) => length ≠ stage.length || hash ≠ sha256 stage.digest)
  if refused || !done then state.drop stage removed
  else state.exchange stage { stage with verified := true } state.owed

end Staging

inductive StageEvent where
  | create (maximum overlap available : Nat) (opened : Bool)
  | createMemory (maximum : Nat) (opened : Bool)
  | write (stage : FileStage) (bytes : List UInt8) (taken : Option Nat)
  | complete (stage : FileStage) (expected : Option (Nat × String)) (available : Nat)
      (done removed : Bool)
  | drop (stage : FileStage) (removed : Bool)
  /-- A thread takes the lock and subtracts what it owes. -/
  | subtract (amount : Nat)

/-- What happens next, to a stage that is live. -/
def stageStep (sha256 : List UInt8 -> String) (state : Staging) : StageEvent -> Option Staging
  | .create maximum overlap available opened => some (state.create maximum overlap available opened)
  | .createMemory maximum opened => some (state.createMemory maximum opened)
  | .write stage bytes taken =>
    if stage ∈ state.stages /\ stage.verified = false then state.write stage bytes taken
    else some state
  | .complete stage expected available done removed =>
    if stage ∈ state.stages /\ stage.verified = false then
      some (state.complete sha256 stage expected available done removed)
    else some state
  | .drop stage removed => if stage ∈ state.stages then some (state.drop stage removed) else some state
  | .subtract amount =>
    if amount ∈ state.owed then do
      let reserved <- checkedSub state.reserved amount
      return { state with reserved := reserved, owed := state.owed.erase amount }
    else some state

/-! ## The balance -/

/-- What a live stage holds of the count. -/
def FileStage.reservation (stage : FileStage) : Nat :=
  if stage.onDisk then stage.remaining else 0

/-- A stage keeps its bound, and its reservation covers what it may still write. -/
structure FileStage.Sound (stage : FileStage) : Prop where
  bounded : stage.length <= stage.maximum
  remaining : stage.onDisk ->
    stage.remaining = stage.maximum + stage.overlap + 65536 - stage.length

/-- The count is what the live stages, the directories that stayed and the threads
before the lock account for. -/
structure Balances (state : Staging) : Prop where
  reserved : state.reserved = (state.stages.map FileStage.reservation).sum +
    (state.unremoved.map FileStage.remaining).sum + state.owed.sum
  sound : ∀ stage ∈ state.stages, stage.Sound

namespace Balances

variable {state : Staging} {stage changed : FileStage} {owed : List Nat}

variable (balances : Balances state) (mem : stage ∈ state.stages)

include mem in
theorem sum_erase : (state.stages.map FileStage.reservation).sum =
      stage.reservation + ((state.stages.erase stage).map FileStage.reservation).sum := by
  rw [((perm_cons_erase mem).map FileStage.reservation).sum_nat, map_cons, sum_cons]

include balances

/-- One more stage, and as much on the count. -/
theorem cons (sound : changed.Sound) {reserved : Nat}
    (added : reserved = state.reserved + changed.reservation) :
    Balances { state with reserved := reserved, stages := changed :: state.stages } := by
  refine ⟨?_, forall_mem_cons.mpr ⟨sound, balances.sound⟩⟩
  have total := balances.reserved
  simp only [map_cons, sum_cons]
  omega

include mem

theorem exchange (sound : changed.Sound)
    (moved : changed.reservation + owed.sum = stage.reservation + state.owed.sum) :
    Balances (state.exchange stage changed owed) := by
  refine ⟨?_, forall_mem_cons.mpr ⟨sound, ?_⟩⟩
  · have total := balances.reserved
    rw [sum_erase mem] at total
    simp only [Staging.exchange, map_cons, sum_cons]
    omega
  · exact fun other kept => balances.sound other (mem_of_mem_erase kept)

theorem drop (removed : Bool) : Balances (state.drop stage removed) := by
  have kept : ∀ other ∈ state.stages.erase stage, other.Sound :=
    fun other kept => balances.sound other (mem_of_mem_erase kept)
  have total := balances.reserved
  rw [sum_erase mem, FileStage.reservation] at total
  unfold Staging.drop
  split
  next onDisk =>
    rw [if_pos onDisk] at total
    split
    · refine ⟨?_, kept⟩
      simp only [sum_cons]
      omega
    · refine ⟨?_, kept⟩
      simp only [map_cons, sum_cons]
      omega
  next inMemory =>
    rw [if_neg inMemory] at total
    refine ⟨?_, kept⟩
    dsimp only
    omega

/-- A write fits into the stage and into its reservation. -/
theorem write (bytes : List UInt8) (taken : Option Nat) :
    ∃ next, state.write stage bytes taken = some next /\ Balances next := by
  have sound := balances.sound stage mem
  have bounded := sound.bounded
  unfold Staging.write checkedSub
  rw [if_pos bounded]
  dsimp only [bind, Option.bind, pure]
  split
  · exact ⟨state, rfl, balances⟩
  rename_i fits
  cases taken with
  | none => exact ⟨state, rfl, balances⟩
  | some taken =>
    have wrote : stage.length + min taken bytes.length <= stage.maximum := by omega
    dsimp only
    split
    next onDisk =>
      have remaining := sound.remaining onDisk
      rw [if_pos (by omega)]
      refine ⟨_, rfl, balances.exchange mem ⟨wrote, fun _ => ?_⟩ ?_⟩
      · dsimp only
        omega
      · simp only [FileStage.reservation, onDisk, if_true, sum_cons]
        omega
    next inMemory =>
      refine ⟨_, rfl, balances.exchange mem ⟨wrote, fun onDisk => absurd onDisk inMemory⟩ ?_⟩
      simp only [FileStage.reservation, inMemory]

end Balances

variable {sha256 : List UInt8 -> String} {state next : Staging} {event : StageEvent}

/-- Every event has a result, so no subtraction underflows, and keeps the balance. -/
theorem stageStep_balances (balances : Balances state) (event : StageEvent) :
    ∃ next, stageStep sha256 state event = some next /\ Balances next := by
  cases event with
  | create maximum overlap =>
    refine ⟨_, rfl, ?_⟩
    unfold Staging.create
    split
    · exact balances
    rename_i wanted computed
    split
    · exact balances
    rename_i reserved added
    split
    · have total : maximum + overlap + 65536 = wanted /\ state.reserved + wanted = reserved := by
        simp only [checkedAdd, Option.bind_eq_some_iff, Option.ite_none_right_eq_some,
          Option.some.injEq] at computed added
        omega
      exact balances.cons ⟨Nat.zero_le _, fun _ => total.1.symm⟩ total.2.symm
    · exact balances
  | createMemory =>
    refine ⟨_, rfl, ?_⟩
    unfold Staging.createMemory
    split
    · exact balances.cons ⟨Nat.zero_le _, fun onDisk => absurd onDisk Bool.false_ne_true⟩ rfl
    · exact balances
  | write stage bytes taken =>
    dsimp only [stageStep]
    split
    next live =>
      exact balances.write live.1 bytes taken
    · exact ⟨state, rfl, balances⟩
  | complete stage expected available done removed =>
    dsimp only [stageStep]
    split
    next live =>
      refine ⟨_, rfl, ?_⟩
      have sound := balances.sound stage live.1
      unfold Staging.complete
      dsimp only
      split
      · exact balances.drop live.1 removed
      · exact balances.exchange live.1 ⟨sound.bounded, sound.remaining⟩ rfl
    · exact ⟨state, rfl, balances⟩
  | drop stage removed =>
    dsimp only [stageStep]
    split
    next live =>
      exact ⟨_, rfl, balances.drop live removed⟩
    · exact ⟨state, rfl, balances⟩
  | subtract =>
    dsimp only [stageStep]
    split
    next owes =>
      have total := balances.reserved
      rw [(perm_cons_erase owes).sum_nat, sum_cons] at total
      unfold checkedSub
      rw [if_pos (by omega)]
      refine ⟨_, rfl, ?_, balances.sound⟩
      dsimp only
      omega
    · exact ⟨state, rfl, balances⟩

def StageEvent.isMemory : StageEvent -> Bool
  | .createMemory _ _ => true
  | .write stage _ _ | .complete stage _ _ _ _ | .drop stage _ => !stage.onDisk
  | .create _ _ _ _ | .subtract _ => false

theorem memory_keeps_count (isMemory : event.isMemory)
    (stepped : stageStep sha256 state event = some next) :
    next.reserved = state.reserved /\ next.owed = state.owed := by
  cases event with
  | create | subtract => cases isMemory
  | createMemory => grind [stageStep, Staging.createMemory]
  | write =>
    dsimp only [stageStep, Staging.write, Staging.exchange, bind, Option.bind, pure] at stepped
    grind [StageEvent.isMemory]
  | complete =>
    grind [StageEvent.isMemory, stageStep, Staging.complete, Staging.drop, Staging.exchange]
  | drop => grind [StageEvent.isMemory, stageStep, Staging.drop]

/-- After every interleaving of the threads the count balances, and nothing is owed
when no thread stands before the lock.  A stage in memory never changes it. -/
theorem disk_reservations_balance (sha256 : List UInt8 -> String) (events : List StageEvent) :
    ∃ state, events.foldlM (stageStep sha256) ⟨0, [], [], []⟩ = some state /\ Balances state /\
      ∀ event next, event.isMemory -> stageStep sha256 state event = some next ->
        next.reserved = state.reserved /\ next.owed = state.owed := by
  have run : ∀ start, Balances start ->
      ∃ state, events.foldlM (stageStep sha256) start = some state /\ Balances state := by
    induction events with
    | nil => exact fun start balances => ⟨start, rfl, balances⟩
    | cons event rest ih =>
      intro start balances
      rcases stageStep_balances balances event with ⟨next, stepped, nextBalances⟩
      rw [foldlM_cons, stepped]
      exact ih next nextBalances
  rcases run ⟨0, [], [], []⟩ ⟨rfl, nofun⟩ with ⟨state, ran, balances⟩
  exact ⟨state, ran, balances, fun _ _ => memory_keeps_count⟩

end FileTransfer
end OpenKit
