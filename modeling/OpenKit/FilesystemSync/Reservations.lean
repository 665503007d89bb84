import Mathlib.Logic.Relation
import OpenKit.Foundation.Transactions

namespace OpenKit
namespace FilesystemSync

open Foundation List

/-!
# Reservations of a target

A call reserves its target before it touches it.  It waits for the promises of
the overlapping reservations that are in the shared list when it is made, and
its own promise settles when it is released.  What runs between two awaits is
one event, so an interleaving of calls is a sequence of events.

The containment test appends the separator to the root.  The file system root
ends with it already, so no other path is taken to lie within that root.
-/

def sep : Char := '/'

def pathWithinRoot (rootRealPath resolvedPath : String) : Bool :=
  resolvedPath = rootRealPath || (rootRealPath.toList ++ [sep]).isPrefixOf resolvedPath.toList

/-- An entry of the shared list, with the promises that its call awaits and
whether the call has returned. -/
structure Reservation where
  number : Nat
  (identity rootPath : String)
  blockers : List Nat
  held : Bool
deriving DecidableEq

/-- The list `filesystemTargetReservations`, the number of calls so far, and the
calls whose promises are settled. -/
structure TargetReservations where
  reservations : List Reservation
  requested : Nat
  settled : List Nat

/-- A call up to its await. -/
def reserveFilesystemTarget (rootPath identity : String) (state : TargetReservations) :
    TargetReservations :=
  let blockers := state.reservations.filter fun reservation =>
    reservation.identity = identity || pathWithinRoot reservation.rootPath rootPath ||
      pathWithinRoot rootPath reservation.rootPath
  { state with
    reservations := state.reservations ++
      [⟨state.requested, identity, rootPath, blockers.map Reservation.number, false⟩]
    requested := state.requested + 1 }

/-- A call returns once all its blockers are settled. -/
def resume (number : Nat) (state : TargetReservations) : TargetReservations :=
  { state with
    reservations := state.reservations.map fun reservation =>
      { reservation with
        held := reservation.held || (reservation.number = number &&
          reservation.blockers.all (· ∈ state.settled)) } }

/-- The callback of a call that has returned. -/
def release (number : Nat) (state : TargetReservations) : TargetReservations :=
  if state.reservations.any (fun reservation =>
      reservation.number = number && reservation.held) then
    { state with
      settled := number :: state.settled
      reservations := state.reservations.filter (·.number ≠ number) }
  else state

inductive ReservationEvent where
  | reserve (rootPath identity : String)
  | resume (number : Nat)
  | release (number : Nat)

def reservationStep : ReservationEvent -> TargetReservations -> TargetReservations
  | .reserve rootPath identity => reserveFilesystemTarget rootPath identity
  | .resume number => resume number
  | .release number => release number

def reservationsAfter (events : List ReservationEvent) : TargetReservations :=
  runCalls reservationStep events ⟨[], 0, []⟩

/-! ## What the reservations promise -/

/-- A canonical path with the separator that stands before its entries. -/
def directoryText (path : String) : List Char :=
  if path.toList.getLast? = some sep then path.toList else path.toList ++ [sep]

/-- Equal or nested paths. -/
def Contains (root path : String) : Prop :=
  path = root \/ directoryText root <+: path.toList

/-- Not the file system root, the only canonical path that ends with the separator. -/
def BelowRoot (path : String) : Prop :=
  path.toList.getLast? ≠ some sep

def Reservation.Conflicts (first second : Reservation) : Prop :=
  first.identity = second.identity \/ Contains first.rootPath second.rootPath \/
    Contains second.rootPath first.rootPath

/-- A conflict that the containment test sees: of one directory, or of two that lie
below the file system root. -/
def Reservation.Detected (first second : Reservation) : Prop :=
  first.identity = second.identity \/ first.rootPath = second.rootPath \/
    BelowRoot first.rootPath /\ BelowRoot second.rootPath /\ first.Conflicts second

/-- One call waits for the promise of another. -/
def TargetReservations.WaitsFor (state : TargetReservations) (waiter blocker : Nat) : Prop :=
  ∃ entry ∈ state.reservations, entry.number = waiter /\ blocker ∈ entry.blockers

structure ReservationPromises (state : TargetReservations) : Prop where
  /-- Two calls never hold conflicting reservations. -/
  exclusive : ∀ first ∈ state.reservations, ∀ second ∈ state.reservations,
    first.Detected second -> first.held -> second.held -> first.number = second.number
  /-- A call holds nothing before every earlier conflicting one is released. -/
  ordered : ∀ first ∈ state.reservations, ∀ second ∈ state.reservations,
    first.Detected second -> first.number < second.number -> second.held = false
  /-- No call waits for a later one, so no waiting is cyclic. -/
  forward : ∀ waiter blocker, state.WaitsFor waiter blocker -> blocker < waiter
  acyclic : ∀ number, ¬ Relation.TransGen state.WaitsFor number number
  /-- A second release does nothing. -/
  once : ∀ number, release number (release number state) = release number state
  /-- Nor does the release of any call whose promise is settled. -/
  spent : ∀ number ∈ state.settled, release number state = state

/-! ## Every event keeps the queue -/

structure Reservation.Sound (state : TargetReservations) (entry : Reservation) : Prop where
  requested : entry.number < state.requested
  earlier : ∀ blocker ∈ entry.blockers, blocker < entry.number
  unsettled : entry.number ∉ state.settled
  granted : entry.held -> entry.blockers ⊆ state.settled

structure Queued (state : TargetReservations) : Prop where
  sound : ∀ entry ∈ state.reservations, entry.Sound state
  settled : ∀ number ∈ state.settled, number < state.requested
  blocked : ∀ first ∈ state.reservations, ∀ second ∈ state.reservations,
    first.Detected second -> first.number < second.number -> first.number ∈ second.blockers

theorem pathWithinRoot_of_contains {root path : String} (below : BelowRoot root)
    (contains : Contains root path) : pathWithinRoot root path := by
  unfold BelowRoot at below
  simpa [Contains, directoryText, below, pathWithinRoot] using contains

/-- A detected conflict makes the later call wait. -/
theorem Reservation.Detected.overlaps {first second : Reservation}
    (detected : first.Detected second) :
    first.identity = second.identity \/ pathWithinRoot first.rootPath second.rootPath \/
      pathWithinRoot second.rootPath first.rootPath := by
  rcases detected with same | same | ⟨below, belowSecond, conflicts⟩
  · exact .inl same
  · exact .inr (.inl (by simp [pathWithinRoot, same]))
  · exact conflicts.imp_right (Or.imp (pathWithinRoot_of_contains below)
      (pathWithinRoot_of_contains belowSecond))

theorem Reservation.Detected.symm {first second : Reservation}
    (detected : first.Detected second) : second.Detected first := by
  rcases detected with same | same | ⟨below, belowSecond, conflicts⟩
  · exact .inl same.symm
  · exact .inr (.inl same.symm)
  · exact .inr (.inr ⟨belowSecond, below, conflicts.imp Eq.symm Or.symm⟩)

section

variable {state : TargetReservations} (queued : Queued state)

include queued

theorem Queued.reserve (rootPath identity : String) :
    Queued (reserveFilesystemTarget rootPath identity state) where
  sound := by
    refine forall_mem_append.mpr ⟨?_, forall_mem_singleton.mpr ?_⟩
    · intro entry mem
      have sound := queued.sound entry mem
      exact ⟨Nat.lt_succ_of_lt sound.requested, sound.earlier, sound.unsettled, sound.granted⟩
    · refine ⟨Nat.lt_succ_self _, ?_, fun settled => Nat.lt_irrefl _ (queued.settled _ settled), nofun⟩
      intro blocker blocks
      rcases mem_map.mp blocks with ⟨other, filtered, rfl⟩
      exact (queued.sound other (mem_filter.mp filtered).1).requested
  settled := fun number settled => Nat.lt_succ_of_lt (queued.settled number settled)
  blocked := by
    intro first mem second memberSecond detected less
    rcases mem_append.mp memberSecond with old | new
    · rcases mem_append.mp mem with oldFirst | newFirst
      · exact queued.blocked first oldFirst second old detected less
      · rw [mem_singleton.mp newFirst] at less
        exact absurd less (Nat.lt_asymm (queued.sound second old).requested)
    · rw [mem_singleton.mp new] at detected less ⊢
      rcases mem_append.mp mem with oldFirst | newFirst
      · refine mem_map_of_mem (mem_filter.mpr ⟨oldFirst, ?_⟩)
        simpa [or_assoc] using detected.overlaps
      · rw [mem_singleton.mp newFirst] at less
        exact absurd less (Nat.lt_irrefl _)

theorem Queued.resume (number : Nat) : Queued (resume number state) where
  sound := by
    refine forall_mem_map.mpr ?_
    intro entry mem
    have sound := queued.sound entry mem
    refine ⟨sound.requested, sound.earlier, sound.unsettled, ?_⟩
    intro held blocker blocks
    rcases Bool.or_eq_true_iff.mp held with before | now
    · exact sound.granted before blocks
    · have settled := all_eq_true.mp (Bool.and_eq_true_iff.mp now).2 blocker blocks
      exact of_decide_eq_true settled
  settled := queued.settled
  blocked := forall_mem_map.mpr fun first mem =>
    forall_mem_map.mpr (queued.blocked first mem)

theorem Queued.release (number : Nat) : Queued (release number state) := by
  unfold FilesystemSync.release
  split
  next holding =>
    rcases any_eq_true.mp holding with ⟨released, memberReleased, named⟩
    have same : released.number = number := by simp_all
    refine ⟨?_, ?_, ?_⟩
    · intro entry mem
      rcases mem_filter.mp mem with ⟨stays, other⟩
      have sound := queued.sound entry stays
      refine ⟨sound.requested, sound.earlier, ?_, ?_⟩
      · simpa [sound.unsettled] using other
      · exact fun held => List.Subset.trans (sound.granted held) (subset_cons_self _ _)
    · refine forall_mem_cons.mpr ⟨?_, queued.settled⟩
      rw [<- same]
      exact (queued.sound released memberReleased).requested
    · intro first mem second memberSecond
      exact queued.blocked first (mem_filter.mp mem).1 second (mem_filter.mp memberSecond).1
  · exact queued

/-- A blocker in the list is not settled, so the call behind it has not returned. -/
theorem Queued.ordered {first second : Reservation} (mem : first ∈ state.reservations)
    (memberSecond : second ∈ state.reservations) (detected : first.Detected second)
    (less : first.number < second.number) : second.held = false := by
  have blocks := queued.blocked first mem second memberSecond detected less
  by_contra held
  have settled := (queued.sound second memberSecond).granted (by simpa using held) blocks
  exact (queued.sound first mem).unsettled settled

/-- A settled call is not in the list any more. -/
theorem Queued.spent {number : Nat} (settled : number ∈ state.settled) :
    FilesystemSync.release number state = state := by
  refine if_neg (fun holding => ?_)
  rcases any_eq_true.mp holding with ⟨entry, mem, named⟩
  have same : entry.number = number := by simp_all
  exact (queued.sound entry mem).unsettled (same ▸ settled)

end

theorem queued_after (events : List ReservationEvent) : Queued (reservationsAfter events) := by
  refine runCalls_invariant Queued ?_ ⟨nofun, nofun, nofun⟩
  intro event _ state queued
  cases event with
  | reserve rootPath identity => exact queued.reserve rootPath identity
  | resume number => exact queued.resume number
  | release number => exact queued.release number

/-- After every interleaving of calls and releases the reservations held at one time have
no detected conflict, an earlier call comes first, no waiting is cyclic, and the release
of a call that is released already changes nothing. -/
theorem target_reservations_exclude (events : List ReservationEvent) :
    ReservationPromises (reservationsAfter events) := by
  have queued := queued_after events
  have forward : ∀ waiter blocker, (reservationsAfter events).WaitsFor waiter blocker ->
      blocker < waiter := by
    rintro _ blocker ⟨entry, member, rfl, blocks⟩
    exact (queued.sound entry member).earlier blocker blocks
  refine ⟨?_, fun _ member _ memberSecond => queued.ordered member memberSecond, forward, ?_, ?_,
    fun _ => queued.spent⟩
  · intro first member second memberSecond detected held heldSecond
    rcases Nat.lt_trichotomy first.number second.number with less | same | less
    · have free := queued.ordered member memberSecond detected less
      exact absurd (heldSecond.symm.trans free) nofun
    · exact same
    · have free := queued.ordered memberSecond member detected.symm less
      exact absurd (held.symm.trans free) nofun
  · intro number cycle
    have descends {waiter blocker : Nat} (path : Relation.TransGen
        (reservationsAfter events).WaitsFor waiter blocker) : blocker < waiter := by
      induction path with
      | single step => exact forward _ _ step
      | tail _ step ih =>
        calc
          _ < _ := forward _ _ step
          _ < _ := ih
    exact Nat.lt_irrefl _ (descends cycle)
  · intro number
    by_cases returned : (reservationsAfter events).reservations.any
        (fun entry => entry.number = number && entry.held)
    · refine (queued.release number).spent ?_
      simp [release, returned]
    · have same : release number (reservationsAfter events) = reservationsAfter events :=
        if_neg returned
      rw [same, same]

/-- The file system root and a directory below it, held at the same time. -/
theorem filesystem_root_is_not_excluded :
    ∃ first second, (reservationsAfter [.reserve "/" "1:2", .reserve "/srv" "1:77", .resume 0,
        .resume 1]).reservations = [first, second] /\
      first.held /\ second.held /\ first.Conflicts second := by
  refine ⟨⟨0, "1:2", "/", [], true⟩, ⟨1, "1:77", "/srv", [], true⟩, by decide, rfl, rfl, ?_⟩
  exact .inr (.inl (.inr (by decide)))

end FilesystemSync
end OpenKit
