import Mathlib.Order.Lattice
import Mathlib.Tactic.Common

namespace OpenKit
namespace Foundation

/-!
# Cursors

A cursor stands on the next member of an ordered set, or behind the last one.
What lies before it has been dealt with.  `IsSuccessor` says that a cursor moved
from one member to the next without leaving one out, which makes "before the
cursor" and "up to that member" the same thing on the set.

A ladder is a set that a strictly increasing sequence enumerates, cut off where it
leaves a region.  There the cursor walks the rungs in their order.
-/

universe u

variable {α : Type u} [LinearOrder α]

/-- A point lies before the cursor.  Everything lies before an ended one. -/
def isBefore (cursor : Option α) (point : α) : Bool :=
  cursor.all (point < ·)

@[simp] theorem isBefore_some (next point : α) : isBefore (some next) point <-> point < next := by
  simp [isBefore]

/-- The cursor of the first member above a point. -/
structure IsSuccessor (members : α -> Prop) (point : α) (cursor : Option α) : Prop where
  member : ∀ next, cursor = some next -> members next
  above : ∀ next, cursor = some next -> point < next
  least : ∀ other, members other -> point < other -> isBefore cursor other = false

variable {members : α -> Prop} {point : α} {cursor : Option α}

theorem IsSuccessor.isBefore_iff (successor : IsSuccessor members point cursor) {other : α}
    (mem : members other) : isBefore cursor other <-> other <= point := by
  constructor
  · intro before
    by_contra above
    rw [successor.least other mem (not_le.mp above)] at before
    cases before
  · intro le
    cases standing : cursor with
    | none => rfl
    | some next =>
      rw [isBefore_some]
      exact lt_of_le_of_lt le (successor.above next standing)

theorem IsSuccessor.unique {first second : Option α} (left : IsSuccessor members point first)
    (right : IsSuccessor members point second) : first = second := by
  have notBefore : ∀ {here there : Option α}, IsSuccessor members point here ->
      IsSuccessor members point there -> ∀ next, here = some next -> isBefore there next = false :=
    fun other successor next standing =>
      successor.least next (other.member next standing) (other.above next standing)
  cases standing : first with
  | none =>
    cases other : second with
    | none => rfl
    | some next =>
      have never := notBefore right left next other
      rw [standing] at never
      cases never
  | some next =>
    have above := notBefore left right next standing
    cases other : second with
    | none =>
      rw [other] at above
      cases above
    | some found =>
      have below := notBefore right left found other
      rw [standing] at below
      rw [other] at above
      simp only [isBefore, Option.all_some, decide_eq_false_iff_not, not_lt] at above below
      rw [le_antisymm below above]

/-- The points that a cursor visits one after the other. -/
def Follows (next : α -> Option α) : Option α -> List α -> Prop
  | _, [] => True
  | cursor, point :: rest => cursor = some point /\ Follows next (next point) rest

variable {next : α -> Option α}

omit [LinearOrder α] in
theorem Follows.of_append {first second : List α} (follows : Follows next cursor (first ++ second)) :
    Follows next cursor first := by
  induction first generalizing cursor with
  | nil => trivial
  | cons point rest ih => exact ⟨follows.1, ih follows.2⟩

/-- The visited points increase. -/
theorem Follows.increasing {points : List α}
    (up : ∀ point other, next point = some other -> point < other)
    (follows : Follows next cursor points) :
    points.Pairwise (· < ·) /\ ∀ point ∈ points, ∀ start, cursor = some start -> start <= point := by
  induction points generalizing cursor with
  | nil => exact ⟨.nil, by simp⟩
  | cons head rest ih =>
    rcases ih follows.2 with ⟨sorted, later⟩
    have above : ∀ point ∈ rest, head < point := by
      intro point mem
      cases standing : next head with
      | none =>
        cases rest with
        | nil => cases mem
        | cons =>
          have visited := follows.2.1
          rw [standing] at visited
          cases visited
      | some start => exact lt_of_lt_of_le (up head start standing) (later point mem start standing)
    refine ⟨List.pairwise_cons.mpr ⟨above, sorted⟩, ?_⟩
    intro point mem start standing
    have same : start = head := Option.some.inj (standing.symm.trans follows.1)
    rcases List.mem_cons.mp mem with here | there
    · rw [same, here]
    · rw [same]
      exact (above point there).le

/-! ## Ladders -/

/-- The point that a cursor visits after a number of moves. -/
def walk (next : α -> Option α) (start : α) : Nat -> Option α
  | 0 => some start
  | moves + 1 => (walk next start moves).bind next

section Ladder

variable {rung : Nat -> α} {inside : α -> Prop} [DecidablePred inside] {index : Nat}

/-- The cursor on a rung, ended outside of the region. -/
def rungCursor (rung : Nat -> α) (inside : α -> Prop) [DecidablePred inside] (index : Nat) :
    Option α :=
  if inside (rung index) then some (rung index) else none

omit [LinearOrder α] in
@[simp] theorem rungCursor_eq_some_iff :
    rungCursor rung inside index = some point <-> inside (rung index) /\ rung index = point := by
  unfold rungCursor
  split <;> simp_all

omit [LinearOrder α] in
@[simp] theorem rungCursor_eq_none_iff :
    rungCursor rung inside index = none <-> ¬inside (rung index) := by
  simp [rungCursor]

theorem isSuccessor_rungCursor (increasing : StrictMono rung)
    (closed : ∀ index later, index <= later -> inside (rung later) -> inside (rung index))
    (index : Nat) :
    IsSuccessor (fun point => inside point /\ ∃ index, point = rung index) (rung index)
      (rungCursor rung inside (index + 1)) := by
  refine ⟨?_, ?_, ?_⟩
  · intro next standing
    rcases rungCursor_eq_some_iff.mp standing with ⟨within, rfl⟩
    exact ⟨within, index + 1, rfl⟩
  · intro next standing
    rcases rungCursor_eq_some_iff.mp standing with ⟨_, rfl⟩
    exact increasing (Nat.lt_succ_self index)
  · rintro _ ⟨within, other, rfl⟩ above
    have later : index + 1 <= other := increasing.lt_iff_lt.mp above
    have standing : rungCursor rung inside (index + 1) = some (rung (index + 1)) :=
      rungCursor_eq_some_iff.mpr ⟨closed _ _ later within, rfl⟩
    rw [standing]
    simpa [isBefore] using increasing.monotone later

omit [LinearOrder α] in
theorem walk_eq_rungCursor (start : inside (rung 0))
    (closed : ∀ index later, index <= later -> inside (rung later) -> inside (rung index))
    (moves : ∀ index, inside (rung index) -> next (rung index) = rungCursor rung inside (index + 1))
    (index : Nat) : walk next (rung 0) index = rungCursor rung inside index := by
  induction index with
  | zero =>
    symm
    exact rungCursor_eq_some_iff.mpr ⟨start, rfl⟩
  | succ index ih =>
    rw [walk, ih]
    by_cases within : inside (rung index)
    · rw [rungCursor_eq_some_iff.mpr ⟨within, rfl⟩]
      exact moves index within
    · have outside : ¬inside (rung (index + 1)) :=
        fun later => within (closed _ _ (Nat.le_succ index) later)
      rw [rungCursor_eq_none_iff.mpr within, rungCursor_eq_none_iff.mpr outside]
      rfl

/-- A cutoff lies above one rung and below the next. -/
theorem rung_le_cutoff_iff (increasing : StrictMono rung) {cutoff : α} {last : Nat}
    (reached : rung last <= cutoff) (beyond : cutoff < rung (last + 1)) (index : Nat) :
    rung index <= cutoff <-> index <= last := by
  constructor
  · intro le
    exact Nat.lt_succ_iff.mp (increasing.lt_iff_lt.mp (lt_of_le_of_lt le beyond))
  · intro le
    exact le_trans (increasing.monotone le) reached

end Ladder

end Foundation
end OpenKit
