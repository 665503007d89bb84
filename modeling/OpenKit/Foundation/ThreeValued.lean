import Mathlib.Tactic.Common

namespace OpenKit
namespace Foundation

/-!
# Three-valued logic

A condition over a row with missing values is true, false or unknown.  A row is
selected only when its condition is true, so without negation an unknown part
behaves like a false one.
-/

/-- The truth of a condition; `none` is unknown. -/
abbrev Truth := Option Bool

namespace Truth

/-- A false part decides, an unknown one does not. -/
def and : Truth -> Truth -> Truth
  | some false, _ => some false
  | _, some false => some false
  | some true, some true => some true
  | _, _ => none

/-- A true part decides, an unknown one does not. -/
def or : Truth -> Truth -> Truth
  | some true, _ => some true
  | _, some true => some true
  | some false, some false => some false
  | _, _ => none

/-- The comparison of a value that may be missing. -/
def ofComparison {α : Type} (compare : α -> Bool) : Option α -> Truth
  | some value => some (compare value)
  | none => none

variable {left right : Truth}

@[simp] theorem and_eq_true_iff :
    left.and right = some true <-> left = some true /\ right = some true := by
  rcases left with _ | left <;> rcases right with _ | right
  · simp [Truth.and]
  · cases right <;> simp [Truth.and]
  · cases left <;> simp [Truth.and]
  · cases left <;> cases right <;> simp [Truth.and]

@[simp] theorem or_eq_true_iff :
    left.or right = some true <-> left = some true \/ right = some true := by
  rcases left with _ | left <;> rcases right with _ | right
  · simp [Truth.or]
  · cases right <;> simp [Truth.or]
  · cases left <;> simp [Truth.or]
  · cases left <;> cases right <;> simp [Truth.or]

@[simp] theorem ofComparison_eq_true_iff {α : Type} {compare : α -> Bool} {value : Option α} :
    ofComparison compare value = some true <-> ∃ present, value = some present /\ compare present := by
  cases value with
  | none | some => simp [ofComparison]

end Truth

end Foundation
end OpenKit
