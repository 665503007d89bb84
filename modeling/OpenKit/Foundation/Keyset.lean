import Mathlib.Data.List.Basic
import Mathlib.Order.Lattice

namespace OpenKit
namespace Foundation

open List

/-!
# Keyset pages

A reader asks for the first rows behind the key of the last row that it has seen.
What it takes to be behind a key is a condition of its own, which has to agree
with the order of its rows.
-/

universe u v

variable {row : Type u} {key : Type v} [LinearOrder key]

section

variable (keyOf : row -> key) (behind : key -> row -> Bool) (rows : List row) (size : Nat)
variable (untilShort : Bool)

def inOrder : List row := rows.mergeSort (keyOf · <= keyOf ·)

/-- The page behind a key, or the first one. -/
def keysetPage (after : Option key) : List row :=
  ((inOrder keyOf rows).filter fun entry => after.all (behind · entry)).take size

/-- The pages up to an empty one, or up to the first short one, within so many queries. -/
def keysetPagesFrom : Nat -> Option key -> Option (List (List row))
  | 0, _ => none
  | queries + 1, after =>
    let page := keysetPage keyOf behind rows size after
    match page.getLast? with
    | none => some []
    | some last =>
      if untilShort && page.length < size then some [page]
      else (keysetPagesFrom queries (some (keyOf last))).map (page :: ·)

def keysetPages : Option (List (List row)) :=
  keysetPagesFrom keyOf behind rows size untilShort (rows.length + 1) none

end

variable {keyOf : row -> key} {behind : key -> row -> Bool} {rows : List row}
variable (unique : (rows.map keyOf).Nodup)

include unique

theorem inOrder_increasing : (inOrder keyOf rows).Pairwise (keyOf · < keyOf ·) := by
  have sorted := @pairwise_mergeSort row (keyOf · <= keyOf ·)
    (by simpa using fun _ _ _ => le_trans) (by simpa using fun _ _ => le_total _ _) rows
  have distinct := ((mergeSort_perm rows (keyOf · <= keyOf ·)).map keyOf).nodup_iff.mpr unique
  refine sorted.imp₂ ?_ (pairwise_map.mp distinct)
  exact fun left right le apart => lt_of_le_of_ne (of_decide_eq_true le) apart

variable (agrees : ∀ after entry, behind after entry = decide (after < keyOf entry))

include agrees

theorem filter_behind {front rest : List row} {last : row}
    (split : inOrder keyOf rows = front ++ last :: rest) :
    (inOrder keyOf rows).filter (behind (keyOf last) ·) = rest := by
  simp only [agrees]
  have increasing := inOrder_increasing unique
  rw [split, pairwise_append, pairwise_cons] at increasing
  have below : front.filter (keyOf last < keyOf ·) = [] := by
    refine filter_eq_nil_iff.mpr (fun entry mem => ?_)
    simpa using (increasing.2.2 entry mem last mem_cons_self).le
  have above : rest.filter (keyOf last < keyOf ·) = rest :=
    filter_eq_self.mpr (fun entry mem => decide_eq_true (increasing.2.1.1 entry mem))
  rw [split, filter_append, below, nil_append, filter_cons_of_neg (by simp), above]

/-- The pages behind a key are what comes after that key. -/
theorem flatten_keysetPagesFrom {done rest : List row} {size queries : Nat} {after : Option key}
    (untilShort : Bool) (enough : rest.length < queries) (split : inOrder keyOf rows = done ++ rest)
    (left : (inOrder keyOf rows).filter (fun entry => after.all (behind · entry)) = rest) :
    (keysetPagesFrom keyOf behind rows (size + 1) untilShort queries after).map flatten =
      some rest := by
  induction queries generalizing after done rest with
  | zero => cases enough
  | succ queries ih =>
    rw [keysetPagesFrom, keysetPage, left]
    cases found : (rest.take (size + 1)).getLast? with
    | none =>
      have empty : rest = [] := by simpa using found
      rw [empty]
      rfl
    | some last =>
      rcases getLast?_eq_some_iff.mp found with ⟨front, taken⟩
      have nonempty := congrArg length taken
      simp only [length_take, length_append, length_cons, length_nil] at nonempty
      dsimp only
      split_ifs with short
      · simp only [Bool.and_eq_true, decide_eq_true_eq, length_take] at short
        rw [Option.map_some, flatten_singleton, take_of_length_le (by omega)]
      · have split : inOrder keyOf rows = (done ++ front) ++ last :: rest.drop (size + 1) := by
          rw [split, append_assoc, append_cons, <- taken, take_append_drop]
        have later : (keysetPagesFrom keyOf behind rows (size + 1) untilShort queries
            (some (keyOf last))).map flatten = some (rest.drop (size + 1)) :=
          ih (by rw [length_drop]; omega) (split.trans (append_cons _ _ _))
            (filter_behind unique agrees split)
        rcases Option.map_eq_some_iff.mp later with ⟨pages, read, joined⟩
        rw [read, Option.map_some, Option.map_some, flatten_cons, joined, take_append_drop]

theorem flatten_keysetPages (size : Nat) (untilShort : Bool) :
    ∃ pages, keysetPages keyOf behind rows (size + 1) untilShort = some pages /\
      pages.flatten = inOrder keyOf rows :=
  Option.map_eq_some_iff.mp (flatten_keysetPagesFrom unique agrees untilShort
    (by rw [inOrder, length_mergeSort]; omega) (nil_append _).symm
    (filter_eq_self.mpr (fun _ _ => rfl)))

end Foundation
end OpenKit
