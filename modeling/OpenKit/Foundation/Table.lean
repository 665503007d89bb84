import Mathlib.Algebra.GroupWithZero.Nat
import Mathlib.Logic.Relation
import Mathlib.Data.List.Nodup

namespace OpenKit
namespace Foundation

open List

/-!
# Tables with a primary key

A table is a list of rows in which no key occurs twice.  Rows are only inserted
under a fresh key or updated in place by statements that keep the key, so every
key has one row at a time and that row has a history of its own.  `RowEvolves`
describes what one transaction may do at one key, and the rules at the end turn
it into facts about every row of every run.
-/

universe u v w

variable {row : Type u} {key : Type v} [DecidableEq key] {keyOf : row -> key}

/-- Rows without a repeated key. -/
structure Table (row : Type u) (key : Type v) (keyOf : row -> key) where
  rows : List row
  unique : (rows.map keyOf).Nodup

theorem forall_mem_concat {rows : List row} {entry : row} {holds : row -> Prop}
    (old : ∀ other ∈ rows, holds other) (new : holds entry) :
    ∀ other ∈ rows ++ [entry], holds other :=
  forall_mem_append.mpr ⟨old, forall_mem_singleton.mpr new⟩

namespace Table

def empty : Table row key keyOf where
  rows := []
  unique := nodup_nil

variable (table : Table row key keyOf)

def find? (name : key) : Option row :=
  table.rows.find? (keyOf · = name)

/-- Update every row that the guard selects.  The statement keeps the key. -/
def updateWhere (guard : row -> Bool) (write : row -> row)
    (keeps : ∀ entry, keyOf (write entry) = keyOf entry) : Table row key keyOf where
  rows := table.rows.map (fun entry => if guard entry then write entry else entry)
  unique := by
    rw [map_map]
    have same : keyOf ∘ (fun entry => if guard entry then write entry else entry) = keyOf := by
      funext entry
      simp only [Function.comp_apply]
      split
      · exact keeps entry
      · rfl
    rw [same]
    exact table.unique

/-- Insert a row; a present key leaves the table alone. -/
def insert (entry : row) : Table row key keyOf :=
  if fresh : keyOf entry ∈ table.rows.map keyOf then table
  else
    { rows := table.rows ++ [entry]
      unique := by
        rw [map_append]
        apply List.Nodup.append table.unique (nodup_singleton _)
        intro name old new
        rw [mem_singleton] at new
        exact fresh (new ▸ old) }

/-- Write a row over the one with its key. -/
def replace (entry : row) : Table row key keyOf where
  rows := table.rows.map (fun other => if keyOf other = keyOf entry then entry else other)
  unique := by
    rw [map_map]
    have same : keyOf ∘ (fun other => if keyOf other = keyOf entry then entry else other) = keyOf := by
      funext other
      simp only [Function.comp_apply]
      split
      next here =>
        exact here.symm
      · rfl
    rw [same]
    exact table.unique

def delete (name : key) : Table row key keyOf where
  rows := table.rows.filter (keyOf · ≠ name)
  unique := List.Nodup.sublist (List.Sublist.map _ filter_sublist) table.unique

variable {table : Table row key keyOf} {name : key} {entry : row} {rows : List row}

theorem keyOf_of_find? (found : table.find? name = some entry) : keyOf entry = name := by
  simpa using find?_some found

theorem mem_of_find? (found : table.find? name = some entry) : entry ∈ table.rows :=
  mem_of_find?_eq_some found

/-- A key that finds nothing belongs to no row. -/
theorem find?_eq_none_iff : table.find? name = none <-> ∀ entry ∈ table.rows, keyOf entry ≠ name := by
  simp [find?]

theorem find?_of_mem (mem : entry ∈ table.rows) : table.find? (keyOf entry) = some entry := by
  cases found : table.find? (keyOf entry) with
  | none => exact absurd rfl (find?_eq_none_iff.mp found entry mem)
  | some other =>
    have same : other = entry :=
      inj_on_of_nodup_map table.unique (mem_of_find? found) mem (keyOf_of_find? found)
    rw [same]

theorem find?_keyOf (found : table.find? name = some entry) :
    table.find? (keyOf entry) = some entry :=
  find?_of_mem (mem_of_find? found)

/-- An update acts on each row by itself. -/
theorem find?_updateWhere (table : Table row key keyOf) (guard : row -> Bool) (write : row -> row)
    (keeps : ∀ entry, keyOf (write entry) = keyOf entry) (name : key) :
    (table.updateWhere guard write keeps).find? name =
      (table.find? name).map (fun entry => if guard entry then write entry else entry) := by
  unfold find? updateWhere
  rw [find?_map]
  congr 1
  apply congrArg (List.find? · table.rows)
  funext entry
  simp only [Function.comp_apply]
  split
  · rw [keeps]
  · rfl

theorem find?_updateWhere_key (found : table.find? name = some entry) (write : row -> row)
    (keeps : ∀ other, keyOf (write other) = keyOf other) :
    (table.updateWhere (keyOf · = name) write keeps).find? name = some (write entry) := by
  rw [find?_updateWhere, found, Option.map_some, if_pos]
  simpa using keyOf_of_find? found

/-- An update of one key leaves the others alone. -/
theorem find?_updateWhere_key_eq (found : table.find? name = some entry) (write : row -> row)
    (keeps : ∀ other, keyOf (write other) = keyOf other) (other : key) :
    (table.updateWhere (keyOf · = name) write keeps).find? other =
      if other = name then some (write entry) else table.find? other := by
  by_cases here : other = name
  · rw [if_pos here, here]
    exact find?_updateWhere_key found write keeps
  rw [if_neg here, find?_updateWhere]
  cases hit : table.find? other with
  | none => rfl
  | some =>
    rw [Option.map_some, if_neg]
    intro same
    rw [decide_eq_true_eq] at same
    exact here ((keyOf_of_find? hit).symm.trans same)

/-- A written row is found at its key. -/
theorem find?_replace (table : Table row key keyOf) (entry : row) (name : key) :
    (table.replace entry).find? name =
      if name = keyOf entry then (table.find? name).map (fun _ => entry) else table.find? name := by
  unfold find? replace
  rw [find?_map]
  have same : (fun other => decide (keyOf other = name)) ∘
      (fun other => if keyOf other = keyOf entry then entry else other) =
        fun other => decide (keyOf other = name) := by
    funext other
    simp only [Function.comp_apply]
    split
    next here =>
      rw [here]
    · rfl
  rw [same]
  cases found : table.rows.find? (fun other => decide (keyOf other = name)) with
  | none => simp
  | some other =>
    have named : keyOf other = name := by simpa using find?_some found
    rw [Option.map_some, Option.map_some, named]
    split <;> rfl

/-- Writing a row does not change a count that looks at both alike. -/
theorem countP_replace {test : row -> Bool}
    (alike : ∀ old, table.find? (keyOf entry) = some old -> test entry = test old) :
    (table.replace entry).rows.countP test = table.rows.countP test := by
  unfold replace
  rw [countP_map]
  refine countP_congr ?_
  intro other mem
  simp only [Function.comp_apply]
  split
  next here =>
    rw [alike other (here ▸ find?_of_mem mem)]
  · rfl

/-- A row with a free key goes to the end. -/
theorem rows_insert (free : table.find? (keyOf entry) = none) :
    (table.insert entry).rows = table.rows ++ [entry] := by
  unfold insert
  split
  next taken =>
    rcases mem_map.mp taken with ⟨other, mem, same⟩
    exact absurd same (find?_eq_none_iff.mp free other mem)
  · rfl

/-- An insertion is seen at its own key, if that was free. -/
theorem find?_insert (table : Table row key keyOf) (entry : row) (name : key) :
    (table.insert entry).find? name =
      (table.find? name).or (if keyOf entry = name then some entry else none) := by
  unfold insert
  split
  next taken =>
    by_cases same : keyOf entry = name
    · rcases mem_map.mp taken with ⟨other, mem, sameKey⟩
      have found := find?_of_mem mem
      rw [sameKey, same] at found
      rw [found]
      rfl
    · rw [if_neg same, Option.or_none]
  · unfold find?
    rw [find?_append]
    congr 1
    by_cases same : keyOf entry = name
    · simp [same]
    · simp [same]

/-- An insertion under a free key leaves the other keys alone. -/
theorem find?_insert_of_free (free : table.find? (keyOf entry) = none) (name : key) :
    (table.insert entry).find? name =
      if name = keyOf entry then some entry else table.find? name := by
  rw [find?_insert]
  by_cases here : name = keyOf entry
  · rw [if_pos here, here, free, if_pos rfl, Option.none_or]
  · rw [if_neg here, if_neg (Ne.symm here), Option.or_none]

/-- A view of the rows after a write at one key: the view of the written row
takes the place of the old one. -/
theorem map_updateWhere_key {view : Type w} (found : table.find? name = some entry)
    (write : row -> row) (keeps : ∀ other, keyOf (write other) = keyOf other) (see : row -> view)
    (viewKey : view -> key) (agrees : ∀ other, viewKey (see other) = keyOf other) :
    (table.updateWhere (keyOf · = name) write keeps).rows.map see =
      (table.rows.map see).map (fun seen => if viewKey seen = name then see (write entry) else seen) := by
  unfold updateWhere
  rw [map_map, map_map]
  apply map_congr_left
  intro other mem
  simp only [Function.comp_apply, agrees, decide_eq_true_eq]
  by_cases here : keyOf other = name
  · have same : other = entry := by
      have foundOther := find?_of_mem mem
      rw [here, found] at foundOther
      exact (Option.some.inj foundOther).symm
    rw [if_pos here, if_pos here, same]
  · rw [if_neg here, if_neg here]

omit [DecidableEq key] in
theorem map_updateWhere_of_keeps {view : Type w} (table : Table row key keyOf) (guard : row -> Bool)
    (write : row -> row) (keeps : ∀ other, keyOf (write other) = keyOf other) {see : row -> view}
    (same : ∀ other, see (write other) = see other) :
    (table.updateWhere guard write keeps).rows.map see = table.rows.map see := by
  unfold updateWhere
  rw [map_map]
  apply map_congr_left
  intro other _
  simp only [Function.comp_apply]
  split
  · exact same other
  · rfl

theorem mem_map_key {wrote : row} (mem : entry ∈
      rows.map (fun other => if keyOf other = keyOf wrote then wrote else other)) :
    entry = wrote \/ (entry ∈ rows /\ keyOf entry ≠ keyOf wrote) := by
  rcases mem_map.mp mem with ⟨old, stored, same⟩
  split at same
  · exact .inl same.symm
  next differs =>
    rw [<- same]
    exact .inr ⟨stored, differs⟩

section OneKey

variable (unique : (rows.map keyOf).Nodup) (mem : entry ∈ rows)

include unique mem

omit [DecidableEq key] in
/-- A row apart from the rows with other keys. -/
theorem perm_key : ∃ others, rows.Perm (entry :: others) /\
    ∀ other ∈ others, keyOf other ≠ keyOf entry := by
  rcases append_of_mem mem with ⟨front, back, rfl⟩
  refine ⟨front ++ back, perm_middle, ?_⟩
  have distinct := (perm_middle.map keyOf).nodup_iff.mp unique
  rw [map_cons, nodup_cons] at distinct
  intro other inside same
  exact distinct.1 (mem_map.mpr ⟨other, inside, same⟩)

theorem perm_map_key (write : row -> row) : ∃ others, rows.Perm (entry :: others) /\
    (rows.map (fun other => if keyOf other = keyOf entry then write other else other)).Perm
      (write entry :: others) := by
  rcases perm_key unique mem with ⟨others, whole, differs⟩
  refine ⟨others, whole, (whole.map _).trans (.of_eq ?_)⟩
  rw [map_cons, if_pos rfl, map_congr_left (fun other inside => if_neg (differs other inside)),
    map_id']

/-- Writing the one row of a key changes a sum over the rows by that row alone. -/
theorem sum_map_key (write : row -> row) (weight : row -> Nat) :
    ((rows.map (fun other => if keyOf other = keyOf entry then write other else other)).map
        weight).sum + weight entry = (rows.map weight).sum + weight (write entry) := by
  rcases perm_map_key unique mem write with ⟨others, whole, wrote⟩
  rw [(wrote.map weight).sum_nat, (whole.map weight).sum_nat, map_cons, map_cons, sum_cons,
    sum_cons]
  omega

theorem countP_map_key (write : row -> row) (test : row -> Bool) :
    (rows.map (fun other => if keyOf other = keyOf entry then write other else other)).countP test +
        (if test entry then 1 else 0) =
      rows.countP test + (if test (write entry) then 1 else 0) := by
  rcases perm_map_key unique mem write with ⟨others, whole, wrote⟩
  rw [wrote.countP_eq, whole.countP_eq, countP_cons, countP_cons]
  omega

/-- Deleting the one row of a key takes that row out of a count. -/
theorem countP_filter_key (test : row -> Bool) : (rows.filter (keyOf · ≠ keyOf entry)).countP test +
        (if test entry then 1 else 0) = rows.countP test := by
  rcases perm_key unique mem with ⟨others, whole, differs⟩
  have kept : others.filter (keyOf · ≠ keyOf entry) = others :=
    filter_eq_self.mpr (fun other inside => decide_eq_true (differs other inside))
  rw [(whole.filter _).countP_eq, whole.countP_eq, filter_cons_of_neg (by simp), kept, countP_cons]

end OneKey

end Table

/-! ## The history of one row -/

/-- What a transaction may do at one key: a row takes a step, and a new row is
a fresh one. -/
def RowEvolves (step : row -> row -> Prop) (fresh : row -> Prop) : Option row -> Option row -> Prop
  | some before, after => ∃ later, after = some later /\ step before later
  | none, after => ∀ later, after = some later -> fresh later

namespace RowEvolves

variable {step : row -> row -> Prop} {fresh : row -> Prop}

theorem refl (reflexive : ∀ entry, step entry entry) (entry : Option row)
    : RowEvolves step fresh entry entry := by
  cases entry with
  | none =>
    intro later never
    cases never
  | some before => exact ⟨before, rfl, reflexive before⟩

/-- A row that only a transaction's own step can change. -/
theorem of_map {entry : Option row} {change : row -> row}
    (steps : ∀ before, entry = some before -> step before (change before)) :
    RowEvolves step fresh entry (entry.map change) := by
  cases entry with
  | none =>
    intro later never
    cases never
  | some before => exact ⟨change before, rfl, steps before rfl⟩

/-- Steps compose where they are transitive and fresh rows may take them. -/
theorem trans (transitive : ∀ {first second third}, step first second -> step second third ->
      step first third)
    (freshStep : ∀ {first second}, fresh first -> step first second -> fresh second)
    {first second third : Option row} (earlier : RowEvolves step fresh first second)
    (later : RowEvolves step fresh second third) : RowEvolves step fresh first third := by
  cases first with
  | none =>
    intro final found
    cases second with
    | none => exact later final found
    | some middle =>
      rcases later with ⟨other, same, stepped⟩
      rw [same] at found
      cases found
      exact freshStep (earlier middle rfl) stepped
  | some =>
    rcases earlier with ⟨middle, same, firstStep⟩
    rw [same] at later
    rcases later with ⟨final, found, secondStep⟩
    exact ⟨final, found, transitive firstStep secondStep⟩

/-- What fresh rows have and steps keep, every row keeps. -/
theorem invariant {property : row -> Prop} {before after : Option row}
    (evolved : RowEvolves step fresh before after)
    (initial : ∀ entry, fresh entry -> property entry)
    (preserved : ∀ entry later, step entry later -> property entry -> property later)
    (holds : ∀ entry, before = some entry -> property entry) :
    ∀ entry, after = some entry -> property entry := by
  intro entry found
  cases before with
  | none => exact initial entry (evolved entry found)
  | some old =>
    rcases evolved with ⟨later, same, stepped⟩
    rw [same] at found
    exact preserved old entry (Option.some.inj found ▸ stepped) (holds old rfl)

end RowEvolves

end Foundation
end OpenKit
