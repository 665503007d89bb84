import Mathlib.Tactic.Common

namespace OpenKit
namespace Foundation

open List

/-!
# Fallible computations

Code that can throw returns an `Except` value.  The lemmas here take a
successful computation apart into its successful steps, and describe a loop
that keeps some of its entries and stops at the first thrown error.
-/

universe u v w

variable {ε : Type u} {α : Type v} {β : Type w}

/-- `if (refused) throw error`. -/
def refuse (refused : Bool) (error : ε) : Except ε Unit :=
  if refused then .error error else .ok ()

@[simp] theorem refuse_eq_ok_iff (refused : Bool) (error : ε) (result : Unit) :
    refuse refused error = .ok result <-> refused = false := by
  cases refused <;> simp [refuse]

theorem bind_eq_ok_iff {γ δ : Type v} {computation : Except ε γ} {next : γ -> Except ε δ}
    {result : δ} : (computation >>= next) = .ok result <->
      ∃ value, computation = .ok value /\ next value = .ok result := by
  cases computation with
  | error | ok => simp [bind, Except.bind]

/-- What has returned has returned from its first part, and then from the rest. -/
theorem bind_inv {γ δ : Type v} {computation : Except ε γ} {next : γ -> Except ε δ} {result : δ}
    (returned : (computation >>= next) = .ok result) :
    ∃ value, computation = .ok value /\ next value = .ok result :=
  bind_eq_ok_iff.mp returned

theorem toOption_eq_some_iff {result : Except ε α} {value : α} :
    result.toOption = some value <-> result = .ok value := by
  cases result <;> simp [Except.toOption]

theorem exists_of_map_ok {γ : Type v} {δ : Type w} {computation : Except ε γ} {view : γ -> δ}
    {result : δ} (ok : computation.map view = .ok result) :
    ∃ value, computation = .ok value /\ view value = result := by
  cases computation with
  | error => cases ok
  | ok value => exact ⟨value, rfl, Except.ok.inj ok⟩

/-- A loop that keeps what `select` returns and stops at the first error. -/
def collect (select : α -> Except ε (Option β)) : List α -> Except ε (List β)
  | [] => .ok []
  | entry :: rest =>
    match select entry with
    | .error thrown => .error thrown
    | .ok kept =>
      match collect select rest with
      | .error thrown => .error thrown
      | .ok others => .ok (kept.toList ++ others)

variable {select : α -> Except ε (Option β)} {entries : List α}

/-- A finished loop kept exactly the values that its entries were mapped to. -/
theorem mem_of_collect_eq_ok {results : List β} (finished : collect select entries = .ok results)
    (value : β) : value ∈ results <-> ∃ entry ∈ entries, select entry = .ok (some value) := by
  induction entries generalizing results with
  | nil =>
    cases finished
    simp
  | cons entry rest ih =>
    unfold collect at finished
    cases selected : select entry with
    | error =>
      rw [selected] at finished
      cases finished
    | ok =>
      rw [selected] at finished
      cases others : collect select rest with
      | error =>
        rw [others] at finished
        cases finished
      | ok =>
        rw [others] at finished
        cases finished
        simp only [mem_append, Option.mem_toList, ih others, mem_cons,
          exists_eq_or_imp, selected, Except.ok.injEq]

/-- The loop finishes when none of its entries throws. -/
theorem collect_eq_ok_of_forall (safe : ∀ entry ∈ entries, ∃ kept, select entry = .ok kept) :
    ∃ results, collect select entries = .ok results := by
  induction entries with
  | nil => exact ⟨[], rfl⟩
  | cons entry rest ih =>
    rcases safe entry mem_cons_self with ⟨kept, selected⟩
    rcases ih (fun other mem => safe other (mem_cons_of_mem _ mem)) with ⟨tail, others⟩
    refine ⟨kept.toList ++ tail, ?_⟩
    unfold collect
    rw [selected, others]

/-- A loop of checks finishes exactly when every check passes. -/
theorem forM_eq_ok_iff {check : α -> Except ε PUnit} :
    entries.forM check = .ok ⟨⟩ <-> ∀ entry ∈ entries, check entry = .ok ⟨⟩ := by
  induction entries with
  | nil => simp [pure, Except.pure]
  | cons entry rest ih =>
    have unfolded : (entry :: rest).forM check = (check entry >>= fun _ => rest.forM check) := rfl
    rw [unfolded, bind_eq_ok_iff, forall_mem_cons, <- ih]
    constructor
    · intro passed
      rcases passed with ⟨_, first, others⟩
      exact ⟨first, others⟩
    · intro passed
      exact ⟨⟨⟩, passed.1, passed.2⟩

theorem forall₂_of_mapM_eq_ok {γ : Type v} {read : α -> Except ε γ} {results : List γ}
    (finished : entries.mapM read = .ok results) :
    List.Forall₂ (fun entry result => read entry = .ok result) entries results := by
  induction entries generalizing results with
  | nil =>
    cases finished
    exact .nil
  | cons entry rest ih =>
    rw [mapM_cons] at finished
    rcases bind_inv finished with ⟨first, read, finished⟩
    rcases bind_inv finished with ⟨others, tail, finished⟩
    cases finished
    exact .cons read (ih tail)

/-- What every step of a finished loop keeps holds after the loop. -/
theorem foldlM_invariant {σ : Type v} {step : σ -> α -> Except ε σ} (property : σ -> Prop)
    {state final : σ} (finished : entries.foldlM step state = .ok final)
    (preserved : ∀ entry ∈ entries, ∀ before after, step before entry = .ok after ->
      property before -> property after) (initial : property state) : property final := by
  induction entries generalizing state with
  | nil =>
    cases finished
    exact initial
  | cons entry rest ih =>
    rw [foldlM_cons] at finished
    rcases bind_inv finished with ⟨middle, stepped, finished⟩
    refine ih finished ?_ (preserved entry mem_cons_self state middle stepped initial)
    exact fun other mem => preserved other (mem_cons_of_mem _ mem)

/-- A loop of reads that all succeed returns what they read. -/
theorem mapM_eq_ok_map {γ : Type v} {read : α -> Except ε γ} {result : α -> γ}
    (succeeds : ∀ entry ∈ entries, read entry = .ok (result entry)) :
    entries.mapM read = .ok (entries.map result) := by
  induction entries with
  | nil => rfl
  | cons entry rest ih =>
    rw [mapM_cons, succeeds entry mem_cons_self,
      ih (fun other mem => succeeds other (mem_cons_of_mem _ mem))]
    rfl

/-- A finished test of all entries that holds passed at every entry. -/
theorem of_allM_eq_ok_true {γ : Type} {test : γ -> Except ε Bool} {entries : List γ}
    (passed : entries.allM test = .ok true) : ∀ entry ∈ entries, test entry = .ok true := by
  induction entries with
  | nil => simp
  | cons entry rest ih =>
    rcases bind_inv passed with ⟨first, tested, others⟩
    cases first with
    | false => cases others
    | true => exact forall_mem_cons.mpr ⟨tested, ih others⟩

/-- A finished search that holds found an entry. -/
theorem of_anyM_eq_ok_true {γ : Type} {test : γ -> Except ε Bool} {entries : List γ}
    (passed : entries.anyM test = .ok true) : ∃ entry ∈ entries, test entry = .ok true := by
  induction entries with
  | nil => cases passed
  | cons entry rest ih =>
    rcases bind_inv passed with ⟨first, tested, others⟩
    cases first with
    | true => exact ⟨entry, mem_cons_self, tested⟩
    | false =>
      rcases ih others with ⟨found, mem, holds⟩
      exact ⟨found, mem_cons_of_mem _ mem, holds⟩

/-! ## Following references -/

section Chase

variable {node : Type v} {key : Type w} [DecidableEq key]

/-- Marking one more entry as seen leaves fewer entries unseen. -/
theorem length_filter_notMem_cons_lt {entries seen : List key} {entry : key}
    (mem : entry ∈ entries) (unseen : entry ∉ seen) :
    (entries.filter (· ∉ entry :: seen)).length < (entries.filter (· ∉ seen)).length := by
  have smaller : entries.filter (· ∉ entry :: seen) =
      (entries.filter (· ∉ seen)).filter (· ≠ entry) := by
    rw [filter_filter]
    apply filter_congr
    intro other _
    simp [not_or]
  rw [smaller]
  apply length_filter_lt_length_iff_exists.mpr
  exact ⟨entry, mem_filter.mpr ⟨mem, by simpa using unseen⟩, by simp⟩

/-- Follow references from node to node until `step` names no further key.
A node met again and a key that names no node are errors, so the walk visits
every node at most once. -/
def chase (nodes : List node) (keyOf : node -> key) (cyclic missing : ε)
    (step : node -> Except ε (Option key)) (current : { entry : node // entry ∈ nodes })
    (seen : List key) : Except ε (List node) :=
  if _repeated : keyOf current.1 ∈ seen then .error cyclic
  else
    match step current.1 with
    | .error thrown => .error thrown
    | .ok none => .ok [current.1]
    | .ok (some target) =>
      match located : nodes.find? (keyOf · = target) with
      | none => .error missing
      | some next =>
        match chase nodes keyOf cyclic missing step
            ⟨next, mem_of_find?_eq_some located⟩ (keyOf current.1 :: seen) with
        | .error thrown => .error thrown
        | .ok rest => .ok (current.1 :: rest)
termination_by ((nodes.map keyOf).filter (· ∉ seen)).length
decreasing_by
  exact length_filter_notMem_cons_lt (mem_map_of_mem current.2) _repeated

/-- A finished walk starts at its node and passed the step of every node. -/
theorem step_of_chase_eq_ok {nodes : List node} {keyOf : node -> key} {cyclic missing : ε}
    {step : node -> Except ε (Option key)} {current : { entry : node // entry ∈ nodes }}
    {seen : List key} {path : List node}
    (finished : chase nodes keyOf cyclic missing step current seen = .ok path) :
    current.1 ∈ path /\ ∀ visited ∈ path, ∃ target, step visited = .ok target := by
  revert finished
  fun_induction chase nodes keyOf cyclic missing step current seen generalizing path with
  | case1 | case2 | case4 | case5 =>
    intro finished
    cases finished
  | case3 current seen fresh last =>
    intro finished
    cases finished
    simp [last]
  | case6 current seen fresh target stepped next hit rest walked ih =>
    intro finished
    cases finished
    refine ⟨mem_cons_self, ?_⟩
    intro visited mem
    rcases mem_cons.mp mem with here | later
    · exact ⟨some target, here ▸ stepped⟩
    · exact (ih walked).2 visited later

end Chase

end Foundation
end OpenKit
