import Mathlib.Data.List.Dedup
import Mathlib.Data.List.Perm.Basic

namespace OpenKit
namespace Foundation

open List

/-!
# Insertion-ordered finite maps

The evaluators of this development index their facts with JavaScript `Map`
objects.  A `Map` keeps one value for each key, remembers the position of the
first insertion, and replaces a value in place when its key is set again.
`OrderedMap` is that structure: a list of entries together with the proof that
no key occurs twice.  The order is retained because several callers iterate
over the values.
-/

universe u v

variable {α : Type u} {β : Type v} [DecidableEq α]

/-- A finite map that remembers insertion order.  The proof field excludes a
second entry for one key, so lookup never has to choose between entries. -/
structure OrderedMap (α : Type u) (β : Type v) where
  entries : List (α × β)
  nodup : (entries.map Prod.fst).Nodup

namespace OrderedMap

variable (map : OrderedMap α β)

/-- The keys in insertion order. -/
def keys : List α :=
  map.entries.map Prod.fst

/-- The values in insertion order of their keys. -/
def values : List β :=
  map.entries.map Prod.snd

/-- The number of distinct keys, `Map.prototype.size`. -/
def size : Nat :=
  map.entries.length

variable (entries : List (α × β))

/-- Lookup of the entry list, `undefined` being `none`. -/
def find (key : α) : Option β :=
  (entries.find? (·.1 == key)).map Prod.snd

/-- `Map.prototype.get`. -/
def get? (key : α) : Option β :=
  find map.entries key

/-- Replace the value of a present key in place, or append a new entry. -/
def assign : List (α × β) -> α -> β -> List (α × β)
  | [], key, value => [(key, value)]
  | entry :: rest, key, value =>
    if entry.1 = key then (key, value) :: rest
    else entry :: assign rest key value

theorem mem_keys_assign (key other : α) (value : β) :
    other ∈ (assign entries key value).map Prod.fst <->
      other = key \/ other ∈ entries.map Prod.fst := by
  induction entries with
  | nil => simp [assign]
  | cons entry rest ih =>
    by_cases same : entry.1 = key
    · simp [assign, same]
    · simp only [assign, if_neg same, map_cons, mem_cons, ih]
      tauto

theorem nodup_assign (key : α) (value : β)
    (nodup : (entries.map Prod.fst).Nodup) : ((assign entries key value).map Prod.fst).Nodup := by
  induction entries with
  | nil => simp [assign]
  | cons entry rest ih =>
    have parts := nodup_cons.mp nodup
    by_cases same : entry.1 = key
    · simpa [assign, same] using nodup
    simp only [assign, if_neg same, map_cons]
    refine nodup_cons.mpr ⟨?_, ih parts.2⟩
    intro repeated
    rcases (mem_keys_assign rest key entry.1 value).mp repeated with equal | later
    · exact same equal
    · exact parts.1 later

/-- `Map.prototype.set`. -/
def set (key : α) (value : β) : OrderedMap α β where
  entries := assign map.entries key value
  nodup := nodup_assign map.entries key value map.nodup

/-- `Map.prototype.delete`. -/
def remove (key : α) : OrderedMap α β where
  entries := map.entries.filter (·.1 ≠ key)
  nodup := map.nodup.sublist (filter_sublist.map Prod.fst)

/-- The map without entries, `new Map()`. -/
def empty : OrderedMap α β where
  entries := []
  nodup := nodup_nil

/-- `new Map(pairs)`: later pairs replace earlier ones at the same key. -/
def ofPairs (pairs : List (α × β)) : OrderedMap α β :=
  pairs.foldl (fun map pair => map.set pair.1 pair.2) empty

@[simp] theorem get?_empty (key : α) : (empty : OrderedMap α β).get? key = none := rfl

variable (map : OrderedMap α β)

@[simp] theorem mem_keys_set (key other : α) (value : β) :
    other ∈ (map.set key value).keys <-> other = key \/ other ∈ map.keys :=
  mem_keys_assign map.entries key other value

private theorem find_assign (key other : α) (value : β) :
    find (assign entries key value) other =
      if other = key then some value else find entries other := by
  induction entries with
  | nil =>
    by_cases same : other = key
    · simp [assign, find, same]
    · simp [assign, find, same, Ne.symm same]
  | cons entry rest ih =>
    by_cases here : entry.1 = key
    · by_cases same : other = key
      · simp [assign, find, here, same]
      · simp [assign, find, here, same, Ne.symm same]
    · simp only [assign, if_neg here]
      by_cases head : entry.1 = other
      · have apart : other ≠ key := fun equal => here (head.trans equal)
        simp [find, head, apart]
      have skipped : ∀ tail : List (α × β),
          find (entry :: tail) other = find tail other := by
        intro tail
        simp [find, head]
      rw [skipped, skipped, ih]

/-- Reading after a write sees the write at its key and the old value elsewhere. -/
theorem get?_set (key other : α) (value : β) : (map.set key value).get? other =
      if other = key then some value else map.get? other :=
  find_assign map.entries key other value

/-- Reading after a removal misses the removed key and sees every other one. -/
theorem get?_remove (key other : α) :
    (map.remove key).get? other = if other = key then none else map.get? other := by
  rcases map with ⟨entries, nodup⟩
  simp only [remove, get?, find, find?_filter]
  by_cases same : other = key
  · subst same
    simp
  rw [if_neg same]
  congr 2
  funext entry
  by_cases here : entry.1 = other
  · simp [here, same]
  · simp [here]

/-- A key is present exactly when its lookup succeeds. -/
theorem mem_keys_iff (key : α) : key ∈ map.keys <-> (map.get? key).isSome := by
  simp only [keys, get?, find, mem_map, Option.isSome_map, find?_isSome, beq_iff_eq]

/-- Without repeated keys, a stored entry is what its key looks up. -/
theorem get?_eq_some_iff (key : α) (value : β) :
    map.get? key = some value <-> (key, value) ∈ map.entries := by
  rcases map with ⟨entries, nodup⟩
  simp only [get?, find]
  constructor
  · intro found
    rcases Option.map_eq_some_iff.mp found with ⟨entry, hit, rfl⟩
    have same : entry.1 = key := by simpa using find?_some hit
    exact same ▸ mem_of_find?_eq_some hit
  · intro mem
    induction entries with
    | nil => exact absurd mem not_mem_nil
    | cons entry rest ih =>
      have parts := nodup_cons.mp nodup
      rcases mem_cons.mp mem with equal | later
      · subst equal
        simp
      have apart : entry.1 ≠ key := by
        intro same
        exact parts.1 (same ▸ mem_map_of_mem later)
      rw [find?_cons_of_neg (by simpa using apart)]
      exact ih parts.2 later

/-! ## Indexing a list of pairs -/

variable {value : β} {entry : α × β} {pairs : List (α × β)}

private theorem size_assign (key : α) (value : β) : (assign entries key value).length =
      if key ∈ entries.map Prod.fst then entries.length else entries.length + 1 := by
  induction entries with
  | nil => simp [assign]
  | cons entry rest ih =>
    by_cases same : entry.1 = key
    · simp [assign, same]
    · simp only [assign, if_neg same, length_cons, ih, map_cons, mem_cons, Ne.symm same, false_or]
      split <;> rfl

/-- The state of an index built from a prefix: it knows exactly the prefix's
keys, and its size counts them once. -/
private theorem ofPairs_fold (pairs : List (α × β)) (map : OrderedMap α β) :
    let final := pairs.foldl (fun map pair => map.set pair.1 pair.2) map
    (∀ key, key ∈ final.keys <-> key ∈ map.keys \/ key ∈ pairs.map Prod.fst) /\
      final.size <= map.size + pairs.length /\
      (final.size = map.size + pairs.length <->
        (pairs.map Prod.fst).Nodup /\ ∀ key ∈ pairs.map Prod.fst, key ∉ map.keys) := by
  induction pairs generalizing map with
  | nil => simp
  | cons pair rest ih =>
    rcases ih (map.set pair.1 pair.2) with ⟨known, bound, exactly⟩
    have grown : (map.set pair.1 pair.2).size =
        if pair.1 ∈ map.keys then map.size else map.size + 1 :=
      size_assign map.entries pair.1 pair.2
    simp only [foldl_cons, map_cons, length_cons]
    refine ⟨?_, ?_, ?_⟩
    · intro key
      rw [known key, mem_keys_set, mem_cons]
      tauto
    · split at grown <;> omega
    · by_cases present : pair.1 ∈ map.keys
      · rw [if_pos present] at grown
        constructor
        · intro full
          omega
        · intro fresh
          exact absurd present (fresh.2 pair.1 mem_cons_self)
      · rw [if_neg present] at grown
        rw [show map.size + (rest.length + 1) = (map.set pair.1 pair.2).size + rest.length by omega,
          exactly, nodup_cons]
        constructor
        · rintro ⟨nodup, fresh⟩
          refine ⟨⟨fun repeated => fresh pair.1 repeated ((mem_keys_set ..).mpr (.inl rfl)),
            nodup⟩, ?_⟩
          intro key mem
          rcases mem_cons.mp mem with equal | later
          · exact equal ▸ present
          · exact fun old => fresh key later ((mem_keys_set ..).mpr (.inr old))
        · rintro ⟨⟨first, nodup⟩, fresh⟩
          refine ⟨nodup, ?_⟩
          intro key later known
          rcases (mem_keys_set ..).mp known with equal | old
          · exact first (equal ▸ later)
          · exact fresh key (mem_cons_of_mem _ later) old

/-- An index has as many entries as the indexed list exactly when the list
repeats no key. -/
theorem size_ofPairs_eq_iff (pairs : List (α × β)) :
    (ofPairs pairs).size = pairs.length <-> (pairs.map Prod.fst).Nodup := by
  have state := (ofPairs_fold pairs empty).2.2
  simpa [ofPairs, empty, size, keys] using state

private theorem mem_assign {entries : List (α × β)} {key : α}
    (mem : entry ∈ assign entries key value) : entry = (key, value) \/ entry ∈ entries := by
  induction entries with
  | nil => exact .inl (mem_singleton.mp mem)
  | cons first rest ih =>
    unfold assign at mem
    split at mem
    · rcases mem_cons.mp mem with new | old
      · exact .inl new
      · exact .inr (mem_cons_of_mem _ old)
    · rcases mem_cons.mp mem with kept | later
      · exact .inr (kept ▸ mem_cons_self)
      · rcases ih later with new | old
        · exact .inl new
        · exact .inr (mem_cons_of_mem _ old)

private theorem mem_entries_fold {map : OrderedMap α β}
    (mem : entry ∈ (pairs.foldl (fun map pair => map.set pair.1 pair.2) map).entries) :
    entry ∈ map.entries \/ entry ∈ pairs := by
  induction pairs generalizing map with
  | nil => exact .inl mem
  | cons pair rest ih =>
    rcases ih mem with before | later
    · rcases mem_assign before with new | old
      · exact .inr (new ▸ mem_cons_self)
      · exact .inl old
    · exact .inr (mem_cons_of_mem _ later)

/-- Every value of an index is a value of the indexed list. -/
theorem mem_of_mem_values_ofPairs (mem : value ∈ (ofPairs pairs).values) :
    ∃ key, (key, value) ∈ pairs := by
  rcases mem_map.mp mem with ⟨entry, inEntries, same⟩
  rcases mem_entries_fold inEntries with never | found
  · cases never
  · exact ⟨entry.1, same ▸ found⟩

/-- When no key repeats, the index finds exactly the listed pairs. -/
theorem get?_ofPairs_iff (pairs : List (α × β)) (nodup : (pairs.map Prod.fst).Nodup) (key : α)
    (value : β) : (ofPairs pairs).get? key = some value <-> (key, value) ∈ pairs := by
  have general : ∀ map : OrderedMap α β, (∀ other ∈ pairs.map Prod.fst, other ∉ map.keys) ->
      ((pairs.foldl (fun map pair => map.set pair.1 pair.2) map).get? key = some value <->
        map.get? key = some value \/ (key, value) ∈ pairs) := by
    induction pairs with
    | nil => simp
    | cons pair rest ih =>
      intro map fresh
      have parts := nodup_cons.mp nodup
      have freshRest : ∀ other ∈ rest.map Prod.fst,
          other ∉ (map.set pair.1 pair.2).keys := by
        intro other mem known
        rcases (mem_keys_set ..).mp known with equal | old
        · exact parts.1 (equal ▸ mem)
        · exact fresh other (mem_cons_of_mem _ mem) old
      rw [foldl_cons, ih parts.2 _ freshRest, get?_set]
      by_cases same : key = pair.1
      · have unknown : map.get? key = none := by
          have absent := fresh pair.1 mem_cons_self
          rw [mem_keys_iff, <- same] at absent
          simpa using absent
        rw [if_pos same, unknown]
        constructor
        · rintro (equal | later)
          · have value_eq := Option.some.inj equal
            exact .inr (mem_cons.mpr (.inl (Prod.ext same value_eq.symm)))
          · exact .inr (mem_cons_of_mem _ later)
        · rintro (never | mem)
          · cases never
          · rcases mem_cons.mp mem with equal | later
            · rw [<- equal]
              exact .inl rfl
            · exact .inr later
      · rw [if_neg same]
        constructor
        · rintro (old | later)
          · exact .inl old
          · exact .inr (mem_cons_of_mem _ later)
        · rintro (old | mem)
          · exact .inl old
          · rcases mem_cons.mp mem with equal | later
            · exact absurd (congrArg Prod.fst equal) same
            · exact .inr later
  have indexed := general empty (by simp [empty, keys])
  rw [get?_empty] at indexed
  simpa [ofPairs] using indexed

/-- An index of values by a key that no two of them share. -/
theorem get?_ofPairs_map_iff {keyOf : β -> α} {values : List β}
    (nodup : (values.map keyOf).Nodup) (key : α) (value : β) :
    (ofPairs (values.map (fun entry => (keyOf entry, entry)))).get? key = some value <->
      value ∈ values /\ keyOf value = key := by
  have keys : ((values.map (fun entry => (keyOf entry, entry))).map Prod.fst).Nodup := by
    rw [map_map]
    exact nodup
  rw [get?_ofPairs_iff _ keys, mem_map]
  constructor
  · intro listed
    rcases listed with ⟨entry, mem, equal⟩
    cases equal
    exact ⟨mem, rfl⟩
  · intro listed
    exact ⟨value, listed.1, by rw [listed.2]⟩

end OrderedMap

/-- What a selection keeps stands in the order of the entries it came from. -/
theorem map_filterMap_sublist {γ δ κ : Type*} {select : γ -> Option δ} {keyOf : δ -> κ}
    {keyFrom : γ -> κ} (same : ∀ entry kept, select entry = some kept -> keyOf kept = keyFrom entry)
    (entries : List γ) : ((entries.filterMap select).map keyOf).Sublist (entries.map keyFrom) := by
  induction entries with
  | nil => exact List.Sublist.refl _
  | cons entry rest ih =>
    cases made : select entry with
    | none => simpa [made] using ih.cons (keyFrom entry)
    | some kept => simpa [made, same entry kept made] using ih.cons_cons (keyFrom entry)

/-! ## Insertion-ordered sets -/

/-- `Set.prototype.add` on the list of members in insertion order. -/
def addMember (members : List α) (value : α) : List α :=
  if value ∈ members then members else members ++ [value]

end Foundation
end OpenKit
