import Mathlib.Algebra.Order.BigOperators.Group.List
import Mathlib.Tactic.Linarith
import OpenKit.Foundation.OrderedMap

namespace OpenKit
namespace Foundation

open List

/-!
# Work-list closure and depth-first cycle search

Two traversals of a finite adjacency index and their exact specifications.
The work-list traversal collects the nodes that a start node reaches through
admitted nodes.  The depth-first search answers whether some root reaches a
cycle.  Both are total: every step either shortens the pending list or
spends the out-edges of a node that was not entered before.

The specifications speak of `Relation.ReflTransGen` and `Relation.TransGen`
of the edge relation.  They do not mention the order in which either
traversal happens to meet the nodes, so a caller can replace an index by any
other one with the same edges.
-/

universe u

variable {V : Type u} [DecidableEq V]

/-- A finite graph given by the out-neighbours of its indexed nodes. -/
abbrev Adjacency (V : Type u) := OrderedMap V (List V)

variable (graph : Adjacency V)

namespace Adjacency

variable (graph : Adjacency V)

/-- The out-neighbours of a node; an unindexed node has none. -/
def next (node : V) : List V :=
  (graph.get? node).getD []

/-- One directed edge of the index. -/
def Edge (source target : V) : Prop :=
  target ∈ graph.next source

/-- The number of edges that leave indexed nodes outside `entered`.  It
bounds the work that a traversal can still add to its pending list. -/
def unentered (entered : List V) : Nat :=
  ((graph.entries.filter (·.1 ∉ entered)).map (·.2.length)).sum

private theorem unentered_entries_mono (entries : List (V × List V)) (smaller larger : List V)
    (included : smaller ⊆ larger) : ((entries.filter (·.1 ∉ larger)).map (·.2.length)).sum <=
      ((entries.filter (·.1 ∉ smaller)).map (·.2.length)).sum := by
  refine List.Sublist.sum_le_sum ((monotone_filter_right _ ?_).map _) (fun _ _ => Nat.zero_le _)
  intro entry
  simpa using mt (@included entry.1)

private theorem unentered_entries_enter (entries : List (V × List V)) (node : V)
    (before after : List V) (fresh : node ∉ before) (entered : node ∈ after)
    (included : before ⊆ after) : ((entries.filter (·.1 ∉ after)).map (·.2.length)).sum +
        ((OrderedMap.find entries node).getD []).length <=
      ((entries.filter (·.1 ∉ before)).map (·.2.length)).sum := by
  induction entries with
  | nil => simp [OrderedMap.find]
  | cons entry rest ih =>
    by_cases same : entry.1 = node
    · have remaining := unentered_entries_mono rest before after included
      have found : OrderedMap.find (entry :: rest) node = some entry.2 := by
        simp [OrderedMap.find, same]
      rw [found]
      simp only [filter_cons, same, fresh, entered, not_false_eq_true, not_true_eq_false,
        decide_true, decide_false, if_true, Bool.false_eq_true, if_false, map_cons,
        sum_cons, Option.getD_some]
      omega
    · have skipped : OrderedMap.find (entry :: rest) node = OrderedMap.find rest node := by
        simp [OrderedMap.find, same]
      rw [skipped]
      by_cases inside : entry.1 ∈ before
      · simpa [filter_cons, inside, included inside] using ih
      by_cases outside : entry.1 ∈ after
      · simp only [filter_cons, inside, outside, not_false_eq_true, not_true_eq_false,
          decide_true, decide_false, if_true, Bool.false_eq_true, if_false, map_cons,
          sum_cons]
        omega
      · simpa [filter_cons, inside, outside, Nat.add_assoc] using ih

/-- Entering a fresh node spends at least its own out-edges. -/
theorem unentered_enter (node : V) (before after : List V) (fresh : node ∉ before)
    (entered : node ∈ after) (included : before ⊆ after) :
    graph.unentered after + (graph.next node).length <= graph.unentered before :=
  unentered_entries_enter graph.entries node before after fresh entered included

/-! ## The work-list closure -/

/-- Pop a pending node, skip it when it is not admitted or already known,
and otherwise record it and push its out-neighbours.  The head of `pending`
is the top of the stack, so the last pushed neighbour is popped first. -/
def closureLoop (graph : Adjacency V) (admits : V -> Bool) (pending closure : List V) : List V :=
  match pending with
  | [] => closure
  | current :: rest =>
    if _skipped : admits current = false \/ current ∈ closure then
      closureLoop graph admits rest closure
    else
      closureLoop graph admits ((graph.next current).reverse ++ rest) (closure ++ [current])
termination_by graph.unentered closure + pending.length
decreasing_by
  · simp
  · have spent := graph.unentered_enter current closure (closure ++ [current])
      (fun known => _skipped (.inr known)) (by simp) (by simp)
    simp only [length_append, length_reverse, length_cons]
    omega

def AdmittedEdge (admits : V -> Bool) (source target : V) : Prop :=
  graph.Edge source target /\ admits target

/-- A path whose every node, the first one included, is admitted. -/
def AdmittedReach (admits : V -> Bool) (source target : V) : Prop :=
  admits source /\ Relation.ReflTransGen (graph.AdmittedEdge admits) source target

/-- Nothing enters the closure unless a pending node reaches it. -/
theorem closureLoop_sound (admits : V -> Bool) (pending closure : List V) {node : V}
    (mem : node ∈ graph.closureLoop admits pending closure) :
    node ∈ closure \/ ∃ start ∈ pending, graph.AdmittedReach admits start node := by
  fun_induction closureLoop graph admits pending closure with
  | case1 => exact .inl mem
  | case2 closure current rest skipped ih =>
    rcases ih mem with known | ⟨start, later, reach⟩
    · exact .inl known
    · exact .inr ⟨start, mem_cons_of_mem _ later, reach⟩
  | case3 closure current rest fresh ih =>
    have admitted : admits current := by
      simpa using fun refused => fresh (.inl refused)
    rcases ih mem with known | ⟨start, waiting, reach⟩
    · rcases mem_append.mp known with old | added
      · exact .inl old
      · rw [mem_singleton.mp added]
        exact .inr ⟨current, mem_cons_self, admitted, .refl⟩
    · rcases mem_append.mp waiting with pushed | later
      · have edge : graph.AdmittedEdge admits current start :=
          ⟨mem_reverse.mp pushed, reach.1⟩
        exact .inr ⟨current, mem_cons_self, admitted, reach.2.head edge⟩
      · exact .inr ⟨start, mem_cons_of_mem _ later, reach⟩

/-- Every admitted pending node is recorded, and the result is closed under
admitted edges.  The premise is the loop invariant: a recorded node's
admitted neighbours are recorded or still pending. -/
theorem closureLoop_closed (admits : V -> Bool) (pending closure : List V)
    (invariant : ∀ source ∈ closure, ∀ target, graph.AdmittedEdge admits source target ->
      target ∈ closure \/ target ∈ pending) :
    (∀ node ∈ closure, node ∈ graph.closureLoop admits pending closure) /\
      (∀ node ∈ pending, admits node -> node ∈ graph.closureLoop admits pending closure) /\
      (∀ source ∈ graph.closureLoop admits pending closure, ∀ target,
        graph.AdmittedEdge admits source target ->
          target ∈ graph.closureLoop admits pending closure) := by
  fun_induction closureLoop graph admits pending closure with
  | case1 =>
    refine ⟨fun _ mem => mem, by simp, ?_⟩
    intro source mem target edge
    simpa using invariant source mem target edge
  | case2 closure current rest skipped ih =>
    have kept : ∀ source ∈ closure, ∀ target, graph.AdmittedEdge admits source target ->
        target ∈ closure \/ target ∈ rest := by
      intro source mem target edge
      rcases invariant source mem target edge with known | waiting
      · exact .inl known
      rcases mem_cons.mp waiting with same | later
      · rcases skipped with refused | known
        · exact absurd edge.2 (by rw [same, refused]; simp)
        · exact .inl (same ▸ known)
      · exact .inr later
    rcases ih kept with ⟨old, recorded, closed⟩
    refine ⟨old, ?_, closed⟩
    intro node waiting admitted
    rcases mem_cons.mp waiting with same | later
    · rcases skipped with refused | known
      · exact absurd admitted (by rw [same, refused]; simp)
      · exact old node (same ▸ known)
    · exact recorded node later admitted
  | case3 closure current rest fresh ih =>
    have kept : ∀ source ∈ closure ++ [current], ∀ target,
        graph.AdmittedEdge admits source target ->
          target ∈ closure ++ [current] \/ target ∈ (graph.next current).reverse ++ rest := by
      intro source mem target edge
      rcases mem_append.mp mem with old | added
      · rcases invariant source old target edge with known | waiting
        · exact .inl (mem_append_left _ known)
        · rcases mem_cons.mp waiting with same | later
          · exact .inl (by simp [same])
          · exact .inr (mem_append_right _ later)
      · have out : target ∈ graph.next current := mem_singleton.mp added ▸ edge.1
        exact .inr (mem_append_left _ (mem_reverse.mpr out))
    rcases ih kept with ⟨old, recorded, closed⟩
    refine ⟨fun node mem => old node (mem_append_left _ mem), ?_, closed⟩
    intro node waiting admitted
    rcases mem_cons.mp waiting with same | later
    · exact old node (by simp [same])
    · exact recorded node (mem_append_right _ later) admitted

/-- The traversal from one start node returns exactly the nodes that it
reaches through admitted nodes, on every index, cyclic ones included. -/
theorem mem_closureLoop_iff (admits : V -> Bool) (start node : V) :
    node ∈ graph.closureLoop admits [start] [] <-> graph.AdmittedReach admits start node := by
  constructor
  · intro mem
    rcases graph.closureLoop_sound admits [start] [] mem with never | ⟨source, only, reach⟩
    · exact absurd never not_mem_nil
    · exact mem_singleton.mp only ▸ reach
  · intro reach
    rcases graph.closureLoop_closed admits [start] [] (by simp) with ⟨_, recorded, closed⟩
    have walk := reach.2
    induction walk with
    | refl => exact recorded start mem_cons_self reach.1
    | tail before edge ih => exact closed _ (ih ⟨reach.1, before⟩) _ edge

/-! ## Depth-first cycle search -/

variable {graph : Adjacency V} {source : V}

/-- Visit the listed nodes from left to right.  `visiting` is the chain of
nodes whose visit is still open, and `visited` the nodes that were left.
The answer is `none` as soon as an open node is met again, and otherwise the
nodes visited so far.  A visit removes its node from the open chain when it
returns, which is why the chain is an argument and not part of the result. -/
def visitAll (graph : Adjacency V) (visiting visited : List V) (nodes : List V) : Option (List V) :=
  match nodes with
  | [] => some visited
  | node :: rest =>
    if _open : node ∈ visiting then none
    else if node ∈ visited then visitAll graph visiting visited rest
    else
      match visitAll graph (node :: visiting) visited (graph.next node) with
      | none => none
      | some left => visitAll graph visiting (node :: left) rest
termination_by graph.unentered visiting + nodes.length
decreasing_by
  · simp
  · have spent := graph.unentered_enter node visiting (node :: visiting) _open
      mem_cons_self (subset_cons_self node visiting)
    simp only [length_cons]
    omega
  · simp

/-- A node from which some cycle can be reached. -/
def ReachesCycle (graph : Adjacency V) (node : V) : Prop :=
  ∃ middle, Relation.ReflTransGen graph.Edge node middle /\
    Relation.TransGen graph.Edge middle middle

/-- A cycle below a node continues through one of its out-neighbours. -/
theorem ReachesCycle.exists_edge (cycle : graph.ReachesCycle source) :
    ∃ target, graph.Edge source target /\ graph.ReachesCycle target := by
  rcases cycle with ⟨middle, walk, loop⟩
  rcases Relation.ReflTransGen.cases_head walk with same | ⟨target, edge, rest⟩
  · subst same
    rcases Relation.TransGen.head'_iff.mp loop with ⟨target, edge, back⟩
    exact ⟨target, edge, source, back, loop⟩
  · exact ⟨target, edge, middle, rest, loop⟩

/-- The search stops only at a real cycle.  Its invariant is that every open
node reaches every node still to be visited. -/
theorem visitAll_eq_none (visiting visited nodes : List V)
    (openChain : ∀ ancestor ∈ visiting, ∀ node ∈ nodes, Relation.TransGen graph.Edge ancestor node)
    (stopped : graph.visitAll visiting visited nodes = none) :
    ∃ node ∈ nodes, graph.ReachesCycle node := by
  fun_induction visitAll graph visiting visited nodes with
  | case1 => cases stopped
  | case2 visiting visited node rest met =>
    exact ⟨node, mem_cons_self, node, .refl, openChain node met node mem_cons_self⟩
  | case3 _ _ _ _ _ _ ih | case5 _ _ _ _ _ _ _ _ _ ih =>
    rcases ih (fun ancestor mem target waiting =>
        openChain ancestor mem target (mem_cons_of_mem _ waiting)) stopped with ⟨found, later, cycle⟩
    exact ⟨found, mem_cons_of_mem _ later, cycle⟩
  | case4 visiting visited node rest fresh unknown below ih =>
    have deeper : ∀ ancestor ∈ node :: visiting, ∀ target ∈ graph.next node,
        Relation.TransGen graph.Edge ancestor target := by
      intro ancestor mem target out
      rcases mem_cons.mp mem with same | older
      · exact same ▸ .single out
      · exact (openChain ancestor older node mem_cons_self).tail out
    rcases ih deeper below with ⟨target, out, middle, walk, loop⟩
    exact ⟨node, mem_cons_self, middle, walk.head out, loop⟩

/-- A search that runs to its end has left only nodes without a cycle below
them.  A left node is safe because all its out-neighbours were left first. -/
theorem visitAll_eq_some (visiting visited nodes : List V) {result : List V}
    (safe : ∀ node ∈ visited, ¬ graph.ReachesCycle node)
    (ended : graph.visitAll visiting visited nodes = some result) :
    (∀ node ∈ nodes, ¬ graph.ReachesCycle node) /\ ∀ node ∈ result, ¬ graph.ReachesCycle node := by
  fun_induction visitAll graph visiting visited nodes generalizing result with
  | case1 =>
    cases ended
    exact ⟨by simp, safe⟩
  | case2 => cases ended
  | case4 => cases ended
  | case3 visiting visited node rest fresh known ih =>
    rcases ih safe ended with ⟨later, final⟩
    refine ⟨?_, final⟩
    intro other mem
    rcases mem_cons.mp mem with same | waiting
    · exact same ▸ safe node known
    · exact later other waiting
  | case5 visiting visited node rest fresh unknown left below ihBelow ihRest =>
    rcases ihBelow safe below with ⟨successors, leftSafe⟩
    have nodeSafe : ¬ graph.ReachesCycle node := by
      intro cycle
      rcases cycle.exists_edge with ⟨target, out, continued⟩
      exact successors target out continued
    have extended : ∀ other ∈ node :: left, ¬ graph.ReachesCycle other := by
      intro other mem
      rcases mem_cons.mp mem with same | old
      · exact same ▸ nodeSafe
      · exact leftSafe other old
    rcases ihRest extended ended with ⟨later, final⟩
    refine ⟨?_, final⟩
    intro other mem
    rcases mem_cons.mp mem with same | waiting
    · exact same ▸ nodeSafe
    · exact later other waiting

/-- The complete search from a list of roots finds a cycle exactly when one
of the roots reaches one. -/
theorem visitAll_eq_none_iff (roots : List V) :
    graph.visitAll [] [] roots = none <-> ∃ root ∈ roots, graph.ReachesCycle root := by
  constructor
  · exact graph.visitAll_eq_none [] [] roots (by simp)
  · rintro ⟨root, mem, cycle⟩
    cases ended : graph.visitAll [] [] roots with
    | none => rfl
    | some =>
      exact absurd cycle ((graph.visitAll_eq_some [] [] roots (by simp) ended).1 root mem)

end Adjacency

end Foundation
end OpenKit
