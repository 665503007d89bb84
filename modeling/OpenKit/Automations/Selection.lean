import OpenKit.Automations.Iteration
import OpenKit.Automations.Operations

namespace OpenKit
namespace Automations

open Foundation List
open AutomationDb

/-!
# What a scan selects

A due schedule offers its live instants in order, starting behind the expired
prefix.  The scan sorts the offers of all schedules and cuts the list, so what
it selects of one schedule is a first part of what that schedule offered.
-/

/-- The instants that a scan publishes for a schedule, in order. -/
def offersOf (id : String) (candidates : List ScanCandidate) : List Int :=
  candidates.filterMap (fun candidate =>
    if candidate.scheduleId = id /\ candidate.occurrenceId = none then some candidate.at_ else none)

theorem offersOf_append (id : String) (first second : List ScanCandidate) :
    offersOf id (first ++ second) = offersOf id first ++ offersOf id second :=
  filterMap_append

variable {id : String}

theorem offersOf_cons_of_ne (candidate : ScanCandidate) (rest : List ScanCandidate)
    (other : ¬(candidate.scheduleId = id /\ candidate.occurrenceId = none)) :
    offersOf id (candidate :: rest) = offersOf id rest := by
  unfold offersOf
  rw [filterMap_cons, if_neg other]

theorem offersOf_cons (other : ScanCandidate) (rest : List ScanCandidate)
    (unpublished : other.occurrenceId = none) :
    offersOf other.scheduleId (other :: rest) =
      other.at_ :: offersOf other.scheduleId rest := by
  unfold offersOf
  rw [filterMap_cons, if_pos ⟨rfl, unpublished⟩]

/-- The cursor behind an instant. -/
def nextOf (cadence : AutomationCadence) (instant : Int) : Option Int :=
  match nextRecurringNominal cadence instant with
  | .ok next => next
  | .error _ => none

variable {cadence : AutomationCadence}

theorem nextOf_up {time next : Int} (found : nextOf cadence time = some next) :
    time < next := by
  unfold nextOf at found
  split at found
  next cursor nextIs =>
    have mem := isInstant_self (matches_of_nextOrNull nextIs)
    rcases nextOrNull_isSuccessor mem with ⟨other, otherIs, successor⟩
    have same : other = cursor := Except.ok.inj (otherIs.symm.trans nextIs)
    rw [same] at successor
    exact successor.above next found
  · cases found

/-- The cursor that an accounting of the expired prefix leaves. -/
inductive LiveCursor (timestamp : Int) (schedule : AutomationRecord) : Option Int -> Prop
  | live (first : Int) (standing : schedule.nextScheduledAt = some first)
      (late : timestamp - recurringDeadlineMs < first) : LiveCursor timestamp schedule (some first)
  | expired (first : Int) (coverage : RecurringNominalPrefix)
      (standing : schedule.nextScheduledAt = some first)
      (covers : recurringPrefixThrough schedule.cadence first (timestamp - recurringDeadlineMs) =
        .ok (some coverage)) :
      LiveCursor timestamp schedule coverage.next

variable {now : Int} {schedule : AutomationRecord}

variable {db : AutomationDb}

/-- An accounting leaves the live cursor, whose deadline is not over. -/
theorem AutomationDb.Accounting.cursor {after : AutomationDb} {updated : AutomationRecord}
    {cursor : Option Int} (accounting : Accounting db schedule now updated after)
    (live : LiveCursor now schedule cursor)
    (standing : ∀ next, schedule.nextScheduledAt = some next ->
      ∃ start, schedule.cadence.isInstant start next) : updated.nextScheduledAt = cursor /\
      ∀ next, cursor = some next -> now - recurringDeadlineMs < next := by
  cases live with
  | live first standing' late =>
    refine ⟨?_, ?_⟩
    · cases accounting with
      | live => exact standing'
      | expired other coverage next otherStanding =>
        rw [standing'] at otherStanding
        cases otherStanding
        omega
    · rintro next ⟨⟩
      exact late
  | expired first coverage standing' covers =>
    rcases standing first standing' with ⟨start, mem⟩
    rcases recurringPrefixThrough_ok mem covers with ⟨never, _⟩ | ⟨found, same, le, prefixOf⟩
    · cases never
    cases same
    refine ⟨?_, ?_⟩
    · cases accounting with
      | live cursor =>
        rcases cursor first standing' with late | nothing
        · have := prefixOf.reached
          omega
        · rw [covers] at nothing
          cases nothing
      | expired other coverage' next otherStanding _ covers' advances =>
        rw [standing'] at otherStanding
        cases otherStanding
        rw [covers] at covers'
        cases covers'
        rcases nextOrNull_isSuccessor prefixOf.last with ⟨again, againIs, successor⟩
        have same : again = next := Except.ok.inj (againIs.symm.trans advances)
        rw [same] at successor
        exact successor.unique prefixOf.next
    · intro next nextIs
      exact prefixOf.beyond next (prefixOf.next.member next nextIs) (prefixOf.next.above next nextIs)

/-! ## The offers of one schedule -/

variable {candidates : List ScanCandidate}

theorem liveInstants_follows (fuel : Nat) : ∀ {cursor : Option Int} {instants : List Int},
    liveInstants cadence now fuel cursor = .ok instants ->
    Follows (nextOf cadence) cursor instants /\ ∀ time ∈ instants, time <= now := by
  induction fuel with
  | zero =>
    intro cursor instants ok
    cases ok
    exact ⟨trivial, by simp⟩
  | succ fuel ih =>
    intro cursor instants ok
    cases cursor with
    | none =>
      cases ok
      exact ⟨trivial, by simp⟩
    | some at_ =>
      unfold liveInstants at ok
      split at ok
      next due =>
        rcases bind_inv ok with ⟨next, nextIs, ok⟩
        rcases bind_inv ok with ⟨rest, restIs, ok⟩
        cases ok
        rcases ih restIs with ⟨follows, bound⟩
        refine ⟨⟨rfl, ?_⟩, ?_⟩
        · have same : nextOf cadence at_ = next := by
            unfold nextOf
            rw [nextIs]
          rw [same]
          exact follows
        · intro time mem
          rcases mem_cons.mp mem with rfl | later
          · exact due
          · exact bound time later
      · cases ok
        exact ⟨trivial, by simp⟩

/-- A list of offers in the order of the cursor. -/
def IsOffer (timestamp : Int) (schedule : AutomationRecord) (instants : List Int) : Prop :=
  ∃ cursor, LiveCursor timestamp schedule cursor /\ Follows (nextOf schedule.cadence) cursor instants /\
    ∀ instant ∈ instants, instant <= timestamp

theorem dueCandidates_ok (due : schedule.isDue now)
    (standing : ∀ next, schedule.nextScheduledAt = some next ->
      ∃ start, schedule.cadence.isInstant start next)
    (ok : dueCandidates now schedule = .ok candidates) :
    ∃ instants, IsOffer now schedule instants /\
      candidates = instants.map (fun at_ => ⟨schedule.id, at_, none⟩) := by
  unfold AutomationRecord.isDue at due
  rw [Bool.and_eq_true] at due
  cases next : schedule.nextScheduledAt with
  | none =>
    rw [next] at due
    cases due.2
  | some first =>
    rcases standing first next with ⟨start, mem⟩
    unfold dueCandidates at ok
    rw [next] at ok
    rcases bind_inv ok with ⟨frontier, frontierIs, ok⟩
    rcases bind_inv ok with ⟨instants, instantsIs, ok⟩
    cases ok
    rcases liveInstants_follows _ instantsIs with ⟨follows, bound⟩
    refine ⟨instants, ⟨frontier, ?_, follows, bound⟩, rfl⟩
    rcases bind_inv frontierIs with ⟨coverage, covers, computed⟩
    cases computed
    rcases recurringPrefixThrough_ok mem covers with ⟨rfl, late⟩ | ⟨found, rfl, _, _⟩
    · exact .live first next late
    · exact .expired first found next covers

theorem offersOf_map (id other : String) (instants : List Int) :
    offersOf id (instants.map (fun at_ => ⟨other, at_, none⟩)) =
      if other = id then instants else [] := by
  induction instants with
  | nil => simp [offersOf]
  | cons head rest ih =>
    rw [map_cons]
    by_cases same : other = id
    · subst same
      have here := offersOf_cons ⟨other, head, none⟩
        (rest.map (fun at_ => (⟨other, at_, none⟩ : ScanCandidate))) rfl
      rw [ih, if_pos rfl] at here
      rw [if_pos rfl]
      exact here
    · rw [offersOf_cons_of_ne _ _ (same ·.1), ih, if_neg same, if_neg same]

theorem offersOf_flatten {schedules : List AutomationRecord} {lists : List (List ScanCandidate)}
    (offered : List.Forall₂ (fun schedule candidates => ∃ instants,
      IsOffer now schedule instants /\
        candidates = instants.map (fun at_ => ⟨schedule.id, at_, none⟩)) schedules lists)
    (distinct : (schedules.map (·.id)).Nodup) : offersOf id lists.flatten = [] \/
      ∃ schedule ∈ schedules, schedule.id = id /\
        IsOffer now schedule (offersOf id lists.flatten) := by
  induction offered with
  | nil => exact .inl rfl
  | @cons schedule candidates others rest here _ ih =>
    rw [map_cons, nodup_cons] at distinct
    rcases here with ⟨instants, isOffer, rfl⟩
    rw [flatten_cons, offersOf_append, offersOf_map]
    by_cases same : schedule.id = id
    · rw [if_pos same]
      have nothing : offersOf id rest.flatten = [] := by
        rcases ih distinct.2 with nothing | ⟨other, mem, otherId, _⟩
        · exact nothing
        · exact absurd (mem_map.mpr ⟨other, mem, otherId.trans same.symm⟩) distinct.1
      rw [nothing, append_nil]
      exact .inr ⟨schedule, mem_cons_self, same, isOffer⟩
    · rw [if_neg same, nil_append]
      rcases ih distinct.2 with nothing | ⟨other, mem, otherId, offer⟩
      · exact .inl nothing
      · exact .inr ⟨other, mem_cons_of_mem _ mem, otherId, offer⟩

/-! ## Sorting and cutting -/

variable {plan : AutomationScanPlan} {workspaceIds : List String} {selection : ScanSelection}

instance : Std.Total (fun left right : ScanCandidate => candidateLe left right) where
  total left right := by
    have order := codeUnitsLe_total left.scheduleId right.scheduleId
    simp only [candidateLe, Bool.or_eq_true, Bool.and_eq_true, decide_eq_true_eq]
    rcases lt_trichotomy left.at_ right.at_ with lt | same | gt
    · exact .inl (.inl lt)
    · rcases order with le | le
      · exact .inl (.inr ⟨same, le⟩)
      · exact .inr (.inr ⟨same.symm, le⟩)
    · exact .inr (.inl gt)

instance : IsTrans ScanCandidate (fun left right => candidateLe left right) where
  trans first second third earlier later := by
    simp only [candidateLe, Bool.or_eq_true, Bool.and_eq_true, decide_eq_true_eq] at *
    rcases earlier with lt | ⟨same, le⟩
    · rcases later with lt' | ⟨same', _⟩
      · exact .inl (by omega)
      · exact .inl (by omega)
    · rcases later with lt' | ⟨same', le'⟩
      · exact .inl (by omega)
      · exact .inr ⟨same.trans same', codeUnitsLe_trans le le'⟩

/-- Sorting keeps offers that were in order. -/
theorem offersOf_sorted (increasing : (offersOf id candidates).Pairwise (· < ·)) :
    offersOf id (candidates.insertionSort (fun left right => candidateLe left right)) =
      offersOf id candidates := by
  have sorted : (offersOf id (candidates.insertionSort
      (fun left right => candidateLe left right))).Pairwise (· <= ·) := by
    unfold offersOf
    rw [pairwise_filterMap]
    refine (pairwise_insertionSort (fun left right => candidateLe left right) candidates).imp ?_
    intro left right le first firstIs second secondIs
    split at firstIs
    · split at secondIs
      · cases firstIs
        cases secondIs
        simp only [candidateLe, Bool.or_eq_true, Bool.and_eq_true, decide_eq_true_eq] at le
        omega
      · cases secondIs
    · cases firstIs
  have permuted := (perm_insertionSort
    (fun left right => candidateLe left right) candidates).filterMap
      (fun other : ScanCandidate =>
        if other.scheduleId = id /\ other.occurrenceId = none then some other.at_ else none)
  exact List.Perm.eq_of_pairwise' sorted (increasing.imp (·.le)) permuted

theorem IsOffer.of_append {first second : List Int}
    (offer : IsOffer now schedule (first ++ second)) : IsOffer now schedule first := by
  rcases offer with ⟨cursor, live, follows, bound⟩
  exact ⟨cursor, live, follows.of_append,
    fun time mem => bound time (mem_append_left _ mem)⟩

theorem IsOffer.increasing {instants : List Int} (offer : IsOffer now schedule instants) :
    instants.Pairwise (· < ·) := by
  rcases offer with ⟨cursor, _, follows, _⟩
  exact (follows.increasing (fun _ _ found => nextOf_up found)).1

theorem offersOf_pending (id : String) (occurrences : List RecurringOccurrence) :
    offersOf id (occurrences.map (fun slot =>
      (⟨slot.scheduleId, slot.scheduledAt, some slot.id⟩ : ScanCandidate))) = [] := by
  induction occurrences with
  | nil => rfl
  | cons head rest ih =>
    rw [map_cons, offersOf_cons_of_ne _ _ (by simp)]
    exact ih

theorem selectAutomationScan_offers (distinct : (plan.due.map (·.id)).Nodup)
    (due : ∀ schedule ∈ plan.due, schedule.isDue now)
    (standing : ∀ schedule ∈ plan.due, ∀ next, schedule.nextScheduledAt = some next ->
      ∃ start, schedule.cadence.isInstant start next)
    (ok : selectAutomationScan plan now workspaceIds = .ok selection) (id : String) :
    offersOf id selection.selected = [] \/ ∃ schedule ∈ plan.due, schedule.id = id /\
        IsOffer now schedule (offersOf id selection.selected) := by
  rcases bind_inv ok with ⟨lists, listsAre, ok⟩
  rcases bind_inv ok with ⟨progress, _, ok⟩
  cases ok
  have offered : List.Forall₂ (fun schedule candidates => ∃ instants,
      IsOffer now schedule instants /\
        candidates = instants.map (fun at_ => (⟨schedule.id, at_, none⟩ : ScanCandidate)))
      (plan.due.filter (workspaceIds.contains ·.workspaceId)) lists := by
    refine List.Forall₂.imp ?_ ((forall₂_and_left _ _).mpr
      ⟨fun schedule mem => (mem_filter.mp mem).1,
        forall₂_of_mapM_eq_ok (nominal_ok listsAre)⟩)
    rintro schedule candidates ⟨mem, candidatesAre⟩
    exact dueCandidates_ok (due schedule mem) (standing schedule mem) candidatesAre
  have distinctAdmitted : ((plan.due.filter (fun schedule =>
      workspaceIds.contains schedule.workspaceId)).map (·.id)).Nodup :=
    distinct.sublist (filter_sublist.map _)
  set candidates := ((plan.pending.filter (fun slot =>
      workspaceIds.contains slot.workspaceId)).map fun slot =>
        (⟨slot.scheduleId, slot.scheduledAt, some slot.id⟩ : ScanCandidate)) ++
      lists.flatten with candidatesIs
  have unsorted : offersOf id candidates = offersOf id lists.flatten := by
    rw [candidatesIs, offersOf_append, offersOf_pending, nil_append]
  set sorted := candidates.insertionSort (fun left right => candidateLe left right)
    with sortedIs
  have cut : offersOf id sorted = offersOf id (sorted.take scanLimit) ++
      offersOf id (sorted.drop scanLimit) := by
    rw [<- offersOf_append, take_append_drop]
  rcases offersOf_flatten offered distinctAdmitted with nothing | ⟨schedule, mem, same, offer⟩
  · have sortedOffers : offersOf id sorted = [] := by
      rw [sortedIs, offersOf_sorted (by rw [unsorted, nothing]; exact .nil), unsorted, nothing]
    rw [sortedOffers] at cut
    exact .inl (append_eq_nil_iff.mp cut.symm).1
  · have sortedOffers : offersOf id sorted = offersOf id lists.flatten := by
      rw [sortedIs, offersOf_sorted (by rw [unsorted]; exact offer.increasing), unsorted]
    rw [<- sortedOffers, cut] at offer
    exact .inr ⟨schedule, (mem_filter.mp mem).1, same, offer.of_append⟩

/-! ## The plan -/

variable {text : OccurrenceText}

theorem mem_of_mem_limited {α : Type} {before : α -> α -> Bool} {rows : List α} {row : α}
    (mem : row ∈ limited before rows) : row ∈ rows :=
  (perm_insertionSort _ rows).mem_iff.mp (mem_of_mem_take mem)

theorem nodup_limited {α β : Type} {before : α -> α -> Bool} {rows : List α} {key : α -> β}
    (distinct : (rows.map key).Nodup) : ((limited before rows).map key).Nodup := by
  have sorted := ((perm_insertionSort
    (fun left right => before left right) rows).map key).nodup_iff.mpr distinct
  exact sorted.sublist ((take_sublist _ _).map key)

theorem map_fst_of_mapM {α β ε : Type} {read : α -> Except ε β} {rows : List α}
    {pairs : List (α × β)}
    (ok : rows.mapM (fun row => do let value <- read row; return (row, value)) = .ok pairs) :
    pairs.map (·.1) = rows := by
  have read := forall₂_of_mapM_eq_ok ok
  clear ok
  induction read with
  | nil => rfl
  | cons here _ ih =>
    rcases bind_inv here with ⟨_, _, here⟩
    cases here
    rw [map_cons, ih]

theorem readScanPlan_due (ok : db.readScanPlan text now = .ok plan) : (plan.due.map (·.id)).Nodup /\
      ∀ schedule ∈ plan.due, db.schedules.find? schedule.id = some schedule /\
        schedule.isDue now := by
  rcases bind_inv ok with ⟨frontiers, frontiersAre, ok⟩
  rcases bind_inv ok with ⟨pendingSchedules, _, ok⟩
  cases ok
  have rows : frontiers.map (·.1) = db.schedules.rows.filter (·.isDue now) :=
    map_fst_of_mapM frontiersAre
  refine ⟨?_, ?_⟩
  · have distinct : ((db.schedules.rows.filter (·.isDue now)).map (·.id)).Nodup :=
      db.schedules.unique.sublist (filter_sublist.map _)
    rw [<- rows, map_map] at distinct
    rw [map_map]
    exact nodup_limited distinct
  · intro schedule mem
    rcases mem_map.mp mem with ⟨pair, inside, rfl⟩
    have row : pair.1 ∈ db.schedules.rows.filter (·.isDue now) := by
      rw [<- rows]
      exact mem_map.mpr ⟨pair, mem_of_mem_limited inside, rfl⟩
    have due := mem_filter.mp row
    exact ⟨Table.find?_of_mem due.1, due.2⟩

/-- The stale occurrences of a plan are pending rows of the database. -/
theorem readScanPlan_stale (ok : db.readScanPlan text now = .ok plan) :
    (plan.stale.map (·.id)).Nodup /\
      ∀ slot ∈ plan.stale, db.occurrences.find? slot.id = some slot /\
        slot.state = .pending := by
  rcases bind_inv ok with ⟨_, _, ok⟩
  rcases bind_inv ok with ⟨_, _, ok⟩
  cases ok
  refine ⟨nodup_limited (db.occurrences.unique.sublist (filter_sublist.map _)), ?_⟩
  intro slot mem
  have inside := mem_filter.mp (mem_of_mem_limited mem)
  have pending := inside.2
  rw [Bool.and_eq_true, decide_eq_true_eq] at pending
  exact ⟨Table.find?_of_mem inside.1, pending.1⟩

theorem selectAutomationScan_stale
    (ok : selectAutomationScan plan now workspaceIds = .ok selection) :
    selection.stale = (plan.stale.filter (workspaceIds.contains ·.workspaceId)).map (·.id) := by
  rcases bind_inv ok with ⟨_, _, ok⟩
  rcases bind_inv ok with ⟨_, _, ok⟩
  cases ok
  rfl

end Automations
end OpenKit
