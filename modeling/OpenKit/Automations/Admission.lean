import OpenKit.Automations.Selection

namespace OpenKit
namespace Automations

open Foundation Table List
open AutomationDb

/-!
# An occurrence is admitted at most once

Definition changes and scans are quiet: they insert occurrences that have no
attempt and close pending ones, and never touch the queue.  Attempts are the only
calls that accept an occurrence.  `Admissions` ties the accepted occurrences to
the queue entries with their derived identities; a pending occurrence has no such
entry, so the branch of an attempt that finds one is never taken, and every
acceptance went through the check for another queued occurrence.
-/

/-! ## Quiet calls -/

variable {first second slot : RecurringOccurrence} {before after db : AutomationDb}
  {now : Int} {id : OccurrenceId} {schedule updated : AutomationRecord}
  {third : RecurringOccurrence}

/-- A pending occurrence is closed without being accepted. -/
inductive QuietStep (before : RecurringOccurrence) : RecurringOccurrence -> Prop
  | same : QuietStep before before
  | closed (state : OccurrenceState) (timestamp : Int) (pending : before.state = .pending)
      (other : state ≠ .admissionAccepted) (terminal : state ≠ .pending) :
      QuietStep before (finished before state timestamp)

structure IsUntried (occurrence : RecurringOccurrence) : Prop where
  attempts : occurrence.attempts = []
  other : occurrence.state ≠ .admissionAccepted

theorem QuietStep.trans (earlier : QuietStep first second) (later : QuietStep second third) :
    QuietStep first third := by
  cases earlier with
  | same => exact later
  | closed state now pending other terminal =>
    cases later with
    | same => exact .closed state now pending other terminal
    | closed _ _ again => exact absurd again terminal

theorem IsUntried.step (untried : IsUntried first) (step : QuietStep first second) :
    IsUntried second := by
  cases step with
  | same => exact untried
  | closed state now _ other => exact ⟨untried.attempts, other⟩

/-- The queue is left alone, and every occurrence takes a quiet step. -/
structure Quiet (before after : AutomationDb) : Prop where
  entries : after.entries = before.entries
  rows : ∀ id, RowEvolves QuietStep IsUntried (before.occurrences.find? id)
    (after.occurrences.find? id)

theorem Quiet.of_same (entries : after.entries = before.entries)
    (occurrences : after.occurrences = before.occurrences) : Quiet before after := by
  refine ⟨entries, ?_⟩
  intro id
  rw [occurrences]
  exact .refl (fun _ => .same) _

theorem Quiet.refl (db : AutomationDb) : Quiet db db := .of_same rfl rfl

theorem Quiet.trans {first second third : AutomationDb} (earlier : Quiet first second)
    (later : Quiet second third) : Quiet first third where
  entries := later.entries.trans earlier.entries
  rows id := RowEvolves.trans (fun first second => first.trans second) (fun untried step => untried.step step)
    (earlier.rows id) (later.rows id)

theorem quiet_insert (free : db.occurrences.find? slot.id = none)
    (untried : IsUntried slot) :
    Quiet db { db with occurrences := db.occurrences.insert slot } := by
  refine ⟨rfl, ?_⟩
  intro id
  rw [find?_insert_of_free free]
  by_cases here : id = slot.id
  · rw [if_pos here, here, free]
    rintro later ⟨⟩
    exact untried
  · rw [if_neg here]
    exact .refl (fun _ => .same) _

theorem quiet_close {state : OccurrenceState}
    (found : db.occurrences.find? slot.id = some slot)
    (pending : slot.state = .pending) (other : state ≠ .admissionAccepted)
    (terminal : state ≠ .pending) : Quiet db { db with
      occurrences := db.occurrences.replace (finished slot state now) } := by
  refine ⟨rfl, ?_⟩
  intro id
  rw [find?_replace]
  by_cases here : id = (finished slot state now).id
  · rw [if_pos here, here]
    change RowEvolves _ _ (db.occurrences.find? slot.id)
      ((db.occurrences.find? slot.id).map _)
    rw [found]
    exact ⟨_, rfl, .closed state now pending other terminal⟩
  · rw [if_neg here]
    exact .refl (fun _ => .same) _

/-- A loop that closes different pending occurrences is quiet. -/
theorem closeAll_quiet {α : Type} {step : AutomationDb -> α -> Except AutomationError AutomationDb}
    (rowOf : α -> RecurringOccurrence) (state : OccurrenceState) (now : Int)
    (other : state ≠ .admissionAccepted) (terminal : state ≠ .pending) (items : List α)
    (closes : ∀ item ∈ items, ∀ before after,
      before.occurrences.find? (rowOf item).id = some (rowOf item) -> step before item = .ok after ->
      after = { before with
        occurrences := before.occurrences.replace (finished (rowOf item) state now) }) :
    ∀ {before after : AutomationDb}, (items.map (fun item => (rowOf item).id)).Nodup ->
    (∀ item ∈ items, before.occurrences.find? (rowOf item).id = some (rowOf item) /\
      (rowOf item).state = .pending) ->
    items.foldlM step before = .ok after -> Quiet before after := by
  induction items with
  | nil =>
    intro before after _ _ ok
    cases ok
    exact .refl before
  | cons item rest ih =>
    intro before after distinct standing ok
    rw [map_cons, nodup_cons] at distinct
    rcases bind_inv ok with ⟨middle, stepped, ok⟩
    rcases standing item mem_cons_self with ⟨found, pending⟩
    have closed := closes item mem_cons_self before middle found stepped
    subst closed
    refine (quiet_close found pending other terminal).trans
      (ih (fun later mem => closes later (mem_cons_of_mem _ mem)) distinct.2 ?_ ok)
    intro later mem
    rcases standing later (mem_cons_of_mem _ mem) with ⟨laterFound, laterPending⟩
    refine ⟨?_, laterPending⟩
    rw [find?_replace, if_neg]
    · exact laterFound
    · intro same
      exact distinct.1 (mem_map.mpr ⟨later, mem, same⟩)

theorem AutomationDb.Accounting.rows (accounting : Accounting db schedule now updated after) :
    after.entries = db.entries /\ after.occurrences = db.occurrences := by
  cases accounting with
  | live | expired => exact ⟨rfl, rfl⟩

theorem advanceRecurringSchedule_rows {at_ : Int}
    (ok : db.advanceRecurringSchedule schedule at_ = .ok (updated, after)) :
    after.entries = db.entries /\ after.occurrences = db.occurrences := by
  rcases advanceRecurringSchedule_ok ok with ⟨_, _, _, rfl⟩
  exact ⟨rfl, rfl⟩

theorem sealInstants_quiet (fuel : Nat) :
    ∀ {cursor : Option Int} {schedule updated : AutomationRecord} {before after : AutomationDb},
    sealInstants now fuel cursor schedule before = .ok (updated, after) ->
    Quiet before after := by
  induction fuel with
  | zero =>
    intro cursor schedule updated before after ok
    cases ok
    exact .refl before
  | succ fuel ih =>
    intro cursor schedule updated before after ok
    cases cursor with
    | none =>
      cases ok
      exact .refl before
    | some =>
      unfold sealInstants at ok
      split at ok
      · rcases bind_inv ok with ⟨⟨_, inserted⟩, finishes, ok⟩
        rcases bind_inv ok with ⟨⟨middle, wrote⟩, advanced, ok⟩
        rcases bind_inv ok with ⟨next, _, others⟩
        rcases finishRecurringOccurrence_insert finishes with ⟨free, rfl⟩
        rcases advanceRecurringSchedule_rows advanced with ⟨entries, occurrences⟩
        exact ((quiet_insert free ⟨rfl, by nofun⟩).trans (.of_same entries occurrences)).trans
          (ih others)
      · cases ok
        exact .refl before

theorem sealRecurringSchedule_quiet
    (ok : before.sealRecurringSchedule schedule now = .ok (updated, after)) :
    Quiet before after := by
  rcases bind_inv ok with ⟨⟨middle, between⟩, sealed, ok⟩
  rcases bind_inv ok with ⟨cancelled, cancels, ok⟩
  cases ok
  have due : Quiet before between := by
    unfold sealDue at sealed
    split at sealed
    · rcases bind_inv sealed with ⟨⟨accounted, ranged⟩, accounts, sealed⟩
      rcases (accountRecurringExpiredPrefix_ok accounts).rows with ⟨entries, occurrences⟩
      exact (Quiet.of_same entries occurrences).trans (sealInstants_quiet _ sealed)
    · cases sealed
      exact .refl before
  refine due.trans (closeAll_quiet id .cancelled now (by nofun) (by nofun) _ ?_ ?_ ?_ cancels)
  · intro item _ first second _ stepped
    exact cancelPending_ok stepped
  · exact between.occurrences.unique.sublist (filter_sublist.map _)
  · intro item mem
    have inside := mem_filter.mp mem
    have pending := inside.2
    rw [Bool.and_eq_true, decide_eq_true_eq, decide_eq_true_eq] at pending
    exact ⟨find?_of_mem inside.1, pending.2⟩

/-! ## Definitions and scans are quiet -/

variable {input : UpdateAutomationRequest}

theorem mutated_quiet (ok : before.mutated schedule input now = .ok (updated, after)) :
    Quiet before after := by
  unfold mutated at ok
  split at ok
  · rcases exists_of_map_ok ok with ⟨_, _, same⟩
    cases same
    exact .refl before
  · rcases bind_inv ok with ⟨_, _, ok⟩
    rcases bind_inv ok with ⟨⟨_, between⟩, seals, ok⟩
    rcases bind_inv ok with ⟨_, _, ok⟩
    rcases bind_inv ok with ⟨_, _, ok⟩
    cases ok
    unfold sealIfPaused at seals
    split at seals
    · exact sealRecurringSchedule_quiet seals
    · cases seals
      exact .refl before

theorem updateAutomationDefinition_quiet {id : String}
    (ok : before.updateAutomationDefinition id input now = .ok (updated, after)) :
    Quiet before after := by
  simp only [updateAutomationDefinition, bind_eq_ok_iff] at ok
  rcases ok with ⟨schedule, _, _, _, _, _, _, _, ⟨_, between⟩, mutates, wrote, writes, ok⟩
  cases ok
  rcases writeRecurringSchedule_update writes with ⟨_, rfl⟩
  exact (mutated_quiet mutates).trans (.of_same rfl rfl)

theorem deleteAutomationDefinition_quiet {id : String}
    (ok : before.deleteAutomationDefinition id now = .ok after) : Quiet before after := by
  rcases bind_inv ok with ⟨schedule, _, ok⟩
  split at ok
  · cases ok
    exact .refl before
  · rcases bind_inv ok with ⟨⟨_, between⟩, seals, writes⟩
    rcases writeRecurringSchedule_update writes with ⟨_, rfl⟩
    exact (sealRecurringSchedule_quiet seals).trans (.of_same rfl rfl)

def KeepsRows (before after : AutomationDb) : Prop :=
  ∀ id occurrence, before.occurrences.find? id = some occurrence ->
    after.occurrences.find? id = some occurrence

theorem publishCandidate_quiet {other : ScanCandidate}
    (ok : publishCandidate now before other = .ok after) :
    Quiet before after /\ KeepsRows before after := by
  unfold publishCandidate at ok
  split at ok
  · rcases bind_inv ok with ⟨_, _, ok⟩
    cases ok
    exact ⟨.refl before, fun _ _ found => found⟩
  · simp only [bind_eq_ok_iff] at ok
    rcases ok with
      ⟨schedule, _, ⟨middle, between⟩, accounts, inserted, writes, ⟨_, advanced⟩, advances, ok⟩
    cases ok
    rcases (accountRecurringExpiredPrefix_ok accounts).rows with ⟨entries, occurrences⟩
    rcases writeRecurringOccurrence_insert writes with ⟨free, rfl⟩
    rcases advanceRecurringSchedule_rows advances with ⟨lastEntries, lastOccurrences⟩
    refine ⟨((Quiet.of_same entries occurrences).trans (quiet_insert free ⟨rfl, by nofun⟩)).trans
      (.of_same lastEntries lastOccurrences), ?_⟩
    intro id slot found
    rw [lastOccurrences, find?_insert, occurrences, found]
    rfl

theorem accountExpired_quiet {id : String} (ok : accountExpired now before id = .ok after) :
    Quiet before after := by
  rcases bind_inv ok with ⟨schedule, _, ok⟩
  rcases bind_inv ok with ⟨⟨_, wrote⟩, accounts, ok⟩
  cases ok
  rcases (accountRecurringExpiredPrefix_ok accounts).rows with ⟨entries, occurrences⟩
  exact .of_same entries occurrences

theorem applyAutomationScanner_quiet {text : OccurrenceText} {expected : AutomationScanPlan}
    {workspaceIds : List String}
    (ok : before.applyAutomationScanner text now expected workspaceIds = .ok after) :
    Quiet before after := by
  simp only [applyAutomationScanner, bind_eq_ok_iff] at ok
  rcases ok with
    ⟨plan, planned, _, _, _, _, selection, selected, shown, publishes, expired, expires, ok⟩
  have first := foldlM_invariant (fun state => Quiet before state /\ KeepsRows before state) publishes
    (fun _ _ _ _ stepped earlier =>
      have next := publishCandidate_quiet stepped
      ⟨earlier.1.trans next.1, fun id slot found =>
        next.2 id slot (earlier.2 id slot found)⟩)
    ⟨.refl before, fun _ _ found => found⟩
  have last := foldlM_invariant (Quiet expired) ok
    (fun _ _ _ _ stepped earlier => earlier.trans (accountExpired_quiet stepped)) (.refl expired)
  rcases readScanPlan_stale planned with ⟨distinct, rows⟩
  rw [selectAutomationScan_stale selected, foldlM_map] at expires
  refine (first.1.trans ?_).trans last
  refine closeAll_quiet id .expired now (by nofun) (by nofun) _ ?_ ?_ ?_ expires
  · intro item _ before' after' found stepped
    rcases expireStale_ok stepped with ⟨slot, hit, closed⟩
    cases hit.symm.trans found
    exact closed
  · exact distinct.sublist (filter_sublist.map _)
  · intro item mem
    have row := rows item (mem_filter.mp mem).1
    exact ⟨first.2 _ _ row.1, row.2⟩

/-! ## Accepted occurrences and their entries -/

variable {entry : SchedulerAdmissionEntry}

def IsForeign (entry : SchedulerAdmissionEntry) : Prop :=
  ∀ scheduleId scheduledAt, entry.queueEntryId ≠ .recurring scheduleId scheduledAt /\
    entry.input.requestId ≠ some (.recurring scheduleId scheduledAt) /\
    entry.input.turnId ≠ .recurring scheduleId scheduledAt

/-- The queue holds the entries of the accepted occurrences, and no other entry
with a derived identity. -/
structure Admissions (db : AutomationDb) : Prop where
  numbered : ∀ id occurrence, db.occurrences.find? id = some occurrence -> IsNumbered occurrence
  entries : ∀ entry ∈ db.entries.rows, IsForeign entry \/
    ∃ occurrence, db.occurrences.find? occurrence.id = some occurrence /\
      occurrence.state = .admissionAccepted /\ IsEntryOf occurrence entry
  accepted : ∀ id occurrence, db.occurrences.find? id = some occurrence ->
    occurrence.state = .admissionAccepted ->
    (∃ entry, db.entries.find? occurrence.requestId = some entry) /\
      occurrence.queueEntryId = some occurrence.requestId /\
      occurrence.turnId = some (recurringTurnId occurrence.scheduleId occurrence.scheduledAt)

theorem requestId_injective (same : first.requestId = second.requestId) : first.id = second.id := by
  have parts := Identity.recurring.inj same
  have schedule : first.id.scheduleId = second.id.scheduleId := parts.1
  have time : first.id.scheduledAt = second.id.scheduledAt := parts.2
  cases firstId : first.id
  cases secondId : second.id
  simp_all

variable (admissions : Admissions db) (found : db.occurrences.find? slot.id = some slot)

include admissions found

/-- Whatever has an identity of an occurrence is the entry of that accepted
occurrence. -/
theorem Admissions.own (mem : entry ∈ db.ownQueues slot) :
    slot.state = .admissionAccepted /\ IsEntryOf slot entry := by
  rcases mem_filter.mp mem with ⟨inside, named⟩
  simp only [Bool.or_eq_true, decide_eq_true_eq] at named
  rcases admissions.entries entry inside with foreign | ⟨other, otherFound, accepted, isEntry⟩
  · have not := foreign slot.scheduleId slot.scheduledAt
    rcases named with (queue | request) | turn
    · exact absurd queue not.1
    · exact absurd request not.2.1
    · exact absurd turn not.2.2
  · have sameRequest : other.requestId = slot.requestId := by
      rcases named with (queue | request) | turn
      · exact isEntry.queueEntryId.symm.trans queue
      · exact Option.some.inj (isEntry.requestId.symm.trans request)
      · exact isEntry.turnId.symm.trans turn
    have sameId := requestId_injective sameRequest
    rw [sameId, found] at otherFound
    cases otherFound
    exact ⟨accepted, isEntry⟩

theorem Admissions.ownQueues_nil (other : slot.state ≠ .admissionAccepted) :
    db.ownQueues slot = [] := by
  cases own : db.ownQueues slot with
  | nil => rfl
  | cons entry =>
    have mem : entry ∈ db.ownQueues slot := by
      rw [own]
      exact mem_cons_self
    exact absurd (admissions.own found mem).1 other

theorem Admissions.ownQueues_single (accepted : slot.state = .admissionAccepted) :
    ∃ entry, db.ownQueues slot = [entry] /\ IsEntryOf slot entry := by
  rcases (admissions.accepted _ slot found accepted).1 with ⟨entry, entryFound⟩
  have key : entry.queueEntryId = slot.requestId := keyOf_of_find? entryFound
  have mem : entry ∈ db.ownQueues slot :=
    mem_filter.mpr ⟨mem_of_find? entryFound, by simp [key]⟩
  have distinct : (db.ownQueues slot).Nodup :=
    (List.Nodup.of_map _ db.entries.unique).sublist filter_sublist
  have only : ∀ other ∈ db.ownQueues slot, other = entry := by
    intro other inside
    have isEntry := (admissions.own found inside).2
    have otherFound := find?_of_mem (mem_filter.mp inside).1
    rw [isEntry.queueEntryId, entryFound] at otherFound
    exact (Option.some.inj otherFound).symm
  refine ⟨entry, ?_, (admissions.own found mem).2⟩
  cases own : db.ownQueues slot with
  | nil =>
    rw [own] at mem
    cases mem
  | cons head rest =>
    rw [own] at distinct only
    cases rest with
    | nil => rw [only head mem_cons_self]
    | cons second =>
      -- two entries of the occurrence would be the same one
      have same : head = second :=
        (only head mem_cons_self).trans
          (only second (mem_cons_of_mem _ mem_cons_self)).symm
      rw [same] at distinct
      exact absurd mem_cons_self (nodup_cons.mp distinct).1

/-! ## Every call keeps the admissions -/

omit admissions found

/-- A quiet call accepts nothing. -/
theorem Quiet.accepted_before (quiet : Quiet before after)
    (found : after.occurrences.find? id = some slot)
    (accepted : slot.state = .admissionAccepted) :
    before.occurrences.find? id = some slot := by
  have evolved := quiet.rows id
  cases earlier : before.occurrences.find? id with
  | none =>
    rw [earlier] at evolved
    exact absurd accepted (evolved slot found).other
  | some =>
    rw [earlier] at evolved
    rcases evolved with ⟨later, laterFound, step⟩
    rw [laterFound] at found
    cases found
    cases step with
    | same => rfl
    | closed _ _ _ other => exact absurd accepted other

theorem Admissions.quiet (admissions : Admissions before) (quiet : Quiet before after) :
    Admissions after := by
  have kept : ∀ id slot, before.occurrences.find? id = some slot ->
      slot.state = .admissionAccepted -> after.occurrences.find? id = some slot := by
    intro id slot found accepted
    have evolved := quiet.rows id
    rw [found] at evolved
    rcases evolved with ⟨later, laterFound, step⟩
    cases step with
    | same => exact laterFound
    | closed _ _ pending =>
      rw [accepted] at pending
      cases pending
  refine ⟨?_, ?_, ?_⟩
  · intro id
    refine (quiet.rows id).invariant ?_ ?_ (admissions.numbered id)
    · intro slot untried
      refine ⟨?_, ?_⟩
      · rw [untried.attempts]
        exact Nat.zero_le 3
      · rw [untried.attempts]
        rfl
    · intro slot later step numbered
      cases step with
      | same => exact numbered
      | closed => exact ⟨numbered.bound, numbered.numbers⟩
  · intro entry mem
    rw [quiet.entries] at mem
    rcases admissions.entries entry mem with foreign | ⟨slot, found, accepted, isEntry⟩
    · exact .inl foreign
    · exact .inr ⟨slot, kept _ slot found accepted, accepted, isEntry⟩
  · intro id slot found accepted
    rw [quiet.entries]
    exact admissions.accepted id slot (quiet.accepted_before found accepted) accepted

include found

theorem find?_replace_occurrence {updated : RecurringOccurrence} (same : updated.id = slot.id)
    (id : OccurrenceId) : (db.occurrences.replace updated).find? id =
      if id = slot.id then some updated else db.occurrences.find? id := by
  rw [find?_replace, same]
  by_cases here : id = slot.id
  · rw [if_pos here, if_pos here, here, found]
    rfl
  · rw [if_neg here, if_neg here]

include admissions

theorem Admissions.refused {updated : RecurringOccurrence} (pending : slot.state = .pending)
    (same : updated.id = slot.id) (other : updated.state ≠ .admissionAccepted)
    (numbered : IsNumbered updated) :
    Admissions { db with occurrences := db.occurrences.replace updated } := by
  have rows := find?_replace_occurrence found same
  refine ⟨?_, ?_, ?_⟩
  · intro id row rowFound
    rw [rows] at rowFound
    split at rowFound
    · cases rowFound
      exact numbered
    · exact admissions.numbered id row rowFound
  · intro entry mem
    rcases admissions.entries entry mem with foreign | ⟨row, rowFound, accepted, isEntry⟩
    · exact .inl foreign
    refine .inr ⟨row, ?_, accepted, isEntry⟩
    rw [rows, if_neg]
    · exact rowFound
    · intro here
      rw [here, found] at rowFound
      cases rowFound
      rw [pending] at accepted
      cases accepted
  · intro id row rowFound accepted
    rw [rows] at rowFound
    split at rowFound
    · cases rowFound
      exact absurd accepted other
    · exact admissions.accepted id row rowFound accepted

theorem Admissions.admitted {updated : RecurringOccurrence} (pending : slot.state = .pending)
    (own : db.ownQueues slot = []) (isEntry : IsEntryOf slot entry)
    (same : updated.id = slot.id) (accepted : updated.state = .admissionAccepted)
    (entryId : updated.queueEntryId = some entry.queueEntryId)
    (turnId : updated.turnId = some entry.input.turnId) (numbered : IsNumbered updated) :
    Admissions { db with
      entries := db.entries.insert entry
      occurrences := db.occurrences.replace updated } := by
  have rows := find?_replace_occurrence found same
  have sameRequest : updated.requestId = slot.requestId := by
    unfold RecurringOccurrence.requestId RecurringOccurrence.scheduleId RecurringOccurrence.scheduledAt
    rw [same]
  have sameTurn : recurringTurnId updated.scheduleId updated.scheduledAt =
      recurringTurnId slot.scheduleId slot.scheduledAt := sameRequest
  have free : db.entries.find? entry.queueEntryId = none := by
    rw [isEntry.queueEntryId]
    cases present : db.entries.find? slot.requestId with
    | none => rfl
    | some other =>
      exact absurd (keyOf_of_find? present) (ownQueues_eq_nil own other (mem_of_find? present)).1
  have updatedEntry : IsEntryOf updated entry :=
    ⟨isEntry.queueEntryId.trans sameRequest.symm, by rw [isEntry.requestId, sameRequest],
      isEntry.turnId.trans sameTurn.symm⟩
  refine ⟨?_, ?_, ?_⟩
  · intro id row rowFound
    rw [rows] at rowFound
    split at rowFound
    · cases rowFound
      exact numbered
    · exact admissions.numbered id row rowFound
  · intro other mem
    rw [rows_insert free, mem_append, mem_singleton] at mem
    rcases mem with old | rfl
    · rcases admissions.entries other old with foreign | ⟨row, rowFound, rowAccepted, rowEntry⟩
      · exact .inl foreign
      · refine .inr ⟨row, ?_, rowAccepted, rowEntry⟩
        rw [rows, if_neg]
        · exact rowFound
        · intro here
          rw [here, found] at rowFound
          cases rowFound
          rw [pending] at rowAccepted
          cases rowAccepted
    · refine .inr ⟨updated, ?_, accepted, updatedEntry⟩
      rw [rows, if_pos same]
  · intro id row rowFound rowAccepted
    rw [rows] at rowFound
    rw [find?_insert]
    split at rowFound
    · cases rowFound
      refine ⟨⟨entry, ?_⟩, ?_, ?_⟩
      · rw [sameRequest, <- isEntry.queueEntryId, free, if_pos rfl]
        rfl
      · rw [entryId, isEntry.queueEntryId, sameRequest]
      · rw [turnId, isEntry.turnId, sameTurn]
    · rcases admissions.accepted id row rowFound rowAccepted with ⟨⟨old, oldFound⟩, queue, turn⟩
      refine ⟨⟨old, ?_⟩, queue, turn⟩
      rw [oldFound]
      rfl

omit found

omit admissions in
/-- An attempt never finds an entry of a pending occurrence. -/
theorem Admissions.attempt (admissions : Admissions before)
    (effect : AttemptEffect before now after) : Admissions after := by
  cases effect with
  | unchanged => exact admissions
  | refused slot updated found pending same state _ numbered =>
    exact admissions.refused found pending (by rw [same]) state numbered
  | replayed slot updated entry legal own =>
    have nothing := admissions.ownQueues_nil legal.found (by rw [legal.pending]; nofun)
    rw [nothing] at own
    cases own
  | admitted slot updated entry legal own alone isEntry _ same _ numbered =>
    exact admissions.admitted legal.found legal.pending own isEntry (by rw [same])
      (by rw [same]) (by rw [same]) (by rw [same]) numbered

theorem Admissions.queue (change : QueueChange) : Admissions (db.changeQueue change) := by
  cases change with
  | move entryId status =>
    refine ⟨admissions.numbered, ?_, ?_⟩
    · intro entry mem
      rcases mem_map.mp mem with ⟨old, inside, rfl⟩
      rcases admissions.entries old inside with foreign | ⟨slot, found, accepted, isEntry⟩
      · refine .inl ?_
        split
        · exact foreign
        · exact foreign
      · refine .inr ⟨slot, found, accepted, ?_⟩
        split
        · exact ⟨isEntry.queueEntryId, isEntry.requestId, isEntry.turnId⟩
        · exact isEntry
    · intro id slot found accepted
      rcases admissions.accepted id slot found accepted with ⟨⟨entry, entryFound⟩, rest⟩
      refine ⟨⟨if decide (entry.queueEntryId = entryId) then { entry with status := status }
        else entry, ?_⟩, rest⟩
      refine (find?_updateWhere db.entries (·.queueEntryId = entryId)
        (fun entry => { entry with status := status }) (fun _ => rfl) slot.requestId).trans ?_
      rw [entryFound]
      rfl
  | enqueue entryId turnId key =>
    refine ⟨admissions.numbered, ?_, ?_⟩
    · intro entry mem
      unfold changeQueue Table.insert at mem
      dsimp only at mem
      split at mem
      · exact admissions.entries entry mem
      rcases mem_append.mp mem with old | new
      · exact admissions.entries entry old
      rw [mem_singleton] at new
      subst new
      refine .inl ?_
      intro scheduleId scheduledAt
      refine ⟨by simp, ?_, by simp⟩
      cases key <;> simp
    · intro id slot found accepted
      rcases admissions.accepted id slot found accepted with ⟨⟨entry, entryFound⟩, rest⟩
      refine ⟨⟨entry, ?_⟩, rest⟩
      unfold changeQueue
      rw [find?_insert, entryFound]
      rfl

/-- What one call does to the occurrences and the queue. -/
inductive CallEffect (call : AutomationCall) (before after : AutomationDb) : Prop
  | quiet (quiet : Quiet before after)
  | attempt (input : AttemptInput) (same : call = .attempt input)
      (effect : AttemptEffect before input.timestamp after)
  | queue (change : QueueChange) (same : after = before.changeQueue change)

omit admissions in
theorem apply_effect (text : OccurrenceText) (call : AutomationCall) (db : AutomationDb) :
    CallEffect call db (db.apply text call) := by
  unfold apply
  cases transacted : db.transact text call with
  | error => exact .quiet (.refl db)
  | ok =>
    cases call with
    | create =>
      rcases exists_of_map_ok transacted with ⟨⟨record, _⟩, created, rfl⟩
      rcases createAutomationDefinition_ok created with ⟨_, _, _, _, rfl⟩
      exact .quiet (.of_same rfl rfl)
    | update =>
      rcases exists_of_map_ok transacted with ⟨⟨updated, _⟩, updates, rfl⟩
      exact .quiet (updateAutomationDefinition_quiet updates)
    | delete => exact .quiet (deleteAutomationDefinition_quiet transacted)
    | publish =>
      exact .quiet (applyAutomationScanner_quiet transacted)
    | attempt input =>
      rcases exists_of_map_ok transacted with ⟨⟨result, _⟩, attempts, rfl⟩
      exact .attempt input rfl (applyNativeRecurringAttempt_ok attempts)
    | queue change =>
      cases transacted
      exact .queue change rfl

theorem Admissions.apply (text : OccurrenceText) (call : AutomationCall) :
    Admissions (db.apply text call) := by
  cases apply_effect text call db with
  | quiet quiet => exact admissions.quiet quiet
  | attempt input _ effect => exact admissions.attempt effect
  | queue change same =>
    rw [same]
    exact admissions.queue change

/-! ## What a run keeps of an occurrence -/

/-- Only a pending occurrence changes, and a resolved payload stays. -/
structure OccurrenceStep (before after : RecurringOccurrence) : Prop where
  settled : before.state ≠ .pending -> after = before
  payload : KeepsPayload before after.resolvedPayload

omit admissions

theorem OccurrenceStep.refl (slot : RecurringOccurrence) :
    OccurrenceStep slot slot :=
  ⟨fun _ => rfl, fun _ known => known⟩

theorem OccurrenceStep.trans (earlier : OccurrenceStep first second)
    (later : OccurrenceStep second third) : OccurrenceStep first third := by
  refine ⟨?_, fun payload known => later.payload payload (earlier.payload payload known)⟩
  intro settled
  have same := earlier.settled settled
  rw [same] at later
  exact later.settled settled

theorem occurrenceStep_apply (text : OccurrenceText) (call : AutomationCall)
    (found : db.occurrences.find? id = some slot) :
    ∃ later, (db.apply text call).occurrences.find? id = some later /\
      OccurrenceStep slot later := by
  have replaced : ∀ {old updated : RecurringOccurrence},
      db.occurrences.find? old.id = some old -> updated.id = old.id -> old.state = .pending ->
      KeepsPayload old updated.resolvedPayload ->
      ∃ later, (db.occurrences.replace updated).find? id = some later /\
        OccurrenceStep slot later := by
    intro old updated oldFound same pending payload
    rw [find?_replace_occurrence oldFound same]
    by_cases here : id = old.id
    · rw [here, oldFound] at found
      cases found
      exact ⟨updated, if_pos here, fun settled => absurd pending settled, payload⟩
    · exact ⟨slot, by rw [if_neg here]; exact found, .refl slot⟩
  cases apply_effect text call db with
  | quiet quiet =>
    have evolved := quiet.rows id
    rw [found] at evolved
    rcases evolved with ⟨later, laterFound, step⟩
    refine ⟨later, laterFound, ?_⟩
    cases step with
    | same => exact .refl slot
    | closed state now pending =>
      exact ⟨fun settled => absurd pending settled, fun _ known => known⟩
  | attempt input _ effect =>
    generalize db.apply text call = after at effect
    cases effect with
    | unchanged => exact ⟨slot, found, .refl slot⟩
    | refused old updated oldFound pending same _ payload =>
      exact replaced oldFound (by rw [same]) pending payload
    | replayed _ _ _ legal _ _ same payload
    | admitted _ _ _ legal _ _ _ _ same payload =>
      exact replaced legal.found (by rw [same]) legal.pending payload
  | queue change same =>
    rw [same]
    cases change <;> exact ⟨slot, found, .refl slot⟩

theorem occurrenceStep_run (text : OccurrenceText) (calls : List AutomationCall)
    (found : db.occurrences.find? id = some slot) :
    ∃ later, (runCalls (apply text) calls db).occurrences.find? id = some later /\
      OccurrenceStep slot later := by
  refine runCalls_invariant (fun state : AutomationDb => ∃ later,
    state.occurrences.find? id = some later /\ OccurrenceStep slot later) ?_
    ⟨slot, found, .refl slot⟩
  rintro call _ state ⟨later, laterFound, step⟩
  rcases occurrenceStep_apply text call laterFound with ⟨final, finalFound, last⟩
  exact ⟨final, finalFound, step.trans last⟩

/-! ## Promises -/

/-- What holds of the occurrences of a database and of everything that may
happen to it. -/
structure AdmissionPromises (text : OccurrenceText) (db : AutomationDb) : Prop where
  /-- At most three attempts, numbered consecutively. -/
  attempts : ∀ id occurrence, db.occurrences.find? id = some occurrence ->
    occurrence.attempts.length <= 3 /\
      occurrence.attempts.map (·.number) = List.range' 1 occurrence.attempts.length
  /-- An accepted occurrence has exactly one entry, with its three identities. -/
  entry : ∀ id occurrence, db.occurrences.find? id = some occurrence ->
    occurrence.state = .admissionAccepted ->
    ∃ entry, db.ownQueues occurrence = [entry] /\ IsEntryOf occurrence entry /\
      occurrence.queueEntryId = some entry.queueEntryId /\
      occurrence.turnId = some entry.input.turnId
  /-- Another occurrence has no entry. -/
  noEntry : ∀ id occurrence, db.occurrences.find? id = some occurrence ->
    occurrence.state ≠ .admissionAccepted -> db.ownQueues occurrence = []
  /-- What left the pending state never changes. -/
  settled : ∀ id occurrence, db.occurrences.find? id = some occurrence ->
    occurrence.state ≠ .pending -> ∀ calls,
      (runCalls (apply text) calls db).occurrences.find? id = some occurrence
  /-- A resolved payload never changes. -/
  frozen : ∀ id occurrence payload, db.occurrences.find? id = some occurrence ->
    occurrence.resolvedPayload = some payload -> ∀ calls, ∃ later,
      (runCalls (apply text) calls db).occurrences.find? id = some later /\
        later.resolvedPayload = some payload
  /-- An occurrence is accepted by an attempt inside its window, under the active
  revision that it captured, while no other accepted one of its schedule is
  queued. -/
  accepts : ∀ call id later, (db.apply text call).occurrences.find? id = some later ->
    later.state = .admissionAccepted ->
    db.occurrences.find? id = some later \/
      ∃ input occurrence, call = .attempt input /\ occurrence.id = id /\
        IsAdmissible db occurrence input.timestamp /\
        ∀ other, db.occurrences.find? other.id = some other ->
          other.scheduleId = occurrence.scheduleId -> other.state = .admissionAccepted ->
          ∀ entry, db.entries.find? other.requestId = some entry -> entry.status ≠ .queued

include admissions

theorem not_queued_of_not_waiting {other : RecurringOccurrence}
    (alone : db.isWaiting slot = false)
    (occurrenceFound : db.occurrences.find? slot.id = some slot)
    (pending : slot.state = .pending) (found : db.occurrences.find? other.id = some other)
    (same : other.scheduleId = slot.scheduleId) (accepted : other.state = .admissionAccepted)
    (entryFound : db.entries.find? other.requestId = some entry) : entry.status ≠ .queued := by
  intro queued
  have differs : other.id ≠ slot.id := by
    intro sameId
    rw [sameId, occurrenceFound] at found
    cases found
    rw [pending] at accepted
    cases accepted
  have waiting := any_eq_false.mp alone other (mem_of_find? found)
  have entryId := (admissions.accepted _ other found accepted).2.1
  simp [same, differs, accepted, entryId, entryFound, queued] at waiting

theorem Admissions.accepts (text : OccurrenceText) {call : AutomationCall}
    {later : RecurringOccurrence} (found : (db.apply text call).occurrences.find? id = some later)
    (accepted : later.state = .admissionAccepted) : db.occurrences.find? id = some later \/
      ∃ input slot, call = .attempt input /\ slot.id = id /\
        IsAdmissible db slot input.timestamp /\ db.isWaiting slot = false := by
  cases apply_effect text call db with
  | quiet quiet => exact .inl (quiet.accepted_before found accepted)
  | queue change same =>
    rw [same] at found
    refine .inl ?_
    cases change <;> exact found
  | attempt input isAttempt effect =>
    generalize db.apply text call = after at effect found
    cases effect with
    | unchanged => exact .inl found
    | refused slot updated oldFound _ same other =>
      rw [find?_replace_occurrence oldFound (by rw [same])] at found
      split at found
      · cases found
        exact absurd accepted other
      · exact .inl found
    | replayed slot updated entry legal own =>
      have nothing := admissions.ownQueues_nil legal.found (by simp [legal.pending])
      rw [nothing] at own
      cases own
    | admitted slot updated entry legal _ alone _ _ same =>
      rw [find?_replace_occurrence legal.found (by rw [same])] at found
      split at found
      next here => exact .inr ⟨input, slot, isAttempt, here.symm, legal, alone⟩
      next => exact .inl found

theorem Admissions.promises (text : OccurrenceText) : AdmissionPromises text db where
  attempts id slot found :=
    ⟨(admissions.numbered id slot found).bound, (admissions.numbered id slot found).numbers⟩
  entry id slot found accepted := by
    have found := find?_keyOf found
    rcases admissions.ownQueues_single found accepted with ⟨entry, own, isEntry⟩
    rcases (admissions.accepted _ slot found accepted).2 with ⟨queue, turn⟩
    exact ⟨entry, own, isEntry, by rw [queue, isEntry.queueEntryId], by rw [turn, isEntry.turnId]⟩
  noEntry id slot found other := admissions.ownQueues_nil (find?_keyOf found) other
  settled id slot found settled calls := by
    rcases occurrenceStep_run text calls found with ⟨later, laterFound, step⟩
    rw [laterFound, step.settled settled]
  frozen id slot payload found known calls := by
    rcases occurrenceStep_run text calls found with ⟨later, laterFound, step⟩
    exact ⟨later, laterFound, step.payload payload known⟩
  accepts call id later found accepted := by
    rcases admissions.accepts text found accepted with before | ⟨input, slot, attempt, here, legal, alone⟩
    · exact .inl before
    · refine .inr ⟨input, slot, attempt, here, legal, ?_⟩
      intro other otherFound same otherAccepted entry entryFound
      exact not_queued_of_not_waiting admissions alone legal.found legal.pending
        otherFound same otherAccepted entryFound

omit admissions

/-- After every history the promises hold of the occurrences and of whatever may
follow. -/
theorem recurring_occurrence_admitted_once (text : OccurrenceText) (calls : List AutomationCall) :
    AdmissionPromises text (runCalls (apply text) calls .empty) := by
  have admissions : Admissions (runCalls (apply text) calls .empty) := by
    refine runCalls_invariant Admissions ?_ ?_
    · exact fun call _ _ admissions => admissions.apply text call
    · refine ⟨?_, ?_, ?_⟩
      · intro id occurrence found
        cases found
      · intro entry member
        cases member
      · intro id occurrence found
        cases found
  exact admissions.promises text

end Automations
end OpenKit
