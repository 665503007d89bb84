import OpenKit.Automations.Selection

namespace OpenKit
namespace Automations

open Foundation Table List
open AutomationDb

/-!
# Every scheduled instant is accounted once

A resume opens an episode of a schedule and a pause or deletion ends it.  Inside
an episode the instants of the cadence before the cursor are accounted, each by
one occurrence or by one expired range.  The cursor moves in two ways only: past
one published instant and past one expired prefix.  `Accounted` is kept by both,
and the scan, the seal and the definition changes are made of them.

An ended episode is accounted up to the time of the mutation and also up to the
cursor that it found: clocks may run backwards, and then a scan may have been
ahead of the mutation.
-/

variable {time at_ : Int} {text : OccurrenceText}

/-! ## Coverage -/

def ExpiredOccurrenceRange.covers (range : ExpiredOccurrenceRange) (instant : Int) : Bool :=
  range.cadence.isInstant range.firstScheduledAt instant && instant <= range.lastScheduledAt

namespace AutomationDb

def individual (db : AutomationDb) (id : String) (instant : Int) : Nat :=
  db.occurrences.rows.countP (fun row => row.id = ⟨id, instant⟩)

/-- The expired ranges of an instant. -/
def missed (db : AutomationDb) (id : String) (instant : Int) : Nat :=
  db.ranges.countP (fun range => range.scheduleId = id && range.covers instant)

/-- How often an instant is covered. -/
def covered (db : AutomationDb) (id : String) (instant : Int) : Nat :=
  db.individual id instant + db.missed id instant

end AutomationDb

/-- The end of an episode: the cursor that the mutation found and its time. -/
structure EpisodeEnd where
  cursor : Option Int
  at_ : Int
deriving DecidableEq

/-- A stretch in which a schedule was active. -/
structure Episode where
  cadence : AutomationCadence
  start : Int
  ended : Option EpisodeEnd
deriving DecidableEq

/-- The instants that an episode accounts for while the cursor of its schedule
stands somewhere. -/
def Episode.accounts (episode : Episode) (cursor : Option Int) (instant : Int) : Bool :=
  episode.cadence.isInstant episode.start instant &&
    match episode.ended with
    | none => isBefore cursor instant
    | some stop => isBefore stop.cursor instant || instant <= stop.at_

/-- A mutation ends the open episode. -/
def Episode.close (stop : EpisodeEnd) (episode : Episode) : Episode :=
  { episode with ended := some (episode.ended.getD stop) }

/-- What is true of a schedule, its episodes and how often instants are
covered. -/
structure Accounted (schedule : AutomationRecord) (episodes : List Episode)
    (covered : Int -> Nat) : Prop where
  /-- Exactly the accounted instants are covered, and they are covered once. -/
  once : ∀ instant, covered instant =
    if episodes.any (·.accounts schedule.nextScheduledAt instant) then 1 else 0
  /-- Covered instants are not later than the greatest accounted one. -/
  greatest : ∀ instant, covered instant ≠ 0 ->
    ∃ last, schedule.greatestAccountedScheduledAt = some last /\ instant <= last
  /-- The cursor is later. -/
  later : ∀ next, schedule.nextScheduledAt = some next ->
    ∀ last, schedule.greatestAccountedScheduledAt = some last -> last < next
  /-- An active schedule has one open episode, and its cursor stands on it. -/
  active : schedule.status = .active -> ∃ closed start,
    episodes = closed ++ [⟨schedule.cadence, start, none⟩] /\ (∀ other ∈ closed, other.ended ≠ none) /\
      ∀ next, schedule.nextScheduledAt = some next -> schedule.cadence.isInstant start next
  /-- Another schedule has no cursor and only ended episodes. -/
  inactive : schedule.status ≠ .active ->
    schedule.nextScheduledAt = none /\ ∀ other ∈ episodes, other.ended ≠ none

theorem any_accounts_ended {past : List Episode} (ended : ∀ other ∈ past, other.ended ≠ none)
    (first second : Option Int) (time : Int) :
    past.any (·.accounts first time) = past.any (·.accounts second time) := by
  induction past with
  | nil => rfl
  | cons episode rest ih =>
    have same : episode.accounts first time = episode.accounts second time := by
      unfold Episode.accounts
      cases stop : episode.ended with
      | none => exact absurd stop (ended episode mem_cons_self)
      | some => rfl
    rw [any_cons, any_cons, ih (fun other mem => ended other (mem_cons_of_mem _ mem)), same]

/-! ## The cursor moves -/

variable {cadence : AutomationCadence} {cursor : Option Int} {first last : Int}

/-- The stretch from the cursor to a last instant, and the cursor behind it. -/
def IsStretch (cadence : AutomationCadence) (first last : Int) (cursor : Option Int) : Prop :=
  ∀ start, cadence.isInstant start first ->
    first <= last /\ cadence.isInstant start last /\
      IsSuccessor (cadence.isInstant start ·) last cursor

theorem nextRecurringNominal_isSuccessor {start : Int} (mem : cadence.isInstant start time)
    (next : nextRecurringNominal cadence time = .ok cursor) :
    IsSuccessor (cadence.isInstant start ·) time cursor := by
  rcases nextOrNull_isSuccessor mem with ⟨found, nextIs, successor⟩
  have same : found = cursor := Except.ok.inj (nextIs.symm.trans next)
  rwa [same] at successor

theorem isStretch_initial {through : Int} {coverage : RecurringNominalPrefix}
    (covers : recurringPrefixThrough cadence first through = .ok (some coverage))
    (next : nextRecurringNominal cadence coverage.last = .ok cursor) :
    IsStretch cadence first coverage.last cursor := by
  intro start mem
  rcases recurringPrefixThrough_ok mem covers with ⟨never, _⟩ | ⟨found, same, le, prefixOf⟩
  · cases never
  · cases same
    exact ⟨le, prefixOf.last, nextRecurringNominal_isSuccessor prefixOf.last next⟩

/-- The instants of a stretch are covered once more and the cursor moves behind
them. -/
theorem Accounted.pass {schedule : AutomationRecord} {past : List Episode}
    {covered later : Int -> Nat} (accounted : Accounted schedule past covered)
    (active : schedule.status = .active) (standing : schedule.nextScheduledAt = some first)
    (stretch : IsStretch schedule.cadence first last cursor)
    (more : ∀ time, later time = covered time +
      if schedule.cadence.isInstant first time /\ time <= last then 1 else 0) :
    Accounted (passed schedule last cursor) past later := by
  rcases accounted.active active with ⟨closed, start, rfl, ended, mem⟩
  have firstMember := mem first standing
  rcases stretch start firstMember with ⟨firstLe, lastMember, successor⟩
  have fromFirst := fun time => isInstant_from firstMember time
  -- what is covered already lies before the stretch
  have before : ∀ time, covered time ≠ 0 -> time < first := by
    intro time isCovered
    rcases accounted.greatest time isCovered with ⟨greatest, found, le⟩
    have lt := accounted.later first standing greatest found
    omega
  refine ⟨?_, ?_, ?_, ?_, ?_⟩
  · intro time
    have once := accounted.once time
    rw [standing, any_append, any_accounts_ended ended _ cursor] at once
    rw [more]
    change _ = if (closed ++ [_]).any (·.accounts cursor time) then 1 else 0
    rw [any_append]
    simp only [any_cons, any_nil, Bool.or_false, Episode.accounts] at once ⊢
    by_cases belongs : schedule.cadence.isInstant start time
    · rw [belongs, Bool.true_and] at once ⊢
      have behind := successor.isBefore_iff belongs
      by_cases inside : first <= time /\ time <= last
      · have fresh : covered time = 0 := by
          by_contra isCovered
          have := before time isCovered
          omega
        have isNew : schedule.cadence.isInstant first time /\ time <= last :=
          ⟨(fromFirst time).mpr ⟨belongs, inside.1⟩, inside.2⟩
        rw [if_pos isNew, fresh, behind.mpr inside.2, Bool.or_true, if_pos rfl]
      · have notNew : ¬(schedule.cadence.isInstant first time /\ time <= last) := by
          rintro ⟨isInstant, le⟩
          exact inside ⟨((fromFirst time).mp isInstant).2, le⟩
        have same : isBefore (some first) time = isBefore cursor time := by
          rw [Bool.eq_iff_iff, isBefore_some, behind]
          omega
        rw [if_neg notNew, Nat.add_zero, once, same]
    · have notNew : ¬(schedule.cadence.isInstant first time /\ time <= last) := by
        rintro ⟨isInstant, _⟩
        exact belongs ((fromFirst time).mp isInstant).1
      rw [Bool.not_eq_true] at belongs
      rw [belongs, Bool.false_and] at once ⊢
      rw [if_neg notNew, Nat.add_zero, once]
  · intro time isCovered
    refine ⟨last, rfl, ?_⟩
    rw [more] at isCovered
    by_cases isNew : schedule.cadence.isInstant first time /\ time <= last
    · exact isNew.2
    · rw [if_neg isNew, Nat.add_zero] at isCovered
      have := before time isCovered
      omega
  · intro next nextIs greatest found
    cases found
    exact successor.above next nextIs
  · intro _
    exact ⟨closed, start, rfl, ended, fun next nextIs => successor.member next nextIs⟩
  · intro inactive
    exact absurd active inactive

/-! ## The database -/

variable {past : String -> List Episode} {db second third before after : AutomationDb}
  {id : String} {slot : RecurringOccurrence}

/-- Every schedule is accounted, and nothing else is covered. -/
def AccountedDb (db : AutomationDb) (episodes : String -> List Episode) : Prop :=
  ∀ id, match db.schedules.find? id with
    | some schedule => Accounted schedule (episodes id) (db.covered id)
    | none => (∀ instant, db.covered id instant = 0) /\ episodes id = []

theorem AccountedDb.schedule {schedule : AutomationRecord} (accounted : AccountedDb db past)
    (found : db.schedules.find? id = some schedule) :
    Accounted schedule (past id) (db.covered id) := by
  have here := accounted id
  rw [found] at here
  exact here

/-- Only one schedule was written. -/
structure OnlyAt (id : String) (before after : AutomationDb) : Prop where
  schedules : ∀ other, other ≠ id -> after.schedules.find? other = before.schedules.find? other
  covered : ∀ other, other ≠ id -> ∀ instant, after.covered other instant = before.covered other instant

theorem OnlyAt.refl (id : String) (db : AutomationDb) : OnlyAt id db db :=
  ⟨fun _ _ => rfl, fun _ _ _ => rfl⟩

theorem OnlyAt.trans {first : AutomationDb} (earlier : OnlyAt id first second)
    (later : OnlyAt id second third) : OnlyAt id first third where
  schedules other differs := (later.schedules other differs).trans (earlier.schedules other differs)
  covered other differs time :=
    (later.covered other differs time).trans (earlier.covered other differs time)

/-- The schedule that was written is accounted, so all are. -/
theorem AccountedDb.of_onlyAt {later : String -> List Episode} {schedule : AutomationRecord}
    (accounted : AccountedDb before past) (only : OnlyAt id before after)
    (same : ∀ other, other ≠ id -> later other = past other)
    (found : after.schedules.find? id = some schedule)
    (here : Accounted schedule (later id) (after.covered id)) : AccountedDb after later := by
  intro other
  by_cases isHere : other = id
  · subst isHere
    rw [found]
    exact here
  · have there := accounted other
    have sameCovered : after.covered other = before.covered other :=
      funext (only.covered other isHere)
    rw [only.schedules other isHere, same other isHere, sameCovered]
    exact there

/-! ## Accounting the expired prefix -/

variable {updated : AutomationRecord}

/-- The cursor went on, over instants that were due. -/
structure Moved (timestamp : Int) (before after : AutomationRecord) : Prop where
  record : ∃ greatest next, after =
    { before with greatestAccountedScheduledAt := greatest, nextScheduledAt := next }
  keeps : ∀ instant, isBefore before.nextScheduledAt instant ->
    isBefore after.nextScheduledAt instant
  due : ∀ start, (∀ next, before.nextScheduledAt = some next ->
      before.cadence.isInstant start next) ->
    (∀ next, after.nextScheduledAt = some next -> before.cadence.isInstant start next) /\
      ∀ instant, before.cadence.isInstant start instant ->
        isBefore after.nextScheduledAt instant ->
        isBefore before.nextScheduledAt instant \/ instant <= timestamp

theorem Moved.refl (now : Int) (schedule : AutomationRecord) : Moved now schedule schedule :=
  ⟨⟨_, _, rfl⟩, fun _ before => before, fun _ mem => ⟨mem, fun _ _ before => .inl before⟩⟩

theorem Moved.same {now : Int} {first second : AutomationRecord} (moved : Moved now first second) :
    second.id = first.id /\ second.status = first.status /\ second.cadence = first.cadence := by
  rcases moved.record with ⟨_, _, rfl⟩
  exact ⟨rfl, rfl, rfl⟩

theorem Moved.trans {now : Int} {first second third : AutomationRecord}
    (earlier : Moved now first second) (later : Moved now second third) :
    Moved now first third := by
  rcases earlier.record with ⟨greatest, next, rfl⟩
  refine ⟨?_, ?_, ?_⟩
  · rcases later.record with ⟨greatest', next', rfl⟩
    exact ⟨greatest', next', rfl⟩
  · exact fun time before => later.keeps time (earlier.keeps time before)
  · intro start mem
    rcases earlier.due start mem with ⟨middle, dueFirst⟩
    rcases later.due start middle with ⟨final, dueSecond⟩
    refine ⟨final, ?_⟩
    intro time belongs before
    rcases dueSecond time belongs before with between | le
    · exact dueFirst time belongs between
    · exact .inr le

theorem moved_passed {now : Int} {schedule : AutomationRecord}
    (standing : schedule.nextScheduledAt = some first)
    (stretch : IsStretch schedule.cadence first last cursor) (le : last <= now)
    (known : ∃ start, schedule.cadence.isInstant start first) :
    Moved now schedule (passed schedule last cursor) := by
  refine ⟨⟨_, _, rfl⟩, ?_, ?_⟩
  · intro time before
    rw [standing, isBefore_some] at before
    rcases known with ⟨start, mem⟩
    rcases stretch start mem with ⟨firstLe, _, successor⟩
    change isBefore cursor time
    cases cursorIs : cursor with
    | none => rfl
    | some next =>
      rw [isBefore_some]
      have := successor.above next cursorIs
      omega
  · intro start mem
    rcases stretch start (mem first standing) with ⟨_, _, successor⟩
    refine ⟨fun next nextIs => successor.member next nextIs, ?_⟩
    intro time belongs before
    have reached := (successor.isBefore_iff belongs).mp before
    exact .inr (by omega)

structure CursorStep (timestamp : Int) (episodes : String -> List Episode) (before : AutomationDb)
    (schedule : AutomationRecord) (after : AutomationDb) (updated : AutomationRecord) : Prop where
  accounted : AccountedDb after episodes
  found : after.schedules.find? schedule.id = some updated
  moved : Moved timestamp schedule updated
  only : OnlyAt schedule.id before after

theorem CursorStep.trans {now : Int} {first : AutomationDb} {schedule middle : AutomationRecord}
    (earlier : CursorStep now past first schedule second middle)
    (later : CursorStep now past second middle third updated) :
    CursorStep now past first schedule third updated := by
  have found := later.found
  have only := later.only
  rw [earlier.moved.same.1] at found only
  exact ⟨later.accounted, found, earlier.moved.trans later.moved, earlier.only.trans only⟩

section Passing

variable {schedule : AutomationRecord} {now : Int}

variable (accounted : AccountedDb before past)
  (found : before.schedules.find? schedule.id = some schedule)

include accounted found

theorem cursorStep_passed (active : schedule.status = .active)
    (standing : schedule.nextScheduledAt = some first)
    (stretch : IsStretch schedule.cadence first last cursor) (le : last <= now)
    (wrote : after.schedules = before.schedules.replace (passed schedule last cursor))
    (more : ∀ id time, after.covered id time = before.covered id time +
      if id = schedule.id /\ schedule.cadence.isInstant first time /\ time <= last
      then 1 else 0) :
    CursorStep now past before schedule after (passed schedule last cursor) := by
  have here := accounted.schedule found
  have nowFound : after.schedules.find? schedule.id = some (passed schedule last cursor) := by
    rw [wrote, find?_replace, found]
    exact if_pos rfl
  have only : OnlyAt schedule.id before after := by
    refine ⟨?_, ?_⟩
    · intro other differs
      rw [wrote, find?_replace]
      exact if_neg differs
    · intro other differs time
      rw [more, if_neg (differs ·.1), Nat.add_zero]
  refine ⟨accounted.of_onlyAt only (fun _ _ => rfl) nowFound ?_, nowFound, ?_, only⟩
  · refine here.pass active standing stretch ?_
    intro time
    rw [more]
    simp only [true_and]
  · rcases here.active active with ⟨_, start, _, _, mem⟩
    exact moved_passed standing stretch le ⟨start, mem first standing⟩

theorem accounting_cursorStep (active : schedule.status = .active)
    (accounting : Accounting before schedule now updated after) :
    CursorStep now past before schedule after updated := by
  cases accounting with
  | live => exact ⟨accounted, found, .refl _ _, .refl _ _⟩
  | expired first coverage next standing due covers advances =>
    rcases (accounted.schedule found).active active with ⟨_, start, _, _, mem⟩
    have through : coverage.last <= now := by
      rcases recurringPrefixThrough_ok (mem first standing) covers with
        ⟨never, _⟩ | ⟨_, same, _, prefixOf⟩
      · cases never
      cases same
      have := prefixOf.reached
      unfold recurringDeadlineMs at this
      omega
    refine cursorStep_passed accounted found active standing (isStretch_initial covers advances)
      through rfl ?_
    intro id time
    unfold covered individual missed
    rw [countP_append, countP_singleton, Nat.add_assoc]
    congr 2
    refine if_congr ?_ rfl rfl
    change (schedule.id = id && (schedule.cadence.isInstant first time &&
      time <= coverage.last)) <-> _
    rw [Bool.and_eq_true, Bool.and_eq_true, decide_eq_true_eq, decide_eq_true_eq]
    exact and_congr_left' eq_comm

theorem cursorStep_occurrence (active : schedule.status = .active)
    (standing : schedule.nextScheduledAt = some at_) (le : at_ <= now)
    (identity : slot.id = ⟨schedule.id, at_⟩)
    (free : before.occurrences.find? slot.id = none) (advanced : advanceRecurringSchedule
      { before with occurrences := before.occurrences.insert slot } schedule at_ =
        .ok (updated, after)) : CursorStep now past before schedule after updated := by
  rcases advanceRecurringSchedule_ok advanced with ⟨next, advances, rfl, rfl⟩
  have stretch : IsStretch schedule.cadence at_ at_ next :=
    fun _ mem => ⟨le_refl _, mem, nextRecurringNominal_isSuccessor mem advances⟩
  refine cursorStep_passed accounted found active standing stretch le rfl ?_
  rcases (accounted.schedule found).active active with ⟨_, start, _, _, mem⟩
  have self : schedule.cadence.isInstant at_ at_ :=
    (isInstant_from (mem at_ standing) at_).mpr ⟨mem at_ standing, le_refl _⟩
  intro id time
  change (before.occurrences.insert slot).rows.countP _ + before.missed id time = _
  rw [rows_insert free, countP_append, countP_singleton, Nat.add_right_comm]
  simp only [decide_eq_true_eq]
  congr 1
  rw [identity]
  by_cases here : id = schedule.id /\ time = at_
  · rcases here with ⟨rfl, rfl⟩
    rw [if_pos rfl, if_pos ⟨rfl, self, le_refl _⟩]
  rw [if_neg, if_neg]
  · rintro ⟨sameId, isInstant, upper⟩
    have lower := ((isInstant_from (mem at_ standing) time).mp isInstant).2
    exact here ⟨sameId, le_antisymm upper lower⟩
  · intro same
    cases same
    exact here ⟨rfl, rfl⟩

/-! ## Seals -/

omit accounted found in
/-- The seal passes every due instant. -/
theorem sealInstants_ok (fuel : Nat) :
    ∀ {before after : AutomationDb} {schedule updated : AutomationRecord},
    AccountedDb before past -> before.schedules.find? schedule.id = some schedule ->
    schedule.status = .active ->
    (∀ next, schedule.nextScheduledAt = some next -> now + 1 - next <= fuel) ->
    sealInstants now fuel schedule.nextScheduledAt schedule before = .ok (updated, after) ->
    CursorStep now past before schedule after updated /\
      ∀ next, updated.nextScheduledAt = some next -> now < next := by
  induction fuel with
  | zero =>
    intro before after schedule updated accounted found active enough ok
    cases ok
    refine ⟨⟨accounted, found, .refl _ _, .refl _ _⟩, ?_⟩
    intro next standing
    have := enough next standing
    omega
  | succ fuel ih =>
    intro before after schedule updated accounted found active enough ok
    cases standing : schedule.nextScheduledAt with
    | none =>
      rw [standing] at ok
      cases ok
      refine ⟨⟨accounted, found, .refl _ _, .refl _ _⟩, ?_⟩
      rw [standing]
      nofun
    | some at_ =>
      rw [standing] at ok
      unfold sealInstants at ok
      split at ok
      next due =>
        rcases bind_inv ok with ⟨⟨_, inserted⟩, finishes, ok⟩
        rcases bind_inv ok with ⟨⟨middle, wrote⟩, advanced, ok⟩
        rcases bind_inv ok with ⟨next, nextIs, ok⟩
        rcases finishRecurringOccurrence_insert finishes with ⟨free, rfl⟩
        have step : CursorStep now past before schedule wrote middle :=
          cursorStep_occurrence accounted found active standing due rfl free advanced
        rcases advanceRecurringSchedule_ok advanced with ⟨cursor, advances, rfl, _⟩
        have same : next = cursor := Except.ok.inj ((nominal_ok nextIs).symm.trans advances)
        subst same
        have nowActive : (passed schedule at_ next).status = .active := active
        have nowFound : wrote.schedules.find? (passed schedule at_ next).id =
            some (passed schedule at_ next) := step.found
        have again := ih step.accounted nowFound nowActive ?_ ok
        · exact ⟨step.trans again.1, again.2⟩
        · -- the cursor went up, so less fuel is enough
          intro later laterIs
          rcases (accounted.schedule found).active active with ⟨_, start, _, _, mem⟩
          have up := (nextRecurringNominal_isSuccessor (mem at_ standing) advances).above
            later laterIs
          have := enough at_ standing
          omega
      · cases ok
        refine ⟨⟨accounted, found, .refl _ _, .refl _ _⟩, ?_⟩
        intro next nextIs
        rw [standing] at nextIs
        cases nextIs
        omega

theorem sealDue_ok (active : schedule.status = .active)
    (ok : before.sealDue schedule now = .ok (updated, after)) :
    CursorStep now past before schedule after updated /\
      ∀ next, updated.nextScheduledAt = some next -> now < next := by
  unfold sealDue at ok
  split at ok
  · rcases bind_inv ok with ⟨⟨middle, between⟩, accounts, ok⟩
    have step := accounting_cursorStep accounted found active
      (accountRecurringExpiredPrefix_ok accounts)
    have same := step.moved.same
    have nowFound := step.found
    rw [<- same.1] at nowFound
    have sealed := sealInstants_ok _ step.accounted nowFound (same.2.1.trans active) ?_ ok
    · exact ⟨step.trans sealed.1, sealed.2⟩
    · intro next standing
      rw [standing]
      exact Int.self_le_toNat _
  next ended =>
    cases ok
    refine ⟨⟨accounted, found, .refl _ _, .refl _ _⟩, ?_⟩
    intro next standing
    exact absurd ⟨active, by rw [standing]; rfl⟩ ended

structure SameCoverage (before after : AutomationDb) : Prop where
  schedules : ∀ id, after.schedules.find? id = before.schedules.find? id
  covered : ∀ id instant, after.covered id instant = before.covered id instant

omit accounted found

theorem SameCoverage.refl (db : AutomationDb) : SameCoverage db db :=
  ⟨fun _ => rfl, fun _ _ => rfl⟩

theorem SameCoverage.trans {first : AutomationDb} (earlier : SameCoverage first second)
    (later : SameCoverage second third) : SameCoverage first third where
  schedules id := (later.schedules id).trans (earlier.schedules id)
  covered id time := (later.covered id time).trans (earlier.covered id time)

theorem SameCoverage.onlyAt (same : SameCoverage before after) (id : String) :
    OnlyAt id before after :=
  ⟨fun other _ => same.schedules other, fun other _ => same.covered other⟩

include accounted

theorem AccountedDb.of_same (same : SameCoverage before after) : AccountedDb after past := by
  intro id
  have here := accounted id
  rw [same.schedules, funext (same.covered id)]
  exact here

omit accounted

theorem sameCoverage_replace (db : AutomationDb) (slot : RecurringOccurrence) :
    SameCoverage db { db with occurrences := db.occurrences.replace slot } := by
  refine ⟨fun _ => rfl, ?_⟩
  intro id time
  refine congrArg (· + _) (countP_replace ?_)
  intro old found
  rw [keyOf_of_find? found]

/-- How an update or a deletion changed its schedule. -/
inductive DefinitionChange (timestamp : Int) (resume : Option Int) (episodes : String -> List Episode)
    (before : AutomationDb) (schedule : AutomationRecord) :
    AutomationDb -> AutomationRecord -> Prop
  | sealed (between : AutomationDb) (middle final : AutomationRecord)
      (active : schedule.status = .active)
      (step : CursorStep timestamp episodes before schedule between middle)
      (live : ∀ next, middle.nextScheduledAt = some next -> timestamp < next)
      (cleared : final.nextScheduledAt = none) (inactive : final.status ≠ .active)
      (kept : final.greatestAccountedScheduledAt = middle.greatestAccountedScheduledAt) :
      DefinitionChange timestamp resume episodes before schedule between final
  | edited (between : AutomationDb) (final : AutomationRecord)
      (inactive : schedule.status ≠ .active) (same : SameCoverage before between)
      (cleared : final.nextScheduledAt = none) (still : final.status ≠ .active)
      (kept : final.greatestAccountedScheduledAt = schedule.greatestAccountedScheduledAt) :
      DefinitionChange timestamp resume episodes before schedule between final
  | opened (final : AutomationRecord) (instant : Int) (asked : resume = some instant)
      (inactive : schedule.status ≠ .active) (active : final.status = .active)
      (standing : final.nextScheduledAt = some instant)
      (member : final.cadence.isInstant instant instant)
      (kept : final.greatestAccountedScheduledAt = schedule.greatestAccountedScheduledAt)
      (later : ∀ last, schedule.greatestAccountedScheduledAt = some last -> last < instant) :
      DefinitionChange timestamp resume episodes before schedule before final

variable {final : AutomationRecord}

include accounted found

/-- A seal ends the episode of an active schedule.  Of another one it only
cancels occurrences. -/
theorem sealRecurringSchedule_change {resume : Option Int}
    (ok : before.sealRecurringSchedule schedule now = .ok (updated, after))
    (sameId : final.id = updated.id) (cleared : final.nextScheduledAt = updated.nextScheduledAt)
    (still : updated.status = .paused -> final.status ≠ .active)
    (kept : final.greatestAccountedScheduledAt = updated.greatestAccountedScheduledAt) :
    final.id = schedule.id /\
      DefinitionChange now resume past before schedule after final := by
  rcases bind_inv ok with ⟨⟨middle, between⟩, sealed, ok⟩
  rcases bind_inv ok with ⟨cancelled, cancels, ok⟩
  cases ok
  have same : SameCoverage between after :=
    foldlM_invariant (SameCoverage between) cancels
      (fun _ _ _ _ stepped earlier => earlier.trans
        (cancelPending_ok stepped ▸ sameCoverage_replace _ _)) (.refl between)
  by_cases active : schedule.status = .active
  · rcases sealDue_ok accounted found active sealed with ⟨step, live⟩
    refine ⟨sameId.trans step.moved.same.1, .sealed after middle final active ⟨?_, ?_, ?_, ?_⟩ live
      cleared (still rfl) kept⟩
    · exact step.accounted.of_same same
    · rw [same.schedules]
      exact step.found
    · exact step.moved
    · exact step.only.trans (same.onlyAt _)
  · unfold sealDue at sealed
    rw [if_neg (active ·.1)] at sealed
    cases sealed
    exact ⟨sameId, .edited after final active same cleared (still rfl) kept⟩

omit accounted found

/-! ## Definitions -/

/-- The episode ends at a mutation that found a cursor and left none that is
due. -/
theorem Accounted.closed {base sealed : AutomationRecord} {past : List Episode}
    {covered : Int -> Nat} (accounted : Accounted sealed past covered)
    (moved : Moved now base sealed) (mem : ∃ start, (∀ other ∈ past, other.ended = none ->
        other = ⟨base.cadence, start, none⟩) /\ ∀ next, base.nextScheduledAt = some next ->
        base.cadence.isInstant start next)
    (live : ∀ next, sealed.nextScheduledAt = some next -> now < next)
    (cleared : final.nextScheduledAt = none) (inactive : final.status ≠ .active)
    (kept : final.greatestAccountedScheduledAt = sealed.greatestAccountedScheduledAt) :
    Accounted final (past.map (Episode.close ⟨base.nextScheduledAt, now⟩)) covered := by
  rcases mem with ⟨start, isOpen, standing⟩
  have due := (moved.due start standing).2
  have same : ∀ episode ∈ past, ∀ time,
      (episode.close ⟨base.nextScheduledAt, now⟩).accounts none time =
        episode.accounts sealed.nextScheduledAt time := by
    intro episode inside time
    cases ended : episode.ended with
    | some =>
      unfold Episode.accounts Episode.close
      rw [ended]
      rfl
    | none =>
      rw [isOpen episode inside ended]
      unfold Episode.accounts Episode.close
      dsimp only [Option.getD_none]
      by_cases belongs : base.cadence.isInstant start time
      · rw [belongs, Bool.true_and, Bool.true_and, Bool.eq_iff_iff, Bool.or_eq_true,
          decide_eq_true_eq]
        constructor
        · rintro (before | le)
          · exact moved.keeps time before
          · cases cursor : sealed.nextScheduledAt with
            | none => rfl
            | some next =>
              rw [isBefore_some]
              have := live next cursor
              omega
        · exact due time belongs
      · rw [Bool.not_eq_true] at belongs
        rw [belongs, Bool.false_and, Bool.false_and]
  refine ⟨?_, ?_, ?_, ?_, ?_⟩
  · intro time
    have mapped : (past.map (Episode.close ⟨base.nextScheduledAt, now⟩)).any
          (·.accounts none time) =
        past.any (·.accounts sealed.nextScheduledAt time) := by
      rw [any_map, Bool.eq_iff_iff, any_eq_true, any_eq_true]
      refine exists_congr ?_
      intro episode
      refine and_congr_right ?_
      intro inside
      rw [Function.comp_apply, same episode inside time]
    rw [accounted.once, cleared, mapped]
  · intro time isCovered
    rw [kept]
    exact accounted.greatest time isCovered
  · rw [cleared]
    nofun
  · intro never
    exact absurd never inactive
  · intro _
    refine ⟨cleared, ?_⟩
    intro other inside
    rcases mem_map.mp inside with ⟨_, _, rfl⟩
    nofun

/-- A change of an inactive schedule that keeps it inactive. -/
theorem Accounted.edited {past : List Episode} {covered : Int -> Nat}
    (accounted : Accounted schedule past covered) (inactive : schedule.status ≠ .active)
    (cleared : final.nextScheduledAt = none) (still : final.status ≠ .active)
    (kept : final.greatestAccountedScheduledAt = schedule.greatestAccountedScheduledAt) :
    Accounted final past covered := by
  rcases accounted.inactive inactive with ⟨noCursor, ended⟩
  refine ⟨?_, ?_, ?_, fun never => absurd never still, fun _ => ⟨cleared, ended⟩⟩
  · intro time
    rw [accounted.once, noCursor, cleared]
  · intro time isCovered
    rw [kept]
    exact accounted.greatest time isCovered
  · rw [cleared]
    nofun

theorem Accounted.opened {past : List Episode} {covered : Int -> Nat}
    (accounted : Accounted schedule past covered) (inactive : schedule.status ≠ .active)
    (active : final.status = .active) (standing : final.nextScheduledAt = some at_)
    (mem : final.cadence.isInstant at_ at_)
    (kept : final.greatestAccountedScheduledAt = schedule.greatestAccountedScheduledAt)
    (later : ∀ last, schedule.greatestAccountedScheduledAt = some last -> last < at_) :
    Accounted final (past ++ [⟨final.cadence, at_, none⟩]) covered := by
  rcases accounted.inactive inactive with ⟨noCursor, ended⟩
  refine ⟨?_, ?_, ?_, ?_, fun never => absurd active never⟩
  · intro time
    rw [accounted.once, noCursor, standing, any_append, any_accounts_ended ended none (some at_)]
    have nothing : Episode.accounts ⟨final.cadence, at_, none⟩ (some at_) time = false := by
      rw [Bool.eq_false_iff]
      intro accounts
      unfold Episode.accounts at accounts
      rw [Bool.and_eq_true] at accounts
      have upper := (isBefore_some _ _).mp accounts.2
      have lower := ((isInstant_from mem time).mp accounts.1).2
      omega
    rw [any_cons, nothing]
    simp
  · intro time isCovered
    rw [kept]
    exact accounted.greatest time isCovered
  · intro next nextIs last lastIs
    rw [standing] at nextIs
    cases nextIs
    exact later last (kept ▸ lastIs)
  · intro _
    refine ⟨past, at_, rfl, ended, ?_⟩
    intro next nextIs
    rw [standing] at nextIs
    cases nextIs
    exact mem

/-! ## Scans -/

def SameStatus (before after : AutomationDb) : Prop :=
  ∀ id, (after.schedules.find? id).map (·.status) = (before.schedules.find? id).map (·.status)

include found

theorem CursorStep.sameStatus (step : CursorStep now past before schedule after updated) :
    SameStatus before after := by
  intro id
  by_cases here : id = schedule.id
  · subst here
    rw [step.found, found]
    rcases step.moved.record with ⟨_, _, rfl⟩
    rfl
  · rw [step.only.schedules id here]

/-- What is left to publish of a schedule is offered by it. -/
def Offered (timestamp : Int) (db : AutomationDb) (candidates : List ScanCandidate) : Prop :=
  ∀ id schedule, offersOf id candidates ≠ [] -> db.schedules.find? id = some schedule ->
    schedule.status = .active /\ IsOffer timestamp schedule (offersOf id candidates)

omit found

theorem AccountedDb.standing (accounted : AccountedDb db past)
    (found : db.schedules.find? id = some schedule) (active : schedule.status = .active)
    (next : Int) (standing : schedule.nextScheduledAt = some next) :
    ∃ start, schedule.cadence.isInstant start next := by
  rcases (accounted.schedule found).active active with ⟨_, start, _, _, mem⟩
  exact ⟨start, mem next standing⟩

include accounted

theorem publishCandidate_ok {candidate : ScanCandidate} {rest : List ScanCandidate}
    (offered : Offered now before (candidate :: rest))
    (ok : publishCandidate now before candidate = .ok after) :
    AccountedDb after past /\ SameStatus before after /\ Offered now after rest := by
  unfold publishCandidate at ok
  cases occurrenceId : candidate.occurrenceId with
  | some id =>
    rw [occurrenceId] at ok
    rcases bind_inv ok with ⟨_, _, ok⟩
    cases ok
    refine ⟨accounted, fun _ => rfl, ?_⟩
    intro id schedule nonempty found
    have same := @offersOf_cons_of_ne id candidate rest (by simp [occurrenceId])
    rw [<- same] at nonempty ⊢
    exact offered id schedule nonempty found
  | none =>
    rw [occurrenceId] at ok
    simp only [bind_eq_ok_iff] at ok
    rcases ok with
      ⟨schedule, required, ⟨middle, between⟩, accounts, inserted, writes, ⟨updated, advanced⟩,
        advances, ok⟩
    cases ok
    have hit := requireSchedule_ok required
    have sameId : schedule.id = candidate.scheduleId := keyOf_of_find? hit
    have found := find?_keyOf hit
    have offers := offersOf_cons candidate rest occurrenceId
    rcases offered candidate.scheduleId schedule (by rw [offers]; exact cons_ne_nil _ _) hit with
      ⟨active, cursor, live, follows, bound⟩
    rw [offers] at follows bound
    have accounting := accountRecurringExpiredPrefix_ok accounts
    have first := accounting_cursorStep accounted found active accounting
    have sameMiddle := first.moved.same
    rcases accounting.cursor live (accounted.standing found active) with ⟨cursorIs, late⟩
    have standing : middle.nextScheduledAt = some candidate.at_ := cursorIs.trans follows.1
    have due : candidate.at_ <= now := bound _ mem_cons_self
    rcases writeRecurringOccurrence_insert writes with ⟨free, rfl⟩
    have middleFound : between.schedules.find? middle.id = some middle := by
      rw [sameMiddle.1]
      exact first.found
    have second : CursorStep now past between middle advanced updated :=
      cursorStep_occurrence first.accounted middleFound (sameMiddle.2.1.trans active) standing due
        rfl free advances
    have step := first.trans second
    refine ⟨step.accounted, step.sameStatus found, ?_⟩
    intro id other nonempty otherFound
    by_cases here : id = schedule.id
    · -- the cursor went on to the next offer
      subst here
      rw [step.found] at otherFound
      cases otherFound
      rcases advanceRecurringSchedule_ok advances with ⟨next, nextIs, rfl, _⟩
      have sameNext : nextOf schedule.cadence candidate.at_ = next := by
        unfold nextOf
        rw [<- sameMiddle.2.2, nextIs]
      have followsNext : Follows (nextOf schedule.cadence) next (offersOf schedule.id rest) := by
        rw [sameId, <- sameNext]
        exact follows.2
      have nextLive : ∃ later, next = some later /\ now - recurringDeadlineMs < later := by
        cases offersIs : offersOf schedule.id rest with
        | nil => exact absurd offersIs nonempty
        | cons later =>
          rw [offersIs] at followsNext
          have up : candidate.at_ < later := nextOf_up (sameNext.trans followsNext.1)
          have := late candidate.at_ follows.1
          exact ⟨later, followsNext.1, by omega⟩
      rcases nextLive with ⟨later, laterIs, lateNext⟩
      refine ⟨sameMiddle.2.1.trans active, some later, .live later laterIs lateNext, ?_, ?_⟩
      · change Follows (nextOf middle.cadence) (some later) (offersOf schedule.id rest)
        rw [sameMiddle.2.2, <- laterIs]
        exact followsNext
      · intro time mem
        rw [sameId] at mem
        exact bound time (mem_cons_of_mem _ mem)
    · have same := @offersOf_cons_of_ne id candidate rest
        (fun both => here (both.1.symm.trans sameId.symm))
      rw [<- same] at nonempty ⊢
      refine offered id other nonempty ?_
      rw [<- step.only.schedules id here]
      exact otherFound

omit accounted

theorem publishAll_ok (candidates : List ScanCandidate) :
    ∀ {before after : AutomationDb}, AccountedDb before past ->
    Offered now before candidates ->
    candidates.foldlM (publishCandidate now) before = .ok after ->
    AccountedDb after past /\ SameStatus before after := by
  induction candidates with
  | nil =>
    intro before after accounted _ ok
    cases ok
    exact ⟨accounted, fun _ => rfl⟩
  | cons other rest ih =>
    intro before after accounted offered ok
    rcases bind_inv ok with ⟨middle, shown, ok⟩
    rcases publishCandidate_ok accounted offered shown with ⟨next, status, stillOffered⟩
    rcases ih next stillOffered ok with ⟨final, later⟩
    exact ⟨final, fun id => (later id).trans (status id)⟩

include accounted

theorem accountExpired_ok (ok : accountExpired now before id = .ok after) :
    AccountedDb after past /\ SameStatus before after := by
  rcases bind_inv ok with ⟨schedule, required, ok⟩
  rcases bind_inv ok with ⟨⟨updated, wrote⟩, accounts, ok⟩
  cases ok
  have hit := find?_keyOf (requireSchedule_ok required)
  have accounting := accountRecurringExpiredPrefix_ok accounts
  by_cases active : schedule.status = .active
  · have step := accounting_cursorStep accounted hit active accounting
    exact ⟨step.accounted, step.sameStatus hit⟩
  -- a schedule that is not active has no cursor
  have noCursor := ((accounted.schedule hit).inactive active).1
  cases accounting with
  | live => exact ⟨accounted, fun _ => rfl⟩
  | expired first _ _ standing =>
    rw [noCursor] at standing
    cases standing

theorem applyAutomationScanner_ok {expected : AutomationScanPlan} {workspaceIds : List String}
    (ok : before.applyAutomationScanner text now expected workspaceIds = .ok after) :
    AccountedDb after past /\ SameStatus before after := by
  simp only [applyAutomationScanner, bind_eq_ok_iff] at ok
  rcases ok with
    ⟨plan, planned, _, _, _, _, selection, selected, shown, publishes, expired, expires, ok⟩
  rcases readScanPlan_due planned with ⟨distinct, rows⟩
  have dueActive : ∀ schedule ∈ plan.due, schedule.status = .active := by
    intro schedule mem
    have due := (rows schedule mem).2
    unfold AutomationRecord.isDue at due
    rw [Bool.and_eq_true, decide_eq_true_eq] at due
    exact due.1
  have offered : Offered now before selection.selected := by
    intro id schedule nonempty found
    rcases selectAutomationScan_offers distinct (fun schedule mem => (rows schedule mem).2)
        (fun schedule mem => accounted.standing (rows schedule mem).1 (dueActive schedule mem))
        selected id with nothing | ⟨other, mem, same, offer⟩
    · exact absurd nothing nonempty
    have otherFound := (rows other mem).1
    rw [same, found] at otherFound
    cases otherFound
    exact ⟨dueActive schedule mem, offer⟩
  rcases publishAll_ok _ accounted offered publishes with ⟨first, firstStatus⟩
  have same : SameCoverage shown expired :=
    foldlM_invariant (SameCoverage shown) expires
      (fun _ _ _ _ stepped earlier =>
        have ⟨_, _, closed⟩ := expireStale_ok stepped
        earlier.trans (closed ▸ sameCoverage_replace _ _)) (.refl shown)
  have last := foldlM_invariant
    (fun state => AccountedDb state past /\ SameStatus expired state) ok
    (fun _ _ _ _ stepped earlier =>
      have next := accountExpired_ok earlier.1 stepped
      ⟨next.1, fun id => (next.2 id).trans (earlier.2 id)⟩)
    ⟨first.of_same same, fun _ => rfl⟩
  refine ⟨last.1, ?_⟩
  intro id
  rw [last.2 id, same.schedules id, firstStatus id]

end Passing

/-! ## Histories with their episodes -/

variable {call : AutomationCall}

def AutomationCall.timestamp : AutomationCall -> Int
  | .create _ _ _ timestamp => timestamp
  | .update _ _ timestamp => timestamp
  | .delete _ timestamp => timestamp
  | .publish timestamp _ _ => timestamp
  | .attempt input => input.timestamp
  | .queue _ => 0

def AutomationCall.resumeInstant? : AutomationCall -> Option Int
  | .update _ input _ => input.scheduledAt.map (·.instant)
  | _ => none

def isActive (schedule : Option AutomationRecord) : Bool :=
  schedule.any (·.status = .active)

/-- The episodes of a schedule after a call: it becomes active at the instant of
the resume, and stops being active with the cursor that the call found. -/
def observed (call : AutomationCall) (before after : Option AutomationRecord)
    (episodes : List Episode) : List Episode :=
  match after with
  | none => episodes
  | some schedule =>
    if !isActive before && isActive after then
      episodes ++ [⟨schedule.cadence, call.resumeInstant?.getD 0, none⟩]
    else if isActive before && !isActive after then
      episodes.map (Episode.close ⟨before.bind (·.nextScheduledAt), call.timestamp⟩)
    else episodes

/-- A database and the episodes of its schedules so far. -/
structure AutomationHistory where
  db : AutomationDb
  episodes : String -> List Episode

namespace AutomationHistory

def empty : AutomationHistory where
  db := .empty
  episodes _ := []

def apply (text : OccurrenceText) (call : AutomationCall) (history : AutomationHistory) :
    AutomationHistory where
  db := history.db.apply text call
  episodes id := observed call (history.db.schedules.find? id)
    ((history.db.apply text call).schedules.find? id) (history.episodes id)

end AutomationHistory

theorem observed_of_same {before after : Option AutomationRecord} {past : List Episode}
    (same : isActive after = isActive before) : observed call before after past = past := by
  unfold observed
  rw [same]
  cases after <;> cases isActive before <;> rfl

theorem isActive_of_status {before after : Option AutomationRecord}
    (same : after.map (·.status) = before.map (·.status)) : isActive after = isActive before := by
  cases before <;> cases after <;> simp_all [isActive]

/-! ## Definition changes -/

theorem DefinitionChange.accounted (call : AutomationCall) {between : AutomationDb}
    {schedule : AutomationRecord} (accounted : AccountedDb before past)
    (found : before.schedules.find? schedule.id = some schedule) (sameId : final.id = schedule.id)
    (change : DefinitionChange call.timestamp call.resumeInstant? past before schedule between final) :
    AccountedDb { between with schedules := between.schedules.replace final }
      (fun id => observed call (before.schedules.find? id)
        (({ between with schedules := between.schedules.replace final } : AutomationDb).schedules.find? id)
        (past id)) := by
  have wrote : OnlyAt schedule.id between
      { between with schedules := between.schedules.replace final } := by
    refine ⟨?_, fun _ _ _ => rfl⟩
    intro other differs
    rw [find?_replace]
    exact if_neg (fun here => differs (here.trans sameId))
  have here := accounted.schedule found
  have present : ∀ {row : AutomationRecord}, between.schedules.find? schedule.id = some row ->
      (between.schedules.replace final).find? schedule.id = some final := by
    intro row inside
    rw [find?_replace, sameId, inside]
    exact if_pos rfl
  have unobserved : OnlyAt schedule.id before between -> ∀ other, other ≠ schedule.id ->
      observed call (before.schedules.find? other) ((between.schedules.replace final).find? other)
        (past other) = past other := by
    intro only other differs
    refine observed_of_same ?_
    have same := (only.trans wrote).schedules other differs
    exact congrArg isActive same
  cases change with
  | «sealed» _ middle _ active step live cleared inactive kept =>
    have nowFound := present step.found
    refine accounted.of_onlyAt (step.only.trans wrote) (unobserved step.only) nowFound ?_
    have closes : observed call (before.schedules.find? schedule.id)
        ((between.schedules.replace final).find? schedule.id) (past schedule.id) =
        (past schedule.id).map (Episode.close ⟨schedule.nextScheduledAt, call.timestamp⟩) := by
      rw [nowFound, found]
      simp [observed, isActive, active, inactive]
    rw [closes]
    rcases here.active active with ⟨closed, start, episodesAre, ended, mem⟩
    refine (step.accounted.schedule step.found).closed step.moved ⟨start, ?_, mem⟩ live cleared
      inactive kept
    intro other inside isOpen
    rw [episodesAre, mem_append, mem_singleton] at inside
    rcases inside with old | new
    · exact absurd isOpen (ended other old)
    · exact new
  | edited _ _ inactive same cleared still kept =>
    have only := same.onlyAt schedule.id
    have nowFound := present (by rw [same.schedules]; exact found)
    refine accounted.of_onlyAt (only.trans wrote) (unobserved only) nowFound ?_
    have stays : observed call (before.schedules.find? schedule.id)
        ((between.schedules.replace final).find? schedule.id) (past schedule.id) =
        past schedule.id := by
      refine observed_of_same ?_
      rw [nowFound, found]
      simp [isActive, inactive, still]
    rw [stays]
    have covered : AutomationDb.covered
        { between with schedules := between.schedules.replace final } schedule.id =
        before.covered schedule.id := funext (same.covered schedule.id)
    rw [covered]
    exact here.edited inactive cleared still kept
  | opened _ time asked inactive active standing mem kept later =>
    have nowFound := present found
    refine accounted.of_onlyAt ((OnlyAt.refl _ _).trans wrote) (unobserved (.refl _ _)) nowFound ?_
    have opens : observed call (before.schedules.find? schedule.id)
        ((before.schedules.replace final).find? schedule.id) (past schedule.id) =
        past schedule.id ++ [⟨final.cadence, time, none⟩] := by
      rw [nowFound, found]
      simp [observed, isActive, active, inactive, asked]
    rw [opens]
    exact here.opened inactive active standing mem kept later

theorem resumed_ok {schedule : AutomationRecord} {scheduledAt : Option AuthoredInstant}
    {now : Int} (ok : resumed schedule scheduledAt now = .ok updated) :
    ∃ authored, scheduledAt = some authored /\ schedule.status = .paused /\
      schedule.cadence.isInstant authored.instant authored.instant /\
      (∀ last, schedule.greatestAccountedScheduledAt = some last -> last < authored.instant) /\
      updated = { schedule with
        status := .active, nextScheduledAt := some authored.instant } := by
  rcases bind_inv ok with ⟨_, paused, ok⟩
  cases scheduledAt with
  | none => cases ok
  | some authored =>
    rcases bind_inv ok with ⟨fits, matched, ok⟩
    rcases bind_inv ok with ⟨_, fresh, ok⟩
    rcases bind_inv ok with ⟨_, _, ok⟩
    cases ok
    rw [refuse_eq_ok_iff] at fresh
    simp only [Bool.or_eq_false_iff] at fresh
    have isFit : fits := by simpa using fresh.1.1.1
    rw [isFit] at matched
    refine ⟨authored, rfl, by simpa using paused, isInstant_self (nominal_ok matched), ?_, rfl⟩
    intro last lastIs
    have above := fresh.2
    rw [lastIs] at above
    simpa using above

theorem updateAutomationDefinition_ok {input : UpdateAutomationRequest} {now : Int}
    (accounted : AccountedDb before past)
    (ok : before.updateAutomationDefinition id input now = .ok (updated, after)) :
    ∃ schedule between, before.schedules.find? schedule.id = some schedule /\
      updated.id = schedule.id /\
      DefinitionChange now (input.scheduledAt.map (·.instant)) past before schedule between
        updated /\ after = { between with schedules := between.schedules.replace updated } := by
  simp only [updateAutomationDefinition, bind_eq_ok_iff] at ok
  rcases ok with ⟨schedule, required, _, current, _, asked, _, editable, ⟨middle, between⟩, mutates,
    wrote, writes, ok⟩
  have found := find?_keyOf (requireAutomationDefinition_ok required)
  cases ok
  have sameAfter := (writeRecurringSchedule_update writes).2
  refine ⟨schedule, between, found, ?_⟩
  unfold mutated at mutates
  split at mutates
  · cases resumes : resumed schedule input.scheduledAt now with
    | error =>
      rw [resumes] at mutates
      cases mutates
    | ok =>
      rw [resumes] at mutates
      cases mutates
      rcases resumed_ok resumes with ⟨authored, authoredIs, paused, mem, later, rfl⟩
      refine ⟨rfl, ?_, sameAfter⟩
      exact .opened _ authored.instant (by rw [authoredIs]; rfl) (by rw [paused]; nofun) rfl rfl
        mem rfl later
  next notResumed =>
    rcases bind_inv mutates with ⟨_, _, mutates⟩
    rcases bind_inv mutates with ⟨⟨sealed, sealedDb⟩, seals, mutates⟩
    rcases bind_inv mutates with ⟨_, _, mutates⟩
    rcases bind_inv mutates with ⟨_, _, mutates⟩
    cases mutates
    unfold sealIfPaused at seals
    split at seals
    · refine and_assoc.mp ⟨?_, sameAfter⟩
      exact sealRecurringSchedule_change accounted found seals rfl rfl
        (fun paused active => nomatch paused.symm.trans active) rfl
    · -- a change without a status is an edit of a paused schedule
      rename_i notPaused
      cases seals
      have noStatus : input.status = none := by
        cases status : input.status with
        | none => rfl
        | some requested =>
          cases requested with
          | paused => exact absurd status notPaused
          | active => exact absurd status notResumed
      rw [refuse_eq_ok_iff, noStatus] at asked
      have editing : decide (input.edits ≠ .none) := by simpa using asked
      rw [refuse_eq_ok_iff, editing, Bool.true_and, Bool.or_eq_false_iff] at editable
      have paused : schedule.status = .paused := by simpa using editable.1
      have inactive : schedule.status ≠ .active := by
        rw [paused]
        nofun
      have cleared := ((accounted.schedule found).inactive inactive).1
      exact ⟨rfl, .edited before _ inactive (.refl before) cleared inactive rfl, sameAfter⟩

theorem deleteAutomationDefinition_ok {now : Int} (accounted : AccountedDb before past)
    (ok : before.deleteAutomationDefinition id now = .ok after) : after = before \/
      ∃ schedule between final, before.schedules.find? schedule.id = some schedule /\
        final.id = schedule.id /\
        DefinitionChange now none past before schedule between final /\
        after = { between with schedules := between.schedules.replace final } := by
  rcases bind_inv ok with ⟨schedule, required, ok⟩
  have found := find?_keyOf (requireAutomationDefinition_ok required)
  split at ok
  · cases ok
    exact .inl rfl
  rcases bind_inv ok with ⟨⟨sealed, between⟩, seals, writes⟩
  have sameAfter := (writeRecurringSchedule_update writes).2
  have buried : (tombstone sealed now).id = schedule.id /\
      DefinitionChange now none past before schedule between
        (tombstone sealed now) :=
    sealRecurringSchedule_change accounted found seals rfl rfl (fun _ => nofun) rfl
  exact .inr ⟨schedule, between, tombstone sealed now, found, buried.1, buried.2, sameAfter⟩

/-! ## Every history -/

theorem AutomationDb.AttemptEffect.sameCoverage {now : Int}
    (effect : AttemptEffect before now after) : SameCoverage before after := by
  cases effect with
  | unchanged => exact .refl before
  | refused _ updated | replayed _ updated => exact sameCoverage_replace before updated
  | admitted _ updated =>
    have same := sameCoverage_replace before updated
    exact ⟨same.schedules, same.covered⟩

theorem accountedDb_observed (accounted : AccountedDb after past)
    (same : SameStatus before after) : AccountedDb after (fun id =>
      observed call (before.schedules.find? id) (after.schedules.find? id) (past id)) := by
  have unobserved : (fun id => observed call (before.schedules.find? id) (after.schedules.find? id)
      (past id)) = past :=
    funext (fun id => observed_of_same (isActive_of_status (same id)))
  rw [unobserved]
  exact accounted

theorem accounted_transact (accounted : AccountedDb before past)
    (ok : before.transact text call = .ok after) : AccountedDb after (fun id =>
      observed call (before.schedules.find? id) (after.schedules.find? id) (past id)) := by
  have still : ∀ {later : AutomationDb}, SameCoverage before later ->
      AccountedDb later (fun id =>
        observed call (before.schedules.find? id) (later.schedules.find? id) (past id)) := by
    intro later same
    refine accountedDb_observed (accounted.of_same same) ?_
    intro id
    rw [same.schedules]
  cases call with
  | create userId id input now =>
    rcases exists_of_map_ok ok with ⟨⟨record, _⟩, created, rfl⟩
    rcases createAutomationDefinition_ok created with ⟨paused, cleared, nothing, free, rfl⟩
    intro other
    dsimp only
    rw [find?_insert_of_free free]
    by_cases here : other = record.id
    · subst here
      have absent := accounted record.id
      rw [free] at absent
      rw [if_pos rfl, free]
      have stays : observed (.create userId id input now) none (some record)
          (past record.id) = [] := by
        rw [observed_of_same (by simp [isActive, paused]), absent.2]
      rw [stays]
      refine ⟨absent.1, ?_, ?_, ?_, ?_⟩
      · intro time isCovered
        exact absurd (absent.1 time) isCovered
      · rw [cleared]
        nofun
      · rw [paused]
        nofun
      · exact fun _ => ⟨cleared, by simp⟩
    · rw [if_neg here, observed_of_same rfl]
      exact accounted other
  | update id input now =>
    rcases exists_of_map_ok ok with ⟨⟨updated, _⟩, updates, rfl⟩
    rcases updateAutomationDefinition_ok accounted updates with
      ⟨schedule, between, found, sameId, change, rfl⟩
    exact change.accounted (.update id input now) accounted found sameId
  | delete id now =>
    rcases deleteAutomationDefinition_ok accounted ok with
      rfl | ⟨schedule, between, final, found, sameId, change, rfl⟩
    · exact still (.refl _)
    · exact change.accounted (.delete id now) accounted found sameId
  | publish =>
    rcases applyAutomationScanner_ok accounted ok with ⟨next, status⟩
    exact accountedDb_observed next status
  | attempt =>
    rcases exists_of_map_ok ok with ⟨⟨result, _⟩, attempts, rfl⟩
    exact still (applyNativeRecurringAttempt_ok attempts).sameCoverage
  | queue change =>
    cases ok
    refine still ?_
    cases change <;> exact ⟨fun _ => rfl, fun _ _ => rfl⟩

theorem accounted_apply (text : OccurrenceText) (call : AutomationCall) (history : AutomationHistory)
    (accounted : AccountedDb history.db history.episodes) :
    AccountedDb (history.apply text call).db (history.apply text call).episodes := by
  unfold AutomationHistory.apply AutomationDb.apply
  cases transacted : history.db.transact text call with
  | ok => exact accounted_transact accounted transacted
  | error => exact accountedDb_observed accounted (fun _ => rfl)

/-- After every history each instant of an episode that its cursor or its end has
passed is covered once, nothing else is covered, and the cursor is a later instant
of the open episode. -/
theorem every_instant_accounted_once (text : OccurrenceText) (calls : List AutomationCall) :
    AccountedDb (runCalls (AutomationHistory.apply text) calls .empty).db
      (runCalls (AutomationHistory.apply text) calls .empty).episodes := by
  refine runCalls_invariant (fun history : AutomationHistory => AccountedDb history.db history.episodes) ?_ ?_
  · exact fun call _ history accounted => accounted_apply text call history accounted
  · exact fun id => ⟨fun _ => rfl, rfl⟩

/-! ## A clock that runs backwards -/

def minuteSchedule : CreateAutomationRequest where
  workspaceId := "w"
  name := "n"
  threadId := "t"
  prompt := "p"
  cadence := .intervalSeconds ⟨60, by decide⟩
  selections := ⟨none, none, none⟩

def statusChange (revision : Nat) (status : RequestedStatus) (scheduledAt : Option AuthoredInstant) :
    UpdateAutomationRequest where
  expectedRevision := revision
  status := some status
  scheduledAt := scheduledAt
  edits := .none

/-- Creates a schedule, resumes it after a minute, publishes that minute and
pauses at an earlier time. -/
def earlyPause (text : OccurrenceText) : AutomationDb :=
  let active := runCalls (AutomationDb.apply text)
    [.create "u" "a" minuteSchedule 0,
      .update "a" (statusChange 1 .active (some ⟨60000, false⟩)) 0] .empty
  match active.readScanPlan text 100000 with
  | .ok plan =>
    runCalls (AutomationDb.apply text)
      [.publish 100000 plan ["w"], .update "a" (statusChange 2 .paused none) 50000] active
  | .error _ => active

/-- The pause is recorded before an instant that was covered already. -/
theorem instant_after_pause_is_covered : ((earlyPause (fun _ => "")).schedules.find? "a").map
        (fun schedule => (schedule.status, schedule.updatedAt)) = some (.paused, 50000) /\
      (earlyPause (fun _ => "")).covered "a" 60000 = 1 := by
  decide +kernel

end Automations
end OpenKit
