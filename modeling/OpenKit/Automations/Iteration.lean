import Mathlib.Order.Interval.Set.Nat
import OpenKit.Automations.Cadence

namespace OpenKit
namespace Automations

open Foundation AutomationCadence

/-!
# The closed form of a prefix is the iterated cadence

`recurringPrefixThrough` counts the missed instants of an outage by a division of
elapsed time or of month numbers.  The rule it has to agree with moves one instant
at a time.  Both walk the same ladder: the rungs of a cadence are its instants in
an unbounded calendar, and the four-digit years cut it off.

The closed form is total on the instants of a cadence, its count is the number of
iterated instants up to the cutoff, and a prefix continues where another one
stopped.
-/

variable {monthly : MonthlyUtcSchedule} {first : Int} {cadence : AutomationCadence}

section Rungs

variable {index : Nat} (on : recurringNominalMatches cadence first = .ok true)
  (valid : IsSupported (cadence.rung first index))

include on valid

theorem matches_rung : recurringNominalMatches cadence (cadence.rung first index) = .ok true :=
  recurringNominalMatches_of_instant ((isInstant_iff_rung on _).mpr ⟨valid, index, rfl⟩)

/-- The ladder from a rung on is the rest of the ladder. -/
theorem rung_rung (more : Nat) :
    cadence.rung (cadence.rung first index) more = cadence.rung first (index + more) := by
  cases cadence with
  | intervalSeconds =>
    unfold rung
    push_cast
    rw [add_mul, add_assoc]
  | monthlyUtc =>
    rcases monthly_of_matches on with ⟨month, inside, rfl⟩
    rw [rung_monthly inside] at valid ⊢
    rw [rung_monthly ((isSupported_monthly_iff _ _).mp valid), rung_monthly inside, add_assoc]

/-! ## The cursor walks the rungs -/

theorem nextOrNull_rung : nextOrNull cadence (cadence.rung first index) =
      .ok (rungCursor (cadence.rung first) IsSupported (index + 1)) := by
  have mem := (isInstant_iff_rung on _).mpr ⟨valid, index, rfl⟩
  rw [nextOrNull_of_instant mem, endOrNext_successor (matches_rung on valid)]
  unfold rungCursor
  rw [rung_rung on valid]

end Rungs

variable (on : recurringNominalMatches cadence first = .ok true)

/-- The instants that the advancing rule visits from a first one on. -/
def nominalSequence (cadence : AutomationCadence) (first : Int) : Nat -> Option Int :=
  walk (fun instant => (advanceRecurringNominal cadence instant).toOption) first

variable {time : Int}

theorem toOption_advance {cursor : Option Int} (next : nextOrNull cadence time = .ok cursor) :
    (advanceRecurringNominal cadence time).toOption = cursor := by
  unfold nextOrNull at next
  split at next
  next successor advanced =>
    cases next
    rw [advanced]
    rfl
  next advanced =>
    cases next
    rw [advanced]
    rfl
  next => cases next

include on

theorem nominalSequence_eq_rungCursor (index : Nat) :
    nominalSequence cadence first index = rungCursor (cadence.rung first) IsSupported index := by
  have start : IsSupported (cadence.rung first 0) := by
    rw [rung_zero on]
    exact supported_of_matches on
  have walked : walk (fun time => (advanceRecurringNominal cadence time).toOption)
      (cadence.rung first 0) index = rungCursor (cadence.rung first) IsSupported index :=
    walk_eq_rungCursor start (rung_supported_of_le on)
      (fun _ valid => toOption_advance (nextOrNull_rung on valid)) index
  rwa [rung_zero on] at walked

/-! ## The closed form finds its rung -/

variable {through : Int} {index : Nat}

/-- The coverage of a ladder up to one of its rungs. -/
def rungPrefix (cadence : AutomationCadence) (first : Int) (index : Nat) : RecurringNominalPrefix where
  count := index + 1
  last := cadence.rung first index
  next := rungCursor (cadence.rung first) IsSupported (index + 1)

/-- The coverage up to the rung that a cutoff lies on or above. -/
structure CutsAt (cadence : AutomationCadence) (first through : Int) (index : Nat) : Prop where
  reached : cadence.rung first index <= through
  beyond : through < cadence.rung first (index + 1)

theorem CutsAt.supported (cuts : CutsAt cadence first through index)
    (valid : IsSupported through) : IsSupported (cadence.rung first index) := by
  have start := supported_of_matches on
  have above := (rung_strictMono on).monotone (Nat.zero_le index)
  have below := cuts.reached
  rw [rung_zero on] at above
  unfold IsSupported at *
  omega

theorem CutsAt.unique {other : Nat} (cuts : CutsAt cadence first through index)
    (also : CutsAt cadence first through other) : index = other := by
  have left := (rung_le_cutoff_iff (rung_strictMono on) also.reached also.beyond index).mp cuts.reached
  have right := (rung_le_cutoff_iff (rung_strictMono on) cuts.reached cuts.beyond other).mp also.reached
  omega

omit on

theorem intervalPrefix_cuts {interval : IntervalSeconds}
    (on : recurringNominalMatches (.intervalSeconds interval) first = .ok true)
    (valid : IsSupported through) (le : first <= through) :
    ∃ index, CutsAt (.intervalSeconds interval) first through index /\
      intervalPrefix interval first through = .ok (rungPrefix (.intervalSeconds interval) first index) := by
  have start := supported_of_matches on
  have positive : (0 : Int) < interval.step := by exact_mod_cast interval.step_pos
  by_cases unsafeStep : maxSafeInteger < interval.step
  · -- one step is longer than the calendar
    have far : 253402300799999 < first + (interval.step : Int) := by
      unfold maxSafeInteger at unsafeStep
      unfold IsSupported at start
      omega
    have ended : rungCursor (rung (.intervalSeconds interval) first) IsSupported 1 =
        none := by
      rw [rungCursor_eq_none_iff]
      unfold rung IsSupported
      dsimp only
      omega
    refine ⟨0, ⟨?_, ?_⟩, ?_⟩
    · rw [rung_zero on]
      exact le
    · unfold rung
      unfold IsSupported at valid
      dsimp only
      omega
    · unfold intervalPrefix rungPrefix
      rw [if_pos unsafeStep, rung_zero on, ended]
      rfl
  · let times := (through - first) / (interval.step : Int)
    have up : 0 <= times := Int.ediv_nonneg (by omega) positive.le
    have below : times * interval.step <= through - first := Int.ediv_mul_le _ positive.ne'
    have above : through - first < (times + 1) * interval.step :=
      Int.lt_ediv_add_one_mul_self _ positive
    have count : (times.toNat : Int) = times := Int.toNat_of_nonneg up
    have cuts : CutsAt (.intervalSeconds interval) first through times.toNat := by
      constructor
      · unfold rung
        dsimp only
        rw [count]
        omega
      · unfold rung
        push_cast
        rw [count]
        omega
    have inside := cuts.supported on valid
    have last : first + (times + 1 - 1) * (interval.step : Int) =
        rung (.intervalSeconds interval) first times.toNat := by
      unfold rung
      rw [count, add_sub_cancel_right]
    have step : intervalStep interval = .ok interval.step := by
      exact if_pos (not_lt.mp unsafeStep)
    rcases checkedDate_of_supported inside with ⟨date, checked, _⟩
    refine ⟨times.toNat, cuts, ?_⟩
    unfold intervalPrefix
    rw [if_neg unsafeStep, step]
    change (checkedDate (first + (times + 1 - 1) * (interval.step : Int)) >>= _) = _
    rw [last, checked]
    rw [nextOrNull_rung on inside]
    unfold rungPrefix
    rw [count]
    rfl

theorem monthlyPrefix_cuts (on : recurringNominalMatches (.monthlyUtc monthly) first = .ok true)
    (valid : IsSupported through) (le : first <= through) :
    ∃ index, CutsAt (.monthlyUtc monthly) first through index /\
      monthlyPrefix monthly first through = .ok (rungPrefix (.monthlyUtc monthly) first index) := by
  rcases monthly_of_matches on with ⟨month, inside, rfl⟩
  rcases checkedDate_of_supported valid with ⟨date, checked, found⟩
  have throughIs : monthIndex through = .ok date.month := by
    unfold monthIndex
    rw [checked]
    rfl
  rcases monthIndex_ok throughIs with ⟨begun, unfinished, within⟩
  -- the month of the last rung, by the correction step
  have chosen : ∃ lastMonth : Nat, month <= lastMonth /\ lastMonth < supportedMonths /\
      (if (monthly.date date.month).instant > through then (date.month : Int) - 1 else date.month) =
        lastMonth /\
      (monthly.date lastMonth).instant <= through /\ through < (monthly.date (lastMonth + 1)).instant := by
    by_cases pending : (monthly.date date.month).instant > through
    · have earlier : month < date.month := (monthlyDate_lt_iff monthly _ _).mp (lt_of_le_of_lt le pending)
      have previous : date.month - 1 + 1 = date.month := by omega
      have exceeded := (monthlyDate_within monthly (date.month - 1)).2
      rw [previous] at exceeded
      refine ⟨date.month - 1, by omega, by omega, ?_, by omega, ?_⟩
      · rw [if_pos pending]
        omega
      · rw [previous]
        exact pending
    · have later := (monthlyDate_within monthly (date.month + 1)).1
      have notLater : month <= date.month := by
        refine not_lt.mp (fun before => ?_)
        have first := (monthlyDate_within monthly month).1
        have start : monthStart (date.month + 1) <= monthStart month :=
          monthStart_strictMono.monotone before
        unfold dayMilliseconds epochDay at *
        omega
      refine ⟨date.month, notLater, within, ?_, not_lt.mp pending, by omega⟩
      rw [if_neg pending]
  rcases chosen with ⟨lastMonth, notBefore, lastInside, lastIs, reached, beyond⟩
  have rungIs : ∀ index, rung (.monthlyUtc monthly) (monthly.date month).instant index =
      (monthly.date (month + index)).instant := rung_monthly inside
  have lastRung : month + (lastMonth - month) = lastMonth := by omega
  have nextRung : month + (lastMonth - month + 1) = lastMonth + 1 := by omega
  have cuts : CutsAt (.monthlyUtc monthly) (monthly.date month).instant through (lastMonth - month) := by
    constructor
    · rw [rungIs, lastRung]
      exact reached
    · rw [rungIs, nextRung]
      exact beyond
  have next := nextOrNull_rung on (cuts.supported on valid)
  rw [rungIs, lastRung] at next
  refine ⟨lastMonth - month, cuts, ?_⟩
  unfold monthlyPrefix
  rw [monthIndex_monthly inside, throughIs]
  change (monthlyInstant date.month monthly >>= _) = _
  rw [monthlyInstant_of_supported within]
  change (monthlyInstant (if (monthly.date date.month).instant > through then _ else _) monthly >>= _) = _
  rw [lastIs, monthlyInstant_of_supported lastInside]
  change (nextOrNull _ _ >>= _) = _
  rw [next]
  unfold rungPrefix
  rw [rungIs, lastRung]
  have count : ((lastMonth - month : Nat) : Int) + 1 = lastMonth - month + 1 := by omega
  rw [count, <- lastIs]
  rfl

include on

/-- The closed form is the coverage up to the cutoff's rung. -/
theorem recurringPrefixThrough_cuts (valid : IsSupported through) (le : first <= through) :
    ∃ index, CutsAt cadence first through index /\
      recurringPrefixThrough cadence first through = .ok (some (rungPrefix cadence first index)) := by
  rcases checkedDate_of_supported valid with ⟨date, checked, _⟩
  have notLater : ¬first > through := not_lt.mpr le
  unfold recurringPrefixThrough
  rw [checked, on]
  cases cadence with
  | intervalSeconds =>
    rcases intervalPrefix_cuts on valid le with ⟨index, cuts, found⟩
    refine ⟨index, cuts, ?_⟩
    change (if first > through then _ else _) = _
    rw [if_neg notLater, found]
    rfl
  | monthlyUtc =>
    rcases monthlyPrefix_cuts on valid le with ⟨index, cuts, found⟩
    refine ⟨index, cuts, ?_⟩
    change (if first > through then _ else _) = _
    rw [if_neg notLater, found]
    rfl

theorem recurringPrefixThrough_before (valid : IsSupported through) (later : through < first) :
    recurringPrefixThrough cadence first through = .ok none := by
  rcases checkedDate_of_supported valid with ⟨date, checked, _⟩
  unfold recurringPrefixThrough
  rw [checked, on]
  rw [if_pos later]
  rfl

/-! ## The closed form covers every instant up to its cutoff -/

omit on

/-- A prefix ends with the last instant up to the cutoff and names the next. -/
structure PrefixOf (cadence : AutomationCadence) (start through : Int)
    (coverage : RecurringNominalPrefix) : Prop where
  last : cadence.isInstant start coverage.last
  reached : coverage.last <= through
  beyond : ∀ other, cadence.isInstant start other -> coverage.last < other -> through < other
  next : IsSuccessor (cadence.isInstant start ·) coverage.last coverage.next

variable {start : Int}

theorem CutsAt.covers (cuts : CutsAt cadence first through index)
    (mem : cadence.isInstant start first) (valid : IsSupported through) :
    PrefixOf cadence start through (rungPrefix cadence first index) := by
  have on := recurringNominalMatches_of_instant mem
  have inside := cuts.supported on valid
  have last := (isInstant_from mem _).mp ((isInstant_iff_rung on _).mpr ⟨inside, index, rfl⟩)
  refine ⟨last.1, cuts.reached, ?_, ?_⟩
  · intro other second after
    rcases (isInstant_iff_rung on other).mp ((isInstant_from mem other).mpr
      ⟨second, last.2.trans after.le⟩) with ⟨_, later, rfl⟩
    have above : index + 1 <= later := (rung_strictMono on).lt_iff_lt.mp after
    exact lt_of_lt_of_le cuts.beyond ((rung_strictMono on).monotone above)
  · rcases nextOrNull_isSuccessor last.1 with ⟨cursor, next, successor⟩
    rw [nextOrNull_rung on inside] at next
    cases next
    exact successor

/-- The closed form returns the coverage of every instant up to the cutoff, or
nothing if there is none. -/
theorem recurringPrefixThrough_ok {coverage : Option RecurringNominalPrefix}
    (mem : cadence.isInstant start first)
    (ok : recurringPrefixThrough cadence first through = .ok coverage) :
    (coverage = none /\ through < first) \/
      ∃ found, coverage = some found /\ first <= found.last /\ PrefixOf cadence start through found := by
  have on := recurringNominalMatches_of_instant mem
  have valid : IsSupported through := by
    rcases bind_inv ok with ⟨date, checked, _⟩
    exact supported_of_date (checkedDate_ok checked)
  by_cases later : through < first
  · rw [recurringPrefixThrough_before on valid later] at ok
    cases ok
    exact .inl ⟨rfl, later⟩
  · rcases recurringPrefixThrough_cuts on valid (not_lt.mp later) with ⟨index, cuts, found⟩
    rw [found] at ok
    cases ok
    refine .inr ⟨_, rfl, ?_, cuts.covers mem valid⟩
    have above := (rung_strictMono on).monotone (Nat.zero_le index)
    rwa [rung_zero on] at above

include on

/-! ## Counting by iteration -/

/-- What a prefix has to say about the iterated instants up to a cutoff. -/
structure IteratedPrefix (cadence : AutomationCadence) (first through : Int)
    (coverage : RecurringNominalPrefix) : Prop where
  /-- The number of iterated instants up to the cutoff. -/
  count : coverage.count = Set.ncard
    {index | ∃ instant, nominalSequence cadence first index = some instant /\ instant <= through}
  /-- They are the first ones, and the last of them is named. -/
  last : ∃ index : Nat, coverage.count = index + 1 /\
    nominalSequence cadence first index = some coverage.last /\ coverage.last <= through
  /-- No iterated instant up to the cutoff is later. -/
  final : ∀ index instant, nominalSequence cadence first index = some instant ->
    instant <= through -> instant <= coverage.last
  next : ∀ instant, coverage.next = some instant <->
    advanceRecurringNominal cadence coverage.last = .ok instant
  /-- Without a successor the next rung is outside of the calendar. -/
  ended : coverage.next = none <-> ¬IsSupported (cadence.rung coverage.last 1)

theorem CutsAt.iterated (cuts : CutsAt cadence first through index) (valid : IsSupported through) :
    IteratedPrefix cadence first through (rungPrefix cadence first index) := by
  have inside := cuts.supported on valid
  have upTo := rung_le_cutoff_iff (rung_strictMono on) cuts.reached cuts.beyond
  have sequence := nominalSequence_eq_rungCursor on
  refine ⟨?_, ?_, ?_, ?_, ?_⟩
  · have indices : {other | ∃ time, nominalSequence cadence first other = some time /\
        time <= through} = Set.Iio (index + 1) := by
      ext other
      simp only [Set.mem_ofPred_eq, Set.mem_Iio, sequence, rungCursor_eq_some_iff]
      constructor
      · rintro ⟨_, ⟨_, rfl⟩, le⟩
        exact Nat.lt_succ_of_le ((upTo other).mp le)
      · intro lt
        have le := Nat.le_of_lt_succ lt
        exact ⟨_, ⟨rung_supported_of_le on _ _ le inside, rfl⟩, (upTo other).mpr le⟩
    rw [indices, Set.ncard_Iio_nat]
    rfl
  · refine ⟨index, rfl, ?_, cuts.reached⟩
    rw [sequence]
    exact rungCursor_eq_some_iff.mpr ⟨inside, rfl⟩
  · intro other time visited le
    rw [sequence, rungCursor_eq_some_iff] at visited
    rcases visited with ⟨_, rfl⟩
    exact (rung_strictMono on).monotone ((upTo other).mp le)
  · intro time
    have advanced := toOption_advance (nextOrNull_rung on inside)
    rw [<- toOption_eq_some_iff]
    change _ <-> (advanceRecurringNominal cadence (cadence.rung first index)).toOption = _
    rw [advanced]
    rfl
  · change _ <-> ¬IsSupported (cadence.rung (cadence.rung first index) 1)
    rw [rung_rung on inside]
    exact rungCursor_eq_none_iff

/-! ## Prefixes compose -/

/-- The coverage through a cutoff that starts where a prefix stopped. -/
def RecurringNominalPrefix.continued (coverage : RecurringNominalPrefix) (cadence : AutomationCadence)
    (through : Int) : Except CadenceError (Option RecurringNominalPrefix) :=
  match coverage.next with
  | none => .ok none
  | some next => recurringPrefixThrough cadence next through

/-- The number of instants that a coverage has. -/
def prefixCount (coverage : Option RecurringNominalPrefix) : Int :=
  (coverage.map (·.count)).getD 0

theorem CutsAt.continued {earlier later : Int} {laterIndex : Nat}
    (cuts : CutsAt cadence first earlier index) (laterCuts : CutsAt cadence first later laterIndex)
    (le : earlier <= later) (valid : IsSupported later) :
    ∃ rest, (rungPrefix cadence first index).continued cadence later = .ok rest /\
      (rungPrefix cadence first laterIndex).count =
        (rungPrefix cadence first index).count + prefixCount rest := by
  -- nothing lies between the two cutoffs if the next rung is above the later one
  have same : later < cadence.rung first (index + 1) -> laterIndex = index := by
    intro beyond
    exact laterCuts.unique on ⟨le_trans cuts.reached le, beyond⟩
  unfold RecurringNominalPrefix.continued
  cases standing : (rungPrefix cadence first index).next with
  | none =>
    have unsupported := rungCursor_eq_none_iff.mp standing
    have start := supported_of_matches on
    have above := (rung_strictMono on).monotone (Nat.zero_le (index + 1))
    rw [rung_zero on] at above
    have beyond : later < cadence.rung first (index + 1) := by
      unfold IsSupported at *
      omega
    rw [same beyond]
    exact ⟨none, rfl, (add_zero _).symm⟩
  | some =>
    rcases rungCursor_eq_some_iff.mp standing with ⟨inside, rfl⟩
    have onward := matches_rung on inside
    by_cases beyond : later < cadence.rung first (index + 1)
    · rw [same beyond]
      exact ⟨none, recurringPrefixThrough_before onward valid beyond, (add_zero _).symm⟩
    rcases recurringPrefixThrough_cuts onward valid (not_lt.mp beyond) with ⟨more, moreCuts, found⟩
    refine ⟨_, found, ?_⟩
    have reached := moreCuts.reached
    have unreached := moreCuts.beyond
    rw [rung_rung on inside] at reached unreached
    have total : laterIndex = index + 1 + more := laterCuts.unique on ⟨reached, unreached⟩
    rw [total]
    unfold rungPrefix prefixCount
    simp only [Option.map_some, Option.getD_some]
    push_cast
    omega

omit on

/-- The closed form equals iteration: from every instant of a cadence and through
every cutoff in the calendar it is total, says what the advancing rule visits, and
continues where an earlier prefix stopped. -/
theorem recurringPrefixThrough_eq_iteration (cadence : AutomationCadence) (first : Int)
    (on : recurringNominalMatches cadence first = .ok true) : (∀ through, IsSupported through ->
      ∃ coverage, recurringPrefixThrough cadence first through = .ok coverage /\
        (coverage = none <-> first > through) /\
        ∀ found, coverage = some found -> IteratedPrefix cadence first through found) /\
    ∀ earlier later, IsSupported earlier -> IsSupported later -> earlier <= later ->
      ∀ found, recurringPrefixThrough cadence first earlier = .ok (some found) ->
        ∃ whole rest, recurringPrefixThrough cadence first later = .ok (some whole) /\
          found.continued cadence later = .ok rest /\
          whole.count = found.count + prefixCount rest := by
  constructor
  · intro through supported
    by_cases later : through < first
    · exact ⟨none, recurringPrefixThrough_before on supported later, by simp [later], by nofun⟩
    · rcases recurringPrefixThrough_cuts on supported (not_lt.mp later) with ⟨index, cuts, found⟩
      refine ⟨_, found, by simp [later], ?_⟩
      rintro _ ⟨⟩
      exact cuts.iterated on supported
  · intro earlier later earlierSupported supported le found covered
    have reached : first <= earlier := by
      refine not_lt.mp (fun before => ?_)
      rw [recurringPrefixThrough_before on earlierSupported before] at covered
      cases covered
    rcases recurringPrefixThrough_cuts on earlierSupported reached with ⟨index, cuts, foundIs⟩
    rw [foundIs] at covered
    cases covered
    rcases recurringPrefixThrough_cuts on supported (le_trans reached le) with
      ⟨laterIndex, laterCuts, wholeIs⟩
    rcases cuts.continued on laterCuts le supported with ⟨rest, continued, count⟩
    exact ⟨_, rest, wholeIs, continued, count⟩

/-- The first of every month at midnight. -/
def firstOfMonth : MonthlyUtcSchedule where
  dayOfMonth := 1
  hour := 0
  minute := 0
  second := 0
  dayOfMonth_pos := by decide
  dayOfMonth_le := by decide
  hour_le := by decide
  minute_le := by decide
  second_le := by decide

/-- Three first days are left of the year 9999 on its first of October: two of them up to
the middle of November, and one more, without a successor, up to the end. -/
theorem last_months_continue :
    recurringNominalMatches (.monthlyUtc firstOfMonth) (firstOfMonth.date 119997).instant = .ok true /\
      ∃ found whole rest, recurringPrefixThrough (.monthlyUtc firstOfMonth)
          (firstOfMonth.date 119997).instant 253398240000000 = .ok (some found) /\
        IteratedPrefix (.monthlyUtc firstOfMonth) (firstOfMonth.date 119997).instant
          253398240000000 found /\
        recurringPrefixThrough (.monthlyUtc firstOfMonth) (firstOfMonth.date 119997).instant
          253402300799999 = .ok (some whole) /\
        found.continued (.monthlyUtc firstOfMonth) 253402300799999 = .ok rest /\
        found.count = 2 /\ prefixCount rest = 1 /\ whole.count = found.count + prefixCount rest := by
  have on : recurringNominalMatches (.monthlyUtc firstOfMonth) (firstOfMonth.date 119997).instant =
      .ok true :=
    recurringNominalMatches_of_instant
      ((isInstant_monthly_iff _ _ _).mpr ⟨le_refl _, 119997, by decide, rfl⟩)
  have two : (recurringPrefixThrough (.monthlyUtc firstOfMonth)
      (firstOfMonth.date 119997).instant 253398240000000).map (·.map (·.count)) = .ok (some 2) := by
    decide +kernel
  have three : (recurringPrefixThrough (.monthlyUtc firstOfMonth)
      (firstOfMonth.date 119997).instant 253402300799999).map (·.map (·.count)) = .ok (some 3) := by
    decide +kernel
  have iteration := recurringPrefixThrough_eq_iteration _ _ on
  rcases iteration.1 253398240000000 (by decide) with ⟨coverage, covered, -, iterated⟩
  rw [covered] at two
  cases coverage with
  | none => cases two
  | some found =>
    rcases iteration.2 253398240000000 253402300799999 (by decide) (by decide) (by decide) found
      covered with ⟨whole, rest, complete, continued, total⟩
    rw [complete] at three
    have count : found.count = 2 := Option.some.inj (Except.ok.inj two)
    have all : whole.count = 3 := Option.some.inj (Except.ok.inj three)
    refine ⟨on, found, whole, rest, covered, iterated _ rfl, complete, continued, count, ?_, total⟩
    omega

end Automations
end OpenKit
