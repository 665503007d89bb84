import Mathlib.Data.Int.ConditionallyCompleteOrder
import OpenKit.Foundation.Calendar
import OpenKit.Foundation.Cursor
import OpenKit.Foundation.Fallible

namespace OpenKit
namespace Automations

open Foundation

/-!
# Recurring cadences

A cadence is a fixed interval or a monthly UTC rule.  The schedule cursor moves
by `advanceRecurringNominal`, one instant at a time, and over a missed stretch by
the closed form of `recurringPrefixThrough`.  Both leave the years of four
digits only by an explicit end.  Instants are milliseconds since 1970.

`isInstant` says which instants a cadence has from a start on.  The two ways to
move the cursor are proved to find the next such instant, and an end to be the
end of all of them.
-/

/-! ## Cadences -/

/-- A monthly rule.  Every month has its day. -/
structure MonthlyUtcSchedule where
  (dayOfMonth hour minute second : Nat)
  dayOfMonth_pos : 1 <= dayOfMonth
  dayOfMonth_le : dayOfMonth <= 28
  hour_le : hour <= 23
  minute_le : minute <= 59
  second_le : second <= 59
deriving DecidableEq

/-- An interval of at least five seconds. -/
structure IntervalSeconds where
  seconds : Nat
  seconds_ge : 5 <= seconds
deriving DecidableEq

/-- One of the two admitted timing shapes. -/
inductive AutomationCadence where
  | intervalSeconds (interval : IntervalSeconds)
  | monthlyUtc (monthly : MonthlyUtcSchedule)
deriving DecidableEq

def AutomationCadence.monthly? : AutomationCadence -> Option MonthlyUtcSchedule
  | .intervalSeconds _ => none
  | .monthlyUtc monthly => some monthly

inductive CadenceError where
  /-- `RangeError`. -/
  | range (message : String)
  /-- `RecurringCadenceExhaustedError`. -/
  | exhausted (message : String)
deriving DecidableEq

/-! ## Cursor arithmetic -/

/-- Restricts arithmetic to the UTC years of four digits. -/
def checkedDate (instant : Int) : Except CadenceError UtcDate :=
  match utcDate? instant with
  | some date => .ok date
  | none => .error (.range "Recurring nominal timestamp is outside the supported UTC range.")

def maxSafeInteger : Nat := 9007199254740991

variable (interval : IntervalSeconds)

/-- The milliseconds of an interval. -/
def IntervalSeconds.step : Nat :=
  interval.seconds * 1000

def intervalStep : Except CadenceError Nat :=
  if interval.step <= maxSafeInteger then .ok interval.step
  else .error (.range "Recurring interval exceeds safe integer arithmetic.")

def monthIndex (instant : Int) : Except CadenceError Nat :=
  (checkedDate instant).map (·.month)

def MonthlyUtcSchedule.date (monthly : MonthlyUtcSchedule) (index : Nat) : UtcDate where
  month := index
  dayOfMonth := monthly.dayOfMonth
  time := ((monthly.hour * 60 + monthly.minute) * 60 + monthly.second) * 1000

def monthlyInstant (index : Int) (monthly : MonthlyUtcSchedule) : Except CadenceError Int :=
  if index < 0 \/ (supportedMonths : Int) <= index then
    .error (.range "Recurring monthly successor is outside the supported UTC range.")
  else
    let instant := (monthly.date index.toNat).instant
    (checkedDate instant).map (fun _ => instant)

/-- A date has every field of a monthly rule. -/
def MonthlyUtcSchedule.fits (monthly : MonthlyUtcSchedule) (date : UtcDate) : Bool :=
  date.dayOfMonth = monthly.dayOfMonth && date.hours = monthly.hour &&
    date.minutes = monthly.minute && date.seconds = monthly.second && date.milliseconds = 0

/-- Checks every monthly UTC field; fixed intervals accept any valid anchor. -/
def recurringNominalMatches (cadence : AutomationCadence) (instant : Int) :
    Except CadenceError Bool :=
  (checkedDate instant).map fun date =>
    match cadence with
    | .intervalSeconds _ => true
    | .monthlyUtc monthly => monthly.fits date

/-- The successor before its range error becomes the end of the cadence. -/
def nominalSuccessor (cadence : AutomationCadence) (instant : Int) : Except CadenceError Int :=
  match cadence with
  | .intervalSeconds interval => do
      let step <- intervalStep interval
      let _ <- checkedDate (instant + step)
      return instant + step
  | .monthlyUtc monthly => do
      let index <- monthIndex instant
      monthlyInstant (index + 1) monthly

def cursorMismatch : CadenceError :=
  .range "Recurring cursor does not match its monthly UTC rule."

/-- Advances the admitted nominal rule. -/
def advanceRecurringNominal (cadence : AutomationCadence) (instant : Int) :
    Except CadenceError Int := do
  let fits <- recurringNominalMatches cadence instant
  refuse (!fits) cursorMismatch
  match nominalSuccessor cadence instant with
  | .ok next => return next
  | .error _ =>
    .error (.exhausted "Recurring cadence has no further representable UTC occurrence.")

/-- Preserves exact covered instants when only their successor is outside the
calendar. -/
def nextOrNull (cadence : AutomationCadence) (instant : Int) : Except CadenceError (Option Int) :=
  match advanceRecurringNominal cadence instant with
  | .ok next => .ok (some next)
  | .error (.exhausted _) => .ok none
  | .error (.range message) => .error (.range message)

/-- Exhaustion ends only this cadence. -/
def nextRecurringNominal (cadence : AutomationCadence) (instant : Int) :
    Except CadenceError (Option Int) :=
  nextOrNull cadence instant

/-- Exact inclusive coverage through a cutoff, with its immediate successor. -/
structure RecurringNominalPrefix where
  (count last : Int)
  next : Option Int
deriving DecidableEq

/-- The coverage of a monthly rule. -/
def monthlyPrefix (monthly : MonthlyUtcSchedule) (first through : Int) :
    Except CadenceError RecurringNominalPrefix := do
  let firstMonth <- monthIndex first
  let throughMonth <- monthIndex through
  let candidate <- monthlyInstant throughMonth monthly
  let lastMonth : Int := if candidate > through then throughMonth - 1 else throughMonth
  let last <- monthlyInstant lastMonth monthly
  let next <- nextOrNull (.monthlyUtc monthly) last
  return ⟨lastMonth - firstMonth + 1, last, next⟩

/-- The coverage of an interval.  An unsafe step is larger than the calendar. -/
def intervalPrefix (first through : Int) : Except CadenceError RecurringNominalPrefix :=
  if maxSafeInteger < interval.step then return ⟨1, first, none⟩
  else do
    let step <- intervalStep interval
    let count := (through - first) / step + 1
    let last := first + (count - 1) * step
    let _ <- checkedDate last
    let next <- nextOrNull (.intervalSeconds interval) last
    return ⟨count, last, next⟩

/-- Locates exact missed coverage in constant work. -/
def recurringPrefixThrough (cadence : AutomationCadence) (first through : Int) :
    Except CadenceError (Option RecurringNominalPrefix) := do
  let _ <- checkedDate through
  let fits <- recurringNominalMatches cadence first
  refuse (!fits) cursorMismatch
  if first > through then return none
  match cadence with
  | .intervalSeconds interval => return some (<- intervalPrefix interval first through)
  | .monthlyUtc monthly => return some (<- monthlyPrefix monthly first through)

/-! ## The instants of a cadence -/

def AutomationCadence.isInstant (cadence : AutomationCadence) (start instant : Int) : Bool :=
  start <= instant &&
    match utcDate? instant with
    | none => false
    | some date =>
      match cadence with
      | .intervalSeconds interval => (instant - start) % (interval.step : Int) = 0
      | .monthlyUtc monthly => monthly.fits date

/-- The instants that the calendar supports. -/
def IsSupported (instant : Int) : Prop :=
  -62167219200000 <= instant /\ instant <= 253402300799999

variable {time : Int}

theorem checkedDate_ok {date : UtcDate} (ok : checkedDate time = .ok date) :
    utcDate? time = some date := by
  unfold checkedDate at ok
  split at ok
  next found =>
    cases ok
    exact found
  · cases ok

theorem checkedDate_of_supported (valid : IsSupported time) :
    ∃ date, checkedDate time = .ok date /\ utcDate? time = some date := by
  rcases Option.isSome_iff_exists.mp ((utcDate?_isSome_iff time).mpr valid) with ⟨date, found⟩
  refine ⟨date, ?_, found⟩
  unfold checkedDate
  rw [found]

theorem supported_of_date {date : UtcDate} (found : utcDate? time = some date) :
    IsSupported time :=
  (utcDate?_isSome_iff time).mp (by rw [found]; rfl)

open AutomationCadence

/-! ### Intervals -/

theorem isInstant_interval_iff (start time : Int) :
    isInstant (.intervalSeconds interval) start time <->
      start <= time /\ IsSupported time /\ (interval.step : Int) ∣ time - start := by
  unfold isInstant
  rw [Bool.and_eq_true, decide_eq_true_eq]
  refine and_congr_right ?_
  intro _
  cases found : utcDate? time with
  | none =>
    simp only [Bool.false_eq_true, false_iff, not_and]
    intro valid
    have some := (utcDate?_isSome_iff time).mpr valid
    rw [found] at some
    cases some
  | some =>
    simp only [decide_eq_true_eq, supported_of_date found, true_and]
    exact (Int.dvd_iff_emod_eq_zero).symm

theorem IntervalSeconds.step_pos : 0 < interval.step := by
  have := interval.seconds_ge
  unfold IntervalSeconds.step
  omega

variable {interval : IntervalSeconds} {start : Int}

/-! ### Monthly rules -/

theorem MonthlyUtcSchedule.date_isValid (monthly : MonthlyUtcSchedule) (index : Nat) :
    (monthly.date index).IsValid where
  first := monthly.dayOfMonth_pos
  last := by
    have days := monthStart_succ index
    have within := monthly.dayOfMonth_le
    dsimp only [MonthlyUtcSchedule.date]
    omega
  time := by
    have hour := monthly.hour_le
    have minute := monthly.minute_le
    have second := monthly.second_le
    dsimp only [MonthlyUtcSchedule.date, dayMilliseconds]
    omega

/-- A date fits a rule if it is the date of the rule in its month. -/
theorem MonthlyUtcSchedule.fits_iff (monthly : MonthlyUtcSchedule) (date : UtcDate) :
    monthly.fits date <-> date = monthly.date date.month := by
  have minute := monthly.minute_le
  have second := monthly.second_le
  cases date with
  | mk =>
    simp only [MonthlyUtcSchedule.fits, Bool.and_eq_true, decide_eq_true_eq]
    simp only [MonthlyUtcSchedule.date, UtcDate.hours, UtcDate.minutes, UtcDate.seconds,
      UtcDate.milliseconds, UtcDate.mk.injEq, true_and]
    constructor
    · rintro ⟨⟨⟨⟨day, hours⟩, minutes⟩, seconds⟩, milliseconds⟩
      exact ⟨day, by omega⟩
    · rintro ⟨day, rfl⟩
      exact ⟨⟨⟨⟨day, by omega⟩, by omega⟩, by omega⟩, by omega⟩

variable {monthly : MonthlyUtcSchedule} {index : Nat}

theorem utcDate?_monthly (valid : index < supportedMonths) :
    utcDate? (monthly.date index).instant = some (monthly.date index) :=
  (utcDate?_eq_some_iff _ _).mpr ⟨monthly.date_isValid index, valid, rfl⟩

/-- The rule comes later in a later month. -/
theorem monthlyDate_lt_iff (monthly : MonthlyUtcSchedule) (first second : Nat) :
    (monthly.date first).instant < (monthly.date second).instant <-> first < second := by
  rw [<- monthStart_strictMono.lt_iff_lt]
  unfold UtcDate.instant MonthlyUtcSchedule.date dayMilliseconds
  dsimp only
  omega

theorem isInstant_monthly_iff (monthly : MonthlyUtcSchedule) (start time : Int) :
    isInstant (.monthlyUtc monthly) start time <-> start <= time /\
        ∃ index, index < supportedMonths /\ time = (monthly.date index).instant := by
  unfold isInstant
  rw [Bool.and_eq_true, decide_eq_true_eq]
  refine and_congr_right ?_
  intro _
  constructor
  · intro fits
    split at fits
    · cases fits
    rename_i date found
    rcases (utcDate?_eq_some_iff time date).mp found with ⟨_, valid, same⟩
    rw [monthly.fits_iff] at fits
    exact ⟨date.month, valid, by rw [<- same, <- fits]⟩
  · rintro ⟨index, valid, rfl⟩
    rw [utcDate?_monthly valid]
    exact (monthly.fits_iff _).mpr rfl

theorem monthlyInstant_of_supported (valid : index < supportedMonths) :
    monthlyInstant index monthly = .ok (monthly.date index).instant := by
  unfold monthlyInstant checkedDate
  rw [if_neg (by omega), Int.toNat_natCast]
  dsimp only
  rw [utcDate?_monthly valid]
  rfl

theorem monthIndex_ok (ok : monthIndex time = .ok index) :
    ((monthStart index : Int) - epochDay) * dayMilliseconds <= time /\
      time < ((monthStart (index + 1) : Int) - epochDay) * dayMilliseconds /\
      index < supportedMonths := by
  unfold monthIndex at ok
  cases checked : checkedDate time with
  | error =>
    rw [checked] at ok
    cases ok
  | ok date =>
    rw [checked] at ok
    cases ok
    rcases (utcDate?_eq_some_iff time date).mp (checkedDate_ok checked) with
      ⟨⟨first, last, ofDay⟩, valid, rfl⟩
    unfold UtcDate.instant dayMilliseconds epochDay
    unfold dayMilliseconds at ofDay
    dsimp only
    refine ⟨?_, ?_, valid⟩ <;> omega

theorem monthIndex_monthly (valid : index < supportedMonths) :
    monthIndex (monthly.date index).instant = .ok index := by
  unfold monthIndex checkedDate
  rw [utcDate?_monthly valid]
  rfl

/-- The rule falls into its month. -/
theorem monthlyDate_within (monthly : MonthlyUtcSchedule) (index : Nat) :
    ((monthStart index : Int) - epochDay) * dayMilliseconds <= (monthly.date index).instant /\
      (monthly.date index).instant < ((monthStart (index + 1) : Int) - epochDay) * dayMilliseconds := by
  rcases monthly.date_isValid index with ⟨first, last, time⟩
  unfold UtcDate.instant
  unfold dayMilliseconds at time ⊢
  unfold MonthlyUtcSchedule.date at *
  dsimp only at *
  constructor <;> omega

/-! ### The cursor finds the next instant -/

variable {cadence : AutomationCadence}

theorem recurringNominalMatches_of_instant (mem : cadence.isInstant start time) :
    recurringNominalMatches cadence time = .ok true := by
  cases cadence with
  | intervalSeconds =>
    rcases checkedDate_of_supported ((isInstant_interval_iff _ _ _).mp mem).2.1 with
      ⟨date, checked, _⟩
    unfold recurringNominalMatches
    rw [checked]
    rfl
  | monthlyUtc monthly =>
    rcases (isInstant_monthly_iff _ _ _).mp mem with ⟨_, index, valid, rfl⟩
    unfold recurringNominalMatches checkedDate
    rw [utcDate?_monthly valid]
    exact congrArg Except.ok ((monthly.fits_iff _).mpr rfl)

/-- An instant that passes the check may start its cadence. -/
theorem isInstant_self (matched : recurringNominalMatches cadence time = .ok true) :
    cadence.isInstant time time := by
  unfold recurringNominalMatches at matched
  cases checked : checkedDate time with
  | error =>
    rw [checked] at matched
    cases matched
  | ok =>
    rw [checked] at matched
    unfold isInstant
    rw [checkedDate_ok checked, decide_eq_true (le_refl time), Bool.true_and]
    cases cadence with
    | intervalSeconds => simp
    | monthlyUtc => exact Except.ok.inj matched

/-- What the successor of an instant turns into. -/
def endOrNext : Except CadenceError Int -> Option Int
  | .ok next => some next
  | .error _ => none

theorem nextOrNull_of_instant (mem : cadence.isInstant start time) :
    nextOrNull cadence time = .ok (endOrNext (nominalSuccessor cadence time)) := by
  unfold nextOrNull advanceRecurringNominal
  rw [recurringNominalMatches_of_instant mem]
  cases nominalSuccessor cadence time <;> rfl

theorem isInstant_from {later : Int} (mem : cadence.isInstant start later) (time : Int) :
    cadence.isInstant later time <-> cadence.isInstant start time /\ later <= time := by
  cases cadence with
  | intervalSeconds interval =>
    have first := (isInstant_interval_iff _ _ _).mp mem
    rw [isInstant_interval_iff, isInstant_interval_iff]
    have shift : (interval.step : Int) ∣ time - later <->
        (interval.step : Int) ∣ time - start := by
      rw [<- sub_add_sub_cancel time later start]
      exact (Int.dvd_add_left first.2.2).symm
    rw [shift]
    constructor
    · rintro ⟨le, valid, divides⟩
      exact ⟨⟨by omega, valid, divides⟩, le⟩
    · rintro ⟨⟨_, valid, divides⟩, le⟩
      exact ⟨le, valid, divides⟩
  | monthlyUtc =>
    have first := (isInstant_monthly_iff _ _ _).mp mem
    rw [isInstant_monthly_iff, isInstant_monthly_iff]
    constructor
    · rintro ⟨le, month⟩
      exact ⟨⟨by omega, month⟩, le⟩
    · rintro ⟨⟨_, month⟩, le⟩
      exact ⟨le, month⟩

/-! ### Rungs -/

variable {first : Int}

/-- The instant of a cadence after a number of steps, in an unbounded calendar. -/
def AutomationCadence.rung (cadence : AutomationCadence) (first : Int) (index : Nat) : Int :=
  match cadence with
  | .intervalSeconds interval => first + index * interval.step
  | .monthlyUtc monthly =>
    match utcDate? first with
    | some date => (monthly.date (date.month + index)).instant
    | none => first

instance : DecidablePred IsSupported := fun instant =>
  inferInstanceAs (Decidable (-62167219200000 <= instant /\ instant <= 253402300799999))

theorem isSupported_monthly_iff (monthly : MonthlyUtcSchedule) (index : Nat) :
    IsSupported (monthly.date index).instant <-> index < supportedMonths := by
  constructor
  · intro valid
    by_contra outside
    have begun := (monthlyDate_within monthly index).1
    have start := monthStart_strictMono.monotone (not_lt.mp outside)
    rw [monthStart_supportedMonths] at start
    unfold dayMilliseconds epochDay at begun
    unfold IsSupported at valid
    omega
  · intro inside
    exact supported_of_date (utcDate?_monthly inside)

theorem monthly_of_matches (on : recurringNominalMatches (.monthlyUtc monthly) first = .ok true) :
    ∃ month, month < supportedMonths /\ first = (monthly.date month).instant :=
  ((isInstant_monthly_iff _ _ _).mp (isInstant_self on)).2

theorem rung_monthly {month : Nat} (inside : month < supportedMonths) (index : Nat) :
    rung (.monthlyUtc monthly) (monthly.date month).instant index =
      (monthly.date (month + index)).instant := by
  unfold rung
  rw [utcDate?_monthly inside]
  rfl

section Rungs

variable {index : Nat}

variable {cadence : AutomationCadence} {first : Int}
  (on : recurringNominalMatches cadence first = .ok true)

include on

theorem supported_of_matches : IsSupported first := by
  unfold recurringNominalMatches at on
  cases checked : checkedDate first with
  | error =>
    rw [checked] at on
    cases on
  | ok => exact supported_of_date (checkedDate_ok checked)

theorem rung_zero : cadence.rung first 0 = first := by
  cases cadence with
  | intervalSeconds => simp [rung]
  | monthlyUtc =>
    rcases monthly_of_matches on with ⟨month, inside, rfl⟩
    exact rung_monthly inside 0

theorem rung_strictMono : StrictMono (cadence.rung first) := by
  cases cadence with
  | intervalSeconds interval =>
    have positive : (0 : Int) < interval.step := by exact_mod_cast interval.step_pos
    intro earlier later lt
    have scaled := Int.mul_lt_mul_of_pos_right (Int.ofNat_lt.mpr lt) positive
    unfold rung
    dsimp only
    omega
  | monthlyUtc =>
    rcases monthly_of_matches on with ⟨month, inside, rfl⟩
    intro earlier later lt
    rw [rung_monthly inside, rung_monthly inside, monthlyDate_lt_iff]
    omega

/-- The ladder leaves the calendar once. -/
theorem rung_supported_of_le (index later : Nat) (le : index <= later)
    (valid : IsSupported (cadence.rung first later)) : IsSupported (cadence.rung first index) := by
  have start := supported_of_matches on
  have above := (rung_strictMono on).monotone (Nat.zero_le index)
  have below := (rung_strictMono on).monotone le
  rw [rung_zero on] at above
  unfold IsSupported at *
  omega

theorem isInstant_iff_rung (time : Int) : cadence.isInstant first time <->
      IsSupported time /\ ∃ index, time = cadence.rung first index := by
  cases cadence with
  | intervalSeconds interval =>
    have positive : (0 : Int) < interval.step := by exact_mod_cast interval.step_pos
    rw [isInstant_interval_iff]
    constructor
    · rintro ⟨le, valid, times, distance⟩
      have up : 0 <= times := by
        refine not_lt.mp (fun negative => ?_)
        have := Int.mul_neg_of_pos_of_neg positive negative
        omega
      refine ⟨valid, times.toNat, ?_⟩
      unfold rung
      dsimp only
      rw [Int.toNat_of_nonneg up, mul_comm]
      omega
    · rintro ⟨valid, index, rfl⟩
      have above := (rung_strictMono on).monotone (Nat.zero_le index)
      rw [rung_zero on] at above
      refine ⟨above, valid, index, ?_⟩
      unfold rung
      rw [add_sub_cancel_left, mul_comm]
  | monthlyUtc monthly =>
    rcases monthly_of_matches on with ⟨month, inside, rfl⟩
    rw [isInstant_monthly_iff]
    constructor
    · rintro ⟨le, other, within, rfl⟩
      have later : month <= other :=
        not_lt.mp (fun before => absurd ((monthlyDate_lt_iff monthly _ _).mpr before) (not_lt.mpr le))
      refine ⟨(isSupported_monthly_iff _ _).mpr within, other - month, ?_⟩
      rw [rung_monthly inside, Nat.add_sub_cancel' later]
    · rintro ⟨valid, index, rfl⟩
      have above := (rung_strictMono on).monotone (Nat.zero_le index)
      rw [rung_zero on] at above
      rw [rung_monthly inside] at valid above ⊢
      exact ⟨above, month + index, (isSupported_monthly_iff _ _).mp valid, rfl⟩

theorem endOrNext_successor : endOrNext (nominalSuccessor cadence first) =
    rungCursor (cadence.rung first) IsSupported 1 := by
  unfold rungCursor
  cases cadence with
  | intervalSeconds interval =>
    have next : rung (.intervalSeconds interval) first 1 = first + interval.step := by simp [rung]
    rw [next]
    unfold nominalSuccessor intervalStep
    dsimp only
    by_cases reachable : IsSupported (first + interval.step)
    · have safe : interval.step <= maxSafeInteger := by
        have valid := supported_of_matches on
        unfold IsSupported at valid reachable
        unfold maxSafeInteger
        omega
      rcases checkedDate_of_supported reachable with ⟨date, checked, _⟩
      rw [if_pos reachable, if_pos safe]
      change endOrNext (checkedDate (first + interval.step) >>= _) = _
      rw [checked]
      rfl
    · rw [if_neg reachable]
      split
      · change endOrNext (checkedDate (first + interval.step) >>= _) = none
        cases checked : checkedDate (first + interval.step) with
        | error => rfl
        | ok => exact absurd (supported_of_date (checkedDate_ok checked)) reachable
      · rfl
  | monthlyUtc monthly =>
    rcases monthly_of_matches on with ⟨month, inside, rfl⟩
    rw [rung_monthly inside]
    unfold nominalSuccessor
    rw [monthIndex_monthly inside]
    change endOrNext (monthlyInstant ((month + 1 : Nat) : Int) monthly) = _
    by_cases within : month + 1 < supportedMonths
    · rw [if_pos ((isSupported_monthly_iff _ _).mpr within), monthlyInstant_of_supported within]
      rfl
    · rw [if_neg (mt (isSupported_monthly_iff _ _).mp within)]
      unfold monthlyInstant
      rw [if_pos (by omega)]
      rfl

end Rungs

theorem nextOrNull_isSuccessor (mem : cadence.isInstant start time) :
    ∃ cursor, nextOrNull cadence time = .ok cursor /\
      IsSuccessor (cadence.isInstant start ·) time cursor := by
  have on := recurringNominalMatches_of_instant mem
  have ladder := isSuccessor_rungCursor (rung_strictMono on) (rung_supported_of_le on) 0
  rw [rung_zero on] at ladder
  have sameMembers : ∀ other, time <= other -> (cadence.isInstant start other <->
      IsSupported other /\ ∃ index, other = cadence.rung time index) := by
    intro other le
    rw [<- isInstant_iff_rung on, isInstant_from mem, and_iff_left le]
  refine ⟨_, nextOrNull_of_instant mem, ?_⟩
  rw [endOrNext_successor on]
  refine ⟨?_, ladder.above, ?_⟩
  · intro next standing
    exact (sameMembers next (ladder.above next standing).le).mpr (ladder.member next standing)
  · intro other second above
    exact ladder.least other ((sameMembers other above.le).mp second) above

/-- Only an instant has a successor. -/
theorem matches_of_nextOrNull {cursor : Option Int} (next : nextOrNull cadence time = .ok cursor) :
    recurringNominalMatches cadence time = .ok true := by
  unfold nextOrNull advanceRecurringNominal at next
  cases matched : recurringNominalMatches cadence time with
  | error error =>
    rw [matched] at next
    cases error with
    | range => cases next
    | exhausted =>
      -- the check only throws range errors
      unfold recurringNominalMatches checkedDate at matched
      split at matched <;> cases matched
  | ok fits =>
    cases fits with
    | true => rfl
    | false =>
      rw [matched] at next
      cases next

end Automations
end OpenKit
