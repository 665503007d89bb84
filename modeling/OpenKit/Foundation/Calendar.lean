import Mathlib.Tactic.IntervalCases

namespace OpenKit
namespace Foundation

/-!
# The UTC calendar

Months are numbered from January of the year zero in the proleptic Gregorian
calendar.  `monthStart` is the number of days before a month; it increases by
at least four weeks from one month to the next, so a day has one month, and an
instant, in milliseconds since 1970, has one month, day and time of day.
-/

def isLeapYear (year : Nat) : Bool :=
  year % 4 = 0 && (year % 100 ≠ 0 || year % 400 = 0)

def daysBeforeYear (year : Nat) : Nat :=
  365 * year + (year + 3) / 4 - (year + 99) / 100 + (year + 399) / 400

/-- The days of a common year before a month, with the leap day from March on. -/
def daysBeforeMonth (leap : Bool) : Nat -> Nat
  | 0 => 0
  | 1 => 31
  | 2 => 59 + leap.toNat
  | 3 => 90 + leap.toNat
  | 4 => 120 + leap.toNat
  | 5 => 151 + leap.toNat
  | 6 => 181 + leap.toNat
  | 7 => 212 + leap.toNat
  | 8 => 243 + leap.toNat
  | 9 => 273 + leap.toNat
  | 10 => 304 + leap.toNat
  | _ => 334 + leap.toNat

def monthStart (month : Nat) : Nat :=
  daysBeforeYear (month / 12) + daysBeforeMonth (isLeapYear (month / 12)) (month % 12)

theorem daysBeforeYear_succ (year : Nat) :
    daysBeforeYear (year + 1) = daysBeforeYear year + 365 + (isLeapYear year).toNat := by
  have fourth : (year + 1 + 3) / 4 = (year + 3) / 4 + (decide (year % 4 = 0)).toNat := by
    by_cases divides : year % 4 = 0 <;> simp only [divides, decide_true, decide_false,
      Bool.toNat_true, Bool.toNat_false] <;> omega
  have hundredth : (year + 1 + 99) / 100 = (year + 99) / 100 + (decide (year % 100 = 0)).toNat := by
    by_cases divides : year % 100 = 0 <;> simp only [divides, decide_true, decide_false,
      Bool.toNat_true, Bool.toNat_false] <;> omega
  have fourHundredth :
      (year + 1 + 399) / 400 = (year + 399) / 400 + (decide (year % 400 = 0)).toNat := by
    by_cases divides : year % 400 = 0 <;> simp only [divides, decide_true, decide_false,
      Bool.toNat_true, Bool.toNat_false] <;> omega
  -- a year that 400 divides is also divided by 100, and that one by 4
  have nested : year % 400 = 0 -> year % 100 = 0 := by omega
  have nested' : year % 100 = 0 -> year % 4 = 0 := by omega
  unfold daysBeforeYear isLeapYear
  rw [fourth, hundredth, fourHundredth]
  have small : (year + 99) / 100 <= 365 * year + (year + 3) / 4 := by omega
  by_cases byFour : year % 4 = 0 <;> by_cases byHundred : year % 100 = 0 <;>
    by_cases byFourHundred : year % 400 = 0 <;>
    simp only [byFour, byHundred, byFourHundred, ne_eq, not_true, not_false_iff, decide_true,
      decide_false, Bool.and_true, Bool.and_false, Bool.or_true, Bool.or_false,
      Bool.toNat_true, Bool.toNat_false] at nested nested' ⊢ <;>
    omega

/-- A month has at least 28 days. -/
theorem monthStart_succ (month : Nat) : monthStart month + 28 <= monthStart (month + 1) := by
  obtain ⟨year, within, split, bound⟩ : ∃ year within, month = 12 * year + within /\ within < 12 :=
    ⟨month / 12, month % 12, by omega, by omega⟩
  subst split
  have year_eq : (12 * year + within) / 12 = year := by omega
  have within_eq : (12 * year + within) % 12 = within := by omega
  unfold monthStart
  rw [year_eq, within_eq]
  by_cases last : within = 11
  · have next_year : (12 * year + within + 1) / 12 = year + 1 := by omega
    have next_within : (12 * year + within + 1) % 12 = 0 := by omega
    rw [next_year, next_within, daysBeforeYear_succ, last]
    simp only [daysBeforeMonth]
    omega
  · have next_year : (12 * year + within + 1) / 12 = year := by omega
    have next_within : (12 * year + within + 1) % 12 = within + 1 := by omega
    rw [next_year, next_within]
    have leapDay := (isLeapYear year).toNat_le
    interval_cases within <;> simp only [daysBeforeMonth] <;> omega

theorem monthStart_strictMono : StrictMono monthStart :=
  strictMono_nat_of_lt_succ (fun month => by have := monthStart_succ month; omega)

/-- The month of a day, if it is not later than the given one. -/
def monthOfDay (latest day : Nat) : Nat :=
  Nat.findGreatest (monthStart · <= day) latest

theorem monthOfDay_eq_iff {latest day month : Nat} (inside : day < monthStart (latest + 1)) :
    monthOfDay latest day = month <-> monthStart month <= day /\ day < monthStart (month + 1) := by
  have first : monthStart 0 <= day := by
    rw [show monthStart 0 = 0 from rfl]
    exact Nat.zero_le day
  have starts : monthStart (monthOfDay latest day) <= day :=
    Nat.findGreatest_spec (P := fun month => monthStart month <= day) (Nat.zero_le latest) first
  have ends : day < monthStart (monthOfDay latest day + 1) := by
    by_contra later
    have le : monthOfDay latest day + 1 <= latest := by
      by_contra beyond
      have : monthOfDay latest day = latest :=
        le_antisymm (Nat.findGreatest_le latest) (by omega)
      rw [this] at later
      omega
    exact Nat.findGreatest_is_greatest (P := fun month => monthStart month <= day)
      (Nat.lt_succ_self _) le (not_lt.mp later)
  constructor
  · rintro rfl
    exact ⟨starts, ends⟩
  · rintro ⟨begun, unfinished⟩
    have upper : monthOfDay latest day < month + 1 :=
      monthStart_strictMono.lt_iff_lt.mp (lt_of_le_of_lt starts unfinished)
    have lower : month < monthOfDay latest day + 1 :=
      monthStart_strictMono.lt_iff_lt.mp (lt_of_le_of_lt begun ends)
    omega

/-! ## Instants -/

def dayMilliseconds : Int := 86400000

/-- The day of the first of January 1970. -/
def epochDay : Int := 719528

/-- A date and the milliseconds since its midnight. -/
structure UtcDate where
  (month dayOfMonth time : Nat)
deriving DecidableEq

namespace UtcDate

variable (date : UtcDate)

def hours : Nat := date.time / 3600000

def minutes : Nat := date.time / 60000 % 60

def seconds : Nat := date.time / 1000 % 60

def milliseconds : Nat := date.time % 1000

def instant : Int :=
  ((monthStart date.month + date.dayOfMonth : Nat) - 1 - epochDay) * dayMilliseconds + date.time

structure IsValid (date : UtcDate) : Prop where
  first : 1 <= date.dayOfMonth
  last : monthStart date.month + date.dayOfMonth <= monthStart (date.month + 1)
  time : date.time < dayMilliseconds

end UtcDate

/-- The number of months in the years of four digits. -/
def supportedMonths : Nat := 120000

/-- The date of an instant in the years from 0 to 9999. -/
def utcDate? (instant : Int) : Option UtcDate :=
  let day := instant / dayMilliseconds + epochDay
  if 0 <= day /\ day < monthStart supportedMonths then
    let month := monthOfDay (supportedMonths - 1) day.toNat
    some
      { month := month
        dayOfMonth := day.toNat - monthStart month + 1, time := (instant % dayMilliseconds).toNat }
  else none

theorem monthStart_supportedMonths : monthStart supportedMonths = 3652425 := by
  decide

theorem utcDate?_isSome_iff (time : Int) : (utcDate? time).isSome <->
      -62167219200000 <= time /\ time <= 253402300799999 := by
  have bound := monthStart_supportedMonths
  unfold utcDate? dayMilliseconds epochDay
  dsimp only
  rw [bound]
  split
  · simp only [Option.isSome_some, true_iff]
    omega
  · simp only [Option.isSome_none, Bool.false_eq_true, false_iff]
    omega

theorem utcDate?_eq_some_iff (instant : Int) (date : UtcDate) : utcDate? instant = some date <->
      date.IsValid /\ date.month < supportedMonths /\ date.instant = instant := by
  have monthOf : ∀ day : Nat, day < monthStart supportedMonths ->
      ∀ month, monthOfDay (supportedMonths - 1) day = month <->
        monthStart month <= day /\ day < monthStart (month + 1) := by
    intro day inside month
    exact monthOfDay_eq_iff inside
  unfold utcDate? dayMilliseconds epochDay
  dsimp only
  constructor
  · intro found
    split at found
    next inside =>
      have hit := (monthOf (instant / 86400000 + 719528).toNat (by omega) _).mp rfl
      rcases Option.some.inj found with rfl
      refine ⟨⟨?_, ?_, ?_⟩, ?_, ?_⟩
      · dsimp only
        omega
      · dsimp only
        omega
      · dsimp only [dayMilliseconds]
        omega
      · have before : monthStart (monthOfDay (supportedMonths - 1) (instant / 86400000 + 719528).toNat) <
            monthStart supportedMonths := by
          omega
        exact monthStart_strictMono.lt_iff_lt.mp before
      · unfold UtcDate.instant dayMilliseconds epochDay
        dsimp only
        omega
    · cases found
  · rintro ⟨valid, supported, same⟩
    rcases valid with ⟨first, last, time⟩
    unfold UtcDate.instant dayMilliseconds epochDay at same
    unfold dayMilliseconds at time
    have within : monthStart (date.month + 1) <= monthStart supportedMonths :=
      monthStart_strictMono.monotone supported
    have day : instant / 86400000 + 719528 = (monthStart date.month + date.dayOfMonth - 1 : Nat) := by
      omega
    have hit : monthOfDay (supportedMonths - 1) (instant / 86400000 + 719528).toNat =
        date.month := by
      refine (monthOf _ (by omega) _).mpr ?_
      omega
    rw [if_pos (by omega), hit]
    congr 1
    cases date with
    | mk =>
      dsimp only at *
      congr 1 <;> omega

end Foundation
end OpenKit
