import Mathlib.Algebra.Order.Group.Nat
import Mathlib.Logic.Function.Iterate

/-! Dates of audit events. Years are counted from the first of March, so that a leap day is the last
day of its year. -/

namespace Visor.Audit
open List

abbrev Date := Nat × Nat × Nat

/-- The date of a day of the year that begins in March. -/
def civilOf (y doy : Nat) : Date :=
  let mp := (5 * doy + 2) / 153
  let d := doy - (153 * mp + 2) / 5 + 1
  let m := if mp < 10 then mp + 3 else mp - 9
  (if m ≤ 2 then y + 1 else y, m, d)

def yearOfEra (doe : Nat) : Nat := (doe - doe / 1460 + doe / 36524 - doe / 146096) / 365

def firstDay (yoe : Nat) : Nat := 365 * yoe + yoe / 4 - yoe / 100

/-- Only the first sum can leave 64 bits, and no difference is negative. -/
def daysToYmd (days : Nat) : Date :=
  let eraDays := (days + 719468) % 2 ^ 64
  let era := eraDays / 146097
  let doe := eraDays - era * 146097
  let yoe := yearOfEra doe
  civilOf (yoe + era * 400) (doe - firstDay yoe)

def isLeap (year : Nat) : Bool := year % 4 = 0 && (year % 100 ≠ 0 || year % 400 = 0)

def monthLength (leap : Bool) (month : Nat) : Nat :=
  if month = 2 then 28 + leap.toNat else if month ∈ [4, 6, 9, 11] then 30 else 31

/-- A day of the proleptic Gregorian calendar. -/
def IsDate : Date → Prop
  | (year, month, day) => month ∈ range' 1 12 ∧ day ∈ range' 1 (monthLength (isLeap year) month)

def successorIn (leap : Bool) : Date → Date
  | (year, month, day) =>
    if day < monthLength leap month then (year, month, day + 1) else if month < 12 then
      (year, month + 1, 1) else (year + 1, 1, 1)

def successor (date : Date) : Date := successorIn (isLeap date.1) date

/-- The formula is right on the first and the last day of each year of an era. -/
theorem year_bounds : ∀ yoe < 400, let next := firstDay yoe + (365 + (isLeap (yoe + 1)).toNat)
    yearOfEra (firstDay yoe) = yoe ∧ yearOfEra (next - 1) = yoe ∧ next ≤ 146097 ∧
      next = if yoe = 399 then 146097 else firstDay (yoe + 1) := by
  decide +kernel

theorem yearOfEra_mono {first last : Nat} (ordered : first ≤ last) (inEra : last < 146097) :
    yearOfEra first ≤ yearOfEra last := by
  induction last, ordered using Nat.le_induction with
  | base => exact Nat.le_refl _
  | succ last _ ih =>
    refine (ih (by omega)).trans ?_
    unfold yearOfEra
    omega

/-- The day `doy` of the year `y` from March. -/
def Located (days y doy : Nat) : Prop := doy < 365 + (isLeap (y + 1)).toNat ∧
  ∃ era yoe, yoe < 400 ∧ y = yoe + era * 400 ∧ days + 719468 = era * 146097 + (firstDay yoe + doy)

theorem isLeap_add (yoe era : Nat) : isLeap (yoe + era * 400 + 1) = isLeap (yoe + 1) := by
  unfold isLeap
  grind

section
variable {days y doy : Nat} (located : Located days y doy)
include located

theorem Located.next : if doy = 364 + (isLeap (y + 1)).toNat then Located (days + 1)
    (y + 1) 0 else Located (days + 1) y (doy + 1) := by
  obtain ⟨inYear, era, yoe, inEra, rfl, counted⟩ := located
  obtain ⟨_, _, _, next⟩ := year_bounds yoe inEra
  split
  · refine ⟨by omega, ?_⟩
    rw [isLeap_add] at *
    split at next
    · exact ⟨era + 1, 0, by omega, by omega, by rw [firstDay]; omega⟩
    · exact ⟨era, yoe + 1, by omega, by omega, by omega⟩
  · exact ⟨by omega, era, yoe, inEra, rfl, by omega⟩

theorem Located.ymd (inRange : days + 719468 < 2 ^ 64) : daysToYmd days = civilOf y doy := by
  obtain ⟨inYear, era, yoe, inEra, rfl, counted⟩ := located
  rw [isLeap_add] at inYear
  obtain ⟨first, last, bound, _⟩ := year_bounds yoe inEra
  have isEra : (days + 719468) / 146097 = era := by omega
  have isDoe : days + 719468 - era * 146097 = firstDay yoe + doy := by omega
  have isYear : yearOfEra (firstDay yoe + doy) = yoe := by
    apply Nat.le_antisymm
    · exact (yearOfEra_mono (by omega) (by omega)).trans_eq last
    · exact first.symm.le.trans (yearOfEra_mono (by omega) (by omega))
  simp only [daysToYmd, Nat.mod_eq_of_lt inRange, isEra, isDoe, isYear, Nat.add_sub_cancel_left]

end

/-- One year from March, of either kind. -/
theorem civilOf_zero : ∀ leap : Bool, ∀ doy < 365 + leap.toNat, (civilOf 0 doy).2.1 ∈ range' 1 12 ∧
    (civilOf 0 doy).2.2 ∈ range' 1 (monthLength leap (civilOf 0 doy).2.1) ∧
    successorIn leap (civilOf 0 doy) = if doy = 364 + leap.toNat then civilOf 1 0 else civilOf 0
    (doy + 1) := by decide +kernel

theorem civilOf_eq (y doy : Nat) : civilOf y doy = (y + (civilOf 0 doy).1, (civilOf 0 doy).2) := by
  simp only [civilOf, Prod.mk.injEq, and_true]
  grind

/-- Only the length of February depends on the year, and it is after the turn of the year. -/
theorem monthLength_civilOf (y doy : Nat) : monthLength (isLeap (civilOf y doy).1) (civilOf y doy).2.1 =
    monthLength (isLeap (y + 1)) (civilOf 0 doy).2.1 := by
  simp only [civilOf, monthLength]
  grind

theorem successor_civilOf {y doy : Nat} (inYear : doy < 365 + (isLeap (y + 1)).toNat) :
    successor (civilOf y doy) =
    if doy = 364 + (isLeap (y + 1)).toNat then civilOf (y + 1) 0 else civilOf y (doy + 1) := by
  have step := (civilOf_zero _ doy inYear).2.2
  have length := monthLength_civilOf y doy
  rw [civilOf_eq y doy] at length ⊢
  rw [civilOf_eq y (doy + 1), civilOf_eq (y + 1) 0]
  simp only [successor, successorIn] at step length ⊢
  rw [length]
  grind [civilOf]

private theorem exists_located (days : Nat) : ∃ y doy, Located days y doy := by
  induction days with
  | zero => exact ⟨1969, 306, by decide, 4, 369, by decide, rfl, rfl⟩
  | succ days ih =>
    obtain ⟨y, doy, located⟩ := ih
    have next := located.next
    split at next
    · exact ⟨y + 1, 0, next⟩
    · exact ⟨y, doy + 1, next⟩

theorem days_to_ymd_step {days : Nat} (inRange : days + 719468 + 1 < 2 ^ 64) :
    IsDate (daysToYmd days) ∧ daysToYmd (days + 1) = successor (daysToYmd days) := by
  obtain ⟨y, doy, located⟩ := exists_located days
  obtain ⟨isMonth, isDay, _⟩ := civilOf_zero _ doy located.1
  rw [← monthLength_civilOf] at isDay
  rw [located.ymd (by omega), successor_civilOf located.1]
  refine ⟨⟨isMonth, isDay⟩, ?_⟩
  rw [← Nat.add_right_comm days 1 719468] at inRange
  have next := located.next
  split at next
  · rw [if_pos ‹_›, next.ymd inRange]
  · rw [if_neg ‹_›, next.ymd inRange]

theorem days_to_ymd_calendar (days : Nat) (inRange : days + 719469 < 2 ^ 64) :
    daysToYmd days = successor^[days] (1970, 1, 1) ∧ IsDate (daysToYmd days) ∧
    daysToYmd (days + 1) = successor (daysToYmd days) := by
  refine ⟨?_, days_to_ymd_step inRange⟩
  induction days with
  | zero => decide
  | succ days ih => rw [Function.iterate_succ_apply', ← ih (by omega), (days_to_ymd_step (by omega)).2]

theorem leap_day_of_2000 : daysToYmd 11016 = (2000, 2, 29) ∧ IsDate (daysToYmd 11016) :=
  ⟨by decide, (days_to_ymd_calendar 11016 (by decide)).2.1⟩

end Visor.Audit
