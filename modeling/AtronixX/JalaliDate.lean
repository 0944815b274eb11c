import AtronixX.Library.Calendars
import Mathlib.Tactic.IntervalCases

/-! The conversion of `core/jdate.py`: `gregorian_to_jalali` against the proleptic Gregorian
calendar and the Jalali calendar in which eight years of every 33 are leap years. -/
namespace AtronixX.JalaliDate
open Library.Calendars

/-- `g_d_m`: the days before a month of a common year. -/
def gDM : List Int := [0,31,59,90,120,151,181,212,243,273,304,334]

/-- `gregorian_to_jalali`, of a month from 1 to 12. -/
def gregorianToJalali (gy gm gd : Int) : Day :=
  let gy2 := if gm > 2 then gy + 1 else gy
  let days := 355666 + 365 * gy + (gy2 + 3) / 4 - (gy2 + 99) / 100 + (gy2 + 399) / 400 + gd +
    gDM.getD (gm - 1).toNat 0
  let jy := -1595 + 33 * (days / 12053)
  let days := days % 12053
  let jy := jy + 4 * (days / 1461)
  let days := days % 1461
  let (jy,days) := if days > 365 then (jy + (days - 1) / 365,(days - 1) % 365) else (jy,days)
  if days < 186 then ⟨jy,1 + days / 31,1 + days % 31⟩
  else ⟨jy,7 + (days - 186) / 30,1 + (days - 186) % 30⟩

def GregorianLeap (year : Int) : Prop := 4 ∣ year ∧ (¬100 ∣ year ∨ 400 ∣ year)

instance (year : Int) : Decidable (GregorianLeap year) :=
  inferInstanceAs (Decidable (_ ∧ _))

def gregorianLength (year month : Int) : Int :=
  if month = 2 then if GregorianLeap year then 29 else 28
  else if month = 4 ∨ month = 6 ∨ month = 9 ∨ month = 11 then 30 else 31

def JalaliLeap (year : Int) : Prop := (year + 1595) % 33 ∈ [0,4,8,12,16,20,24,28]

instance (year : Int) : Decidable (JalaliLeap year) :=
  inferInstanceAs (Decidable (_ ∈ _))

def jalaliLength (year month : Int) : Int :=
  if month ≤ 6 then 31 else if month ≤ 11 then 30 else if JalaliLeap year then 30 else 29

theorem gregorianLength_year (year : Int) :
    daysBefore gregorianLength year 13 = if GregorianLeap year then 366 else 365 := by
  change ((List.range 12).map fun index : Nat => gregorianLength year (index + 1)).sum = _
  by_cases leap : GregorianLeap year <;> simp [List.range_succ,gregorianLength,leap]

theorem jalaliLength_year (year : Int) :
    daysBefore jalaliLength year 13 = if JalaliLeap year then 366 else 365 := by
  change ((List.range 12).map fun index : Nat => jalaliLength year (index + 1)).sum = _
  by_cases leap : JalaliLeap year <;> simp [List.range_succ,jalaliLength,leap]

theorem jalaliLeap_iff (year : Int) :
    JalaliLeap year ↔ (year + 1595) % 33 % 4 = 0 ∧ (year + 1595) % 33 ≠ 32 := by
  unfold JalaliLeap
  simp only [List.mem_cons,List.not_mem_nil,or_false]
  omega

def gregorian : Calendar where
  length := gregorianLength
  newYear year := 365 * (year - 1) + (year - 1) / 4 - (year - 1) / 100 + (year - 1) / 400
  positive year month := by
    unfold gregorianLength
    split_ifs <;> omega
  newYear_next year := by
    rw [gregorianLength_year]
    split
    next leap =>
      unfold GregorianLeap at leap
      omega
    next common =>
      unfold GregorianLeap at common
      omega

def jalali : Calendar where
  length := jalaliLength
  newYear year := 365 * (year + 1595) + 8 * ((year + 1595) / 33) + ((year + 1595) % 33 + 3) / 4
  positive year month := by
    unfold jalaliLength
    split_ifs <;> omega
  newYear_next year := by
    rw [jalaliLength_year]
    split
    next leap =>
      rw [jalaliLeap_iff] at leap
      omega
    next common =>
      rw [jalaliLeap_iff] at common
      omega

theorem gregorian_daysBefore (year : Int) {month : Int} (first : 1 ≤ month) (last : month ≤ 12) :
    daysBefore gregorianLength year month = gDM.getD (month - 1).toNat 0 +
      if month > 2 ∧ GregorianLeap year then 1 else 0 := by
  obtain ⟨index,bound,rfl⟩ : ∃ index : Nat, index < 12 ∧ month = index + 1 :=
    ⟨(month - 1).toNat,by omega,by omega⟩
  unfold daysBefore gDM
  by_cases leap : GregorianLeap year <;>
    interval_cases index <;> simp [List.range_succ,gregorianLength,leap]

theorem jalali_daysBefore (year : Int) {month : Int} (first : 1 ≤ month) (last : month ≤ 12) :
    daysBefore jalaliLength year month =
      if month ≤ 7 then 31 * (month - 1) else 186 + 30 * (month - 7) := by
  obtain ⟨index,bound,rfl⟩ : ∃ index : Nat, index < 12 ∧ month = index + 1 :=
    ⟨(month - 1).toNat,by omega,by omega⟩
  unfold daysBefore
  interval_cases index <;> simp [List.range_succ,jalaliLength]

/-- The sum that `gregorian_to_jalali` calls `days`. -/
def dayCount (gy gm gd : Int) : Int :=
  let gy2 := if gm > 2 then gy + 1 else gy
  355666 + 365 * gy + (gy2 + 3) / 4 - (gy2 + 99) / 100 + (gy2 + 399) / 400 + gd +
    gDM.getD (gm - 1).toNat 0

def yearOf (days : Int) : Int × Int :=
  let jy := -1595 + 33 * (days / 12053) + 4 * (days % 12053 / 1461)
  let days := days % 12053 % 1461
  if days > 365 then (jy + (days - 1) / 365,(days - 1) % 365) else (jy,days)

def inYear (jy days : Int) : Day :=
  if days < 186 then ⟨jy,1 + days / 31,1 + days % 31⟩
  else ⟨jy,7 + (days - 186) / 30,1 + (days - 186) % 30⟩

theorem gregorianToJalali_eq (gy gm gd : Int) : gregorianToJalali gy gm gd =
    inYear (yearOf (dayCount gy gm gd)).1 (yearOf (dayCount gy gm gd)).2 :=
  rfl

theorem dayCount_eq (date : Date gregorian) :
    dayCount date.year date.month date.day = date.number + 356032 := by
  have months := gregorian_daysBefore date.year date.valid.firstMonth date.valid.lastMonth
  unfold dayCount Date.number
  change _ = 365 * (date.year - 1) + (date.year - 1) / 4 - (date.year - 1) / 100 +
    (date.year - 1) / 400 + daysBefore gregorianLength date.year date.month + date.day + 356032
  rw [months]
  unfold GregorianLeap
  dsimp only
  split_ifs <;> omega

theorem yearOf_spec (days : Int) :
    days = jalali.newYear (yearOf days).1 + (yearOf days).2 ∧ 0 ≤ (yearOf days).2 ∧
      (yearOf days).2 < if JalaliLeap (yearOf days).1 then 366 else 365 := by
  unfold yearOf jalali
  dsimp only
  split
  next later =>
    refine ⟨by dsimp only; omega,by dsimp only; omega,?_⟩
    split <;> omega
  next first =>
    refine ⟨by dsimp only; omega,by dsimp only; omega,?_⟩
    split
    next => omega
    next common =>
      have cycle : (-1595 + 33 * (days / 12053) + 4 * (days % 12053 / 1461) + 1595) % 33 =
          4 * (days % 12053 / 1461) := by omega
      rw [jalaliLeap_iff,cycle] at common
      omega

theorem inYear_spec {jy days : Int} (first : 0 ≤ days)
    (last : days < if JalaliLeap jy then 366 else 365) :
    Valid jalali (inYear jy days) ∧ (inYear jy days).year = jy ∧
      daysBefore jalaliLength jy (inYear jy days).month + (inYear jy days).day = days + 1 := by
  unfold inYear
  split
  next half =>
    have before := jalali_daysBefore jy (show 1 ≤ 1 + days / 31 by omega) (by omega)
    rw [if_pos (by omega)] at before
    refine ⟨⟨by dsimp only; omega,by dsimp only; omega,by dsimp only; omega,?_⟩,rfl,?_⟩
    · change 1 + days % 31 ≤ jalaliLength jy (1 + days / 31)
      unfold jalaliLength
      rw [if_pos (by omega)]
      omega
    · dsimp only
      omega
  next half =>
    have bound : days < 366 := by split at last <;> omega
    have before := jalali_daysBefore jy (show 1 ≤ 7 + (days - 186) / 30 by omega) (by omega)
    refine ⟨⟨by dsimp only; omega,by dsimp only; omega,by dsimp only; omega,?_⟩,rfl,?_⟩
    · change 1 + (days - 186) % 30 ≤ jalaliLength jy (7 + (days - 186) / 30)
      unfold jalaliLength
      split_ifs at last ⊢ <;> omega
    · dsimp only
      split_ifs at before <;> omega

private theorem valid_gregorianToJalali (gy gm gd : Int) :
    Valid jalali (gregorianToJalali gy gm gd) := by
  obtain ⟨_,first,last⟩ := yearOf_spec (dayCount gy gm gd)
  rw [gregorianToJalali_eq]
  exact (inYear_spec first last).1

def toJalali (date : Date gregorian) : Date jalali :=
  ⟨gregorianToJalali date.year date.month date.day,valid_gregorianToJalali _ _ _⟩

theorem number_toJalali (date : Date gregorian) : (toJalali date).number = date.number + 356033 := by
  obtain ⟨counted,first,last⟩ := yearOf_spec (dayCount date.year date.month date.day)
  obtain ⟨_,year,inside⟩ := inYear_spec first last
  rw [dayCount_eq] at counted first last year inside
  change (let image := gregorianToJalali date.year date.month date.day
    jalali.newYear image.year + daysBefore jalaliLength image.year image.month + image.day) = _
  rw [gregorianToJalali_eq,dayCount_eq]
  dsimp only
  rw [year]
  omega

theorem toJalali_next (date : Date gregorian) : toJalali date.next = (toJalali date).next := by
  apply number_injective
  rw [number_toJalali,Date.number_next,Date.number_next,number_toJalali]
  omega

def nowruz : Date gregorian := ⟨⟨2025,3,21⟩,by decide,by decide,by decide,by decide⟩

def farvardin : Date jalali := ⟨⟨1404,1,1⟩,by decide,by decide,by decide,by decide⟩

/-- The Jalali calendar counted day by day from the first of Farvardin 1404. -/
def reference (date : Date gregorian) : Date jalali :=
  farvardin.shift (date.number - nowruz.number)

example : (reference ⟨⟨2024,3,19⟩,by decide,by decide,by decide,by decide⟩).toDay = ⟨1402,12,29⟩ := by
  decide +kernel

/-- A correct map of the Gregorian dates into the Jalali calendar. -/
structure Correct (convert : Day → Day) : Prop where
  valid : ∀ date : Date gregorian, Valid jalali (convert date.toDay)
  next : ∀ date : Date gregorian, ∃ image : Date jalali, image.toDay = convert date.toDay ∧
    convert date.next.toDay = image.next.toDay
  anchor : convert ⟨2025,3,21⟩ = ⟨1404,1,1⟩
  ordered : ∀ first second : Date gregorian,
    (convert first.toDay).Before (convert second.toDay) ↔ first.Before second.toDay
  injective : ∀ first second : Date gregorian, convert first.toDay = convert second.toDay →
    first = second
  reference : ∀ date : Date gregorian, convert date.toDay = (reference date).toDay

theorem gregorian_to_jalali_correct :
    Correct fun date => gregorianToJalali date.year date.month date.day where
  valid _ := valid_gregorianToJalali _ _ _
  next date := ⟨toJalali date,rfl,congrArg Date.toDay (toJalali_next date)⟩
  anchor := by decide
  ordered := before_map toJalali_next
  injective first second same := injective_map toJalali_next (date_ext same)
  reference date := by
    have anchor : toJalali nowruz = farvardin := date_ext (by decide)
    have same := map_eq_shift toJalali_next nowruz date
    rw [anchor] at same
    exact congrArg Date.toDay same

end AtronixX.JalaliDate
