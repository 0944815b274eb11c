import Mathlib.Algebra.Order.BigOperators.Group.List
import Mathlib.Tactic.Common
import Mathlib.Tactic.Linarith
import Mathlib.Tactic.Ring

/-! Calendars of twelve months, given by the lengths of the months and the number of days
before each year. Dates are numbered by counting days; the day after a date, the order of
dates and the date some days away are all seen in the number. -/
namespace AtronixX.Library.Calendars

structure Day where
  year : Int
  month : Int
  day : Int
  deriving DecidableEq, Repr

/-- Earlier by year, then month, then day. -/
def Day.Before (first second : Day) : Prop :=
  first.year < second.year ∨ first.year = second.year ∧
    (first.month < second.month ∨ first.month = second.month ∧ first.day < second.day)

/-- The days of a year before a month. -/
def daysBefore (length : Int → Int → Int) (year month : Int) : Int :=
  ((List.range (month - 1).toNat).map fun index : Nat => length year (index + 1)).sum

structure Calendar where
  length : Int → Int → Int
  /-- The days before a year, counted from some year. -/
  newYear : Int → Int
  positive : ∀ year month, 0 < length year month
  newYear_next : ∀ year, newYear (year + 1) = newYear year + daysBefore length year 13

structure Valid (calendar : Calendar) (date : Day) : Prop where
  firstMonth : 1 ≤ date.month
  lastMonth : date.month ≤ 12
  firstDay : 1 ≤ date.day
  lastDay : date.day ≤ calendar.length date.year date.month

structure Date (calendar : Calendar) extends Day where
  valid : Valid calendar toDay

variable {calendar : Calendar}

theorem daysBefore_next (calendar : Calendar) (year : Int) {month : Int} (first : 1 ≤ month) :
    daysBefore calendar.length year (month + 1) =
      daysBefore calendar.length year month + calendar.length year month := by
  obtain ⟨index,rfl⟩ : ∃ index : Nat, month = index + 1 := ⟨(month - 1).toNat,by omega⟩
  have longer : ((index + 1 + 1 : Int) - 1).toNat = index + 1 := by omega
  have shorter : ((index + 1 : Int) - 1).toNat = index := by omega
  unfold daysBefore
  rw [longer,shorter,List.range_succ]
  simp

theorem daysBefore_first (calendar : Calendar) (year : Int) : daysBefore calendar.length year 1 = 0 := rfl

theorem daysBefore_later (calendar : Calendar) (year : Int) {month later : Int} (first : 1 ≤ month) (after : month < later) :
    daysBefore calendar.length year month + calendar.length year month ≤
      daysBefore calendar.length year later := by
  obtain ⟨gap,rfl⟩ : ∃ gap : Nat, later = month + 1 + gap := ⟨(later - month - 1).toNat,by omega⟩
  rw [← daysBefore_next calendar year first]
  clear after
  induction gap with
  | zero => simp
  | succ gap ih =>
    have step := daysBefore_next calendar year (show 1 ≤ month + 1 + gap by omega)
    have more := calendar.positive year (month + 1 + gap)
    push_cast
    rw [← add_assoc]
    omega

theorem newYear_later (calendar : Calendar) {year later : Int} (after : year < later) :
    calendar.newYear year + daysBefore calendar.length year 13 ≤ calendar.newYear later := by
  obtain ⟨gap,rfl⟩ : ∃ gap : Nat, later = year + 1 + gap := ⟨(later - year - 1).toNat,by omega⟩
  rw [← calendar.newYear_next]
  clear after
  induction gap with
  | zero => simp
  | succ gap ih =>
    have step := calendar.newYear_next (year + 1 + gap)
    have months := daysBefore_later calendar (year + 1 + gap) (le_refl 1)
      (show (1 : Int) < 13 by omega)
    have more := calendar.positive (year + 1 + gap) 1
    rw [daysBefore_first] at months
    push_cast
    rw [← add_assoc]
    omega

namespace Date
variable (date : Date calendar)

def number : Int :=
  calendar.newYear date.year + daysBefore calendar.length date.year date.month + date.day

def next : Date calendar :=
  if lastDay : date.day < calendar.length date.year date.month then
    ⟨⟨date.year,date.month,date.day + 1⟩,date.valid.firstMonth,date.valid.lastMonth,
      by have first := date.valid.firstDay; dsimp only; omega,lastDay⟩
  else if lastMonth : date.month < 12 then
    ⟨⟨date.year,date.month + 1,1⟩,by have first := date.valid.firstMonth; dsimp only; omega,lastMonth,
      le_refl _,calendar.positive _ _⟩
  else ⟨⟨date.year + 1,1,1⟩,le_refl _,Int.le.intro_sub 11 rfl,le_refl _,calendar.positive _ _⟩

def previous : Date calendar :=
  if firstDay : 1 < date.day then
    ⟨⟨date.year,date.month,date.day - 1⟩,date.valid.firstMonth,date.valid.lastMonth,
      by dsimp only; omega,by have last := date.valid.lastDay; dsimp only; omega⟩
  else if firstMonth : 1 < date.month then
    ⟨⟨date.year,date.month - 1,calendar.length date.year (date.month - 1)⟩,by dsimp only; omega,
      by have last := date.valid.lastMonth; dsimp only; omega,calendar.positive _ _,le_refl _⟩
  else ⟨⟨date.year - 1,12,calendar.length (date.year - 1) 12⟩,Int.le.intro_sub 11 rfl,le_refl _,
    calendar.positive _ _,le_refl _⟩

/-- The date some days later, or earlier. -/
def shift (date : Date calendar) : Int → Date calendar
  | .ofNat days => next^[days] date
  | .negSucc days => previous^[days + 1] date

theorem number_next : date.next.number = date.number + 1 := by
  unfold next
  split
  next lastDay =>
    unfold number
    dsimp only
    omega
  next lastDay =>
    have first := date.valid.firstMonth
    have last := date.valid.lastDay
    split
    next lastMonth =>
      have step := daysBefore_next calendar date.year first
      unfold number
      dsimp only
      omega
    next lastMonth =>
      have december : date.month = 12 := le_antisymm date.valid.lastMonth (not_lt.mp lastMonth)
      have step := daysBefore_next calendar date.year first
      have year := calendar.newYear_next date.year
      have january := daysBefore_first calendar (date.year + 1)
      unfold number
      dsimp only
      rw [december] at step last lastDay ⊢
      norm_num at step
      omega

theorem number_previous : date.previous.number = date.number - 1 := by
  have firstDay := date.valid.firstDay
  unfold previous
  split
  next =>
    unfold number
    dsimp only
    omega
  next day =>
    split
    next month =>
      have step := daysBefore_next calendar date.year (show 1 ≤ date.month - 1 by omega)
      rw [sub_add_cancel] at step
      unfold number
      dsimp only
      omega
    next month =>
      have january : date.month = 1 := le_antisymm (not_lt.mp month) date.valid.firstMonth
      have step := daysBefore_next calendar (date.year - 1) (show (1 : Int) ≤ 12 by omega)
      have year := calendar.newYear_next (date.year - 1)
      have first := daysBefore_first calendar date.year
      rw [sub_add_cancel] at year
      norm_num at step
      unfold number
      dsimp only
      rw [january]
      omega

private theorem number_iterate {move : Date calendar → Date calendar} {days : Int}
    (moves : ∀ date, (move date).number = date.number + days) (count : Nat) (date : Date calendar) :
    (move^[count] date).number = date.number + count * days := by
  induction count generalizing date with
  | zero => simp
  | succ count ih =>
    rw [Function.iterate_succ_apply,ih,moves]
    push_cast
    ring

theorem number_shift (days : Int) : (date.shift days).number = date.number + days := by
  cases days with
  | ofNat days =>
    have moved := number_iterate number_next days date
    simpa [shift] using moved
  | negSucc days =>
    have moved := number_iterate number_previous (days + 1) date
    simp only [shift,moved,Int.negSucc_eq]
    push_cast
    ring

end Date

theorem number_lt {first second : Date calendar} (before : first.Before second.toDay) :
    first.number < second.number := by
  have lastDay := first.valid.lastDay
  have firstDay := second.valid.firstDay
  have wholeMonth {month : Int} (after : first.month < month) :=
    daysBefore_later calendar first.year first.valid.firstMonth after
  unfold Date.number
  rcases before with year | ⟨year,month | ⟨month,day⟩⟩
  · have later := newYear_later calendar year
    have lastMonth := wholeMonth (show first.month < 13 from Int.lt_add_one_of_le first.valid.lastMonth)
    have months : 0 ≤ daysBefore calendar.length second.year second.month := by
      apply List.sum_nonneg
      intro length member
      obtain ⟨index,_,rfl⟩ := List.mem_map.mp member
      exact (calendar.positive _ _).le
    omega
  · have later := wholeMonth month
    rw [← year]
    omega
  · rw [← year,← month]
    omega

theorem before_or_same (first second : Day) :
    first.Before second ∨ first = second ∨ second.Before first := by
  obtain ⟨year,month,day⟩ := first
  obtain ⟨otherYear,otherMonth,otherDay⟩ := second
  simp only [Day.Before,Day.mk.injEq]
  omega

theorem date_ext {first second : Date calendar} (same : first.toDay = second.toDay) :
    first = second := by
  cases first
  cases second
  simpa using same

theorem number_lt_iff {first second : Date calendar} :
    first.number < second.number ↔ first.Before second.toDay := by
  constructor
  · intro less
    rcases before_or_same first.toDay second.toDay with before | same | after
    · exact before
    · exact absurd less (date_ext same ▸ lt_irrefl _)
    · exact absurd less (number_lt after).asymm
  · exact number_lt

theorem number_injective {first second : Date calendar} (same : first.number = second.number) :
    first = second := by
  rcases before_or_same first.toDay second.toDay with before | equal | after
  · exact absurd same (number_lt before).ne
  · exact date_ext equal
  · exact absurd same (number_lt after).ne'

theorem shift_between (first second : Date calendar) :
    first.shift (second.number - first.number) = second := by
  apply number_injective
  rw [Date.number_shift]
  omega

section Map
variable {target : Calendar} {convert : Date calendar → Date target}
  (steps : ∀ date, convert date.next = (convert date).next)

include steps

theorem number_map_later (first : Date calendar) (days : Nat) :
    (convert (first.shift days)).number = (convert first).number + days := by
  have iterated : convert (Date.next^[days] first) = Date.next^[days] (convert first) :=
    Function.Semiconj.iterate_right (show Function.Semiconj convert Date.next Date.next from steps) days first
  have counted := (convert first).number_shift days
  rw [← counted]
  exact congrArg Date.number iterated

theorem number_map (first second : Date calendar) :
    (convert second).number - (convert first).number = second.number - first.number := by
  rcases le_total first.number second.number with later | earlier
  · have moved := number_map_later steps first (second.number - first.number).toNat
    rw [Int.toNat_of_nonneg (by omega),shift_between] at moved
    omega
  · have moved := number_map_later steps second (first.number - second.number).toNat
    rw [Int.toNat_of_nonneg (by omega),shift_between] at moved
    omega

theorem before_map (first second : Date calendar) :
    (convert first).Before (convert second).toDay ↔ first.Before second.toDay := by
  rw [← number_lt_iff,← number_lt_iff]
  have same := number_map steps first second
  omega

theorem injective_map : Function.Injective convert := by
  intro first second same
  have days := number_map steps first second
  rw [same] at days
  exact number_injective (by omega)

theorem map_eq_shift (anchor date : Date calendar) :
    convert date = (convert anchor).shift (date.number - anchor.number) := by
  apply number_injective
  rw [Date.number_shift,← number_map steps anchor date]
  omega

end Map

end AtronixX.Library.Calendars
