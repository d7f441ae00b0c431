namespace PlayerHub.Calendar

/-- Whether a year has a 29th of February. -/
def isLeap (year : Int) : Bool :=
  year % 4 == 0 && (year % 100 != 0 || year % 400 == 0)

/-- The number of days of a month, `1` for January. -/
def monthLength (year : Int) (month : Nat) : Nat :=
  if month = 2 then (if isLeap year then 29 else 28)
  else if month = 4 ∨ month = 6 ∨ month = 9 ∨ month = 11 then 30
  else 31

theorem monthLength_pos (year : Int) (month : Nat) : 1 ≤ monthLength year month := by
  unfold monthLength; split <;> split <;> omega

/-- A day of the proleptic Gregorian calendar. The year before 1 is 0. -/
structure Date where
  year : Int
  month : Nat
  day : Nat
  month_mem : 1 ≤ month ∧ month ≤ 12
  day_mem : 1 ≤ day ∧ day ≤ monthLength year month
deriving DecidableEq, Repr

namespace Date

/-- The day with the given numbers, if the calendar has it. -/
def of? (year : Int) (month day : Nat) : Option Date :=
  if h : (1 ≤ month ∧ month ≤ 12) ∧ (1 ≤ day ∧ day ≤ monthLength year month) then
    some ⟨year, month, day, h.1, h.2⟩
  else none

/-- The first day of a month, and of January if there is no such month. -/
def firstOf (year : Int) (month : Nat) : Date :=
  if h : 1 ≤ month ∧ month ≤ 12 then
    ⟨year, month, 1, h, Nat.le_refl 1, monthLength_pos year month⟩
  else ⟨year, 1, 1, by decide, Nat.le_refl 1, monthLength_pos year 1⟩

/-- The last day of a month, and of December if there is no such month. -/
def lastOf (year : Int) (month : Nat) : Date :=
  if h : 1 ≤ month ∧ month ≤ 12 then
    ⟨year, month, monthLength year month, h, monthLength_pos year month, Nat.le_refl _⟩
  else ⟨year, 12, monthLength year 12, by decide, monthLength_pos year 12, Nat.le_refl _⟩

/-- The day after. -/
def next (d : Date) : Date :=
  if h : d.day + 1 ≤ monthLength d.year d.month then
    { d with day := d.day + 1, day_mem := ⟨by omega, h⟩ }
  else if d.month = 12 then firstOf (d.year + 1) 1
  else firstOf d.year (d.month + 1)

/-- The day before. -/
def prev (d : Date) : Date :=
  if h : 1 ≤ d.day - 1 then
    { d with day := d.day - 1, day_mem := ⟨h, by have := d.day_mem; omega⟩ }
  else if d.month = 1 then lastOf (d.year - 1) 12
  else lastOf d.year (d.month - 1)

/-- The number of days from the first of January of the year 1 to that of another year. -/
def daysBefore (year : Int) : Int :=
  let y := year - 1
  365 * y + y.fdiv 4 - y.fdiv 100 + y.fdiv 400

/-- The year that holds the day with the given number, where the first of January of the year 1 is
day 0. The mean length of a year gives it or the year before it. -/
def yearOf (n : Int) : Int :=
  let y := (400 * n).fdiv 146097 + 1
  if daysBefore (y + 1) ≤ n then y + 1 else if n < daysBefore y then y - 1 else y

/-- The day that comes `n` days after the first day of the first of the given months of a year.
What lies beyond them is the last day of the year. -/
def inMonths (year : Int) : Nat → List Nat → Date
  | _, [] => lastOf year 12
  | n, month :: months =>
    match of? year month (n + 1) with
    | some d => d
    | none => inMonths year (n - monthLength year month) months

/-- The day with the given number, where the first of January 1970 is day 0. -/
def ofDayNumber (n : Int) : Date :=
  let n := n + 719162
  let year := yearOf n
  inMonths year (n - daysBefore year).toNat [1, 2, 3, 4, 5, 6, 7, 8, 9, 10, 11, 12]

end Date

end PlayerHub.Calendar
