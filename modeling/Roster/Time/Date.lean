/-!
# Calendar dates

Dates of the Gregorian calendar, reckoned backwards and forwards without end. The years go as
far as 262143 years before year 0 and 262142 years after it, which bounds every stored time.
-/

namespace Roster.Time

/-- Whether a year has a 29th of February. -/
def isLeap (year : Int) : Bool :=
  year % 4 = 0 && (year % 100 ≠ 0 || year % 400 = 0)

/-- The number of days of a month, zero for what is no month. -/
def daysInMonth (year : Int) (month : Nat) : Nat :=
  match month with
  | 1 | 3 | 5 | 7 | 8 | 10 | 12 => 31
  | 4 | 6 | 9 | 11 => 30
  | 2 => if isLeap year then 29 else 28
  | _ => 0

/-- A day of the calendar. -/
structure Date where
  year : Int
  month : Nat
  day : Nat
  year_ge : -262143 ≤ year := by decide
  year_le : year ≤ 262142 := by decide
  day_pos : 1 ≤ day := by decide
  day_le : day ≤ daysInMonth year month := by decide
  deriving DecidableEq

namespace Date

instance : Repr Date := ⟨fun date => reprPrec (date.year, date.month, date.day)⟩

/-- The day with these numbers, if there is one. -/
def of? (year : Int) (month day : Nat) : Option Date :=
  if h : -262143 ≤ year ∧ year ≤ 262142 ∧ 1 ≤ day ∧ day ≤ daysInMonth year month then
    some ⟨year, month, day, h.1, h.2.1, h.2.2.1, h.2.2.2⟩
  else none

/-- The day after. -/
def next? (date : Date) : Option Date :=
  if date.day < daysInMonth date.year date.month then
    of? date.year date.month (date.day + 1)
  else if date.month < 12 then
    of? date.year (date.month + 1) 1
  else
    of? (date.year + 1) 1 1

/-- The day before. -/
def previous? (date : Date) : Option Date :=
  if 1 < date.day then
    of? date.year date.month (date.day - 1)
  else if 1 < date.month then
    of? date.year (date.month - 1) (daysInMonth date.year (date.month - 1))
  else
    of? (date.year - 1) 12 31

/-- The day a number of days later, or the last day of the calendar. -/
def addDays : (days : Nat) → Date → Date
  | 0, date => date
  | days + 1, date => addDays days (date.next?.getD date)

/-- The number of days since the first of January 1970. -/
def daysSinceEpoch (date : Date) : Int :=
  let year := if date.month ≤ 2 then date.year - 1 else date.year
  let era := year.fdiv 400
  let yearOfEra := year - era * 400
  let monthFromMarch : Nat := if 2 < date.month then date.month - 3 else date.month + 9
  let dayOfYear : Nat := (153 * monthFromMarch + 2) / 5 + (date.day - 1)
  let dayOfEra := yearOfEra * 365 + yearOfEra / 4 - yearOfEra / 100 + dayOfYear
  era * 146097 + dayOfEra - 719468

@[simp]
theorem of?_self (date : Date) : of? date.year date.month date.day = some date := by
  simp [of?, date.year_ge, date.year_le, date.day_pos, date.day_le]

end Date

end Roster.Time
