-- Dates of the proleptic Gregorian calendar, and timestamps without a time zone, which may fall
-- into a leap second.
namespace SqlTree

/-- Whether a year has a twenty-ninth of February. -/
def isLeapYear (year : Int) : Bool :=
  year % 4 == 0 && (year % 100 != 0 || year % 400 == 0)

/-- The number of days of a month, counted from January as one. -/
def daysInMonth (year : Int) (month : Nat) : Nat :=
  if month == 2 then (if isLeapYear year then 29 else 28)
  else if month == 4 || month == 6 || month == 9 || month == 11 then 30
  else 31

/-- The days of the years -262143 to 262142. -/
def Date.Valid (year : Int) (month day : Nat) : Prop :=
  -262143 ≤ year ∧ year ≤ 262142 ∧ 1 ≤ month ∧ month ≤ 12 ∧ 1 ≤ day ∧ day ≤ daysInMonth year month

instance (year : Int) (month day : Nat) : Decidable (Date.Valid year month day) := by
  unfold Date.Valid; infer_instance

/-- A day of the calendar. -/
structure Date where
  year : Int
  month : Nat
  day : Nat
  valid : Date.Valid year month day
deriving DecidableEq, Repr

/-- The date of a year, month and day, if there is such a day. -/
def Date.of? (year : Int) (month day : Nat) : Option Date :=
  if h : Date.Valid year month day then some ⟨year, month, day, h⟩ else none

/-- The times of a day. In a leap second, the nanoseconds of second 59 go on past one second. -/
def Timestamp.ValidTime (hour minute second nanos : Nat) : Prop :=
  hour < 24 ∧ minute < 60 ∧ second < 60 ∧
    (nanos < 1000000000 ∨ (second = 59 ∧ nanos < 2000000000))

instance (hour minute second nanos : Nat) :
    Decidable (Timestamp.ValidTime hour minute second nanos) := by
  unfold Timestamp.ValidTime; infer_instance

/-- A moment of a day, to the nanosecond. -/
structure Timestamp where
  date : Date
  hour : Nat
  minute : Nat
  second : Nat
  nanos : Nat
  valid : Timestamp.ValidTime hour minute second nanos
deriving DecidableEq, Repr

/-- The timestamp of a date and a time, if there is such a time. -/
def Timestamp.of? (date : Date) (hour minute second nanos : Nat) : Option Timestamp :=
  if h : Timestamp.ValidTime hour minute second nanos then
    some ⟨date, hour, minute, second, nanos, h⟩
  else none

/-- The first moment of a date. -/
def Date.midnight (d : Date) : Timestamp :=
  ⟨d, 0, 0, 0, 0, by unfold Timestamp.ValidTime; omega⟩

end SqlTree
