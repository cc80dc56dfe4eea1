/-!
Dates of the proleptic Gregorian calendar, with a year 0 and years before it, and the neighbours of a date.
-/

namespace PeerChat.Calendar

/-! ### Months and years -/

/-- Whether the year has a 29th of February. -/
def isLeap (year : Int) : Bool := year % 4 == 0 && (year % 100 != 0 || year % 400 == 0)

def daysIn (year : Int) (month : Nat) : Nat :=
  if month = 2 then (if isLeap year then 29 else 28)
  else if month = 4 ∨ month = 6 ∨ month = 9 ∨ month = 11 then 30
  else 31

def firstYear : Int := -262143

def lastYear : Int := 262142

/-! ### Dates -/

/-- A day of the calendar. -/
structure Date where
  year : Int
  month : Nat
  day : Nat
  year_mem : firstYear ≤ year ∧ year ≤ lastYear
  month_mem : 1 ≤ month ∧ month ≤ 12
  day_mem : 1 ≤ day ∧ day ≤ daysIn year month
deriving DecidableEq, Repr

namespace Date

/-- The date with the given parts, if the calendar has it. -/
def of? (year : Int) (month day : Nat) : Option Date :=
  if hy : firstYear ≤ year ∧ year ≤ lastYear then
    if hm : 1 ≤ month ∧ month ≤ 12 then
      if hd : 1 ≤ day ∧ day ≤ daysIn year month then some ⟨year, month, day, hy, hm, hd⟩ else none
    else none
  else none

@[simp] theorem of?_parts (d : Date) : of? d.year d.month d.day = some d := by
  simp [of?, d.year_mem, d.month_mem, d.day_mem]

/-- The next day; none after the last year. -/
def next? (d : Date) : Option Date :=
  if d.day < daysIn d.year d.month then of? d.year d.month (d.day + 1)
  else if d.month < 12 then of? d.year (d.month + 1) 1
  else of? (d.year + 1) 1 1

/-- The day before; none before the first year. -/
def previous? (d : Date) : Option Date :=
  if 1 < d.day then of? d.year d.month (d.day - 1)
  else if 1 < d.month then of? d.year (d.month - 1) (daysIn d.year (d.month - 1))
  else of? (d.year - 1) 12 31

end Date

end PeerChat.Calendar
