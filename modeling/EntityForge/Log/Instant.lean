/-!
# Instants

An instant is counted in seconds from the beginning of 1970 and written as the date and the time of
day of universal time. The calendar repeats every four hundred years, and a year is counted from
March, so that the day that leap years add is the last one.
-/

set_option autoImplicit false

namespace EntityForge

/-- A moment after the beginning of 1970. -/
structure Instant where
  /-- The full seconds since then. -/
  seconds : Nat
  /-- The microseconds of the second that has begun. -/
  microseconds : Nat
deriving DecidableEq, Repr

/-- A day of a month of a year. -/
structure CalendarDay where
  year : Nat
  month : Nat
  day : Nat
deriving DecidableEq, Repr

/-- The days from the first of March of the year 0 to the beginning of 1970. -/
def daysBefore1970 : Nat := 719468

/-- The days of four hundred years. -/
def daysPerCycle : Nat := 146097

/-- The calendar day that is so many days after the beginning of 1970. -/
def CalendarDay.ofDays (days : Nat) : CalendarDay :=
  let shifted := days + daysBefore1970
  let inCycle := shifted % daysPerCycle
  let yearOfCycle := (inCycle - inCycle / 1460 + inCycle / 36524 - inCycle / 146096) / 365
  let inYear := inCycle - (365 * yearOfCycle + yearOfCycle / 4 - yearOfCycle / 100)
  let monthFromMarch := (5 * inYear + 2) / 153
  let month := if monthFromMarch < 10 then monthFromMarch + 3 else monthFromMarch - 9
  let year := yearOfCycle + 400 * (shifted / daysPerCycle)
  ⟨if month ≤ 2 then year + 1 else year, month, inYear - (153 * monthFromMarch + 2) / 5 + 1⟩

example : CalendarDay.ofDays 0 = ⟨1970, 1, 1⟩ := by decide
example : CalendarDay.ofDays 11016 = ⟨2000, 2, 29⟩ := by decide
example : CalendarDay.ofDays 11017 = ⟨2000, 3, 1⟩ := by decide
example : CalendarDay.ofDays 19723 = ⟨2024, 1, 1⟩ := by decide

/-- A number with noughts before it up to a number of digits. -/
def filled (width n : Nat) : String :=
  let digits := Nat.toDigits 10 n
  String.ofList (List.replicate (width - digits.length) '0' ++ digits)

/-- The text of an instant. -/
def Instant.text (instant : Instant) : String :=
  let date := CalendarDay.ofDays (instant.seconds / 86400)
  let time := instant.seconds % 86400
  filled 4 date.year ++ "-" ++ filled 2 date.month ++ "-" ++ filled 2 date.day ++ "T"
    ++ filled 2 (time / 3600) ++ ":" ++ filled 2 (time / 60 % 60) ++ ":" ++ filled 2 (time % 60)
    ++ "." ++ filled 6 instant.microseconds ++ "Z"

end EntityForge
