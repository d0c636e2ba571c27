/-!
# Points in time as text

Times are counted in milliseconds from the start of 1970.  This file defines:

* `Date`, a day of the Gregorian calendar, with `Date.ofDays`;
* `Timestamp.text`, the written form of a time.
-/

namespace DeviceConsole

/-- A day of the calendar; years before 1 count down from 0. -/
structure Date where
  year : Int
  month : Nat
  day : Nat
  deriving DecidableEq, Repr

/-- The day a number of days after 1 January 1970.  Counting starts at 1 March of a year divisible
by 400, so that a leap day is the last day of its year and the calendar repeats every 146097 days.
-/
def Date.ofDays (days : Int) : Date :=
  let shifted := days + 719468
  let era := shifted.fdiv 146097
  let dayOfEra := (shifted.fmod 146097).toNat
  let yearOfEra := (dayOfEra - dayOfEra / 1460 + dayOfEra / 36524 - dayOfEra / 146096) / 365
  let dayOfYear := dayOfEra - (365 * yearOfEra + yearOfEra / 4 - yearOfEra / 100)
  let fromMarch := (5 * dayOfYear + 2) / 153
  let month := if fromMarch < 10 then fromMarch + 3 else fromMarch - 9
  let year := era * 400 + yearOfEra
  { year := if month ≤ 2 then year + 1 else year
    month := month
    day := dayOfYear - (153 * fromMarch + 2) / 5 + 1 }

namespace Timestamp

/-- The first time that has a text: the start of the year -262143. -/
def first : Int := -8334601228800000

/-- The last time that has a text: the end of the year 262142. -/
def last : Int := 8210266876799999

def padded (width n : Nat) : String :=
  let digits := toString n
  String.ofList (List.replicate (width - digits.length) '0') ++ digits

/-- Years of four digits stand alone, all others carry a sign. -/
def yearText (year : Int) : String :=
  if year < 0 then "-" ++ padded 4 year.natAbs
  else if year < 10000 then padded 4 year.natAbs
  else "+" ++ padded 4 year.natAbs

/-- The date and the time of day; nothing for times outside the calendar. -/
def text (ms : Int) : String :=
  if first ≤ ms ∧ ms ≤ last then
    let date := Date.ofDays (ms.fdiv 86400000)
    let rest := (ms.fmod 86400000).toNat
    yearText date.year ++ "-" ++ padded 2 date.month ++ "-" ++ padded 2 date.day ++ " " ++
      padded 2 (rest / 3600000) ++ ":" ++ padded 2 (rest / 60000 % 60) ++ ":" ++
      padded 2 (rest / 1000 % 60) ++ ":" ++ padded 3 (rest % 1000)
  else ""

end Timestamp

end DeviceConsole
