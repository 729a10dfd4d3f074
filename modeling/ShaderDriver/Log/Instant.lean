namespace ShaderDriver.Log

/-! A point in time and its stamp in the calendar. The stamp here is of universal time; what shows
times takes the stamp as a parameter, so that it can be of another zone. -/

/-- Seconds since the start of 1970, and the nanoseconds past them. -/
structure Instant where
  seconds : Int
  nanos : Nat
deriving DecidableEq, Repr

structure Date where
  year : Int
  month : Nat
  day : Nat
deriving DecidableEq, Repr

namespace Date

/-- The date that lies `day` days after 1 January 1970. Years are counted from March, so that the
leap day ends one, and days from 1 March of the year 0 in rounds of 400 years. -/
def ofDay (day : Int) : Date :=
  let shifted := day + 719468
  let round := shifted / 146097
  let dayOfRound := (shifted % 146097).toNat
  let yearOfRound :=
    (dayOfRound - dayOfRound / 1460 + dayOfRound / 36524 - dayOfRound / 146096) / 365
  let dayOfYear := dayOfRound - (365 * yearOfRound + yearOfRound / 4 - yearOfRound / 100)
  let monthFromMarch := (5 * dayOfYear + 2) / 153
  let month := if monthFromMarch < 10 then monthFromMarch + 3 else monthFromMarch - 9
  { year := round * 400 + yearOfRound + (if month ≤ 2 then 1 else 0)
    month
    day := dayOfYear - (153 * monthFromMarch + 2) / 5 + 1 }

end Date

/-- Decimal digits with zeros in front up to `width`. -/
def padded (width value : Nat) : String :=
  let digits := Nat.toDigits 10 value
  String.ofList (List.replicate (width - digits.length) '0' ++ digits)

/-- Four digits from the year 0 to 9999; other years have a sign as well. -/
def yearText (year : Int) : String :=
  if year < 0 then "-" ++ padded 4 year.natAbs
  else if year ≤ 9999 then padded 4 year.toNat
  else "+" ++ padded 4 year.toNat

namespace Instant

/-- The first and the last second of the years -262143 to 262142, which the calendar covers. -/
def firstSecond : Int := -8334601228800

def lastSecond : Int := 8210266876799

def covered (instant : Instant) : Bool :=
  firstSecond ≤ instant.seconds && instant.seconds ≤ lastSecond

/-- Date and time of day to the millisecond, cut and not rounded. -/
def stamp (instant : Instant) : String :=
  let date := Date.ofDay (instant.seconds / 86400)
  let time := (instant.seconds % 86400).toNat
  yearText date.year ++ "-" ++ padded 2 date.month ++ "-" ++ padded 2 date.day ++ " " ++
    padded 2 (time / 3600) ++ ":" ++ padded 2 (time / 60 % 60) ++ ":" ++ padded 2 (time % 60) ++
    "." ++ padded 3 (instant.nanos / 1000000)

def stamp? (instant : Instant) : Option String :=
  if instant.covered then some instant.stamp else none

end Instant

end ShaderDriver.Log
