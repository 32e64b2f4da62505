/-! Proleptic Gregorian days: the civil date of a day number counted from
1970-01-01, by the era and March-based-year computation. -/

namespace WinBack.Library.Calendar

/-- Day of the era, a 400-year cycle that starts on 1 March. -/
def dayOfEra (day : Int) : Int := (day + 719468) % 146097

def yearOfEra (day : Int) : Int :=
  let doe := dayOfEra day
  (doe - doe / 1460 + doe / 36524 - doe / 146096) / 365

/-- Day of the year that starts on 1 March. -/
def dayOfYear (day : Int) : Int :=
  let yoe := yearOfEra day
  dayOfEra day - (365 * yoe + yoe / 4 - yoe / 100)

/-- Month counted from March. -/
def monthFromMarch (day : Int) : Int := (5 * dayOfYear day + 2) / 153

def dayOfMonth (day : Int) : Int := dayOfYear day - (153 * monthFromMarch day + 2) / 5 + 1

def month (day : Int) : Int :=
  if monthFromMarch day < 10 then monthFromMarch day + 3 else monthFromMarch day - 9

def year (day : Int) : Int :=
  yearOfEra day + (day + 719468) / 146097 * 400 + if month day ≤ 2 then 1 else 0

/-- Decimal digits, filled with zeros on the left. -/
def padded (width : Nat) (value : Nat) : String :=
  let digits := toString value
  "".pushn '0' (width - digits.length) ++ digits

/-- `date.toISOString()` of the milliseconds since the epoch. -/
def toISOString (ms : Int) : String :=
  let day := ms / 86400000
  let rest := (ms % 86400000).toNat
  let y := year day
  let shown := if 0 ≤ y ∧ y ≤ 9999 then padded 4 y.toNat
    else (if y < 0 then "-" else "+") ++ padded 6 y.natAbs
  shown ++ "-" ++ padded 2 (month day).toNat ++ "-" ++ padded 2 (dayOfMonth day).toNat ++
    "T" ++ padded 2 (rest / 3600000) ++ ":" ++ padded 2 (rest / 60000 % 60) ++
    ":" ++ padded 2 (rest / 1000 % 60) ++ "." ++ padded 3 (rest % 1000) ++ "Z"

def firstDayOfMonth (day : Int) : Int := day - (dayOfMonth day - 1)

theorem one_le_dayOfMonth (day : Int) : 1 ≤ dayOfMonth day := by
  unfold dayOfMonth monthFromMarch
  omega

theorem firstDayOfMonth_le (day : Int) : firstDayOfMonth day ≤ day := by
  have := one_le_dayOfMonth day
  unfold firstDayOfMonth
  omega

/-- 2026-06-28 lies in the month of 2026-06-01; 2024-02-29 in that of 2024-02-01. -/
example : firstDayOfMonth 20632 = 20605 ∧ firstDayOfMonth 19782 = 19754 := by decide

end WinBack.Library.Calendar
