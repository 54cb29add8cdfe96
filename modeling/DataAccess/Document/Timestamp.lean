/-
  DataAccess.Document.Timestamp — points in time as text.

  A point in time is a count of milliseconds since the start of 1970.  In
  the years 0 to 9999 its text is the date and the time of day in UTC, with
  as many digits of the second as are needed; beyond them it is the count.
-/

namespace DataAccess.Timestamp

/-- A calendar date. -/
structure Date where
  year : Int
  month : Nat
  day : Nat
  deriving Repr, DecidableEq

/-- Days in a cycle of 400 years. -/
def eraDays : Nat := 146097

/-- The place of a day, counted from the first of March of the year 0,
within its cycle. -/
def dayOfEra (days : Int) : Nat := (days % eraDays).toNat

/-- The date of a day counted from the start of 1970.  Years are counted from
March, so that a leap day ends its year. -/
def dateOf (daysSince1970 : Int) : Date :=
  let days := daysSince1970 + 719468
  let doe := dayOfEra days
  let yoe := (doe - doe / 1460 + doe / 36524 - doe / 146096) / 365
  let doy := doe - (365 * yoe + yoe / 4 - yoe / 100)
  let mp := (5 * doy + 2) / 153
  let day := doy - (153 * mp + 2) / 5 + 1
  let month := if mp < 10 then mp + 3 else mp - 9
  let year := (yoe : Int) + (days / eraDays) * 400 + (if month ≤ 2 then 1 else 0)
  ⟨year, month, day⟩

/-- A number with leading zeros up to a width. -/
def padded (width n : Nat) : List Char :=
  let digits := Nat.toDigits 10 n
  List.replicate (width - digits.length) '0' ++ digits

/-- The fraction of a second, without zeros at its end. -/
def fraction (millis : Nat) : List Char :=
  if millis = 0 then []
  else '.' :: ((padded 3 millis).reverse.dropWhile (· = '0')).reverse

/-- The text of a point in time. -/
def render (millis : Int) : String :=
  let date := dateOf (millis / 86400000)
  let rest := (millis % 86400000).toNat
  if 0 ≤ date.year ∧ date.year ≤ 9999 then
    String.ofList (padded 4 date.year.toNat ++ '-' :: padded 2 date.month
      ++ '-' :: padded 2 date.day ++ 'T' :: padded 2 (rest / 3600000) ++ ':' :: padded 2 (rest / 60000 % 60)
      ++ ':' :: padded 2 (rest / 1000 % 60) ++ fraction (rest % 1000) ++ ['Z'])
  else toString millis

end DataAccess.Timestamp
