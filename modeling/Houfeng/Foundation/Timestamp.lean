import Mathlib.Data.Int.Basic

/-!
# Timestamps and durations

Instants as nanoseconds from the start of year 1, and their RFC 3339 text in UTC. Durations are
signed 64-bit nanoseconds: a difference of instants is clipped to that range, and arithmetic wraps
around.
-/

namespace Houfeng

abbrev Time := Int

/-- Year, month and day of a day counted from 0001-01-01, in the Gregorian calendar. Years are
counted from 1 March, so that the leap day is the last of its year. -/
def civilDate (days : Int) : Int × Int × Int :=
  let fromMarch := days + 306
  let dayOfEra := fromMarch % 146097
  let yearOfEra :=
    (dayOfEra - dayOfEra / 1460 + dayOfEra / 36524 - dayOfEra / 146096) / 365
  let dayOfYear := dayOfEra - (365 * yearOfEra + yearOfEra / 4 - yearOfEra / 100)
  let monthFromMarch := (5 * dayOfYear + 2) / 153
  let day := dayOfYear - (153 * monthFromMarch + 2) / 5 + 1
  let month := if monthFromMarch < 10 then monthFromMarch + 3 else monthFromMarch - 9
  let year := yearOfEra + fromMarch / 146097 * 400
  (if month ≤ 2 then year + 1 else year, month, day)

def padded (width : Nat) (n : Int) : List Char :=
  let digits := Nat.toDigits 10 n.toNat
  List.replicate (width - digits.length) '0' ++ digits

def secondFraction (nanoseconds : Int) : List Char :=
  if nanoseconds = 0 then []
  else '.' :: ((padded 9 nanoseconds).reverse.dropWhile (· = '0')).reverse

/-- `Time.MarshalJSON` in UTC: only years of four digits have a text. -/
def formatTime (t : Time) : Option String :=
  let seconds := t / 1000000000
  let (year, month, day) := civilDate (seconds / 86400)
  let second := seconds % 86400
  if 0 ≤ year ∧ year ≤ 9999 then
    some (String.ofList (padded 4 year ++ '-' :: padded 2 month ++ '-' :: padded 2 day ++
      'T' :: padded 2 (second / 3600) ++ ':' :: padded 2 (second / 60 % 60) ++
      ':' :: padded 2 (second % 60) ++ secondFraction (t % 1000000000) ++ ['Z']))
  else none

example : formatTime 0 = some "0001-01-01T00:00:00Z" := by decide

example : formatTime 63931680000120000000 = some "2026-12-01T00:00:00.12Z" := by decide

/-! ## Durations -/

def maxDuration : Int := 9223372036854775807

def minDuration : Int := -9223372036854775808

def since (t u : Int) : Int :=
  if maxDuration < t - u then maxDuration else if t - u < minDuration then minDuration else t - u

def wrapDuration (d : Int) : Int := (d - minDuration) % 18446744073709551616 + minDuration

theorem since_eq {t u : Int} (h : minDuration ≤ t - u) (h' : t - u ≤ maxDuration) :
    since t u = t - u := by
  rw [since, if_neg (by omega), if_neg (by omega)]

theorem wrapDuration_eq {d : Int} (h : minDuration ≤ d) (h' : d ≤ maxDuration) :
    wrapDuration d = d := by
  unfold wrapDuration minDuration maxDuration at *
  omega

end Houfeng
