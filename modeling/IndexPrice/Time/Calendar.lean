import IndexPrice.Time.Instant

/-!
# Calendar dates

The proleptic Gregorian calendar, as far as written timestamps need it: the
length of a month and the number of days from the epoch to a date.
-/

namespace IndexPrice

structure Date where
  year : Nat
  month : Nat
  day : Nat
  deriving DecidableEq, Repr

namespace Date

def isLeapYear (year : Nat) : Bool :=
  year % 4 = 0 && (year % 100 ≠ 0 || year % 400 = 0)

def monthLength (year month : Nat) : Nat :=
  match month with
  | 2 => if isLeapYear year then 29 else 28
  | 4 | 6 | 9 | 11 => 30
  | _ => 31

def isValid (d : Date) : Bool :=
  1 ≤ d.month && d.month ≤ 12 && 1 ≤ d.day && d.day ≤ monthLength d.year d.month

/-- Days before the first of January of `year`, from the first of January of year 0. -/
def daysBeforeYear (year : Nat) : Nat :=
  365 * year + (year + 3) / 4 - (year + 99) / 100 + (year + 399) / 400

def dayOfYear (d : Date) : Nat :=
  (List.range (d.month - 1)).foldl (fun days m => days + monthLength d.year (m + 1)) 0 + d.day - 1

def daysSinceEpoch (d : Date) : Int :=
  Int.ofNat (daysBeforeYear d.year + d.dayOfYear) - Int.ofNat (daysBeforeYear 1970)

end Date

end IndexPrice
