import Scriptwright.Text.Basic
/-!
# Dates and times

A moment is a date of the proleptic Gregorian calendar, with or without a time of day.  Dates are counted in days from
1 March of the year 0, which makes the leap day the last day of its year.
-/
namespace Scriptwright

structure Date where
  year : Nat
  month : Nat
  day : Nat
  deriving DecidableEq, Repr

structure TimeOfDay where
  hour : Nat
  minute : Nat
  second : Nat
  micro : Nat
  deriving DecidableEq, Repr

inductive Moment where
  | date (d : Date)
  | dateTime (d : Date) (t : TimeOfDay)
  deriving DecidableEq, Repr

/-- Which part of a moment is out of its bounds. -/
inductive MomentError where
  | year (y : Int)
  | month
  | day
  | hour
  | minute
  | second
  | overflow
  deriving DecidableEq, Repr

def MomentError.message : MomentError → Text
  | .year y => "year ".toList ++ Text.ofInt y ++ " is out of range".toList
  | .month => "month must be in 1..12".toList
  | .day => "day is out of range for month".toList
  | .hour => "hour must be in 0..23".toList
  | .minute => "minute must be in 0..59".toList
  | .second => "second must be in 0..59".toList
  | .overflow => "date value out of range".toList

namespace Date

def isLeapYear (y : Nat) : Bool := y % 4 == 0 && (y % 100 != 0 || y % 400 == 0)

def daysInMonth (y m : Nat) : Nat :=
  if m = 2 then (if isLeapYear y then 29 else 28)
  else if m = 4 || m = 6 || m = 9 || m = 11 then 30 else 31

/-- The date, when each part is within its bounds. -/
def make (y m d : Nat) : Except MomentError Date :=
  if y < 1 || 9999 < y then .error (.year y)
  else if m < 1 || 12 < m then .error .month
  else if d < 1 || daysInMonth y m < d then .error .day
  else .ok ⟨y, m, d⟩

/-- Days since 1 March of the year 0. -/
def toDays (d : Date) : Nat :=
  let y := if d.month ≤ 2 then d.year - 1 else d.year
  let m := (d.month + 9) % 12
  365 * y + y / 4 - y / 100 + y / 400 + (153 * m + 2) / 5 + d.day - 1

/-- The date so many days after 1 March of the year 0. -/
def ofDays (n : Nat) : Date :=
  let era := n / 146097
  let doe := n % 146097
  let yoe := (doe - doe / 1460 + doe / 36524 - doe / 146096) / 365
  let doy := doe - (365 * yoe + yoe / 4 - yoe / 100)
  let mp := (5 * doy + 2) / 153
  let d := doy - (153 * mp + 2) / 5 + 1
  let m := if mp < 10 then mp + 3 else mp - 9
  ⟨era * 400 + yoe + (if m ≤ 2 then 1 else 0), m, d⟩

end Date

namespace Moment

/-- The time of day, when each part is within its bounds. -/
def timeOfDay (h m s micro : Nat) : Except MomentError TimeOfDay :=
  if 23 < h then .error .hour
  else if 59 < m then .error .minute
  else if 59 < s then .error .second
  else .ok ⟨h, m, s, micro⟩

/-- The moment `seconds` later. -/
def shift (d : Date) (t : TimeOfDay) (seconds : Int) : Except MomentError Moment :=
  let total : Int := (d.toDays : Int) * 86400 + t.hour * 3600 + t.minute * 60 + t.second + seconds
  let days := total.fdiv 86400
  let rest := (total.fmod 86400).toNat
  if days < 306 || 3652364 < days then .error .overflow
  else .ok (.dateTime (Date.ofDays days.toNat) ⟨rest / 3600, rest / 60 % 60, rest % 60, t.micro⟩)

def pad (width n : Nat) : Text :=
  let ds := Text.ofNat n
  List.replicate (width - ds.length) '0' ++ ds

def dateText (d : Date) : Text := pad 4 d.year ++ ['-'] ++ pad 2 d.month ++ ['-'] ++ pad 2 d.day

/-- The moment as a reader writes it. -/
def plain : Moment → Text
  | .date d => dateText d
  | .dateTime d t =>
    dateText d ++ [' '] ++ pad 2 t.hour ++ [':'] ++ pad 2 t.minute ++ [':'] ++ pad 2 t.second ++
      (if t.micro = 0 then [] else '.' :: pad 6 t.micro)

def commaList (ns : List Nat) : Text := List.intercalate ", ".toList (ns.map Text.ofNat)

/-- The moment as a constructor call; seconds and microseconds are left out when they and all after them are zero. -/
def constructor : Moment → Text
  | .date d => "datetime.date(".toList ++ commaList [d.year, d.month, d.day] ++ [')']
  | .dateTime d t =>
    let tail := if t.micro ≠ 0 then [t.second, t.micro] else if t.second ≠ 0 then [t.second] else []
    "datetime.datetime(".toList ++ commaList ([d.year, d.month, d.day, t.hour, t.minute] ++ tail) ++ [')']

end Moment
end Scriptwright
