namespace SplitTest

structure Timestamp where
  nanoseconds : Int64
deriving DecidableEq, Inhabited

structure Date where
  year : Int
  month : Nat
  day : Nat
deriving DecidableEq, Repr

namespace Date

def eraYearStart (year : Nat) : Nat := 365 * year + year / 4 - year / 100

def ofMarch (year : Int) (days : Nat) : Date :=
  let month := (5 * days + 2) / 153
  let day := days - (153 * month + 2) / 5 + 1
  if month < 10 then ⟨year, month + 3, day⟩ else ⟨year + 1, month - 9, day⟩

/-- The date a number of days after 1970-01-01. An era is four hundred years, 146097 days. -/
def ofDays (days : Int) : Date :=
  let shifted := days + 719468
  let era := shifted / 146097
  let dayOfEra := (shifted % 146097).toNat
  let year := (dayOfEra - dayOfEra / 1460 + dayOfEra / 36524 - dayOfEra / 146096) / 365
  ofMarch (era * 400 + year) (dayOfEra - eraYearStart year)

end Date

structure Moment where
  date : Date
  hour : Nat
  minute : Nat
  second : Nat
  millisecond : Nat
deriving DecidableEq, Repr

namespace Moment

def ofSeconds (seconds : Int) (millisecond : Nat) : Moment :=
  let ofDay := (seconds % 86400).toNat
  ⟨Date.ofDays (seconds / 86400), ofDay / 3600, ofDay / 60 % 60, ofDay % 60, millisecond⟩

def padded (width n : Nat) : String :=
  let digits := Nat.toDigits 10 n
  String.ofList (List.replicate (width - digits.length) '0' ++ digits)

def text (m : Moment) : String :=
  padded 4 m.date.year.toNat ++ "-" ++ padded 2 m.date.month ++ "-" ++ padded 2 m.date.day ++
    "T" ++ padded 2 m.hour ++ ":" ++ padded 2 m.minute ++ ":" ++ padded 2 m.second ++ "." ++
    padded 3 m.millisecond ++ "Z"

end Moment

namespace Timestamp

def ofMilliseconds (ms : Int) : Timestamp := ⟨Int64.ofInt (ms * 1000000)⟩

def milliseconds (t : Timestamp) : Int := Int.tdiv t.nanoseconds.toInt 1000000

def seconds (t : Timestamp) : Int64 := t.nanoseconds / 1000000000

def leftover (t : Timestamp) : Int64 := (t.nanoseconds - t.seconds * 1000000000) / 1000000

/-- Seconds and the milliseconds that follow them, which borrow a second if they are negative. -/
def split (t : Timestamp) : Int64 × Int64 :=
  if t.leftover < 0 then (t.seconds - 1, t.leftover + 1000) else (t.seconds, t.leftover)

def moment (t : Timestamp) : Moment :=
  .ofSeconds t.split.1.toInt t.split.2.toInt.toNat

def text (t : Timestamp) : String := t.moment.text

end Timestamp

end SplitTest
