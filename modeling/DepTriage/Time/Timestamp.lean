import DepTriage.Time.Date

/-! # Points in time

A point in time is a day, a second of the day and a fraction, all in universal time. A fraction of
more than a second stands for a leap second after the second it belongs to. -/

namespace DepTriage

structure Timestamp where
  /-- Days from 1 January 1970. -/
  day : Int
  second : Nat
  nanosecond : Nat
deriving DecidableEq, Repr, Inhabited

namespace Timestamp

def nanosPerSecond : Nat :=
  1000000000

def secondsPerDay : Nat :=
  86400

/-- The second of the day that a leap second leaves uncounted when two times are compared. -/
def leap (t : Timestamp) : Int :=
  if nanosPerSecond ≤ t.nanosecond then 1 else 0

/-- The nanoseconds from `u` to `t`. A leap second of the earlier time of day counts in full. -/
def since (t u : Timestamp) : Int :=
  let seconds : Int := t.second - u.second
  let seconds :=
    if u.second < t.second then seconds + u.leap
    else if t.second < u.second then seconds - t.leap
    else seconds
  ((t.day - u.day) * secondsPerDay + seconds) * nanosPerSecond + (t.nanosecond - u.nanosecond)

/-- The fraction of a second, in as many groups of three digits as it takes. -/
def fractionText (nanos : Nat) : String :=
  if nanos = 0 then ""
  else if nanos % 1000000 = 0 then s!".{Date.padded 3 (nanos / 1000000)}"
  else if nanos % 1000 = 0 then s!".{Date.padded 6 (nanos / 1000)}"
  else s!".{Date.padded 9 nanos}"

def toText (t : Timestamp) : String :=
  let isLeap := nanosPerSecond ≤ t.nanosecond
  let second := t.second % 60 + if isLeap then 1 else 0
  let nanos := if isLeap then t.nanosecond - nanosPerSecond else t.nanosecond
  let date := (Date.ofDays t.day).toText
  let hour := Date.padded 2 (t.second / 3600)
  let minute := Date.padded 2 (t.second / 60 % 60)
  s!"{date}T{hour}:{minute}:{Date.padded 2 second}{fractionText nanos}Z"

end Timestamp

end DepTriage
