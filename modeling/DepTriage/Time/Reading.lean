import DepTriage.Text.Blank
import DepTriage.Time.Timestamp

/-! # Reading dates and times

A lenient reading of `2024-06-01T12:00:00.5+02:00`: white space may stand before each number and
each mark, numbers need not be padded, the offset may lack its colon, and `UTC` or `Z` stand for no
offset. A second 60 is a leap second. -/

namespace DepTriage.Time

open DepTriage.Text (isWhiteSpace)

def dropSpace (cs : List Char) : List Char :=
  cs.dropWhile isWhiteSpace

/-- Reads at most `most` digits, onto `value`, and counts them. -/
def takeNumber : (most : Nat) → List Char → (value count : Nat) → Nat × Nat × List Char
  | most + 1, c :: cs, value, count =>
    if c.isDigit then takeNumber most cs (10 * value + (c.toNat - '0'.toNat)) (count + 1)
    else (value, count, c :: cs)
  | _, cs, value, count => (value, count, cs)

/-- A number of one to `most` digits. -/
def number? (most : Nat) (cs : List Char) : Option (Nat × List Char) :=
  match takeNumber most cs 0 0 with
  | (value, count, rest) => if count = 0 then none else some (value, rest)

/-- A number in a range, after white space. -/
def field? (least greatest : Nat) (cs : List Char) : Option (Nat × List Char) :=
  (number? 2 (dropSpace cs)).filter fun (n, _) => least ≤ n && n ≤ greatest

/-- A year: four digits at most, or any number of them after a sign. -/
def year? (cs : List Char) : Option (Int × List Char) :=
  match dropSpace cs with
  | '-' :: cs => (number? cs.length cs).map fun (n, rest) => (-(n : Int), rest)
  | '+' :: cs => (number? cs.length cs).map fun (n, rest) => ((n : Int), rest)
  | cs => (number? 4 cs).map fun (n, rest) => ((n : Int), rest)

/-- A mark after white space. -/
def mark? (mark : Char) (cs : List Char) : Option (List Char) :=
  match dropSpace cs with
  | c :: cs => if c == mark then some cs else none
  | [] => none

def date? (cs : List Char) : Option (Date × List Char) := do
  let (year, cs) ← year? cs
  let cs ← mark? '-' cs
  let (month, cs) ← field? 1 12 cs
  let cs ← mark? '-' cs
  let (day, cs) ← field? 1 31 cs
  let date : Date := ⟨year, month, day⟩
  if date.isValid then some (date, cs) else none

/-- A fraction of a second in nanoseconds; digits beyond the ninth are dropped. -/
def fraction? (cs : List Char) : Option (Nat × List Char) :=
  match cs with
  | '.' :: cs =>
    match takeNumber 9 cs 0 0 with
    | (value, count, rest) =>
      if count = 0 then none
      else some (value * Nat.pow 10 (9 - count), rest.dropWhile Char.isDigit)
  | cs => some (0, cs)

/-- A time of day: the seconds, of which the sixtieth in a minute is a leap second, and the
nanoseconds. -/
def timeOfDay? (cs : List Char) : Option (Nat × Nat × List Char) := do
  let (hour, cs) ← field? 0 23 cs
  let cs ← mark? ':' cs
  let (minute, cs) ← field? 0 59 cs
  let cs ← mark? ':' cs
  let (second, cs) ← field? 0 60 cs
  let (nanos, cs) ← fraction? cs
  let base := hour * 3600 + minute * 60
  if second = 60 then return (base + 59, nanos + Timestamp.nanosPerSecond, cs)
  else return (base + second, nanos, cs)

/-- Exactly two digits. -/
def twoDigits? : List Char → Option (Nat × List Char)
  | a :: b :: rest =>
    if a.isDigit && b.isDigit then
      some (10 * (a.toNat - '0'.toNat) + (b.toNat - '0'.toNat), rest)
    else none
  | _ => none

/-- The seconds by which a local time is ahead of universal time. -/
def offset? (cs : List Char) : Option (Int × List Char) :=
  let cs := dropSpace cs
  match cs with
  | c :: rest =>
    if c == 'Z' || c == 'z' then some (0, rest)
    else if String.ofList ((cs.take 3).map Char.toUpper) == "UTC" then some (0, cs.drop 3)
    else do
      let negative ← if c == '+' then some false
        else if c == '-' || c == '\u2212' then some true else none
      let (hours, rest) ← twoDigits? rest
      let (minutes, rest) ← twoDigits? (rest.dropWhile fun c => c == ':' || isWhiteSpace c)
      let seconds : Int := hours * 3600 + minutes * 60
      if minutes < 60 && hours < 24 then
        return (if negative then -seconds else seconds, rest)
      else none
  | [] => none

end DepTriage.Time

namespace DepTriage

open Time

/-- A date with nothing but white space around it. -/
def Date.read? (text : String) : Option Date := do
  let (date, rest) ← date? text.toList
  if (dropSpace rest).isEmpty then some date else none

/-- A point in time with nothing but white space around it. -/
def Timestamp.read? (text : String) : Option Timestamp := do
  let (date, rest) ← date? text.toList
  let rest ← match rest with
    | c :: rest => if c == 'T' || c == 't' || c == ' ' then some rest else none
    | [] => none
  let (second, nanos, rest) ← timeOfDay? rest
  let (offset, rest) ← offset? rest
  if !(dropSpace rest).isEmpty then none
  else
    let total : Int := date.toDays * secondsPerDay + second - offset
    let day := total / secondsPerDay
    if Date.isValid (Date.ofDays day) then
      some ⟨day, (total % secondsPerDay).toNat, nanos⟩
    else none

end DepTriage
