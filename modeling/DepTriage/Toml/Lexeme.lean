import DepTriage.Text.Hex
import DepTriage.Toml.Value

/-! # The small parts of TOML

Blanks, comments, strings, numbers and dates. Each reader is given the text from its first character
on and gives what follows. -/

namespace DepTriage.Toml

open Text (hexDigit?)

/-! ## Blanks and comments -/

def isBlank (c : Char) : Bool :=
  c == ' ' || c == '\t'

/-- The characters that comments and literal strings may hold. -/
def isPrintable (c : Char) : Bool :=
  c == '\t' || (' ' ≤ c && c ≤ '~') || 0x80 ≤ c.toNat

def dropBlanks (cs : List Char) : List Char :=
  cs.dropWhile isBlank

def newline? : List Char → Option (List Char)
  | '\n' :: cs => some cs
  | '\r' :: '\n' :: cs => some cs
  | _ => none

/-- Drops a comment, if one stands in front. -/
def dropComment (cs : List Char) : List Char :=
  match cs with
  | '#' :: rest => rest.dropWhile isPrintable
  | _ => cs

/-- Ends a line, on which only blanks and a comment may follow. -/
def endLine? (cs : List Char) : Option (List Char) :=
  match dropComment (dropBlanks cs) with
  | [] => some []
  | cs => newline? cs

/-- Drops blanks, newlines and comments between the items of an array; `inComment` tells whether a
comment has begun. -/
def dropSpace? : List Char → (inComment : Bool) → Option (List Char)
  | [], inComment => if inComment then none else some []
  | '\n' :: cs, _ => dropSpace? cs false
  | '\r' :: '\n' :: cs, _ => dropSpace? cs false
  | c :: cs, true => if isPrintable c then dropSpace? cs true else none
  | c :: cs, false =>
    if isBlank c then dropSpace? cs false
    else if c == '#' then dropSpace? cs true
    else some (c :: cs)

/-! ## Strings -/

/-- The character that an escape of one letter stands for. -/
def escapedChar? : Char → Option Char
  | 'b' => some '\x08'
  | 't' => some '\t'
  | 'n' => some '\n'
  | 'f' => some '\x0c'
  | 'r' => some '\r'
  | '"' => some '"'
  | '\\' => some '\\'
  | _ => none

/-- The digits of an escape that gives a code point. -/
def escapeWidth? : Char → Option Nat
  | 'u' => some 4
  | 'U' => some 8
  | _ => none

def charOfCode? (n : Nat) : Option Char :=
  if h : n.isValidChar then some (Char.ofNatAux n h) else none

/-- Where the reading of a string with escapes stands. -/
inductive QuoteState where
  | text
  | backslash
  /-- Before the last `digits` digits of a code point. -/
  | code (digits value : Nat)
  /-- After an escaped newline, whose white space is dropped. -/
  | folded
  /-- After a backslash and blanks, which a newline has to follow. -/
  | fold
deriving DecidableEq, Repr

/-- The rest of a string in quotation marks, onto `text` in reverse. -/
def basicString? : List Char → QuoteState → (text : List Char) → Option (String × List Char)
  | [], _, _ => none
  | c :: cs, .text, text =>
    if c == '"' then some (String.ofList text.reverse, cs)
    else if c == '\\' then basicString? cs .backslash text
    else if isPrintable c then basicString? cs .text (c :: text)
    else none
  | c :: cs, .backslash, text =>
    match escapedChar? c, escapeWidth? c with
    | some c, _ => basicString? cs .text (c :: text)
    | none, some width => basicString? cs (.code width 0) text
    | none, none => none
  | c :: cs, .code digits value, text =>
    match hexDigit? c with
    | none => none
    | some d =>
      if digits ≤ 1 then
        match charOfCode? (16 * value + d) with
        | some c => basicString? cs .text (c :: text)
        | none => none
      else basicString? cs (.code (digits - 1) (16 * value + d)) text
  | _, _, _ => none

/-- The rest of a string in apostrophes, in which nothing is escaped. -/
def literalString? (cs : List Char) : Option (String × List Char) :=
  let isInside (c : Char) : Bool := isPrintable c && c != '\''
  match cs.dropWhile isInside with
  | '\'' :: rest => some (String.ofList (cs.takeWhile isInside), rest)
  | _ => none

/-- Drops the newline right after the marks that open a string of several lines. -/
def dropFirstNewline (cs : List Char) : List Char :=
  (newline? cs).getD cs

/-- The marks at the end of a string of several lines: three close it, and up to two before them
belong to the text. -/
def closingMarks? (mark : Char) (cs : List Char) : Option (Nat × List Char) :=
  let count := (cs.takeWhile (· == mark)).length
  if count < 3 then none
  else
    let inside := min (count - 3) 2
    some (inside, cs.drop (inside + 3))

/-- The rest of a string of several lines in three apostrophes. -/
def literalLines? : List Char → (text : List Char) → Option (String × List Char)
  | [], _ => none
  | c :: cs, text =>
    if c == '\'' then
      match closingMarks? '\'' (c :: cs) with
      | some (inside, rest) =>
        some (String.ofList (text.reverse ++ List.replicate inside '\''), rest)
      | none => literalLines? cs (c :: text)
    else if c == '\n' || isPrintable c then literalLines? cs (c :: text)
    else if c == '\r' && cs.head? == some '\n' then literalLines? cs text
    else none

/-- The rest of a string of several lines in three quotation marks. -/
def basicLines? : List Char → QuoteState → (text : List Char) → Option (String × List Char)
  | [], _, _ => none
  | c :: cs, .text, text =>
    if c == '"' then
      match closingMarks? '"' (c :: cs) with
      | some (inside, rest) =>
        some (String.ofList (text.reverse ++ List.replicate inside '"'), rest)
      | none => basicLines? cs .text (c :: text)
    else if c == '\\' then basicLines? cs .backslash text
    else if c == '\n' || isPrintable c then basicLines? cs .text (c :: text)
    else if c == '\r' && cs.head? == some '\n' then basicLines? cs .text text
    else none
  | c :: cs, .backslash, text =>
    match escapedChar? c, escapeWidth? c with
    | some c, _ => basicLines? cs .text (c :: text)
    | none, some width => basicLines? cs (.code width 0) text
    | none, none =>
      if c == '\n' then basicLines? cs .folded text
      else if isBlank c then basicLines? cs .fold text
      else if c == '\r' && cs.head? == some '\n' then basicLines? cs .fold text
      else none
  | c :: cs, .code digits value, text =>
    match hexDigit? c with
    | none => none
    | some d =>
      if digits ≤ 1 then
        match charOfCode? (16 * value + d) with
        | some c => basicLines? cs .text (c :: text)
        | none => none
      else basicLines? cs (.code (digits - 1) (16 * value + d)) text
  | c :: cs, .fold, text =>
    if c == '\n' then basicLines? cs .folded text
    else if isBlank c then basicLines? cs .fold text
    else if c == '\r' && cs.head? == some '\n' then basicLines? cs .fold text
    else none
  | c :: cs, .folded, text =>
    if c == '\n' || isBlank c then basicLines? cs .folded text
    else if c == '\r' && cs.head? == some '\n' then basicLines? cs .folded text
    else if c == '"' then
      match closingMarks? '"' (c :: cs) with
      | some (inside, rest) =>
        some (String.ofList (text.reverse ++ List.replicate inside '"'), rest)
      | none => basicLines? cs .text (c :: text)
    else if c == '\\' then basicLines? cs .backslash text
    else if isPrintable c then basicLines? cs .text (c :: text)
    else none

/-- A string of any kind. -/
def string? : List Char → Option (String × List Char)
  | '"' :: '"' :: '"' :: cs => basicLines? (dropFirstNewline cs) .text []
  | '\'' :: '\'' :: '\'' :: cs => literalLines? (dropFirstNewline cs) []
  | '"' :: cs => basicString? cs .text []
  | '\'' :: cs => literalString? cs
  | _ => none

/-! ## Numbers -/

/-- The digits in front, between which single underscores may stand, onto `digits` in reverse;
`afterDigit` tells whether an underscore may follow. The result lacks the underscores. -/
def digitsOnto? (isDigit : Char → Bool) :
    List Char → (afterDigit : Bool) → (digits : List Char) → Option (List Char × List Char)
  | c :: cs, afterDigit, digits =>
    if isDigit c then digitsOnto? isDigit cs true (c :: digits)
    else if c == '_' && afterDigit then digitsOnto? isDigit cs false digits
    else if afterDigit then some (digits.reverse, c :: cs)
    else none
  | [], afterDigit, digits => if afterDigit then some (digits.reverse, []) else none

/-- One digit at least, with single underscores between digits. -/
def digits? (isDigit : Char → Bool) (cs : List Char) : Option (List Char × List Char) :=
  digitsOnto? isDigit cs false []

def valueIn (base : Nat) (digits : List Char) : Nat :=
  digits.foldl (fun n c => base * n + (hexDigit? c).getD 0) 0

/-- A whole number that fits in 64 bits with a sign. -/
def integerValue? (n : Int) : Option Value :=
  if -(Nat.pow 2 63 : Int) ≤ n ∧ n < (Nat.pow 2 63 : Int) then some (.integer n) else none

/-- A number after the mark of its base. -/
def basedInteger? (base : Nat) (cs : List Char) : Option (Value × List Char) := do
  let isDigit (c : Char) : Bool := (hexDigit? c).any (· < base)
  let (digits, rest) ← digits? isDigit cs
  return (← integerValue? (valueIn base digits), rest)

/-- The digits of a whole number: a zero, or digits of which the first one is none. -/
def wholeDigits? (cs : List Char) : Option (List Char × List Char) :=
  match cs with
  | '0' :: rest => some (['0'], rest)
  | cs => digits? Char.isDigit cs

/-- An exponent after its mark. -/
def exponent? (cs : List Char) : Option (Int × List Char) :=
  let (negative, cs) := match cs with
    | '-' :: cs => (true, cs)
    | '+' :: cs => (false, cs)
    | cs => (false, cs)
  (digits? Char.isDigit cs).map fun (digits, rest) =>
    let n : Int := valueIn 10 digits
    (if negative then -n else n, rest)

/-- A number in the range of the format; only the negative half may overflow. -/
def floatValue? (x : Binary64) : Option Value :=
  if x == .infinite false then none else some (.float x)

def isExponentMark (cs : List Char) : Bool :=
  cs.head? == some 'e' || cs.head? == some 'E'

/-- A number in decimal digits, after its sign. -/
def decimalNumber? (negative : Bool) (cs : List Char) : Option (Value × List Char) := do
  let (whole, rest) ← wholeDigits? cs
  match rest with
  | '.' :: rest =>
    let (fraction, rest) ← digits? Char.isDigit rest
    let digits := valueIn 10 (whole ++ fraction)
    let (exponent, rest) ← if isExponentMark rest then exponent? rest.tail else some (0, rest)
    return (← floatValue? (.ofDecimal negative digits (exponent - fraction.length)), rest)
  | rest =>
    if isExponentMark rest then
      let (exponent, rest) ← exponent? rest.tail
      return (← floatValue? (.ofDecimal negative (valueIn 10 whole) exponent), rest)
    else
      let n : Int := valueIn 10 whole
      return (← integerValue? (if negative then -n else n), rest)

/-- A word in front, and what follows it. -/
def word? (word : String) (cs : List Char) : Option (List Char) :=
  let word := word.toList
  if word.isPrefixOf cs then some (cs.drop word.length) else none

/-- A number after an explicit sign. -/
def signedNumber? (negative : Bool) (cs : List Char) : Option (Value × List Char) :=
  match word? "inf" cs, word? "nan" cs with
  | some rest, _ => some (.float (.infinite negative), rest)
  | _, some rest => some (.float .nan, rest)
  | none, none => decimalNumber? negative cs

/-! ## Dates and times -/

/-- So many digits, as a number. -/
def fixedDigits? (count : Nat) (cs : List Char) : Option (Nat × List Char) :=
  let digits := cs.take count
  if digits.length = count && digits.all Char.isDigit then
    some (valueIn 10 digits, cs.drop count)
  else none

/-- Two digits in a range. -/
def twoDigits? (least greatest : Nat) (cs : List Char) : Option (Nat × List Char) :=
  (fixedDigits? 2 cs).filter fun (n, _) => least ≤ n && n ≤ greatest

def mark? (mark : Char) : List Char → Option (List Char)
  | c :: cs => if c == mark then some cs else none
  | [] => none

def daysIn (year month : Nat) : Nat :=
  if month = 2 then
    if year % 4 = 0 && (year % 100 ≠ 0 || year % 400 = 0) then 29 else 28
  else if month = 4 || month = 6 || month = 9 || month = 11 then 30
  else 31

/-- Whether a date starts here: four digits and a dash. -/
def startsDate (cs : List Char) : Bool :=
  (fixedDigits? 4 cs).any fun (_, rest) => rest.head? == some '-'

/-- Whether a time of day starts here: two digits up to 23 and a colon. -/
def startsTime (cs : List Char) : Bool :=
  (twoDigits? 0 23 cs).any fun (_, rest) => rest.head? == some ':'

def date? (cs : List Char) : Option (List Char) := do
  let (year, cs) ← fixedDigits? 4 cs
  let (month, cs) ← twoDigits? 1 12 (← mark? '-' cs)
  let (_, cs) ← twoDigits? 1 (daysIn year month) (← mark? '-' cs)
  return cs

def time? (cs : List Char) : Option (List Char) := do
  let (_, cs) ← twoDigits? 0 23 cs
  let (_, cs) ← twoDigits? 0 59 (← mark? ':' cs)
  let (_, cs) ← twoDigits? 0 60 (← mark? ':' cs)
  match cs with
  | '.' :: rest =>
    if rest.head?.any Char.isDigit then return rest.dropWhile Char.isDigit else return cs
  | cs => return cs

/-- An offset from universal time, if one stands in front. -/
def offset? (cs : List Char) : Option (List Char) :=
  match cs with
  | 'Z' :: rest | 'z' :: rest => some rest
  | '+' :: rest | '-' :: rest => do
    let (_, rest) ← twoDigits? 0 23 rest
    let (_, rest) ← twoDigits? 0 59 (← mark? ':' rest)
    return rest
  | cs => some cs

/-- A date that starts here, with a time of day if one follows it. -/
def dateTime? (cs : List Char) : Option (List Char) := do
  let cs ← date? cs
  match cs with
  | c :: rest =>
    if (c == 'T' || c == 't' || c == ' ') && startsTime rest then offset? (← time? rest)
    else return cs
  | [] => return []

/-- A number or a date, from its first digit or its sign on. -/
def number? (cs : List Char) : Option (Value × List Char) :=
  if startsDate cs then (dateTime? cs).map (.dateTime, ·)
  else if startsTime cs then (time? cs).map (.dateTime, ·)
  else
    match cs with
    | '+' :: rest => signedNumber? false rest
    | '-' :: rest => signedNumber? true rest
    | '0' :: 'x' :: rest => basedInteger? 16 rest
    | '0' :: 'o' :: rest => basedInteger? 8 rest
    | '0' :: 'b' :: rest => basedInteger? 2 rest
    | cs => decimalNumber? false cs

end DepTriage.Toml
