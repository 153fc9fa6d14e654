import DepTriage.Json.Basic
import DepTriage.Text.Hex

/-! # Reading JSON

The standard's grammar and nothing else. -/

namespace DepTriage.Json

open Text (hexDigit?)

def isBlank (c : Char) : Bool :=
  c == ' ' || c == '\t' || c == '\n' || c == '\r'

def dropBlanks (cs : List Char) : List Char :=
  cs.dropWhile isBlank

/-! ## Strings -/

/-- The part of a string read so far. -/
structure Spelling where
  /-- The characters, in reverse. -/
  text : List Char := []
  /-- The first half of a surrogate pair, if the second is due. -/
  half : Option Nat := none
  broken : Bool := false

namespace Spelling

/-- Notes that what follows is no second half. -/
def settle (s : Spelling) : Spelling :=
  if s.half.isSome then { s with half := none, broken := true } else s

def push (s : Spelling) (c : Char) : Spelling :=
  let s := s.settle
  { s with text := c :: s.text }

/-- Adds the code unit of an escape. -/
def pushUnit (s : Spelling) (unit : Nat) : Spelling :=
  if 0xDC00 ≤ unit ∧ unit < 0xE000 then
    match s.half with
    | some high =>
      { s with
        text := Char.ofNat (0x10000 + (high - 0xD800) * 0x400 + (unit - 0xDC00)) :: s.text
        half := none }
    | none => { s with broken := true }
  else if 0xD800 ≤ unit ∧ unit < 0xDC00 then { s.settle with half := some unit }
  else s.push (Char.ofNat unit)

/-- The text, unless it holds half of a pair. -/
def text? (s : Spelling) : Option String :=
  let s := s.settle
  if s.broken then none else some (String.ofList s.text.reverse)

end Spelling

/-- The character that an escape of one letter stands for. -/
def escapedChar? : Char → Option Char
  | '"' => some '"'
  | '\\' => some '\\'
  | '/' => some '/'
  | 'b' => some '\x08'
  | 'f' => some '\x0c'
  | 'n' => some '\n'
  | 'r' => some '\r'
  | 't' => some '\t'
  | _ => none

/-- The code unit that four digits stand for. -/
def codeUnit? (a b c d : Char) : Option Nat :=
  match hexDigit? a, hexDigit? b, hexDigit? c, hexDigit? d with
  | some a, some b, some c, some d => some (0x1000 * a + 0x100 * b + 0x10 * c + d)
  | _, _, _, _ => none

/-- The rest of a string after its opening quote. -/
def readString? : List Char → Spelling → Option (Option String × List Char)
  | '"' :: cs, s => some (s.text?, cs)
  | '\\' :: 'u' :: a :: b :: c :: d :: cs, s =>
    match codeUnit? a b c d with
    | some unit => readString? cs (s.pushUnit unit)
    | none => none
  | '\\' :: c :: cs, s =>
    match escapedChar? c with
    | some c => readString? cs (s.push c)
    | none => none
  | c :: cs, s => if c.toNat < 0x20 then none else readString? cs (s.push c)
  | [], _ => none

/-! ## Numbers -/

open Binary64 (takeDigits)

/-- The digits after the point and the exponent, each of which may be absent; the number of digits
after the point, all digits as one number, and the exponent. -/
def readNumber? (negative : Bool) (cs : List Char) : Option (Json × List Char) := do
  let (whole, count, rest) := takeDigits cs 0 0
  if count = 0 || (1 < count && cs.head? == some '0') then none
  else
    let (digits, places, rest) ← match rest with
      | '.' :: rest =>
        match takeDigits rest whole 0 with
        | (digits, places, rest) => if places = 0 then none else some (digits, places, rest)
      | rest => some (whole, 0, rest)
    let isPlain := places = 0
    match rest with
    | c :: rest' =>
      if c == 'e' || c == 'E' then
        let (minus, rest') := match rest' with
          | '-' :: rest' => (true, rest')
          | '+' :: rest' => (false, rest')
          | rest' => (false, rest')
        let (exponent, count, rest') := takeDigits rest' 0 0
        if count = 0 then none
        else
          let exponent : Int := if minus then -(exponent : Int) else exponent
          some (.number negative digits (exponent - places), rest')
      else some (plainNumber isPlain digits places, rest)
    | [] => some (plainNumber isPlain digits places, rest)
where
  plainNumber (isPlain : Bool) (digits places : Nat) : Json :=
    if isPlain && !negative then .natural digits else .number negative digits (-(places : Int))

/-! ## Values -/

def readWord? (word : String) (value : Json) (cs : List Char) : Option (Json × List Char) :=
  let word := word.toList
  if word.isPrefixOf cs then some (value, cs.drop word.length) else none

/-- An object, unless one of its keys is no text. -/
def ofEntries (entries : List (Option String × Json)) : Json :=
  match entries.mapM fun (k, v) => k.map (·, v) with
  | some entries => .object entries
  | none => .broken

mutual

/-- The value in front, without blanks before it, and what follows it. -/
def readValue? (fuel : Nat) (cs : List Char) : Option (Json × List Char) :=
  match fuel with
  | 0 => none
  | fuel + 1 =>
    match dropBlanks cs with
    | [] => none
    | c :: rest =>
      match c with
      | '"' => (readString? rest {}).map fun (text, rest) => ((text.map string).getD .broken, rest)
      | '[' =>
        match dropBlanks rest with
        | ']' :: rest => some (.array [], rest)
        | rest => (readItems? fuel rest []).map fun (items, rest) => (.array items, rest)
      | '\x7b' =>
        match dropBlanks rest with
        | '\x7d' :: rest => some (.object [], rest)
        | rest => (readEntries? fuel rest []).map fun (entries, rest) => (ofEntries entries, rest)
      | '-' => readNumber? true rest
      | 'n' => readWord? "null" .null (c :: rest)
      | 't' => readWord? "true" (.bool true) (c :: rest)
      | 'f' => readWord? "false" (.bool false) (c :: rest)
      | c => if c.isDigit then readNumber? false (c :: rest) else none

/-- The items of an array from the next one on, onto `items` in reverse. -/
def readItems? (fuel : Nat) (cs : List Char) (items : List Json) :
    Option (List Json × List Char) :=
  match fuel with
  | 0 => none
  | fuel + 1 =>
    match readValue? fuel cs with
    | none => none
    | some (item, rest) =>
      match dropBlanks rest with
      | ',' :: rest => readItems? fuel rest (item :: items)
      | ']' :: rest => some ((item :: items).reverse, rest)
      | _ => none

/-- The entries of an object from the next one on, onto `entries` in reverse. -/
def readEntries? (fuel : Nat) (cs : List Char) (entries : List (Option String × Json)) :
    Option (List (Option String × Json) × List Char) :=
  match fuel with
  | 0 => none
  | fuel + 1 =>
    match dropBlanks cs with
    | '"' :: rest =>
      match readString? rest {} with
      | none => none
      | some (key, rest) =>
        match dropBlanks rest with
        | ':' :: rest =>
          match readValue? fuel rest with
          | none => none
          | some (value, rest) =>
            match dropBlanks rest with
            | ',' :: rest => readEntries? fuel rest ((key, value) :: entries)
            | '\x7d' :: rest => some (((key, value) :: entries).reverse, rest)
            | _ => none
        | _ => none
    | _ => none

end

/-- The value that a text holds. -/
def parse? (text : List Char) : Option Json :=
  match readValue? (text.length + 1) text with
  | some (value, rest) => if (dropBlanks rest).isEmpty then some value else none
  | none => none

end DepTriage.Json
