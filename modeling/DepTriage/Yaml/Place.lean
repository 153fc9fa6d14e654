/-! # Places in a YAML text

A text is read as a list of characters that know where they stand, since the columns of its
characters decide how it nests. The module also holds the classes of characters that YAML tells
apart. -/

namespace DepTriage.Yaml

/-! ## Classes of characters -/

/-- The characters that may stand in a document at all. -/
def isAllowed (c : Char) : Bool :=
  let n := c.toNat
  n == 0x09 || n == 0x0A || n == 0x0D || (0x20 ≤ n && n ≤ 0x7E) || n == 0x85
    || (0xA0 ≤ n && n ≤ 0xD7FF) || (0xE000 ≤ n && n ≤ 0xFFFD && n != 0xFEFF) || 0x10000 ≤ n

def isBlank (c : Char) : Bool :=
  c == ' ' || c == '\t'

def isBreak (c : Char) : Bool :=
  c == '\r' || c == '\n' || c == '\u0085' || c == '\u2028' || c == '\u2029'

def isSpace (c : Char) : Bool :=
  isBlank c || isBreak c

/-- The characters of anchors, of directive names and of tag handles. -/
def isWordChar (c : Char) : Bool :=
  c.isAlphanum || c == '_' || c == '-'

/-! ## Places -/

/-- A character of a text, with the number of characters before it, its line and its column, all
counted from zero. -/
structure Place where
  char : Char
  index : Nat
  line : Nat
  column : Nat
deriving DecidableEq, Repr, Inhabited

/-- Places the characters of a text from the given place on, onto `placed` in reverse. A carriage
return and a line feed are one break. -/
def placeOnto : List Char → (index line column : Nat) → (placed : List Place) → List Place
  | [], _, _, _, placed => placed.reverse
  | c :: cs, index, line, column, placed =>
    let placed := ⟨c, index, line, column⟩ :: placed
    if isBreak c && !(c == '\r' && cs.head? == some '\n') then
      placeOnto cs (index + 1) (line + 1) 0 placed
    else placeOnto cs (index + 1) line (column + 1) placed

/-- The characters of a text with their places. -/
def places (cs : List Char) : List Place :=
  placeOnto cs 0 0 0 []

/-- The character in front. -/
def peek (ps : List Place) : Option Char :=
  ps.head?.map Place.char

/-- Whether the next character ends a word: a blank, a break, or the end of the text. -/
def atGap (ps : List Place) : Bool :=
  match ps with
  | [] => true
  | p :: _ => isSpace p.char

/-- The break in front as it counts in a scalar, and what follows it. Three of the breaks are
written alike as a line feed. -/
def takeBreak? : List Place → Option (Char × List Place)
  | [] => none
  | p :: ps =>
    if !isBreak p.char then none
    else if p.char == '\r' then
      match ps with
      | q :: qs => if q.char == '\n' then some ('\n', qs) else some ('\n', ps)
      | [] => some ('\n', ps)
    else if p.char == '\n' || p.char == '\u0085' then some ('\n', ps)
    else some (p.char, ps)

/-- Drops the rest of a line, up to its break. -/
def dropLine (ps : List Place) : List Place :=
  ps.dropWhile fun p => !isBreak p.char

def dropBlanks (ps : List Place) : List Place :=
  ps.dropWhile fun p => isBlank p.char

/-- Whether three of `mark` and a gap stand at the start of a line. -/
def atMarker (mark : Char) (ps : List Place) : Bool :=
  match ps with
  | p :: q :: r :: rest =>
    p.column == 0 && p.char == mark && q.char == mark && r.char == mark && atGap rest
  | _ => false

/-- Whether a line that starts or ends a document begins here. -/
def atDocumentMarker (ps : List Place) : Bool :=
  atMarker '-' ps || atMarker '.' ps

end DepTriage.Yaml
