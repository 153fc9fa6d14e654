import DepTriage.Text.Hex
import DepTriage.Yaml.Place

/-! # Scalars of YAML

The text of plain, quoted and block scalars. All but literal blocks fold their lines: a single line
break becomes a space, and of several the first is dropped.

Texts are built in reverse. -/

namespace DepTriage.Yaml

/-- The blanks and breaks read since the last character of a scalar. -/
inductive Gap where
  | none
  /-- Blanks within a line, in reverse. -/
  | blanks (text : List Char)
  /-- Breaks: the first one, unless it was escaped, and the others in reverse. -/
  | lines (first : Option Char) (more : List Char)
deriving DecidableEq, Repr

namespace Gap

def isNone : Gap → Bool
  | none => true
  | _ => false

def hasBreak : Gap → Bool
  | lines .. => true
  | _ => false

/-- Adds a blank; those around breaks do not count. -/
def blank (c : Char) : Gap → Gap
  | none => blanks [c]
  | blanks text => blanks (c :: text)
  | lines first more => lines first more

/-- Adds a break; blanks before it do not count. -/
def newline (c : Char) : Gap → Gap
  | lines first more => lines first (c :: more)
  | _ => lines (some c) []

/-- Puts onto a text what a gap stands for. -/
def fold (text : List Char) : Gap → List Char
  | none => text
  | blanks b => b ++ text
  | lines (some '\n') [] => ' ' :: text
  | lines (some '\n') more => more ++ text
  | lines first more => more ++ (first.toList ++ text)

end Gap

/-- How a break counts in a scalar: three of the breaks are written alike. -/
def breakText (c : Char) : Char :=
  if c == '\r' || c == '\u0085' then '\n' else c

/-- Whether a carriage return is the first half of a break. -/
def isHalfBreak (c : Char) (rest : List Place) : Bool :=
  c == '\r' && peek rest == some '\n'

/-! ## Plain scalars -/

/-- The characters that end a plain scalar in a flow collection. -/
def isFlowEnd (c : Char) : Bool :=
  c == ',' || c == '[' || c == ']' || c == '\x7b' || c == '\x7d'

/-- Whether a colon in a flow collection stands before an indicator, which no scalar allows. -/
def isMisplacedColon (c : Char) (rest : List Place) : Bool :=
  c == ':' && (peek rest).any fun d => d == '?' || isFlowEnd d

/-- The rest of a plain scalar whose further lines stand at column `level` at least. The result
also tells whether the scalar is followed by a break. -/
def plainText (inFlow : Bool) (level : Nat) :
    List Place → Gap → (text : List Char) → Option (List Char × Bool × List Place)
  | [], gap, text => some (text, gap.hasBreak, [])
  | p :: ps, gap, text =>
    if isBlank p.char then
      if p.char == '\t' && gap.hasBreak && p.column < level then none
      else plainText inFlow level ps (gap.blank p.char) text
    else if isBreak p.char then
      if isHalfBreak p.char ps then plainText inFlow level ps gap text
      else plainText inFlow level ps (gap.newline (breakText p.char)) text
    else if !gap.isNone
        && (atDocumentMarker (p :: ps) || p.char == '#' || (!inFlow && p.column < level)) then
      some (text, gap.hasBreak, p :: ps)
    else if inFlow && isMisplacedColon p.char ps then none
    else if (p.char == ':' && atGap ps) || (inFlow && isFlowEnd p.char) then
      some (text, gap.hasBreak, p :: ps)
    else plainText inFlow level ps .none (p.char :: gap.fold text)

/-! ## Quoted scalars -/

/-- The rest of a scalar in single quotes, in which a doubled quote stands for one. -/
def singleQuoted : List Place → Gap → (text : List Char) → Option (List Char × List Place)
  | [], _, _ => none
  | p :: ps, gap, text =>
    if atDocumentMarker (p :: ps) then none
    else if p.char == '\'' then
      match ps with
      | q :: qs =>
        if q.char == '\'' then singleQuoted qs .none ('\'' :: gap.fold text)
        else some (gap.fold text, ps)
      | [] => some (gap.fold text, ps)
    else if isBlank p.char then singleQuoted ps (gap.blank p.char) text
    else if isBreak p.char then
      if isHalfBreak p.char ps then singleQuoted ps gap text
      else singleQuoted ps (gap.newline (breakText p.char)) text
    else singleQuoted ps .none (p.char :: gap.fold text)

/-- The character that an escape of one letter stands for. -/
def escapedChar? : Char → Option Char
  | '0' => some '\x00'
  | 'a' => some '\x07'
  | 'b' => some '\x08'
  | 't' | '\t' => some '\t'
  | 'n' => some '\n'
  | 'v' => some '\x0b'
  | 'f' => some '\x0c'
  | 'r' => some '\r'
  | 'e' => some '\x1b'
  | ' ' => some ' '
  | '"' => some '"'
  | '/' => some '/'
  | '\\' => some '\\'
  | 'N' => some '\u0085'
  | '_' => some '\u00a0'
  | 'L' => some '\u2028'
  | 'P' => some '\u2029'
  | _ => none

/-- The number of digits after an escape that gives a code point. -/
def escapeWidth? : Char → Option Nat
  | 'x' => some 2
  | 'u' => some 4
  | 'U' => some 8
  | _ => none

/-- The character of a code point, if there is one. -/
def charOfCode? (n : Nat) : Option Char :=
  if h : n.isValidChar then some (Char.ofNatAux n h) else none

/-- Where the reading of a scalar in double quotes stands. -/
inductive QuoteState where
  | text (gap : Gap)
  /-- After a backslash. -/
  | backslash
  /-- Before the last `digits` digits of a code point. -/
  | code (digits value : Nat)
deriving DecidableEq, Repr

/-- The rest of a scalar in double quotes. -/
def doubleQuoted :
    List Place → QuoteState → (text : List Char) → Option (List Char × List Place)
  | [], _, _ => none
  | p :: ps, .text gap, text =>
    if atDocumentMarker (p :: ps) then none
    else if p.char == '"' then some (gap.fold text, ps)
    else if isBlank p.char then doubleQuoted ps (.text (gap.blank p.char)) text
    else if isBreak p.char then
      if isHalfBreak p.char ps then doubleQuoted ps (.text gap) text
      else doubleQuoted ps (.text (gap.newline (breakText p.char))) text
    else if p.char == '\\' then doubleQuoted ps .backslash (gap.fold text)
    else doubleQuoted ps (.text .none) (p.char :: gap.fold text)
  | p :: ps, .backslash, text =>
    if isHalfBreak p.char ps then doubleQuoted ps .backslash text
    else if isBreak p.char then doubleQuoted ps (.text (.lines none [])) text
    else
      match escapedChar? p.char, escapeWidth? p.char with
      | some c, _ => doubleQuoted ps (.text .none) (c :: text)
      | none, some width => doubleQuoted ps (.code width 0) text
      | none, none => none
  | p :: ps, .code digits value, text =>
    match Text.hexDigit? p.char with
    | none => none
    | some d =>
      if digits ≤ 1 then
        match charOfCode? (16 * value + d) with
        | some c => doubleQuoted ps (.text .none) (c :: text)
        | none => none
      else doubleQuoted ps (.code (digits - 1) (16 * value + d)) text

/-! ## Block scalars -/

/-- What becomes of the breaks at the end of a block scalar: `strip` drops them, `clip` keeps the
first, `keep` keeps all. -/
inductive Chomp where
  | strip
  | clip
  | keep
deriving DecidableEq, Repr

/-- The header of a block scalar, after its indicator: the indentation that it states, and what
becomes of the final breaks, in either order. -/
def blockHeader? (ps : List Place) : Option (Option Nat × Chomp × List Place) :=
  match chomp? ps with
  | some (chomp, ps) =>
    match peek ps with
    | none => some (none, chomp, ps)
    | some c =>
      if !c.isDigit then some (none, chomp, ps)
      else if c == '0' then none
      else some (some (c.toNat - '0'.toNat), chomp, ps.tail)
  | none =>
    match peek ps with
    | none => some (none, .clip, ps)
    | some c =>
      if !c.isDigit then some (none, .clip, ps)
      else if c == '0' then none
      else
        let depth := some (c.toNat - '0'.toNat)
        match chomp? ps.tail with
        | some (chomp, ps) => some (depth, chomp, ps)
        | none => some (depth, .clip, ps.tail)
where
  chomp? (ps : List Place) : Option (Chomp × List Place) :=
    match peek ps with
    | some '+' => some (.keep, ps.tail)
    | some '-' => some (.strip, ps.tail)
    | _ => none

/-- Ends the line of a directive or of a block header: only blanks and a comment may follow. -/
def endLine? (ps : List Place) : Option (List Place) :=
  let ps := dropBlanks ps
  let ps := if peek ps == some '#' then dropLine ps else ps
  match takeBreak? ps with
  | some (_, rest) => some rest
  | none => if ps.isEmpty then some [] else none

/-- The empty lines before a block scalar of unknown indentation: the greatest column reached, the
breaks, and what follows. -/
def blockMargin? : List Place → (deepest : Nat) → (breaks : List Char) →
    Option (Nat × List Char × List Place)
  | [], deepest, breaks => some (deepest, breaks, [])
  | p :: ps, deepest, breaks =>
    if p.char == ' ' then blockMargin? ps (max deepest (p.column + 1)) breaks
    else if p.char == '\t' then none
    else if isBreak p.char then
      if isHalfBreak p.char ps then blockMargin? ps deepest breaks
      else blockMargin? ps deepest (breakText p.char :: breaks)
    else some (deepest, breaks, p :: ps)

/-- The lines of a block scalar read so far. -/
structure Block where
  text : List Char := []
  /-- The break at the end of the last line. -/
  last : Option Char := none
  /-- The breaks of the empty lines after it. -/
  empty : List Char := []
  /-- Whether the last line starts with a blank, so that its break is kept. -/
  startsBlank : Bool := false

/-- Joins the lines read so far with one that starts with `c`. -/
def Block.startLine (literal : Bool) (b : Block) (c : Char) : Block :=
  let blank := isBlank c
  let text :=
    if !literal && b.last == some '\n' && !b.startsBlank && !blank then
      if b.empty.isEmpty then ' ' :: b.text else b.text
    else b.last.toList ++ b.text
  { text := c :: (b.empty ++ text), startsBlank := blank }

/-- The lines of a block scalar that stand at column `indent`; `inside` tells whether the next
character belongs to a line already started. -/
def blockLines? (literal : Bool) (indent : Nat) :
    List Place → (inside : Bool) → Block → Option (Block × List Place)
  | [], _, b => some (b, [])
  | p :: ps, true, b =>
    if isBreak p.char then
      if isHalfBreak p.char ps then blockLines? literal indent ps true b
      else blockLines? literal indent ps false { b with last := some (breakText p.char) }
    else blockLines? literal indent ps true { b with text := p.char :: b.text }
  | p :: ps, false, b =>
    if isBreak p.char then
      if isHalfBreak p.char ps then blockLines? literal indent ps false b
      else blockLines? literal indent ps false { b with empty := breakText p.char :: b.empty }
    else if p.column < indent && p.char == ' ' then blockLines? literal indent ps false b
    else if p.column < indent && p.char == '\t' then none
    else if p.column == indent then blockLines? literal indent ps true (b.startLine literal p.char)
    else some (b, p :: ps)

def Block.chomped (b : Block) : Chomp → List Char
  | .strip => b.text
  | .clip => b.last.toList ++ b.text
  | .keep => b.empty ++ (b.last.toList ++ b.text)

/-- A block scalar after its indicator, in a collection whose content stands at column `level` at
least. -/
def blockText? (literal : Bool) (level : Nat) (ps : List Place) :
    Option (List Char × List Place) := do
  let (stated, chomp, ps) ← blockHeader? ps
  let ps ← endLine? ps
  let (indent, b, ps) ← match stated with
    | some depth => some (level - 1 + depth, ({} : Block), ps)
    | none =>
      (blockMargin? ps 0 []).map fun (deepest, breaks, ps) =>
        (max deepest (max level 1), { empty := breaks }, ps)
  let (b, ps) ← blockLines? literal indent ps false b
  return (b.chomped chomp, ps)

end DepTriage.Yaml
