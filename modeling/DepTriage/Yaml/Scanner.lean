import DepTriage.Yaml.Tag

/-! # From text to tokens

Block collections are found by columns: a token that stands deeper than the collection around it
opens a collection, and one that stands less deep closes those in between. Whether a token is the
key of a mapping is known only when a colon follows it on the same line; the key token is then
inserted before it. -/

namespace DepTriage.Yaml

/-- A token after which a colon would make a key of it. -/
structure Candidate where
  /-- The number of tokens before it. -/
  position : Nat
  place : Place
  /-- Whether it has to be a key, since nothing else may stand where it does. -/
  required : Bool
deriving Repr

/-- Whether a candidate can no longer become a key: its line has ended, or it is too long. -/
def Candidate.isStale (c : Candidate) (p : Place) : Bool :=
  c.place.line < p.line || c.place.index + 1024 < p.index

structure Scanner where
  rest : List Place
  /-- The tokens found so far, in reverse. -/
  tokens : List Token := []
  count : Nat := 0
  /-- The columns of the block collections that are open, the innermost first. -/
  columns : List Nat := []
  candidate : Option Candidate := none
  /-- The candidates of the collections around the innermost flow collection; there are as many as
  flow collections are open. -/
  outer : List (Option Candidate) := []
  /-- Whether a key may start here. -/
  keyAllowed : Bool := true

namespace Scanner

def inFlow (s : Scanner) : Bool :=
  !s.outer.isEmpty

/-- The least column at which the content of the innermost block collection may stand. -/
def level (s : Scanner) : Nat :=
  match s.columns with
  | [] => 0
  | column :: _ => column + 1

def push (s : Scanner) (token : Token) : Scanner :=
  { s with tokens := token :: s.tokens, count := s.count + 1 }

/-- Puts a token before the last `depth` tokens of a reversed list. -/
def insertBefore (token : Token) : (depth : Nat) → List Token → List Token
  | depth + 1, t :: ts => t :: insertBefore token depth ts
  | _, ts => token :: ts

/-- Inserts a token before which `position` tokens stand. -/
def insertAt (s : Scanner) (position : Nat) (token : Token) : Scanner :=
  { s with
    tokens := insertBefore token (s.count - position) s.tokens
    count := s.count + 1 }

/-! ## Indentation -/

/-- Closes the open collections whose content would have to stand beyond `column`. -/
def closeOnto (column : Option Nat) : List Nat → List Token → Nat → List Nat × List Token × Nat
  | [], tokens, count => ([], tokens, count)
  | c :: columns, tokens, count =>
    if column.all (· < c) then closeOnto column columns (.blockEnd :: tokens) (count + 1)
    else (c :: columns, tokens, count)

/-- Closes the block collections that a token in `column` does not belong to, and all of them
without a column. Inside flow collections columns have no meaning. -/
def unindent (s : Scanner) (column : Option Nat) : Scanner :=
  if s.inFlow then s
  else
    let (columns, tokens, count) := closeOnto column s.columns s.tokens s.count
    { s with columns, tokens, count }

/-- Opens a collection if `column` is deeper than those that are open. -/
def indent (s : Scanner) (column position : Nat) (token : Token) : Scanner :=
  if s.inFlow || column < s.level then s
  else { s.insertAt position token with columns := column :: s.columns }

/-! ## Keys -/

/-- Drops the candidates that are stale at a place; a required one may not be. -/
def dropStale? (s : Scanner) (p : Place) : Option Scanner :=
  let stale (c : Option Candidate) : Bool := c.any (Candidate.isStale · p)
  let lost (c : Option Candidate) : Bool := c.any fun c => c.isStale p && c.required
  if lost s.candidate || s.outer.any lost then none
  else
    let keep (c : Option Candidate) : Option Candidate := if stale c then none else c
    some { s with candidate := keep s.candidate, outer := s.outer.map keep }

/-- Gives up the current candidate, which may not be required. -/
def dropCandidate? (s : Scanner) : Option Scanner :=
  if s.candidate.any (·.required) then none else some { s with candidate := none }

/-- Makes a candidate of the next token, if a key may start here. -/
def saveCandidate? (s : Scanner) (p : Place) : Option Scanner :=
  if !s.keyAllowed then some s
  else do
    let s ← s.dropCandidate?
    return { s with
      candidate := some ⟨s.count, p, !s.inFlow && s.level = p.column + 1⟩ }

/-! ## Blanks and comments -/

/-- Skips blanks, comments and breaks. A tab may not indent in block collections. -/
def skipGap : List Place → (inFlow keyAllowed inComment : Bool) → List Place × Bool
  | [], _, keyAllowed, _ => ([], keyAllowed)
  | p :: ps, inFlow, keyAllowed, inComment =>
    if isBreak p.char then
      if isHalfBreak p.char ps then skipGap ps inFlow keyAllowed inComment
      else skipGap ps inFlow (keyAllowed || !inFlow) false
    else if inComment then skipGap ps inFlow keyAllowed true
    else if p.char == ' ' || (p.char == '\t' && (inFlow || !keyAllowed)) then
      skipGap ps inFlow keyAllowed false
    else if p.char == '#' then skipGap ps inFlow keyAllowed true
    else (p :: ps, keyAllowed)

def toNextToken (s : Scanner) : Scanner :=
  let (rest, keyAllowed) := skipGap s.rest s.inFlow s.keyAllowed false
  { s with rest, keyAllowed }

/-! ## Tokens -/

/-- Adds a token that stands outside the block collections. -/
def addMarker? (s : Scanner) (token : Token) (rest : List Place) : Option Scanner := do
  let s ← (s.unindent none).dropCandidate?
  return { s.push token with keyAllowed := false, rest }

def openFlow? (s : Scanner) (p : Place) (token : Token) (rest : List Place) : Option Scanner := do
  let s ← s.saveCandidate? p
  return { s.push token with
    outer := s.candidate :: s.outer, candidate := none, keyAllowed := true, rest }

def closeFlow? (s : Scanner) (token : Token) (rest : List Place) : Option Scanner := do
  let s ← s.dropCandidate?
  let s := match s.outer with
    | [] => s
    | candidate :: outer => { s with candidate, outer }
  return { s.push token with keyAllowed := false, rest }

def addComma? (s : Scanner) (rest : List Place) : Option Scanner := do
  let s ← s.dropCandidate?
  return { s.push .comma with keyAllowed := true, rest }

def addDash? (s : Scanner) (p : Place) (rest : List Place) : Option Scanner := do
  if !s.inFlow && !s.keyAllowed then none
  else
    let s ← (s.indent p.column s.count .blockSequence).dropCandidate?
    return { s.push .dash with keyAllowed := true, rest }

/-- Adds a key that is marked as such. -/
def addKey? (s : Scanner) (p : Place) (rest : List Place) : Option Scanner := do
  if !s.inFlow && !s.keyAllowed then none
  else
    let s ← (s.indent p.column s.count .blockMapping).dropCandidate?
    return { s.push .key with keyAllowed := !s.inFlow, rest }

/-- Adds the colon before a value, and the key token of the candidate before it. -/
def addValue? (s : Scanner) (p : Place) (rest : List Place) : Option Scanner :=
  match s.candidate with
  | some c =>
    let s := (s.insertAt c.position .key).indent c.place.column c.position .blockMapping
    some { s.push .value with candidate := none, keyAllowed := false, rest }
  | none =>
    if !s.inFlow && !s.keyAllowed then none
    else
      let s := s.indent p.column s.count .blockMapping
      some { s.push .value with keyAllowed := !s.inFlow, rest }

/-- Adds a token that may be, or be in front of, a key. -/
def addNode? (s : Scanner) (p : Place) (token : Option (Token × List Place)) :
    Option Scanner := do
  let s ← s.saveCandidate? p
  let (token, rest) ← token
  return { s.push token with keyAllowed := false, rest }

def addPlain? (s : Scanner) (p : Place) : Option Scanner := do
  let s ← s.saveCandidate? p
  let (text, endsLine, rest) ← plainText s.inFlow s.level s.rest .none []
  return { s.push (.scalar true (String.ofList text.reverse)) with keyAllowed := endsLine, rest }

def addBlock? (s : Scanner) (literal : Bool) (rest : List Place) : Option Scanner := do
  let s ← s.dropCandidate?
  let (text, rest) ← blockText? literal s.level rest
  return { s.push (.scalar false (String.ofList text.reverse)) with keyAllowed := true, rest }

def quotedToken (scalar : Option (List Char × List Place)) : Option (Token × List Place) :=
  scalar.map fun (text, rest) => (.scalar false (String.ofList text.reverse), rest)

/-- The characters with which no plain scalar starts. -/
def isIndicator (c : Char) : Bool :=
  "-?:,[]\x7b\x7d#&*!|>'\"%@`".contains c

/-- Whether a plain scalar starts here. -/
def startsPlain (inFlow : Bool) (p : Place) (rest : List Place) : Bool :=
  !(isSpace p.char || isIndicator p.char)
    || (p.char == '-' && !(peek rest).any isBlank)
    || (!inFlow && (p.char == '?' || p.char == ':') && !atGap rest)

/-- Adds the token that starts at `p`. -/
def fetch? (s : Scanner) (p : Place) (rest : List Place) : Option Scanner :=
  let inFlow := s.inFlow
  if p.column = 0 && p.char == '%' then do
    let (token, rest) ← directiveToken? rest
    s.addMarker? token rest
  else if atMarker '-' s.rest then s.addMarker? .documentStart (s.rest.drop 3)
  else if atMarker '.' s.rest then s.addMarker? .documentEnd (s.rest.drop 3)
  else
    match p.char with
    | '[' => s.openFlow? p .flowSequence rest
    | '\x7b' => s.openFlow? p .flowMapping rest
    | ']' => s.closeFlow? .flowSequenceEnd rest
    | '\x7d' => s.closeFlow? .flowMappingEnd rest
    | ',' => s.addComma? rest
    | '*' => s.addNode? p ((anchorName? rest).map fun (name, rest) => (.alias name, rest))
    | '&' => s.addNode? p ((anchorName? rest).map fun (name, rest) => (.anchor name, rest))
    | '!' => s.addNode? p (tagToken? inFlow rest)
    | '\'' => s.addNode? p (quotedToken (singleQuoted rest .none []))
    | '"' => s.addNode? p (quotedToken (doubleQuoted rest (.text .none) []))
    | c =>
      if c == '-' && atGap rest then s.addDash? p rest
      else if c == '?' && (inFlow || atGap rest) then s.addKey? p rest
      else if c == ':' && (inFlow || atGap rest) then s.addValue? p rest
      else if c == '|' && !inFlow then s.addBlock? true rest
      else if c == '>' && !inFlow then s.addBlock? false rest
      else if startsPlain inFlow p rest then s.addPlain? p
      else none

/-- Adds all further tokens. Every token but the last takes a character at least, so that the length
of the text bounds their number. -/
def run : (bound : Nat) → Scanner → Option (List Token)
  | 0, _ => none
  | bound + 1, s =>
    let s := s.toNextToken
    match s.rest with
    | [] => do
      let s ← (s.unindent none).dropCandidate?
      return s.tokens.reverse
    | p :: rest => do
      let s ← s.dropStale? p
      let s ← (s.unindent (some p.column)).fetch? p rest
      run bound s

end Scanner

/-- The tokens of a text. -/
def tokens? (text : List Char) : Option (List Token) :=
  if text.all isAllowed then Scanner.run (text.length + 1) { rest := places text } else none

end DepTriage.Yaml
