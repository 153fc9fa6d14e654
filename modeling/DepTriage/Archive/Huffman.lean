import DepTriage.Archive.Bits

/-! # Canonical prefix codes

A code is given by the lengths of its words: words of one length are consecutive numbers in the
order of their symbols, and follow the shorter ones. -/

namespace DepTriage.Archive

/-- A canonical code with words of up to fifteen bits. -/
structure PrefixCode where
  /-- How many words there are of each length from one on. -/
  counts : List Nat
  /-- The symbols, ordered by the length of their words and then by themselves. -/
  symbols : Array Nat
deriving Inhabited

namespace PrefixCode

def longest : Nat :=
  15

/-- The symbols with words of a length. -/
def symbolsOf (lengths : List Nat) (length : Nat) : List Nat :=
  (lengths.zipIdx.filter fun (l, _) => l == length).map Prod.snd

def ofLengths (lengths : List Nat) : PrefixCode :=
  let groups := (List.range longest).map fun i => symbolsOf lengths (i + 1)
  ⟨groups.map List.length, groups.flatten.toArray⟩

/-- How many words of the greatest length would fit in the place that the words take. -/
def occupied (code : PrefixCode) : Nat :=
  code.counts.foldl (fun total count => 2 * total + count) 0

/-- Whether words take up all the room there is. A code of at most one word need not. -/
def isUsable (code : PrefixCode) : Bool :=
  code.symbols.size ≤ 1 || code.occupied == Nat.pow 2 longest

/-- How the reading of a word ended. -/
inductive Outcome where
  | symbol (symbol : Nat) (rest : BitReader)
  /-- The data ends within a word. -/
  | ended
  /-- The bits begin no word. -/
  | invalid

/-- Reads bits until they are a word: `value` is what has been read, `first` the first word of its
length and `index` the number of shorter words. -/
def decodeFrom (code : PrefixCode) : (counts : List Nat) → BitReader →
    (value first index : Nat) → Outcome
  | [], _, _, _, _ => .invalid
  | count :: counts, r, value, first, index =>
    match r.bit? with
    | none => .ended
    | some (b, r) =>
      let value := 2 * value + b
      let first := 2 * first
      if value < first + count then
        match code.symbols[index + (value - first)]? with
        | some symbol => .symbol symbol r
        | none => .invalid
      else decodeFrom code counts r value (first + count) (index + count)

/-- Reads the next word. -/
def decode (code : PrefixCode) (r : BitReader) : Outcome :=
  decodeFrom code code.counts r 0 0 0

end PrefixCode

end DepTriage.Archive
