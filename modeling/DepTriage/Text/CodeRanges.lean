/-! # Sets of characters as ranges of code points

A table of a character property is an array of ranges, in ascending order and without overlap. A
character is looked up by halving. -/

namespace DepTriage.Text

/-- Ranges of code points, both ends included, in ascending order. -/
abbrev CodeRanges := Array (Nat × Nat)

namespace CodeRanges

/-- The range that holds `code`, searched for among those with index `lo ≤ i < hi`. -/
def findBetween (ranges : CodeRanges) (code lo hi : Nat) : Option Nat :=
  if lo < hi then
    let mid := (lo + hi) / 2
    match ranges[mid]? with
    | none => none
    | some (first, last) =>
      if code < first then findBetween ranges code lo mid
      else if last < code then findBetween ranges code (mid + 1) hi
      else some mid
  else none
termination_by hi - lo

/-- The index of the range that holds `code`. -/
def find? (ranges : CodeRanges) (code : Nat) : Option Nat :=
  findBetween ranges code 0 ranges.size

def contains (ranges : CodeRanges) (c : Char) : Bool :=
  (ranges.find? c.toNat).isSome

end CodeRanges

end DepTriage.Text
