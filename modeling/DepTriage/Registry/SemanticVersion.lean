import DepTriage.Text.Split

/-! # Semantic versions

Versions of three numbers with optional labels, such as `1.4.0-rc.1+build.5`. Two versions are the
same if all their parts are, and texts that are no versions if they are equal. -/

namespace DepTriage

/-- A version; its labels are kept as they are written, without the mark before them. -/
structure SemanticVersion where
  major : Nat
  minor : Nat
  patch : Nat
  preRelease : List Char := []
  build : List Char := []
deriving DecidableEq, Repr, Inhabited

namespace SemanticVersion

/-- The least number that is too great for a part of a version. -/
def partBound : Nat :=
  Nat.pow 2 64

/-- Whether digits are written as a number may be, without a zero in front. -/
def isUnpadded : List Char → Bool
  | '0' :: _ :: _ => false
  | _ => true

/-- A number in front, and what follows it. -/
def readPart? (cs : List Char) : Option (Nat × List Char) :=
  let digits := cs.takeWhile Char.isDigit
  let value := digits.foldl (fun n c => 10 * n + (c.toNat - '0'.toNat)) 0
  if digits.isEmpty || !isUnpadded digits || partBound ≤ value then none
  else some (value, cs.dropWhile Char.isDigit)

def isLabelChar (c : Char) : Bool :=
  c.isAlphanum || c == '-'

/-- Whether a label consists of words between dots; `unpadded` asks of words of digits that they
have no zero in front. -/
def isLabel (unpadded : Bool) (label : List Char) : Bool :=
  (Text.splitAll '.' label).all fun word =>
    !word.isEmpty && word.all isLabelChar
      && (!unpadded || !word.all Char.isDigit || isUnpadded word)

/-- A label after its mark, up to a character that no label holds. -/
def readLabel? (unpadded : Bool) (cs : List Char) : Option (List Char × List Char) :=
  let label := cs.takeWhile fun c => isLabelChar c || c == '.'
  if isLabel unpadded label then some (label, cs.dropWhile fun c => isLabelChar c || c == '.')
  else none

/-- A label of its own, if its mark stands in front. -/
def readMarked? (mark : Char) (unpadded : Bool) (cs : List Char) :
    Option (List Char × List Char) :=
  match cs with
  | c :: rest => if c == mark then readLabel? unpadded rest else some ([], cs)
  | [] => some ([], [])

def readDot? : List Char → Option (List Char)
  | '.' :: cs => some cs
  | _ => none

def read? (text : String) : Option SemanticVersion := do
  let (major, cs) ← readPart? text.toList
  let (minor, cs) ← readPart? (← readDot? cs)
  let (patch, cs) ← readPart? (← readDot? cs)
  let (preRelease, cs) ← readMarked? '-' true cs
  let (build, cs) ← readMarked? '+' false cs
  if cs.isEmpty then some ⟨major, minor, patch, preRelease, build⟩ else none

end SemanticVersion

/-- Whether two texts name the same version. -/
def sameVersion (a b : String) : Bool :=
  match SemanticVersion.read? a, SemanticVersion.read? b with
  | some a, some b => a == b
  | _, _ => a == b

end DepTriage
