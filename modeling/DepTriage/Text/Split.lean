/-! # Cutting texts

Texts as lists of characters, cut at the first or the last occurrence of a character, into fields,
and into lines. -/

namespace DepTriage.Text

/-- What stands before and after the first `mark`. -/
def splitFirst? (mark : Char) (cs : List Char) : Option (List Char × List Char) :=
  match cs.dropWhile (· != mark) with
  | [] => none
  | _ :: after => some (cs.takeWhile (· != mark), after)

/-- What stands before and after the last `mark`. -/
def splitLast? (mark : Char) (cs : List Char) : Option (List Char × List Char) :=
  (splitFirst? mark cs.reverse).map fun (after, before) => (before.reverse, after.reverse)

/-- What stands before the first `mark`, or all of it. -/
def beforeFirst (mark : Char) (cs : List Char) : List Char :=
  cs.takeWhile (· != mark)

/-- The rest of a text after `start`, if it begins with it. -/
def dropStart? : (start : List Char) → List Char → Option (List Char)
  | [], cs => some cs
  | _ :: _, [] => none
  | s :: start, c :: cs => if s = c then dropStart? start cs else none

/-- The rest of a text before `ending`, if it ends with it. -/
def dropEnd? (ending cs : List Char) : Option (List Char) :=
  (dropStart? ending.reverse cs.reverse).map List.reverse

/-- What follows the first occurrence of `part`. -/
def afterFirst? (part : List Char) : List Char → Option (List Char)
  | [] => if part.isEmpty then some [] else none
  | c :: cs =>
    match dropStart? part (c :: cs) with
    | some rest => some rest
    | none => afterFirst? part cs

/-- Whether `part` occurs in a text. -/
def isInfix (part cs : List Char) : Bool :=
  (afterFirst? part cs).isSome

/-- The fields between the marks, onto `fields` and `field`, both in reverse. -/
def splitOnto (mark : Char) : List Char → (field : List Char) → (fields : List (List Char)) →
    List (List Char)
  | [], field, fields => (field.reverse :: fields).reverse
  | c :: cs, field, fields =>
    if c = mark then splitOnto mark cs [] (field.reverse :: fields)
    else splitOnto mark cs (c :: field) fields

/-- The fields between the marks: one more than there are marks. -/
def splitAll (mark : Char) (cs : List Char) : List (List Char) :=
  splitOnto mark cs [] []

/-- The lines of a text, onto `line` and `lines`, both in reverse. -/
def linesOnto : List Char → (line : List Char) → (lines : List (List Char)) → List (List Char)
  | [], [], lines => lines.reverse
  | [], line, lines => (line.reverse :: lines).reverse
  | '\n' :: cs, '\r' :: line, lines => linesOnto cs [] (line.reverse :: lines)
  | '\n' :: cs, line, lines => linesOnto cs [] (line.reverse :: lines)
  | c :: cs, line, lines => linesOnto cs (c :: line) lines

/-- The lines of a text. A line ends with a line feed, before which one carriage return is dropped;
the last line may lack its end. -/
def lines (cs : List Char) : List (List Char) :=
  linesOnto cs [] []

end DepTriage.Text
