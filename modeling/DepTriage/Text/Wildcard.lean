import DepTriage.Text.Split

/-! # Wildcards

In a pattern, `*` stands for any text. The parts between the stars are looked for from left to
right, each as early as it occurs, after the first and the last part have been cut off the ends. -/

namespace DepTriage.Text

/-- Looks for the parts one after the other; an empty part is found anywhere. -/
def matchParts : (parts : List (List Char)) → List Char → Bool
  | [], _ => true
  | part :: parts, cs =>
    match afterFirst? part cs with
    | some rest => matchParts parts rest
    | none => false

/-- Whether a pattern stands for a text. -/
def matchesWildcard (pattern text : List Char) : Bool :=
  match splitAll '*' pattern with
  | [] => text.isEmpty
  | [whole] => whole == text
  | first :: rest =>
    match dropStart? first text with
    | none => false
    | some text =>
      match dropEnd? (rest.getLastD []) text with
      | none => false
      | some text => matchParts rest.dropLast text

end DepTriage.Text
