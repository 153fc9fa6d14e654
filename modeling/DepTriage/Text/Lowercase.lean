import DepTriage.Text.LetterCase

/-! # Lower case

The lower-case form of a text by the full Unicode mapping: each character by its own mapping, a
capital I with dot as two characters, and a capital sigma at the end of a word as the final
one. -/

namespace DepTriage.Text

/-- The simple lower case of one character. -/
def lowerChar (c : Char) : Char :=
  if c.toNat < 0x80 then c.toLower
  else
    match upperCaseRanges.find? c.toNat with
    | none => c
    | some i =>
      match upperCaseRanges[i]?, lowerCaseShifts[i]? with
      | some (first, _), some (step, shift) =>
        if (c.toNat - first) % step = 0 then Char.ofNat ((c.toNat : Int) + shift).toNat else c
      | _, _ => c

/-- Whether the first character that counts for letter case is a letter that has case. -/
def startsCased (cs : List Char) : Bool :=
  match cs.dropWhile caseIgnorableRanges.contains with
  | c :: _ => casedRanges.contains c
  | [] => false

/-- The lower case of `cs`, where `before` is the text before it in reverse, put in reverse in front
of `lowered`. -/
def lowerOnto : (before cs lowered : List Char) → List Char
  | _, [], lowered => lowered
  | before, c :: cs, lowered =>
    let mapped :=
      if c.toNat = 0x130 then [Char.ofNat 0x307, 'i']
      else if c.toNat = 0x3A3 then
        [if startsCased before && !startsCased cs then Char.ofNat 0x3C2 else Char.ofNat 0x3C3]
      else [lowerChar c]
    lowerOnto (c :: before) cs (mapped ++ lowered)

/-- The lower case of a text. -/
def lowercase (s : String) : String :=
  String.ofList (lowerOnto [] s.toList []).reverse

end DepTriage.Text
