import DepTriage.Text.IdentifierRanges

/-! # Identifier characters

The characters of names in JavaScript: letters, digits, `$`, `_` and the Unicode properties
`ID_Start` and `ID_Continue`, with the two joiners allowed inside a name. -/

namespace DepTriage.Text

def isIdentifierStart (c : Char) : Bool :=
  if c.toNat < 0x80 then c.isAlpha || c == '$' || c == '_'
  else identifierStartRanges.contains c

def isIdentifierPart (c : Char) : Bool :=
  if c.toNat < 0x80 then c.isAlphanum || c == '$' || c == '_'
  else identifierStartRanges.contains c || identifierPartRanges.contains c
    || c.toNat == 0x200C || c.toNat == 0x200D

end DepTriage.Text
