/-! # White space

The Unicode property `White_Space`, and the trimming of texts by it. -/

namespace DepTriage.Text

def isWhiteSpace (c : Char) : Bool :=
  let n := c.toNat
  (0x09 ≤ n && n ≤ 0x0D) || n == 0x20 || n == 0x85 || n == 0xA0 || n == 0x1680
    || (0x2000 ≤ n && n ≤ 0x200A) || n == 0x2028 || n == 0x2029 || n == 0x202F || n == 0x205F
    || n == 0x3000

/-- Drops the characters with property `p` at the start. -/
def trimStart (p : Char → Bool) (cs : List Char) : List Char :=
  cs.dropWhile p

/-- Drops the characters with property `p` at the end. -/
def trimEnd (p : Char → Bool) (cs : List Char) : List Char :=
  (cs.reverse.dropWhile p).reverse

/-- Drops the characters with property `p` at both ends. -/
def trimBoth (p : Char → Bool) (cs : List Char) : List Char :=
  trimEnd p (trimStart p cs)

/-- A text without the white space around it. -/
def trim (cs : List Char) : List Char :=
  trimBoth isWhiteSpace cs

end DepTriage.Text
