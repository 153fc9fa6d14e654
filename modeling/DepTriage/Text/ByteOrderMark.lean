import DepTriage.Text.Utf8

/-! # Marked texts

Bytes as text where a mark in front may tell their encoding: UTF-16 in either order of bytes, or
UTF-8, which is also meant where there is no mark. -/

namespace DepTriage.Text

/-- Code units as characters, onto `chars` in reverse. Half of a pair is a fault. -/
def unitsOnto : List Nat → (chars : List Char) → List Char
  | high :: low :: units, chars =>
    if 0xD800 ≤ high ∧ high < 0xDC00 then
      if 0xDC00 ≤ low ∧ low < 0xE000 then
        unitsOnto units
          (Char.ofNat (0x10000 + (high - 0xD800) * 0x400 + (low - 0xDC00)) :: chars)
      else unitsOnto (low :: units) ('\ufffd' :: chars)
    else if 0xDC00 ≤ high ∧ high < 0xE000 then unitsOnto (low :: units) ('\ufffd' :: chars)
    else unitsOnto (low :: units) (Char.ofNat high :: chars)
  | [unit], chars =>
    (if 0xD800 ≤ unit ∧ unit < 0xE000 then '\ufffd' :: chars
      else Char.ofNat unit :: chars).reverse
  | [], chars => chars.reverse

/-- The code units of bytes in pairs, and whether a byte is left over. -/
def unitsOf (combine : UInt8 → UInt8 → Nat) : List UInt8 → List Nat × Bool
  | a :: b :: bytes =>
    let (units, odd) := unitsOf combine bytes
    (combine a b :: units, odd)
  | [_] => ([], true)
  | [] => ([], false)

/-- The text of bytes in UTF-16, with a replacement character for each fault. -/
def decodeUtf16 (combine : UInt8 → UInt8 → Nat) (bytes : List UInt8) : String :=
  let (units, odd) := unitsOf combine bytes
  String.ofList (unitsOnto units [] ++ if odd then ['\ufffd'] else [])

/-- The text of bytes, in the encoding that their mark tells. -/
def decodeMarked : List UInt8 → String
  | 0xEF :: 0xBB :: 0xBF :: bytes => decodeLossy bytes
  | 0xFE :: 0xFF :: bytes => decodeUtf16 (fun a b => a.toNat * 256 + b.toNat) bytes
  | 0xFF :: 0xFE :: bytes => decodeUtf16 (fun a b => b.toNat * 256 + a.toNat) bytes
  | bytes => decodeLossy bytes

end DepTriage.Text
