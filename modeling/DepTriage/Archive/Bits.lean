/-! # Bits of a byte array

Bits are read from the lowest of each byte to the highest; a number's lowest bit comes first. Every
reader gives `none` where the data ends. -/

namespace DepTriage.Archive

/-- A place in the bits of some data. -/
structure BitReader where
  data : ByteArray
  /-- The number of bits before the place. -/
  position : Nat := 0

namespace BitReader

/-- The byte with an index, and zero beyond the end. -/
def byteAt (data : ByteArray) (i : Nat) : UInt8 :=
  if h : i < data.size then data[i] else 0

def bit? (r : BitReader) : Option (Nat × BitReader) :=
  let i := r.position / 8
  if i < r.data.size then
    some (((byteAt r.data i).toNat >>> (r.position % 8)) % 2,
      { r with position := r.position + 1 })
  else none

/-- Reads `count` bits onto `value`, of which the first one counts `weight`. -/
def bitsOnto? : (count : Nat) → BitReader → (value weight : Nat) → Option (Nat × BitReader)
  | 0, r, value, _ => some (value, r)
  | count + 1, r, value, weight =>
    match r.bit? with
    | some (b, r) => bitsOnto? count r (value + b * weight) (2 * weight)
    | none => none

/-- The number that the next `count` bits hold. -/
def bits? (r : BitReader) (count : Nat) : Option (Nat × BitReader) :=
  bitsOnto? count r 0 1

/-- The start of the next byte, or this place if it is one. -/
def align (r : BitReader) : BitReader :=
  { r with position := (r.position + 7) / 8 * 8 }

/-- The number of bits that are left. -/
def remaining (r : BitReader) : Nat :=
  8 * r.data.size - r.position

end BitReader

end DepTriage.Archive
