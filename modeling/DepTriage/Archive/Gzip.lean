import DepTriage.Archive.Inflate

/-! # Gzip

A byte source that is either plain or the first member of a gzip file. Decompression is lazy: what
is wrong with compressed data shows only where it is reached. -/

namespace DepTriage.Archive

/-- Bytes to be read in order; `fails` tells whether reading fails after the last of them. -/
structure ByteSource where
  bytes : ByteArray
  fails : Bool := false

namespace Gzip

/-! ## Checksums -/

def crcStep (c : UInt32) : UInt32 :=
  if c &&& 1 = 1 then (c >>> 1) ^^^ 0xEDB88320 else c >>> 1

def crcByte (c : UInt32) (b : UInt8) : UInt32 :=
  let c := c ^^^ b.toUInt32
  crcStep (crcStep (crcStep (crcStep (crcStep (crcStep (crcStep (crcStep c)))))))

/-- The cyclic redundancy check of some bytes. -/
def crc32 (data : ByteArray) : UInt32 :=
  (data.foldl crcByte 0xFFFFFFFF) ^^^ 0xFFFFFFFF

/-- The number of `count` bytes from `start` on, of which the first one counts least. -/
def littleEndian (data : ByteArray) (start count : Nat) : Nat :=
  (List.range count).foldr (fun i n => 256 * n + (BitReader.byteAt data (start + i)).toNat) 0

/-! ## Headers -/

/-- The index after the next zero byte, given a bound on the bytes before it. -/
def afterZero? (data : ByteArray) : (bound : Nat) → (start : Nat) → Option Nat
  | 0, _ => none
  | bound + 1, start =>
    if start < data.size then
      if BitReader.byteAt data start = 0 then some (start + 1)
      else afterZero? data bound (start + 1)
    else none

/-- The greatest length of a name or a comment. -/
def textLimit : Nat :=
  65535

/-- A zero-terminated text, if a flag says that there is one. -/
def skipText? (data : ByteArray) (present : Bool) (start : Nat) : Option Nat :=
  if present then afterZero? data (textLimit + 1) start else some start

/-- The bytes of an optional field with its length in front. -/
def skipExtra? (data : ByteArray) (present : Bool) (start : Nat) : Option Nat :=
  if !present then some start
  else
    let next := start + 2 + littleEndian data start 2
    if start + 2 ≤ data.size && next ≤ data.size then some next else none

/-- The checksum of the header before it, if a flag says that there is one. -/
def skipHeaderCheck? (data : ByteArray) (present : Bool) (start : Nat) : Option Nat :=
  if !present then some start
  else if start + 2 ≤ data.size
      && littleEndian data start 2 = (crc32 (data.extract 0 start)).toNat % 0x10000 then
    some (start + 2)
  else none

/-- The index of the first byte after the header. -/
def headerEnd? (data : ByteArray) : Option Nat := do
  let flags := (BitReader.byteAt data 3).toNat
  let has (bit : Nat) : Bool := flags.testBit bit
  if data.size < 10 || BitReader.byteAt data 2 ≠ 8 || 32 ≤ flags then none
  else
    let start ← skipExtra? data (has 2) 10
    let start ← skipText? data (has 3) start
    let start ← skipText? data (has 4) start
    skipHeaderCheck? data (has 1) start

/-! ## Members -/

/-- Whether data starts as a gzip file does. -/
def isGzip (data : ByteArray) : Bool :=
  2 ≤ data.size && BitReader.byteAt data 0 = 0x1F && BitReader.byteAt data 1 = 0x8B

/-- Whether the checksum and the length after the compressed data fit the output. -/
def trailerFits (data : ByteArray) (start : Nat) (output : ByteArray) : Bool :=
  start + 8 ≤ data.size && littleEndian data start 4 = (crc32 output).toNat
    && littleEndian data (start + 4) 4 = output.size % Nat.pow 2 32

/-- The size of the pieces in which data is decompressed. Of a piece with a fault nothing can be
read. -/
def window : Nat :=
  32768

/-- What can be read of the first member of a gzip file. -/
def decompress (data : ByteArray) : ByteSource :=
  match headerEnd? data with
  | none => ⟨.empty, true⟩
  | some start =>
    let result := inflate data start
    match result.ending with
    | .finished position =>
      ⟨result.output, !trailerFits data ((position + 7) / 8) result.output⟩
    | .cutShort => ⟨result.output, true⟩
    | .invalid => ⟨result.output.extract 0 (result.output.size / window * window), true⟩

end Gzip

/-- What can be read of data that may be compressed. -/
def ByteSource.ofBytes (data : ByteArray) : ByteSource :=
  if Gzip.isGzip data then Gzip.decompress data else ⟨data, false⟩

end DepTriage.Archive
