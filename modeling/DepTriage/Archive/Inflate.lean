import DepTriage.Archive.Huffman

/-! # Inflating

The decompression of deflated data: blocks that are stored as they are, or coded with words for
bytes and for repetitions of what came before. -/

namespace DepTriage.Archive

/-- How decompression ended. -/
inductive InflateEnd where
  /-- After the last block, at this bit. -/
  | finished (position : Nat)
  /-- The data ends too early. -/
  | cutShort
  | invalid
deriving DecidableEq, Repr

/-- What decompression has yielded. -/
structure Inflated where
  output : ByteArray
  ending : InflateEnd

/-- What goes on inside of a block: it ends with the place after it, or the whole ends. -/
inductive BlockStep (α : Type) where
  | next (value : α) (rest : BitReader)
  | stop (ending : InflateEnd)

namespace Inflate

/-! ## Tables -/

/-- The least length of the repetitions with a symbol from 257 on, and the number of bits that add
to it. -/
def lengthTable : Array (Nat × Nat) :=
  #[(3, 0), (4, 0), (5, 0), (6, 0), (7, 0), (8, 0), (9, 0), (10, 0), (11, 1), (13, 1), (15, 1),
    (17, 1), (19, 2), (23, 2), (27, 2), (31, 2), (35, 3), (43, 3), (51, 3), (59, 3), (67, 4),
    (83, 4), (99, 4), (115, 4), (131, 5), (163, 5), (195, 5), (227, 5), (258, 0)]

/-- The least distance back with a symbol, and the number of bits that add to it. -/
def distanceTable : Array (Nat × Nat) :=
  #[(1, 0), (2, 0), (3, 0), (4, 0), (5, 1), (7, 1), (9, 2), (13, 2), (17, 3), (25, 3), (33, 4),
    (49, 4), (65, 5), (97, 5), (129, 6), (193, 6), (257, 7), (385, 7), (513, 8), (769, 8),
    (1025, 9), (1537, 9), (2049, 10), (3073, 10), (4097, 11), (6145, 11), (8193, 12), (12289, 12),
    (16385, 13), (24577, 13)]

/-- The order in which the lengths of the code for code lengths are listed. -/
def lengthOrder : List Nat :=
  [16, 17, 18, 0, 8, 7, 9, 6, 10, 5, 11, 4, 12, 3, 13, 2, 14, 1, 15]

def fixedLiteralCode : PrefixCode :=
  .ofLengths (List.replicate 144 8 ++ List.replicate 112 9 ++ List.replicate 24 7
    ++ List.replicate 8 8)

def fixedDistanceCode : PrefixCode :=
  .ofLengths (List.replicate 32 5)

/-! ## Coded blocks -/

/-- Repeats `count` bytes from `distance` back. What lies before the output is zero. -/
def copyBack : (count : Nat) → (distance : Nat) → ByteArray → ByteArray
  | 0, _, output => output
  | count + 1, distance, output =>
    let byte := if distance ≤ output.size then
      BitReader.byteAt output (output.size - distance) else 0
    copyBack count distance (output.push byte)

/-- The number that a symbol of a table and the bits after it stand for. -/
def tableNumber (table : Array (Nat × Nat)) (symbol : Nat) (r : BitReader) : BlockStep Nat :=
  match table[symbol]? with
  | none => .stop .invalid
  | some (base, extra) =>
    match r.bits? extra with
    | none => .stop .cutShort
    | some (n, r) => .next (base + n) r

/-- The length and the distance of a repetition after its first symbol. -/
def readRepetition (distances : PrefixCode) (symbol : Nat) (r : BitReader) :
    BlockStep (Nat × Nat) :=
  match tableNumber lengthTable (symbol - 257) r with
  | .stop e => .stop e
  | .next length r =>
    match distances.decode r with
    | .ended => .stop .cutShort
    | .invalid => .stop .invalid
    | .symbol symbol r =>
      match tableNumber distanceTable symbol r with
      | .stop e => .stop e
      | .next distance r => .next (length, distance) r

/-- Reads the words of a block up to its end, given a bound on their number. The output is given
also where the block is broken. -/
def readWords (literals distances : PrefixCode) :
    (bound : Nat) → BitReader → ByteArray → BlockStep Unit × ByteArray
  | 0, _, output => (.stop .cutShort, output)
  | bound + 1, r, output =>
    match literals.decode r with
    | .ended => (.stop .cutShort, output)
    | .invalid => (.stop .invalid, output)
    | .symbol symbol r =>
      if symbol < 256 then readWords literals distances bound r (output.push symbol.toUInt8)
      else if symbol = 256 then (.next () r, output)
      else
        match readRepetition distances symbol r with
        | .stop e => (.stop e, output)
        | .next (length, distance) r =>
          readWords literals distances bound r (copyBack length distance output)

/-! ## Codes of a block -/

/-- Reads `count` code lengths of three bits each, onto `lengths` in reverse. -/
def readShortLengths : (count : Nat) → BitReader → (lengths : List Nat) → BlockStep (List Nat)
  | 0, r, lengths => .next lengths.reverse r
  | count + 1, r, lengths =>
    match r.bits? 3 with
    | none => .stop .cutShort
    | some (n, r) => readShortLengths count r (n :: lengths)

/-- Reads code lengths until there are `total`, onto `lengths` in reverse. Three symbols repeat the
length before or zero. -/
def readLengths (code : PrefixCode) (total : Nat) :
    (bound : Nat) → BitReader → (lengths : List Nat) → (count : Nat) → BlockStep (List Nat)
  | 0, _, _, _ => .stop .invalid
  | bound + 1, r, lengths, count =>
    if count = total then .next lengths.reverse r
    else if total < count then .stop .invalid
    else
      match code.decode r with
      | .ended => .stop .cutShort
      | .invalid => .stop .invalid
      | .symbol symbol r =>
        if symbol < 16 then readLengths code total bound r (symbol :: lengths) (count + 1)
        else
          let (base, extra, length) := match symbol with
            | 16 => (3, 2, lengths.head?)
            | 17 => (3, 3, some 0)
            | _ => (11, 7, some 0)
          match length, r.bits? extra with
          | none, _ => .stop .invalid
          | _, none => .stop .cutShort
          | some length, some (n, r) =>
            readLengths code total bound r (List.replicate (base + n) length ++ lengths)
              (count + base + n)

/-- The codes that a block brings along. -/
def readCodes (r : BitReader) : BlockStep (PrefixCode × PrefixCode) :=
  match r.bits? 5 with
  | none => .stop .cutShort
  | some (literalCount, r) =>
    match r.bits? 5 with
    | none => .stop .cutShort
    | some (distanceCount, r) =>
      match r.bits? 4 with
      | none => .stop .cutShort
      | some (lengthCount, r) =>
        let literalCount := literalCount + 257
        let distanceCount := distanceCount + 1
        if 286 < literalCount || 30 < distanceCount then .stop .invalid
        else
          match readShortLengths (lengthCount + 4) r [] with
          | .stop e => .stop e
          | .next listed r =>
            let lengths := (List.range 19).map fun symbol =>
              ((lengthOrder.zip listed).lookup symbol).getD 0
            let code := PrefixCode.ofLengths lengths
            if !code.isUsable then .stop .invalid
            else
              let total := literalCount + distanceCount
              match readLengths code total (total + 1) r [] 0 with
              | .stop e => .stop e
              | .next lengths r =>
                let literals := PrefixCode.ofLengths (lengths.take literalCount)
                let distances := PrefixCode.ofLengths (lengths.drop literalCount)
                if literals.isUsable && distances.isUsable then .next (literals, distances) r
                else .stop .invalid

/-! ## Blocks -/

/-- Copies a stored block. -/
def readStored (r : BitReader) (output : ByteArray) : BlockStep Unit × ByteArray :=
  match r.align.bits? 16 with
  | none => (.stop .cutShort, output)
  | some (length, r) =>
    match r.bits? 16 with
    | none => (.stop .cutShort, output)
    | some (check, r) =>
      if length + check ≠ 0xFFFF then (.stop .invalid, output)
      else
        let start := r.position / 8
        let output := output ++ r.data.extract start (start + length)
        if r.data.size < start + length then (.stop .cutShort, output)
        else (.next () { r with position := 8 * (start + length) }, output)

/-- Reads a block of a kind that two bits tell. -/
def readBlock (kind : Nat) (r : BitReader) (output : ByteArray) : BlockStep Unit × ByteArray :=
  match kind with
  | 0 => readStored r output
  | 1 => readWords fixedLiteralCode fixedDistanceCode (r.remaining + 1) r output
  | 2 =>
    match readCodes r with
    | .stop e => (.stop e, output)
    | .next (literals, distances) r => readWords literals distances (r.remaining + 1) r output
  | _ => (.stop .invalid, output)

/-- Reads blocks up to the last one, given a bound on their number. -/
def readBlocks : (bound : Nat) → BitReader → ByteArray → Inflated
  | 0, _, output => ⟨output, .cutShort⟩
  | bound + 1, r, output =>
    match r.bits? 3 with
    | none => ⟨output, .cutShort⟩
    | some (head, r) =>
      match readBlock (head / 2) r output with
      | (.stop e, output) => ⟨output, e⟩
      | (.next _ r, output) =>
        if head % 2 = 1 then ⟨output, .finished r.position⟩ else readBlocks bound r output

end Inflate

/-- Decompresses the data from a byte on. -/
def inflate (data : ByteArray) (start : Nat) : Inflated :=
  let r : BitReader := ⟨data, 8 * start⟩
  Inflate.readBlocks (r.remaining + 1) r .empty

end DepTriage.Archive
