/-! # UTF-8

Bytes as text. Where bytes are no text, each longest part that could have begun a character counts
as one fault. -/

namespace DepTriage.Text

/-- How the bytes in front decode. -/
inductive Utf8Step where
  | char (c : Char) (size : Nat)
  /-- A fault of so many bytes, of which no other byte is part. -/
  | fault (size : Nat)
deriving DecidableEq, Repr

/-- Whether a byte continues a character. -/
def isContinuation (b : UInt8) : Bool :=
  0x80 ≤ b && b < 0xC0

def continuationBits (b : UInt8) : Nat :=
  b.toNat % 0x40

/-- Whether the second byte may follow the first one: this shuts out long forms of short
characters, surrogates, and code points that are too great. -/
def isSecondByte (first second : UInt8) : Bool :=
  if first = 0xE0 then 0xA0 ≤ second && second < 0xC0
  else if first = 0xED then 0x80 ≤ second && second < 0xA0
  else if first = 0xF0 then 0x90 ≤ second && second < 0xC0
  else if first = 0xF4 then 0x80 ≤ second && second < 0x90
  else isContinuation second

/-- Decodes what starts with the byte `b`. -/
def utf8Step (b : UInt8) (rest : List UInt8) : Utf8Step :=
  let n := b.toNat
  if n < 0x80 then .char (Char.ofNat n) 1
  else if n < 0xC2 || 0xF4 < n then .fault 1
  else
    match rest with
    | [] => .fault 1
    | b₂ :: rest =>
      if !isSecondByte b b₂ then .fault 1
      else if n < 0xE0 then .char (Char.ofNat (n % 0x20 * 0x40 + continuationBits b₂)) 2
      else
        match rest with
        | [] => .fault 2
        | b₃ :: rest =>
          if !isContinuation b₃ then .fault 2
          else if n < 0xF0 then
            .char (Char.ofNat
              ((n % 0x10 * 0x40 + continuationBits b₂) * 0x40 + continuationBits b₃)) 3
          else
            match rest with
            | [] => .fault 3
            | b₄ :: _ =>
              if !isContinuation b₄ then .fault 3
              else
                .char (Char.ofNat
                  (((n % 0x08 * 0x40 + continuationBits b₂) * 0x40 + continuationBits b₃) * 0x40
                    + continuationBits b₄)) 4

/-- Decodes bytes, of which `skip` are done with, onto `chars` in reverse; `onFault` gives what
stands for a fault with its bytes. -/
def decodeOnto (onFault : List UInt8 → List Char) :
    List UInt8 → (skip : Nat) → (chars : List Char) → List Char
  | [], _, chars => chars.reverse
  | _ :: rest, skip + 1, chars => decodeOnto onFault rest skip chars
  | b :: rest, 0, chars =>
    match utf8Step b rest with
    | .char c size => decodeOnto onFault rest (size - 1) (c :: chars)
    | .fault size =>
      decodeOnto onFault rest (size - 1) ((onFault ((b :: rest).take size)).reverse ++ chars)

/-- The text of bytes, with a replacement character for each fault. -/
def decodeLossy (bytes : List UInt8) : String :=
  String.ofList (decodeOnto (fun _ => ['\ufffd']) bytes 0 [])

/-- The first fault of bytes that are no text. -/
structure Utf8Fault where
  /-- The number of bytes before it. -/
  start : Nat
  /-- The number of its bytes, or none if the bytes end inside of a character. -/
  size : Option Nat
deriving DecidableEq, Repr, Inhabited

def Utf8Fault.message : Utf8Fault → String
  | ⟨start, some size⟩ => s!"invalid utf-8 sequence of {size} bytes from index {start}"
  | ⟨start, none⟩ => s!"incomplete utf-8 byte sequence from index {start}"

/-- Whether a fault of so many bytes is the start of a character and all that is left. -/
def isCutShort (b : UInt8) (rest : List UInt8) (size : Nat) : Bool :=
  0xC2 ≤ b && b ≤ 0xF4 && rest.length + 1 == size

/-- The first fault of bytes, of which `skip` are done with and `start` stand before them. -/
def firstFault? : List UInt8 → (skip start : Nat) → Option Utf8Fault
  | [], _, _ => none
  | _ :: rest, skip + 1, start => firstFault? rest skip (start + 1)
  | b :: rest, 0, start =>
    match utf8Step b rest with
    | .char _ size => firstFault? rest (size - 1) (start + 1)
    | .fault size => some ⟨start, if isCutShort b rest size then none else some size⟩

/-- The text of bytes, or what keeps them from being one. -/
def decode (bytes : List UInt8) : Except Utf8Fault String :=
  match firstFault? bytes 0 0 with
  | some fault => .error fault
  | none => .ok (decodeLossy bytes)

/-- The text of bytes, if they are one. -/
def decode? (bytes : List UInt8) : Option String :=
  (decode bytes).toOption

end DepTriage.Text
