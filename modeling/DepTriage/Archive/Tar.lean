import DepTriage.Archive.Gzip
import DepTriage.Text.Blank
import DepTriage.Text.Split
import DepTriage.Text.Utf8

/-! # Tar archives

An archive is a row of members, each a header of one block and its data padded to whole blocks. Some
members only describe the next one: they give it a long path or a size. A member together with those
that describe it is an entry. The first block of zeros ends the archive, and so does the end of the
data at the end of a member. -/

namespace DepTriage.Archive

namespace Tar

def blockSize : Nat :=
  512

/-! ## Reading -/

/-- A place in a source of bytes. -/
structure Cursor where
  source : ByteSource
  position : Nat := 0

namespace Cursor

/-- The next `count` bytes, or as many as there are. -/
def peekBytes (c : Cursor) (count : Nat) : ByteArray :=
  c.source.bytes.extract c.position (c.position + count)

/-- How many bytes are left, up to `count`. -/
def available (c : Cursor) (count : Nat) : Nat :=
  min count (c.source.bytes.size - c.position)

def advance (c : Cursor) (count : Nat) : Cursor :=
  { c with position := c.position + count }

/-- The next block; none where the data ends in front of it. -/
def block? (c : Cursor) : Except Unit (Option (ByteArray × Cursor)) :=
  let count := c.available blockSize
  if count = blockSize then .ok (some (c.peekBytes blockSize, c.advance blockSize))
  else if count = 0 && !c.source.fails then .ok none
  else .error ()

/-- Skips to an index, up to which there has to be data. -/
def skipTo? (c : Cursor) (index : Nat) : Option Cursor :=
  if c.source.bytes.size < index then none else some { c with position := index }

end Cursor

/-! ## Headers -/

/-- The bytes of a field before the first zero. -/
def fieldText (block : ByteArray) (start length : Nat) : List UInt8 :=
  (block.extract start (start + length)).toList.takeWhile (· ≠ 0)

/-- The least number that no field can hold. -/
def numberBound : Nat :=
  Nat.pow 2 64

/-- Octal digits, of which there is one at least, after an optional plus sign. -/
def octal? (cs : List Char) : Option Nat :=
  let digits := match cs with
    | '+' :: cs => cs
    | cs => cs
  if digits.isEmpty || digits.any fun c => !('0' ≤ c && c ≤ '7') then none
  else
    let n := digits.foldl (fun n c => 8 * n + (c.toNat - '0'.toNat)) 0
    if n < numberBound then some n else none

/-- A number written in octal digits, with white space around them. -/
def octalField? (block : ByteArray) (start length : Nat) : Option Nat :=
  (Text.decode? (fieldText block start length)).bind fun text => octal? (Text.trim text.toList)

/-- A number of twelve bytes: octal digits, or in binary where the first bit is set. Of a binary
one the last eight bytes count. -/
def sizeField? (block : ByteArray) (start : Nat) : Option Nat :=
  if 0x80 ≤ BitReader.byteAt block start then
    some ((block.extract (start + 4) (start + 12)).toList.foldl (fun n b => 256 * n + b.toNat) 0)
  else octalField? block start 12

/-- The sum of a header's bytes, in which the sum's own field counts as blanks. -/
def checksum (block : ByteArray) : Nat :=
  let sum (bytes : ByteArray) : Nat := bytes.foldl (fun n b => n + b.toNat) 0
  sum (block.extract 0 148) + 8 * 32 + sum (block.extract 156 512)

/-- The kinds of header that have more fields than the oldest one. -/
inductive Dialect where
  | old
  | ustar
  | gnu
deriving DecidableEq, Repr

def dialect (block : ByteArray) : Dialect :=
  let magic := (block.extract 257 265).toList
  if magic == "ustar".toUTF8.toList ++ [0, 48, 48] then .ustar
  else if magic == "ustar  ".toUTF8.toList ++ [0] then .gnu
  else .old

/-- The path in a header; one in the ustar dialect may have its first part in another field. -/
def headerPath (block : ByteArray) : List UInt8 :=
  let name := fieldText block 0 100
  if dialect block = .ustar then
    match fieldText block 345 155 with
    | [] => name
    | start => start ++ 47 :: name
  else name

/-! ## Records of extended headers -/

/-- A record `LENGTH KEY=VALUE` without its line feed, if its length is right. -/
def record? (line : List UInt8) : Option (List UInt8 × List UInt8) :=
  let length := line.takeWhile (· ≠ 32)
  match line.dropWhile (· ≠ 32) with
  | [] => none
  | _ :: entry =>
    match Text.decode? length >>= decimal? with
    | none => none
    | some n =>
      if n ≠ line.length + 1 then none
      else
        match entry.dropWhile (· ≠ 61) with
        | [] => none
        | _ :: value => some (entry.takeWhile (· ≠ 61), value)
where
  decimal? (text : String) : Option Nat :=
    let digits := match text.toList with
      | '+' :: cs => cs
      | cs => cs
    if digits.isEmpty || !digits.all Char.isDigit then none
    else
      let n := digits.foldl (fun n c => 10 * n + (c.toNat - '0'.toNat)) 0
      if n < numberBound then some n else none

/-- The lines up to the first empty one, onto `line` and `lines`, both in reverse. -/
def recordLines : List UInt8 → (line : List UInt8) → (lines : List (List UInt8)) →
    List (List UInt8)
  | [], [], lines => lines.reverse
  | [], line, lines => (line.reverse :: lines).reverse
  | b :: bs, line, lines =>
    if b = 10 then
      if line.isEmpty then lines.reverse else recordLines bs [] (line.reverse :: lines)
    else recordLines bs (b :: line) lines

/-- The path that the records of an extended header give. -/
def recordPath? (records : ByteArray) : Option (List UInt8) :=
  ((recordLines records.toList [] []).filterMap record?).lookup "path".toUTF8.toList

/-- The size that the records of an extended header give, if no record before it is malformed. -/
def recordSize? (records : ByteArray) : Option Nat :=
  find (recordLines records.toList [] [])
where
  find : List (List UInt8) → Option Nat
    | [] => none
    | line :: lines =>
      match record? line with
      | none => none
      | some (key, value) =>
        if key = "size".toUTF8.toList then Text.decode? value >>= record?.decimal? else find lines

/-! ## Members -/

/-- A header, and what there is of the data after it. -/
structure Member where
  header : ByteArray
  size : Nat
  data : ByteArray
  /-- The place after the header. -/
  body : Cursor
  /-- The index of the byte after the member, with its padding. -/
  next : Nat

def Member.kind (m : Member) : UInt8 :=
  BitReader.byteAt m.header 156

/-- How the reading of a member ended. -/
inductive MemberStep where
  | member (member : Member)
  | finished
  | broken

/-- Reads the member at the cursor. The records before it give its size where its own is zero. -/
def readMember (c : Cursor) (records : Option ByteArray) : MemberStep :=
  match c.block? with
  | .error _ => .broken
  | .ok none => .finished
  | .ok (some (block, c)) =>
    if block.toList.all (· = 0) then .finished
    else if octalField? block 148 8 ≠ some (checksum block) then .broken
    else
      match sizeField? block 124 with
      | none => .broken
      | some stated =>
        let size := if stated = 0 then (records.bind recordSize?).getD 0 else stated
        let next := c.position + (size + blockSize - 1) / blockSize * blockSize
        if numberBound ≤ size + blockSize - 1 || numberBound ≤ next then .broken
        else .member ⟨block, size, c.peekBytes (c.available size), c, next⟩

/-! ## Sparse files -/

/-- What reading a sparse file yields: bytes of the archive, zeros between them, and how much of
the stated size is left. -/
structure Sparse where
  data : ByteArray := .empty
  zeros : Nat := 0
  /-- The length of the file so far. -/
  length : Nat := 0
  /-- How much data the header still announces. -/
  remaining : Nat
  cursor : Cursor

/-- Adds the part of a sparse file that is listed at an index of a block. -/
def Sparse.addPart? (s : Sparse) (size : Nat) (block : ByteArray) (start : Nat) : Option Sparse :=
  if BitReader.byteAt block start = 0 || BitReader.byteAt block (start + 12) = 0 then some s
  else do
    let offset ← sizeField? block start
    let length ← sizeField? block (start + 12)
    if (length ≠ 0 && (size - s.remaining) % blockSize ≠ 0) || offset < s.length
        || numberBound ≤ offset + length || s.remaining < length then none
    else
      some { s with
        zeros := s.zeros + (offset - s.length)
        length := offset + length
        remaining := s.remaining - length }

def Sparse.addParts? (s : Sparse) (size : Nat) (block : ByteArray) (start count : Nat) :
    Option Sparse :=
  (List.range count).foldlM (fun s i => s.addPart? size block (start + 24 * i)) s

/-- Reads further blocks of parts as long as the last one announces another, given a bound on their
number. -/
def Sparse.extend? (size : Nat) : (bound : Nat) → Sparse → (more : Bool) → Option Sparse
  | _, s, false => some s
  | 0, _, true => none
  | bound + 1, s, true =>
    match s.cursor.block? with
    | .ok (some (block, c)) =>
      match { s with cursor := c }.addParts? size block 0 21 with
      | none => none
      | some s => Sparse.extend? size bound s (BitReader.byteAt block 504 = 1)
    | _ => none

/-- The parts of a sparse file, with its data, and the index of the next member. -/
def readSparse? (m : Member) : Option (Sparse × Nat) := do
  if dialect m.header ≠ .gnu then none
  else
    let s : Sparse := { remaining := m.size, cursor := m.body }
    let s ← s.addParts? m.size m.header 386 4
    let bound := m.body.source.bytes.size / blockSize + 1
    let s ← Sparse.extend? m.size bound s (BitReader.byteAt m.header 482 = 1)
    let stated ← sizeField? m.header 483
    if s.length ≠ stated || s.remaining ≠ 0 then none
    else
      let moved := s.cursor.position - m.body.position
      some ({ s with data := s.cursor.peekBytes (s.cursor.available m.size) }, m.next + moved)

/-! ## Entries -/

inductive EntryKind where
  /-- A regular or a continuous file. -/
  | file
  | directory
  /-- A symbolic or a hard link. -/
  | link
  /-- Anything that is no part of a package. -/
  | other
deriving DecidableEq, Repr, Inhabited

def EntryKind.ofByte (b : UInt8) : EntryKind :=
  if b = 0 || b = 48 || b = 55 then file
  else if b = 53 then directory
  else if b = 49 || b = 50 then link
  else other

/-- An entry of an archive. -/
structure Entry where
  kind : EntryKind
  path : String
  /-- The size that its own header states. -/
  declared : Nat
  data : ByteArray
  /-- The zeros that a sparse file has beside its data. -/
  zeros : Nat := 0
deriving Inhabited

/-- The bytes that reading an entry yields. -/
def Entry.length (e : Entry) : Nat :=
  e.data.size + e.zeros

/-- What the members before an entry say of it. -/
structure Description where
  longPath : Option ByteArray := none
  longLink : Option ByteArray := none
  records : Option ByteArray := none

namespace Description

def isEmpty (d : Description) : Bool :=
  d.longPath.isNone && d.longLink.isNone && d.records.isNone

/-- Adds what a member says, if it describes another; none if that has been said before. -/
def add? (d : Description) (m : Member) : Option (Option Description) :=
  let once (old : Option ByteArray) (new : Description) : Option (Option Description) :=
    if old.isSome then none else some (some new)
  if dialect m.header = .old then some none
  else if m.kind = 120 then once d.records { d with records := some m.data }
  else if m.kind = 76 then once d.longPath { d with longPath := some m.data }
  else if m.kind = 75 then once d.longLink { d with longLink := some m.data }
  else some none

/-- The path of a described entry: one long path may end in a zero. -/
def path (d : Description) (header : ByteArray) : List UInt8 :=
  match d.longPath with
  | some bytes =>
    let path := bytes.toList
    if path.getLast? = some 0 then path.dropLast else path
  | none => (d.records.bind recordPath?).getD (headerPath header)

end Description

/-- How the reading of an entry ended. -/
inductive EntryStep where
  | entry (entry : Entry) (next : Cursor)
  | finished
  | broken

/-- The entry of a member, and the index of the next one. -/
def entryOf? (d : Description) (m : Member) : Option (Entry × Nat) := do
  let path := Text.decodeLossy (d.path m.header)
  let kind := EntryKind.ofByte m.kind
  if m.kind = 83 then
    let (sparse, next) ← readSparse? m
    return ({ kind, path, declared := sparse.length, data := sparse.data, zeros := sparse.zeros },
      next)
  else
    let declared ← sizeField? m.header 124
    return ({ kind, path, declared, data := m.data }, m.next)

/-- Reads members up to one that describes no other, given a bound on their number. -/
def readEntry : (bound : Nat) → Cursor → Description → EntryStep
  | 0, _, _ => .broken
  | bound + 1, c, d =>
    match readMember c d.records with
    | .broken => .broken
    | .finished => if d.isEmpty then .finished else .broken
    | .member m =>
      match d.add? m with
      | none => .broken
      | some (some d) =>
        match m.body.skipTo? m.next with
        | none => .broken
        | some c => readEntry bound c d
      | some none =>
        match entryOf? d m with
        | none => .broken
        | some (entry, next) => .entry entry { m.body with position := next }

/-- The entries of an archive, and whether reading them ended in a fault. -/
structure Listing where
  entries : List Entry
  broken : Bool

/-- Reads entries onto those before them, in reverse, given a bound on their number. -/
def readEntries : (bound : Nat) → Cursor → (entries : List Entry) → Listing
  | 0, _, entries => ⟨entries.reverse, true⟩
  | bound + 1, c, entries =>
    if c.source.bytes.size < c.position then ⟨entries.reverse, true⟩
    else
      match readEntry (bound + 1) c {} with
      | .broken => ⟨entries.reverse, true⟩
      | .finished => ⟨entries.reverse, false⟩
      | .entry entry c => readEntries bound c (entry :: entries)

/-- All entries of a source. Each takes a block at least, which bounds their number. -/
def list (source : ByteSource) : Listing :=
  readEntries (source.bytes.size / blockSize + 2) { source } []

end Tar

end DepTriage.Archive
