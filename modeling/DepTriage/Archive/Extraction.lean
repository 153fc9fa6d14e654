import DepTriage.Archive.Tar
import DepTriage.ScanError
import DepTriage.Text.Lowercase

/-! # Bounded extraction

The files of an archive, in memory. Every byte that is read, whether it is kept or not, counts
towards a limit on the whole, and a file that states too great a size is passed over. For any other
file, room is reserved before its data is read: as much as its header states. -/

namespace DepTriage

structure ExtractionLimits where
  maxFileSize : Nat := 50 * 1024 * 1024
  maxTotalSize : Nat := 500 * 1024 * 1024
deriving DecidableEq, Repr, Inhabited

inductive ExtractedKind where
  | file
  | directory
  | symlink
deriving DecidableEq, Repr, Inhabited

def ExtractedKind.label : ExtractedKind → String
  | file => "file"
  | directory => "directory"
  | symlink => "symlink"

/-- An entry taken out of an archive. Only files have content. -/
structure ExtractedFile where
  path : String
  kind : ExtractedKind
  content : ByteArray
  size : Nat
deriving Inhabited

namespace ExtractedFile

def isFile (f : ExtractedFile) : Bool :=
  f.kind == .file

/-- The content as text, with a replacement character for each fault. -/
def text (f : ExtractedFile) : String :=
  Text.decodeLossy f.content.toList

end ExtractedFile

/-- What the extraction of an archive comes to. It is stopped, without files and without an error,
where room would have to be reserved beyond all that can be. -/
inductive Extraction where
  | ok (files : List ExtractedFile)
  | error (e : ScanError)
  | stopped
deriving Inhabited

/-- The answer of an extraction that is not stopped. -/
def Extraction.answer : (x : Extraction) → x ≠ .stopped → Except ScanError (List ExtractedFile)
  | .ok files, _ => .ok files
  | .error e, _ => .error e
  | .stopped, h => absurd rfl h

/-- Which paths have one of some extensions, in any letter case. An extension starts with a dot,
which may be left out of its name. -/
def extensionFilter (extensions : List String) (path : String) : Bool :=
  let path := (Text.lowercase path).toList
  extensions.any fun extension =>
    let ending := (Text.lowercase extension).toList
    let ending := if ending.head? = some '.' then ending else '.' :: ending
    ending.isSuffixOf path

namespace Archive

/-! ## Reading -/

/-- An entry as it is read: what its header says, and the pieces in which its data arrives. If the
reading breaks off within an entry, the pieces before the break arrive. -/
structure Delivery where
  kind : Tar.EntryKind
  path : String
  declared : Nat
  pieces : List ByteArray
deriving Inhabited

/-- The size of the pieces in which entries are read. -/
def chunkSize : Nat :=
  8192

/-- The pieces in which bytes are read from an index on, given a bound on their number. -/
def cutFrom (bytes : ByteArray) : (bound index : Nat) → List ByteArray
  | 0, _ => []
  | bound + 1, index =>
    if bytes.size ≤ index then []
    else bytes.extract index (index + chunkSize) :: cutFrom bytes bound (index + chunkSize)

/-- A piece of zeros. -/
def zeroPiece : ByteArray :=
  ⟨.replicate chunkSize 0⟩

/-- So many zeros, in pieces. -/
def zeroPieces (count : Nat) : List ByteArray :=
  let rest := count % chunkSize
  List.replicate (count / chunkSize) zeroPiece
    ++ if rest = 0 then [] else [zeroPiece.extract 0 rest]

/-- Reads an entry. Of the zeros of a sparse file, none is read beyond a limit. -/
def Tar.Entry.delivery (limit : Nat) (e : Tar.Entry) : Delivery where
  kind := e.kind
  path := e.path
  declared := e.declared
  pieces := cutFrom e.data e.data.size 0 ++ zeroPieces (min e.zeros (limit + 1))

/-- Takes in pieces up to the end, which an empty one stands for, and counts them towards the limit
on the whole; `total` bytes have been counted before. None if they exceed it. What is taken in joins
the `sink`, if there is one. -/
def pump? (limit : Nat) : (pieces : List ByteArray) → (total : Nat) → (sink : Option ByteArray) →
    Option (Nat × Option ByteArray)
  | [], total, sink => some (total, sink)
  | piece :: pieces, total, sink =>
    if piece.isEmpty then some (total, sink)
    else if limit < total + piece.size then none
    else pump? limit pieces (total + piece.size) (sink.map (· ++ piece))

/-! ## Entries -/

/-- What becomes of an entry: it is passed over, or taken out. -/
def taken? (filter : String → Bool) (limits : ExtractionLimits) (e : Tar.Entry) :
    Option ExtractedFile :=
  if !filter e.path then none
  else
    match e.kind with
    | .other => none
    | .directory => some ⟨e.path, .directory, .empty, 0⟩
    | .link => some ⟨e.path, .symlink, .empty, 0⟩
    | .file =>
      if limits.maxFileSize < e.declared then none
      else some ⟨e.path, .file, e.data, e.data.size⟩

/-- The number of bytes up to which room can be reserved. Memory itself is taken to suffice. -/
def maxReservation : Nat :=
  Nat.pow 2 63 - 1

namespace Delivery

/-- Whether the data of an entry is kept: that of a file which is taken out. -/
def IsKept (filter : String → Bool) (limits : ExtractionLimits) (d : Delivery) : Prop :=
  d.kind = .file ∧ filter d.path ∧ d.declared ≤ limits.maxFileSize

instance (filter : String → Bool) (limits : ExtractionLimits) (d : Delivery) :
    Decidable (d.IsKept filter limits) :=
  inferInstanceAs (Decidable (_ ∧ _))

/-- Where the data of an entry is kept, if it is. -/
def sink? (filter : String → Bool) (limits : ExtractionLimits) (d : Delivery) :
    Option ByteArray :=
  if d.IsKept filter limits then some .empty else none

/-- An entry with the data that has been kept of it. -/
def entry (d : Delivery) (kept : Option ByteArray) : Tar.Entry where
  kind := d.kind
  path := d.path
  declared := d.declared
  data := kept.getD .empty

end Delivery

/-- Extracts entries onto those before them, in reverse; `total` bytes have been read before. -/
def extractOnto (filter : String → Bool) (limits : ExtractionLimits) (broken : Bool) :
    List Delivery → (total : Nat) → (files : List ExtractedFile) → Extraction
  | [], _, files => if broken then .error (.io "<io error>") else .ok files.reverse
  | d :: ds, total, files =>
    if d.IsKept filter limits ∧ maxReservation < d.declared then .stopped
    else
      match pump? limits.maxTotalSize d.pieces total (d.sink? filter limits) with
      | none => .error (.sizeLimitExceeded limits.maxTotalSize)
      | some (total, kept) =>
        extractOnto filter limits broken ds total
          ((taken? filter limits (d.entry kept)).toList ++ files)

end Archive

/-- Room can be reserved for every file that keeps within the limit on its size. -/
def ExtractionLimits.AreReservable (limits : ExtractionLimits) : Prop :=
  limits.maxFileSize ≤ Archive.maxReservation

instance (limits : ExtractionLimits) : Decidable limits.AreReservable :=
  inferInstanceAs (Decidable (_ ≤ _))

/-- The limits, with that on the size of a file lowered to what room can be reserved for. -/
def ExtractionLimits.reservable (limits : ExtractionLimits) : ExtractionLimits :=
  { limits with maxFileSize := min limits.maxFileSize Archive.maxReservation }

theorem ExtractionLimits.areReservable_reservable (limits : ExtractionLimits) :
    limits.reservable.AreReservable :=
  Nat.min_le_right _ _

theorem ExtractionLimits.reservable_eq {limits : ExtractionLimits} (h : limits.AreReservable) :
    limits.reservable = limits := by
  rw [reservable, Nat.min_eq_left h]

/-- The entries of an archive with paths that a filter lets through. -/
def extract (filter : String → Bool) (limits : ExtractionLimits) (archive : ByteArray) :
    Extraction :=
  let listing := Archive.Tar.list (.ofBytes archive)
  let deliveries := listing.entries.map (Archive.Tar.Entry.delivery limits.maxTotalSize)
  Archive.extractOnto filter limits listing.broken deliveries 0 []

/-! ## Limits for which room can be reserved -/

theorem Archive.extractOnto_ne_stopped (filter : String → Bool) {limits : ExtractionLimits}
    (h : limits.AreReservable) (broken : Bool) (ds : List Delivery) (total : Nat)
    (files : List ExtractedFile) : extractOnto filter limits broken ds total files ≠ .stopped := by
  induction ds generalizing total files with
  | nil =>
    rw [extractOnto]
    split <;> exact nofun
  | cons d ds ih =>
    -- A file that is kept keeps within the limit, and so does the room for it.
    have hroom : ¬ (d.IsKept filter limits ∧ maxReservation < d.declared) := fun ⟨hkept, hover⟩ =>
      Nat.not_le.2 hover (Nat.le_trans hkept.2.2 h)
    rw [extractOnto, if_neg hroom]
    split
    · exact nofun
    · exact ih _ _

theorem extract_ne_stopped (filter : String → Bool) {limits : ExtractionLimits}
    (h : limits.AreReservable) (archive : ByteArray) : extract filter limits archive ≠ .stopped :=
  Archive.extractOnto_ne_stopped filter h _ _ _ _

end DepTriage
