import DepTriage.LockFile.Revisions
import DepTriage.Text.Split

/-! # Name-status listings

The listing of the files that differ between two revisions, in which every field ends with a null
character. A record is a status and a path; for a rename or a copy it is a status, the path it
comes from and the path it goes to. -/

namespace DepTriage.Git

structure NameStatus where
  /-- The first character of the status field; a score may follow it. -/
  status : Char
  path : String
  /-- Where a renamed or copied file comes from. -/
  previous : Option String := none
deriving DecidableEq, Repr, Inhabited

/-- How a listing can end inside of a record with the given status field. -/
inductive ListingFault where
  | noPath (status : String)
  | noDestination (status : String)
deriving DecidableEq, Repr, Inhabited

def ListingFault.message : ListingFault → String
  | noPath status => s!"git diff record `{status}` has no path"
  | noDestination status => s!"git diff record `{status}` has no destination"

namespace NameStatus

/-- Whether a record of this status has two paths. -/
def hasTwoPaths (status : Char) : Bool :=
  status == 'R' || status == 'C'

/-- The records made up of fields. -/
def ofFields : List (List Char) → Except ListingFault (List NameStatus)
  | [] => .ok []
  | [] :: fields => ofFields fields
  | [status :: score] => .error (.noPath (String.ofList (status :: score)))
  | (status :: score) :: first :: fields =>
    if hasTwoPaths status then
      match fields with
      | [] => .error (.noDestination (String.ofList (status :: score)))
      | path :: fields =>
        (ofFields fields).map (⟨status, String.ofList path, some (String.ofList first)⟩ :: ·)
    else (ofFields fields).map (⟨status, String.ofList first, none⟩ :: ·)

/-- The fields of a listing; an empty one is no field. -/
def fields (listing : List Char) : List (List Char) :=
  (Text.splitAll '\x00' listing).filter (!·.isEmpty)

/-- The records of a listing. -/
def read (listing : String) : Except ListingFault (List NameStatus) :=
  ofFields (fields listing.toList)

/-- Where the old revision of a lock file stands, if it has one: a file that was added has none, and
a renamed or copied one only in a file of the same format. -/
def basePath? (r : NameStatus) (format : LockFormat) : Option String :=
  match r.status with
  | 'A' => none
  | 'R' | 'C' => r.previous.filter fun path => LockFormat.ofPath? path == some format
  | _ => some r.path

/-- The lock file that a record tells of, if the new revision still holds it. Lock files of npm are
not supported. -/
def lockFile? (r : NameStatus) : Option LockFilePlace :=
  if "package-lock.json".toList.isSuffixOf r.path.toList then none
  else
    match LockFormat.ofPath? r.path with
    | none => none
    | some format => if r.status = 'D' then none else some ⟨r.path, format, r.basePath? format⟩

end NameStatus

end DepTriage.Git
