import DepTriage.LockFormat

/-! # Code hosts

What a host of repositories tells of a pull request: its two revisions, and the files it changes. -/

namespace DepTriage

structure Repository where
  owner : String
  name : String
deriving DecidableEq, Repr, Inhabited

def Repository.label (r : Repository) : String :=
  s!"{r.owner}/{r.name}"

structure PullRequestId where
  repository : Repository
  number : Nat
deriving DecidableEq, Repr, Inhabited

def PullRequestId.label (p : PullRequestId) : String :=
  s!"{p.repository.label}#{p.number}"

/-- A pull request asks to put the commit `head` on top of the commit `base`. -/
structure PullRequest where
  number : Nat
  head : String
  base : String
deriving DecidableEq, Repr, Inhabited

inductive FileStatus where
  | added
  | removed
  | modified
  | renamed
  | copied
  | changed
  | unchanged
deriving DecidableEq, Repr, Inhabited

namespace FileStatus

def label : FileStatus → String
  | added => "added"
  | removed => "removed"
  | modified => "modified"
  | renamed => "renamed"
  | copied => "copied"
  | changed => "changed"
  | unchanged => "unchanged"

def all : List FileStatus :=
  [added, removed, modified, renamed, copied, changed, unchanged]

def ofLabel? (label : String) : Option FileStatus :=
  all.find? (·.label == label)

end FileStatus

/-- A file that differs between two revisions. -/
structure ChangedFile where
  path : String
  status : FileStatus
  /-- Where a renamed or copied file comes from. -/
  previous : Option String := none
deriving DecidableEq, Repr, Inhabited

end DepTriage
