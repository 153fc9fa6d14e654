import DepTriage.CodeHost.Basic
import DepTriage.Json.Basic

/-! # Documents of code hosts

Pull requests and changed files as JSON. -/

namespace DepTriage

open Json

/-- The name of a commit in an object that holds it. -/
def commitOfJson? (j : Json) : Option String :=
  match j.record? ["sha"] with
  | some [sha] => required? string? sha
  | _ => none

namespace PullRequest

def ofJson? (j : Json) : Option PullRequest :=
  match j.record? ["number", "head", "base"] with
  | some [number, head, base] => do
    return ⟨← required? natural? number, ← required? commitOfJson? head,
      ← required? commitOfJson? base⟩
  | _ => none

def toJson (p : PullRequest) : Json :=
  .object [("number", .natural p.number), ("head", .object [("sha", .string p.head)]),
    ("base", .object [("sha", .string p.base)])]

end PullRequest

namespace ChangedFile

def ofJson? (j : Json) : Option ChangedFile :=
  match j.record? ["filename", "status", "previous_filename"] with
  | some [path, status, previous] => do
    return {
      path := ← required? string? path
      status := ← required? (fun j => j.variant? >>= FileStatus.ofLabel?) status
      previous := ← withDefault? none (optional? string?) previous }
  | _ => none

/-- A previous path that is none is left out. -/
def toJson (f : ChangedFile) : Json :=
  .object <| [("filename", .string f.path), ("status", .string f.status.label)]
    ++ f.previous.toList.map fun path => ("previous_filename", .string path)

end ChangedFile

end DepTriage
