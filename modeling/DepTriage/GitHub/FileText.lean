import DepTriage.CodeHost.Document
import DepTriage.GitHub.Request

/-! # Texts of files on GitHub

There are three ways to the text of a file: through the objects of the repository, from its commit
down its trees to a blob; through the interface for contents, which is asked again after transient
failures; and through the mirror of raw files. -/

namespace DepTriage

namespace GitHub

open Json

/-! ## Objects -/

/-- The name of the tree of a commit. -/
def treeOfCommit? (j : Json) : Option String :=
  match j.record? ["tree"] with
  | some [tree] => required? commitOfJson? tree
  | _ => none

structure TreeEntry where
  path : String
  kind : String
  sha : String
deriving DecidableEq, Repr, Inhabited

def TreeEntry.ofJson? (j : Json) : Option TreeEntry :=
  match j.record? ["path", "type", "sha"] with
  | some [path, kind, sha] => do
    return ⟨← required? string? path, ← required? string? kind, ← required? string? sha⟩
  | _ => none

/-- The entries of a tree. -/
def entriesOfTree? (j : Json) : Option (List TreeEntry) :=
  match j.record? ["tree"] with
  | some [tree] => required? (list? TreeEntry.ofJson?) tree
  | _ => none

end GitHub

namespace GitHubClient

open GitHub

variable {m : Type → Type} [Monad m]

/-- The text of a blob. -/
def blob (c : GitHubClient m) (r : Repository) (sha : String) : m (Except ScanError String) :=
  c.text s!"blob {sha}" s!"{c.repositoryUrl r}/git/blobs/{sha}" rawType

/-- Follows the components of a path from a tree to a blob. -/
def follow (c : GitHubClient m) (r : Repository) :
    (tree : String) → (components : List String) → m (Except ScanError (Option String))
  | _, [] => return .ok none
  | tree, component :: components => do
    match ← c.document s!"tree {tree}" s!"{c.repositoryUrl r}/git/trees/{tree}" entriesOfTree? with
    | .error e => return .error e
    | .ok entries =>
      match entries.find? (·.path == component) with
      | none => return .ok none
      | some entry =>
        if components.isEmpty then
          if entry.kind == "blob" then return (← c.blob r entry.sha).map some
          else return .ok none
        else if entry.kind == "tree" then c.follow r entry.sha components
        else return .ok none

/-- The components of a path. -/
def components (path : String) : List String :=
  ((Text.splitAll '/' path.toList).filter (!·.isEmpty)).map String.ofList

def viaGitData (c : GitHubClient m) (r : Repository) (path revision : String) :
    m (Except ScanError (Option String)) := do
  match ← c.document s!"commit {revision}" s!"{c.repositoryUrl r}/git/commits/{revision}"
      treeOfCommit? with
  | .error e => return .error e
  | .ok tree => c.follow r tree (components path)

/-- Waits ever longer between attempts. -/
def contentsPolicy (c : GitHubClient m) : RetryPolicy :=
  { RetryPolicy.ofAttempts c.settings.maxRetries with backoff := .linear 200 }

def viaContents (c : GitHubClient m) (r : Repository) (path revision : String) :
    m (Except ScanError String) :=
  c.contentsPolicy.run c.http.wait <| c.text s!"{r.label}/{path}@{revision}"
    s!"{c.repositoryUrl r}/contents/{path}?ref={revision}" rawType

def viaMirror (c : GitHubClient m) (r : Repository) (path revision : String) :
    m (Except ScanError String) :=
  c.text s!"raw {r.label}/{path}@{revision}"
    s!"{baseUrl c.settings.rawUrl}/{r.owner}/{r.name}/{revision}/{path}" "*/*"

/-- The text of a file by one strategy; what is not found is none. -/
def contentBy (c : GitHubClient m) (strategy : ContentStrategy) (r : Repository)
    (path revision : String) : m (Except ScanError (Option String)) := do
  let result := match strategy with
    | .gitData => c.viaGitData r path revision
    | .contentsApi => (·.map some) <$> c.viaContents r path revision
    | .rawMirror => (·.map some) <$> c.viaMirror r path revision
  match ← result with
  | .ok text => return .ok text
  | .error e => return if e.isNotFound then .ok none else .error e

/-- The text of a file by the first strategy that has one. -/
def contentByAny (c : GitHubClient m) (r : Repository) (path revision : String) :
    List ContentStrategy → m (Option String)
  | [] => return none
  | strategy :: strategies => do
    match ← c.contentBy strategy r path revision with
    | .ok (some text) => return some text
    | _ => c.contentByAny r path revision strategies

end GitHubClient

end DepTriage
