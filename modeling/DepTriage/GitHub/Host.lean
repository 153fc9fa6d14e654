import DepTriage.GitHub.FileText
import DepTriage.Scan.Source

/-! # GitHub as a code host -/

namespace DepTriage

namespace GitHubClient

variable {m : Type → Type} [Monad m]

def retryPolicy (c : GitHubClient m) : RetryPolicy :=
  .ofAttempts c.settings.maxRetries

def pullRequest (c : GitHubClient m) (id : PullRequestId) : m (Except ScanError PullRequest) :=
  c.retryPolicy.run c.http.wait <| c.document s!"pull request {id.label}"
    s!"{c.repositoryUrl id.repository}/pulls/{id.number}" PullRequest.ofJson?

/-! ## Changed files -/

/-- The size of a page, which holds one file at least. -/
def pageSize (c : GitHubClient m) : Nat :=
  max c.settings.perPage 1

/-- One page of the files that a pull request changes. -/
def page (c : GitHubClient m) (id : PullRequestId) (number : Nat) :
    m (Except ScanError (List ChangedFile)) :=
  c.retryPolicy.run c.http.wait <|
    c.document s!"changed files of {id.label} (page {number})"
      (s!"{c.repositoryUrl id.repository}/pulls/{id.number}/files"
        ++ s!"?per_page={c.pageSize}&page={number}")
      (Json.list? ChangedFile.ofJson?)

/-- The files on the pages from `number` on up to the first one that is not full, given a bound on
the number of pages. -/
def pagesFrom (c : GitHubClient m) (id : PullRequestId) :
    (bound number : Nat) → m (Except ScanError (List ChangedFile))
  | 0, _ => return .ok []
  | bound + 1, number => do
    match ← c.page id number with
    | .error e => return .error e
    | .ok files =>
      if files.length < c.pageSize then return .ok files
      else return (← c.pagesFrom id bound (number + 1)).map (files ++ ·)

/-- The greatest number of a page. -/
def lastPage : Nat :=
  Nat.pow 2 32 - 1

/-- All files that a pull request changes. -/
def changedFiles (c : GitHubClient m) (id : PullRequestId) :
    m (Except ScanError (List ChangedFile)) :=
  c.pagesFrom id lastPage 1

/-- The code host that a client is. A file that no strategy finds does not exist. -/
def host (c : GitHubClient m) : CodeHost m where
  pullRequest := c.pullRequest
  changedFiles := c.changedFiles
  fileContent repository path revision :=
    return .ok (← c.contentByAny repository path revision c.strategies)

end GitHubClient

/-- The client of the settings, with the token that they or the environment have. -/
def GitHubSettings.client {m : Type → Type} (s : GitHubSettings) (http : Http.Transport m)
    (environment : Option String) : GitHubClient m where
  http
  settings := s
  token := s.effectiveToken? environment

end DepTriage
