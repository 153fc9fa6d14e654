import DepTriage.CodeHost.Basic
import DepTriage.Config
import DepTriage.Http.Client
import DepTriage.Text.ByteOrderMark

/-! # Requests to GitHub

A client of GitHub, and its requests for documents and for texts. -/

namespace DepTriage

/-- The ways to the text of a file. -/
inductive ContentStrategy where
  | gitData
  | contentsApi
  | rawMirror
deriving DecidableEq, Repr, Inhabited

namespace ContentStrategy

def label : ContentStrategy → String
  | gitData => "git-data"
  | contentsApi => "contents-api"
  | rawMirror => "raw-mirror"

/-- The strategies in the order in which they are tried. -/
def all : List ContentStrategy :=
  [gitData, contentsApi, rawMirror]

def ofLabel? (label : String) : Option ContentStrategy :=
  all.find? (·.label == label)

end ContentStrategy

/-- A client of GitHub. -/
structure GitHubClient (m : Type → Type) where
  http : Http.Transport m
  settings : GitHubSettings := {}
  token : Option String := none
  strategies : List ContentStrategy := ContentStrategy.all

namespace GitHubClient

variable {m : Type → Type} [Monad m]

def documentType : String :=
  "application/vnd.github+json"

def rawType : String :=
  "application/vnd.github.raw"

/-- The headers of a request for one type of content. -/
def headers (c : GitHubClient m) (accept : String) : List (String × String) :=
  [("accept", accept), ("x-github-api-version", "2022-11-28")]
    ++ c.token.toList.map fun token => ("authorization", s!"Bearer {token}")

def repositoryUrl (c : GitHubClient m) (r : Repository) : String :=
  s!"{baseUrl c.settings.apiUrl}/repos/{r.owner}/{r.name}"

def document {α : Type} (c : GitHubClient m) (what url : String) (read : Json → Option α) :
    m (Except ScanError α) :=
  c.http.fetchDocument what url (c.headers documentType) read

def text (c : GitHubClient m) (what url accept : String) : m (Except ScanError String) :=
  return (← c.http.fetch what url (c.headers accept)).map fun bytes =>
    Text.decodeMarked bytes.toList

end GitHubClient

end DepTriage
