import DepTriage.Http.Url
import DepTriage.Json.Reader
import DepTriage.Retry
import DepTriage.Text.Utf8

/-! # Requests over HTTP

A client sends requests over some transport and tells the failures of requests apart: an answer
that does not come is transient, one that cannot be understood is not, since the same request would
bring the same bytes again. -/

namespace DepTriage

namespace Http

structure Request where
  url : Url
  headers : List (String × String)
deriving DecidableEq, Repr, Inhabited

structure Response where
  status : Nat
  /-- None if it ended before its announced length. -/
  body : Option ByteArray
deriving Inhabited

def Response.isSuccess (r : Response) : Bool :=
  200 ≤ r.status && r.status < 300

/-- How requests travel. If no answer comes, there is a text that says why. -/
structure Transport (m : Type → Type) where
  send : Request → m (Except String Response)
  /-- Waits for so many milliseconds. -/
  wait : Nat → m Unit

/-- The name by which the program presents itself. -/
def userAgent : String :=
  "prscan/0.1.0"

/-- Whether a text may be the value of a header. -/
def isHeaderText (text : String) : Bool :=
  text.toList.all fun c => c == '\t' || (0x20 ≤ c.toNat && c.toNat ≠ 0x7F)

/-- The request for the resource at an address, if there can be one. -/
def request? (url : String) (headers : List (String × String)) : Option Request :=
  if headers.all (isHeaderText ·.2) then
    (Url.parse? url).map fun url => ⟨url, headers ++ [("user-agent", userAgent)]⟩
  else none

end Http

/-- What stands for bytes that are no text: half of a surrogate pair, which is no text either. -/
def Json.faultText (fault : List UInt8) : List Char :=
  fault.flatMap fun _ => "\\udc80".toList

/-- The value that bytes spell. Bytes that are no text may stand in strings that nobody reads. -/
def Json.ofBytes? (bytes : ByteArray) : Option Json :=
  Json.parse? (Text.decodeOnto Json.faultText bytes.toList 0 [])

namespace Http.Transport

variable {m : Type → Type} [Monad m]

/-- Fetches the bytes at an address. Errors call them `what`. -/
def fetch (t : Transport m) (what url : String) (headers : List (String × String)) :
    m (Except ScanError ByteArray) := do
  match request? url headers with
  | none => return .error (.transient what "<transport error>")
  | some request =>
    match ← t.send request with
    | .error message => return .error (.transient what message)
    | .ok response =>
      if response.isSuccess then
        match response.body with
        | none => return .error (.invalidResponse what "<decode error>")
        | some body => return .ok body
      else return .error (.ofStatus what response.status)

/-- Fetches a document and reads it. -/
def fetchDocument {α : Type} (t : Transport m) (what url : String)
    (headers : List (String × String)) (read : Json → Option α) : m (Except ScanError α) := do
  match ← t.fetch what url headers with
  | .error e => return .error e
  | .ok bytes =>
    match Json.ofBytes? bytes >>= read with
    | none => return .error (.invalidResponse what "<decode error>")
    | some a => return .ok a

end Http.Transport

/-- An address without the slashes at its end. -/
def baseUrl (url : String) : String :=
  String.ofList (url.toList.reverse.dropWhile (· == '/')).reverse

end DepTriage
