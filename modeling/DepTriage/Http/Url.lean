import DepTriage.Text.Split

/-! # Addresses of HTTP resources

An address as browsers read it: slashes may lean either way, steps up the path are taken, and what
may not stand in a request is percent-encoded. A fragment is dropped. -/

namespace DepTriage.Http

structure Url where
  secure : Bool
  /-- The host, and the port unless it is the usual one. -/
  authority : String
  path : List (List Char)
  query : Option (List Char) := none
deriving DecidableEq, Repr, Inhabited

namespace Url

/-! ## Encoding -/

def upperHex (n : Nat) : Char :=
  if n < 10 then Char.ofNat ('0'.toNat + n) else Char.ofNat ('A'.toNat + (n - 10))

def encodeByte (b : UInt8) : List Char :=
  ['%', upperHex (b.toNat / 16), upperHex (b.toNat % 16)]

/-- Encodes the characters beyond printable ASCII, and some others. -/
def encode (others : List Char) (cs : List Char) : List Char :=
  cs.flatMap fun c =>
    if c.toNat < 0x20 || 0x7E < c.toNat || others.contains c then
      (String.utf8EncodeChar c).flatMap encodeByte
    else [c]

def encodeSegment : List Char → List Char :=
  encode [' ', '"', '<', '>', '`', '#', '?', '\x7b', '\x7d']

def encodeQuery : List Char → List Char :=
  encode [' ', '"', '#', '<', '>', '\'']

/-! ## Paths -/

/-- A segment with encoded dots written out, in lower case. -/
def plainDots : List Char → List Char
  | '%' :: '2' :: e :: cs =>
    if e == 'e' || e == 'E' then '.' :: plainDots cs else '%' :: '2' :: e :: plainDots cs
  | c :: cs => c :: plainDots cs
  | [] => []

/-- Adds segments onto those before them, which are in reverse. A step up takes the last segment
away; at the end of a path a step leaves an empty segment. -/
def segmentsOnto : List (List Char) → (before : List (List Char)) → List (List Char)
  | [], before => before.reverse
  | segment :: segments, before =>
    match plainDots segment with
    | ['.', '.'] =>
      segmentsOnto segments (if segments.isEmpty then [] :: before.drop 1 else before.drop 1)
    | ['.'] => segmentsOnto segments (if segments.isEmpty then [] :: before else before)
    | _ => segmentsOnto segments (encodeSegment segment :: before)

/-- The segments of a path, which starts with a slash or is empty. -/
def readPath (cs : List Char) : List (List Char) :=
  segmentsOnto (Text.splitAll '/' ((cs.map fun c => if c = '\\' then '/' else c).drop 1)) []

/-! ## Authorities -/

def isSlash (c : Char) : Bool :=
  c == '/' || c == '\\'

/-- Whether a character may not stand in a host. -/
def isForbidden (c : Char) : Bool :=
  c.toNat ≤ 0x20 || c.toNat = 0x7F || "#/<>?@\\^|%".toList.contains c

/-- Whether a text may name a host; colons stand only in an address in brackets. -/
def isHost (cs : List Char) : Bool :=
  !cs.isEmpty && !cs.any isForbidden &&
    (!cs.contains ':' || (cs.head? == some '[' && cs.getLast? == some ']'))

/-- A port, or none if there is none or it is the usual one. -/
def readPort? (secure : Bool) (digits : List Char) : Option (Option Nat) :=
  if digits.all Char.isDigit then
    let port := digits.foldl (fun n c => 10 * n + (c.toNat - '0'.toNat)) 0
    if digits.isEmpty then some none
    else if 65535 < port then none
    else some (if port = (if secure then 443 else 80) then none else some port)
  else none

/-- Cuts the port off a host. -/
def splitPort (cs : List Char) : List Char × List Char :=
  match Text.splitLast? ':' cs with
  | some (host, port) => if port.contains ']' then (cs, []) else (host, port)
  | none => (cs, [])

/-- The authority, from which a user's name is dropped. -/
def readAuthority? (secure : Bool) (cs : List Char) : Option String :=
  let cs := match Text.splitLast? '@' cs with
    | some (_, cs) => cs
    | none => cs
  let (host, port) := splitPort cs
  if isHost host then
    (readPort? secure port).map fun port =>
      String.ofList (host.map Char.toLower) ++ match port with
        | some port => s!":{port}"
        | none => ""
  else none

/-! ## Addresses -/

/-- The text that counts: without blanks around it, and without line breaks and tabs. -/
def significant (cs : List Char) : List Char :=
  let isOutside (c : Char) : Bool := c.toNat ≤ 0x20
  ((cs.dropWhile isOutside).reverse.dropWhile isOutside).reverse.filter
    fun c => !(c == '\t' || c == '\n' || c == '\r')

/-- Reads what follows the scheme. -/
def readRest? (secure : Bool) (cs : List Char) : Option Url :=
  let cs := Text.beforeFirst '#' cs
  let cs := cs.dropWhile isSlash
  let isEnd (c : Char) : Bool := isSlash c || c == '?'
  let (path, query) := match Text.splitFirst? '?' (cs.dropWhile (!isEnd ·)) with
    | some (path, query) => (path, some (encodeQuery query))
    | none => (cs.dropWhile (!isEnd ·), none)
  (readAuthority? secure (cs.takeWhile (!isEnd ·))).map fun authority =>
    { secure, authority, path := readPath path, query }

/-- Reads the address of a resource; no other schemes are known. -/
def parse? (text : String) : Option Url :=
  match Text.splitFirst? ':' (significant text.toList) with
  | none => none
  | some (scheme, rest) =>
    match String.ofList (scheme.map Char.toLower) with
    | "http" => readRest? false rest
    | "https" => readRest? true rest
    | _ => none

/-- What a request asks a host for. -/
def target (u : Url) : String :=
  String.ofList <| u.path.flatMap ('/' :: ·) ++ match u.query with
    | some query => '?' :: query
    | none => []

end Url

end DepTriage.Http
