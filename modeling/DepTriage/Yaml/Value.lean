import DepTriage.Binary64
import DepTriage.Text.Hex
import DepTriage.Text.Split
import DepTriage.Yaml.Node

/-! # From nodes to values

Plain scalars stand for nothing, truth values, numbers or texts, by their form. Reading a node as a
value follows its aliases; it fails on a repeated key, on a scalar that does not fit its tag, on
collections nested too deep, and where aliases are followed too often. -/

namespace DepTriage.Yaml

open Text (dropStart? hexDigit?)

inductive Number where
  | int (value : Int)
  | float (value : Binary64)
deriving DecidableEq, Repr

inductive Value where
  | null
  | bool (value : Bool)
  | number (value : Number)
  | text (value : String)
  | sequence (items : List Value)
  | mapping (entries : List (Value × Value))
  | tagged (tag : String) (value : Value)
deriving Repr, Inhabited

/-! ## Scalars -/

def isNullText (text : String) : Bool :=
  text == "~" || text == "null" || text == "Null" || text == "NULL"

def boolOfText? : String → Option Bool
  | "true" | "True" | "TRUE" => some true
  | "false" | "False" | "FALSE" => some false
  | _ => none

/-- The digits of a whole number in a base, and nothing else. -/
def digitsIn? (base : Nat) (cs : List Char) : Option Nat :=
  if cs.isEmpty then none
  else cs.foldlM (fun n c => (hexDigit? c).bind fun d =>
    if d < base then some (base * n + d) else none) 0

/-- Whether a text is a zero with more digits after it, which is no number. -/
def isPaddedNumber (cs : List Char) : Bool :=
  let digits := match cs with
    | '-' :: cs | '+' :: cs => cs
    | cs => cs
  match digits with
  | '0' :: d :: ds => (d :: ds).all Char.isDigit
  | _ => false

/-- Digits after the mark of their base. -/
def markedDigits? (cs : List Char) : Option Nat :=
  (dropStart? "0x".toList cs >>= digitsIn? 16)
    <|> (dropStart? "0o".toList cs >>= digitsIn? 8)
    <|> (dropStart? "0b".toList cs >>= digitsIn? 2)

/-- A whole number with an optional sign, in one of four bases. -/
def intOfText? (cs : List Char) : Option Int :=
  let digits? (cs : List Char) : Option Nat :=
    markedDigits? cs <|> (if isPaddedNumber cs then none else digitsIn? 10 cs)
  match cs with
  | '-' :: cs => (digits? cs).map fun n => -(n : Int)
  | '+' :: cs => (digits? cs).map Int.ofNat
  | cs => (digits? cs).map Int.ofNat

def floatOfText? (cs : List Char) : Option Binary64 :=
  let (sign, unsigned) := match cs with
    | '-' :: rest => (some true, rest)
    | '+' :: rest => (some false, rest)
    | rest => (none, rest)
  match String.ofList unsigned with
  | ".inf" | ".Inf" | ".INF" => some (.infinite (sign == some true))
  | ".nan" | ".NaN" | ".NAN" => if sign.isNone then some .nan else none
  | _ => (Binary64.readUnsigned? (sign == some true) unsigned).filter Binary64.isFinite

/-- Whole numbers of more than 64 bits are refused, unless they have more than 128: these count as
floating-point numbers. -/
inductive IntRange where
  | fits
  | refused
  | beyond
deriving DecidableEq

def IntRange.ofInt (n : Int) : IntRange :=
  if -(Nat.pow 2 63 : Int) ≤ n ∧ n < (Nat.pow 2 64 : Int) then .fits
  else if -(Nat.pow 2 127 : Int) ≤ n ∧ n < (Nat.pow 2 128 : Int) then .refused
  else .beyond

/-- The value of a plain scalar; `none` if it is a number out of range. -/
def plainValue? (text : String) : Option Value :=
  let cs := text.toList
  if text.isEmpty || isNullText text then some .null
  else
    match boolOfText? text with
    | some b => some (.bool b)
    | none =>
      let float := match (if isPaddedNumber cs then none else floatOfText? cs) with
        | some x => Value.number (.float x)
        | none => .text text
      match intOfText? cs with
      | none => some float
      | some n =>
        match IntRange.ofInt n with
        | .fits => some (.number (.int n))
        | .refused => none
        | .beyond => some float

/-- The tags of the core schema that scalars are checked against. -/
def coreTag (name : String) : String :=
  s!"tag:yaml.org,2002:{name}"

/-- The value of a scalar whose tag is not an application's own. -/
def scalarValue? (tag : Option String) (plain : Bool) (text : String) : Option Value :=
  match tag with
  | none => if plain then plainValue? text else some (.text text)
  | some tag =>
    if tag == coreTag "bool" then (boolOfText? text).map .bool
    else if tag == coreTag "int" then
      (intOfText? text.toList).bind fun n =>
        if IntRange.ofInt n = .fits then some (.number (.int n)) else none
    else if tag == coreTag "float" then (floatOfText? text.toList).map fun x => .number (.float x)
    else if tag == coreTag "null" then if isNullText text then some .null else none
    else some (.text text)

/-! ## Equality of keys -/

mutual

/-- Whether two values are equal; the order of a mapping's entries has no meaning. -/
def Value.same : Value → Value → Bool
  | .null, .null => true
  | .bool a, .bool b => a == b
  | .number (.int a), .number (.int b) => a == b
  | .number (.float a), .number (.float b) => a == b
  | .text a, .text b => a == b
  | .sequence as, .sequence bs => Value.sameItems as bs
  | .mapping as, .mapping bs => as.length == bs.length && Value.allIn as bs
  | .tagged t a, .tagged u b => t == u && a.same b
  | _, _ => false

def Value.sameItems : List Value → List Value → Bool
  | [], [] => true
  | a :: as, b :: bs => a.same b && Value.sameItems as bs
  | _, _ => false

/-- Whether every entry of the first mapping is one of the second. -/
def Value.allIn : List (Value × Value) → List (Value × Value) → Bool
  | [], _ => true
  | (k, v) :: as, bs => (bs.any fun b => k.same b.1 && v.same b.2) && Value.allIn as bs

end

/-! ## Nodes as values -/

/-- How often aliases may still be followed, which is counted over a whole document. -/
abbrev Jumps := Nat

/-- An application's own tag, without its exclamation mark. -/
def ownTag? (tag : Option String) : Option String :=
  match tag with
  | none => none
  | some tag =>
    match tag.toList with
    | ['!'] => some "!"
    | '!' :: name => some (String.ofList name)
    | _ => none

def tagWith (tag : Option String) (value : Value) : Value :=
  match ownTag? tag with
  | none => value
  | some name => .tagged name value

/-- A node that is no alias, following one if need be. -/
def Document.follow? (d : Document) (node : Node) (jumps : Jumps) : Option (Node × Jumps) :=
  match node with
  | .alias anchor =>
    if jumps = 0 then none else (d.anchors.node? anchor).map (·, jumps - 1)
  | node => some (node, jumps)

/-- Reads the members of a collection one after the other, onto `values` in reverse. -/
def readItems? (read : Node → Jumps → Option (Value × Jumps)) :
    List Node → (values : List Value) → Jumps → Option (List Value × Jumps)
  | [], values, jumps => some (values.reverse, jumps)
  | node :: nodes, values, jumps =>
    match read node jumps with
    | some (value, jumps) => readItems? read nodes (value :: values) jumps
    | none => none

/-- Reads the entries of a mapping, whose keys differ, onto `entries` in reverse. -/
def readEntries? (read : Node → Jumps → Option (Value × Jumps)) :
    List (Node × Node) → (entries : List (Value × Value)) → Jumps →
      Option (List (Value × Value) × Jumps)
  | [], entries, jumps => some (entries.reverse, jumps)
  | (k, v) :: nodes, entries, jumps =>
    match read k jumps with
    | none => none
    | some (key, jumps) =>
      if entries.any fun e => e.1.same key then none
      else
        match read v jumps with
        | some (value, jumps) => readEntries? read nodes ((key, value) :: entries) jumps
        | none => none

/-- The value of a node in which collections may be nested `depth` deep. -/
def Document.value? (d : Document) : (depth : Nat) → Node → Jumps → Option (Value × Jumps)
  | depth, node, jumps =>
    match d.follow? node jumps with
    | none => none
    | some (.alias _, _) => none
    | some (.scalar tag plain text, jumps) =>
      let value := if (ownTag? tag).isSome then scalarValue? none plain text
        else scalarValue? tag plain text
      value.map fun value => (tagWith tag value, jumps)
    | some (.sequence tag items, jumps) =>
      match depth with
      | 0 => none
      | depth + 1 =>
        (readItems? (d.value? depth) items [] jumps).map fun (items, jumps) =>
          (tagWith tag (.sequence items), jumps)
    | some (.mapping tag entries, jumps) =>
      match depth with
      | 0 => none
      | depth + 1 =>
        (readEntries? (d.value? depth) entries [] jumps).map fun (entries, jumps) =>
          (tagWith tag (.mapping entries), jumps)

/-- How deep collections may be nested in a document. -/
def depthLimit : Nat :=
  128

/-- How often aliases may be followed in a document. -/
def Document.jumpLimit (d : Document) : Jumps :=
  100 * d.root.size

end DepTriage.Yaml
