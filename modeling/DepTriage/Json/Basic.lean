import DepTriage.Binary64

/-! # JSON values

Objects keep their entries in order, and repeated keys too: what a repetition means is for the
reader of a document to say. -/

namespace DepTriage

inductive Json where
  | null
  | bool (value : Bool)
  /-- A number written with digits alone. -/
  | natural (value : Nat)
  /-- Any other number, `digits * 10 ^ exponent` up to its sign. -/
  | number (negative : Bool) (digits : Nat) (exponent : Int)
  | string (text : String)
  /-- A string that is no text because it holds half of a surrogate pair, or an object with such a
  key. It may stand where nothing is read. -/
  | broken
  | array (items : List Json)
  | object (entries : List (String × Json))
deriving Repr, Inhabited

namespace Json

/-- The least number that has no place in 64 bits. -/
def naturalBound : Nat :=
  Nat.pow 2 64

def natural? : Json → Option Nat
  | natural n => if n < naturalBound then some n else none
  | _ => none

def string? : Json → Option String
  | string s => some s
  | _ => none

def items? : Json → Option (List Json)
  | array items => some items
  | _ => none

def entries? : Json → Option (List (String × Json))
  | object entries => some entries
  | _ => none

/-- A value that may be null, which counts as none. -/
def optional? (read : Json → Option α) : Json → Option (Option α)
  | null => some none
  | j => (read j).map some

/-- A list whose items are read alike. -/
def list? (read : Json → Option α) (j : Json) : Option (List α) :=
  j.items? >>= List.mapM read

/-- The name of a variant without contents: a string, or an object of that one key and null. -/
def variant? : Json → Option String
  | string s => some s
  | object [(name, null)] => some name
  | _ => none

/-! ## Values read as a whole -/

mutual

/-- Whether a value can be read as a whole, with no collections nested deeper than `depth`, no
number out of range and no text broken. -/
def isReadable (depth : Nat) : Json → Bool
  | broken => false
  | natural n => (Binary64.ofDecimal false n 0).isFinite
  | number negative digits exponent => (Binary64.ofDecimal negative digits exponent).isFinite
  | array items =>
    match depth with
    | 0 => false
    | depth + 1 => areReadable depth items
  | object entries =>
    match depth with
    | 0 => false
    | depth + 1 => entriesReadable depth entries
  | _ => true

def areReadable (depth : Nat) : List Json → Bool
  | [] => true
  | j :: js => isReadable depth j && areReadable depth js

def entriesReadable (depth : Nat) : List (String × Json) → Bool
  | [] => true
  | (_, j) :: es => isReadable depth j && entriesReadable depth es

end

/-! ## Records -/

/-- The value of a field that stands at most once among the entries. -/
def field? (entries : List (String × Json)) (name : String) : Option (Option Json) :=
  match entries.filter fun e => e.1 == name with
  | [] => some none
  | [e] => some (some e.2)
  | _ => none

/-- The fields of a record with the given names: an object, in which other keys are passed over and
no field stands twice, or an array of the fields in order, of which the last may be missing. -/
def record? (names : List String) : Json → Option (List (Option Json))
  | object entries => names.mapM (field? entries)
  | array items =>
    if items.length ≤ names.length then
      some (items.map some ++ List.replicate (names.length - items.length) none)
    else none
  | _ => none

/-- A field that has to be there. -/
def required? (read : Json → Option α) (field : Option Json) : Option α :=
  field >>= read

/-- A field that has a default. -/
def withDefault? (default : α) (read : Json → Option α) : Option Json → Option α
  | none => some default
  | some j => read j

end Json

end DepTriage
