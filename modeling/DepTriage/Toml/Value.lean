import DepTriage.Binary64

/-! # TOML values -/

namespace DepTriage.Toml

inductive Value where
  | string (text : String)
  | integer (value : Int)
  | float (value : Binary64)
  | bool (value : Bool)
  /-- A date, a time of day, or both; what it says is of no use here. -/
  | dateTime
  | array (items : List Value)
  | table (entries : List (String × Value))
deriving Repr, Inhabited

namespace Value

def string? : Value → Option String
  | string text => some text
  | _ => none

/-- A number from zero up to a bound that it does not reach. -/
def naturalBelow? (bound : Nat) : Value → Option Nat
  | integer n => if 0 ≤ n ∧ n < bound then some n.toNat else none
  | _ => none

def list? (read : Value → Option α) : Value → Option (List α)
  | array items => items.mapM read
  | _ => none

/-- The name of a variant: a string, or a table of that one key with nothing in it. -/
def variant? : Value → Option String
  | string name => some name
  | table [(name, array [])] => some name
  | table [(name, table [])] => some name
  | _ => none

/-- The fields of a record with the given names: those of a table, in which other keys are passed
over, or the items of an array in order. -/
def record? (names : List String) : Value → Option (List (Option Value))
  | table entries => some (names.map fun name => List.lookup name entries)
  | array items =>
    some ((items.take names.length).map some
      ++ List.replicate (names.length - items.length) none)
  | _ => none

/-- A field that has a default. -/
def withDefault? (default : α) (read : Value → Option α) : Option Value → Option α
  | none => some default
  | some v => read v

end Value

end DepTriage.Toml
