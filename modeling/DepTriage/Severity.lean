import DepTriage.Text.Lowercase

/-! # Severities -/

namespace DepTriage

inductive Severity where
  | low
  | medium
  | high
deriving DecidableEq, Repr, Inhabited

namespace Severity

/-- A greater rank is worse. -/
def rank : Severity → Nat
  | low => 1
  | medium => 2
  | high => 3

def label : Severity → String
  | low => "low"
  | medium => "medium"
  | high => "high"

def ofLabel? : String → Option Severity
  | "low" => some low
  | "medium" => some medium
  | "high" => some high
  | _ => none

/-- The severity that bears a name, in any letter case. -/
def ofName (name : String) : Except String Severity :=
  match ofLabel? (Text.lowercase name) with
  | some s => .ok s
  | none => .error s!"Unknown severity: {name}. Use 'low', 'medium', or 'high'"

/-- The worse of two severities. -/
def max (a b : Severity) : Severity :=
  if a.rank < b.rank then b else a

/-- The worst severity of a list. -/
def highest? (severities : List Severity) : Option Severity :=
  severities.foldl (fun worst s => some ((worst.map (max · s)).getD s)) none

end Severity

end DepTriage
