import DepTriage.Text.Lowercase

/-! # Named choices

What a batch does about a failure, and how a result is shown. -/

namespace DepTriage

/-- What a batch of dependencies does when one of them fails. -/
inductive BatchMode where
  /-- The failure is the result. -/
  | failFast
  /-- The failure is noted, and the batch goes on. -/
  | skipFailed
deriving DecidableEq, Repr, Inhabited

namespace BatchMode

def label : BatchMode → String
  | failFast => "fail-fast"
  | skipFailed => "skip-failed"

def ofLabel? : String → Option BatchMode
  | "fail-fast" => some failFast
  | "skip-failed" => some skipFailed
  | _ => none

/-- The mode that bears a name, in any letter case. -/
def ofName (name : String) : Except String BatchMode :=
  match ofLabel? (Text.lowercase name) with
  | some mode => .ok mode
  | none => .error s!"Unknown batch mode: {name}. Use 'fail-fast' or 'skip-failed'"

end BatchMode

/-- How a result is shown. -/
inductive OutputFormat where
  | table
  | json
deriving DecidableEq, Repr, Inhabited

/-- The format that bears a name, in any letter case. -/
def OutputFormat.ofName (name : String) : Except String OutputFormat :=
  match Text.lowercase name with
  | "table" => .ok .table
  | "json" => .ok .json
  | _ => .error s!"Unknown format: {name}. Use 'table' or 'json'"

end DepTriage
