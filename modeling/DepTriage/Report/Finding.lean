import DepTriage.Finding
import DepTriage.Json.Basic

/-! # Findings as JSON -/

namespace DepTriage

open Json

/-- A usage as an object of its names. -/
def GlobalUsage.toJson (u : GlobalUsage) : Json :=
  .object (u.toList.map fun (name, access) => (name, .string access.label))

namespace FlaggedGlobal

def toJson (g : FlaggedGlobal) : Json :=
  .object [("name", .string g.name), ("access", .string g.access.label),
    ("category", .string g.capability.id)]

def ofJson? (j : Json) : Option FlaggedGlobal :=
  match j.record? ["name", "access", "category"] with
  | some [name, access, capability] => do
    return {
      name := ← required? string? name
      access := ← required? (fun j => j.variant? >>= Access.ofLabel?) access
      capability := ← required? (fun j => j.variant? >>= Capability.ofId?) capability }
  | _ => none

end FlaggedGlobal

namespace Finding

/-- The flagged globals are left out if there are none. -/
def toJson (f : Finding) : Json :=
  .object <| [("rule", .string f.rule.label), ("severity", .string f.severity.label),
      ("description", .string f.description), ("evidence", .string f.evidence)]
    ++ if f.flagged.isEmpty then []
      else [("flagged", .array (f.flagged.map FlaggedGlobal.toJson))]

def ofJson? (j : Json) : Option Finding :=
  match j.record? ["rule", "severity", "description", "evidence", "flagged"] with
  | some [rule, severity, description, evidence, flagged] => do
    return {
      rule := ← required? (fun j => j.variant? >>= Rule.ofLabel?) rule
      severity := ← required? (fun j => j.variant? >>= Severity.ofLabel?) severity
      description := ← required? string? description
      evidence := ← required? string? evidence
      flagged := ← withDefault? [] (list? FlaggedGlobal.ofJson?) flagged }
  | _ => none

end Finding

end DepTriage
