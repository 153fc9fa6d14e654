import DepTriage.Proofs.JavaScript.References

/-!
# The fallback to scripts

A text of unknown kind is read as a module, and if that fails as a script. It fails in two ways: the
text is no module, or it is one that nests too deep. Only the first says that the text is of the
other kind, but the script is asked for in both, and scripts do not nest like modules do: `await(x)`
is an operator over parentheses in a module, and a call in a script.

## Key results

- `analyzeText_eq_bySyntax_iff`: the texts for which the second way makes no difference
- `nested_module_read_as_script`: a text for which it does
-/

namespace DepTriage

open JavaScript (Goal Program nestingLimit)

/-! ## One reading -/

-- The equation that `rw` makes of the definition is slow: it opens the parser.
theorem analyzeAs_of_none {goal : Goal} {text : String} (h : Program.parse? goal text = none) :
    analyzeAs goal text = .error .badSyntax := by
  delta analyzeAs
  rw [h]

theorem analyzeAs_of_some {goal : Goal} {text : String} {p : Program}
    (h : Program.parse? goal text = some p) : analyzeAs goal text = p.analyze := by
  delta analyzeAs
  rw [h]

theorem analyzeAs_eq_ok_iff {goal : Goal} {text : String} {usage : GlobalUsage} :
    analyzeAs goal text = .ok usage ↔
      ∃ p, Program.parse? goal text = some p ∧ p.height ≤ nestingLimit ∧
        .ofList p.references = usage := by
  cases hparse : Program.parse? goal text with
  | none => simp [analyzeAs_of_none hparse]
  | some p => simp [analyzeAs_of_some hparse, Program.analyze_eq_ok_iff]

theorem analyzeAs_eq_tooDeep_iff {goal : Goal} {text : String} :
    analyzeAs goal text = .error .tooDeep ↔
      ∃ p, Program.parse? goal text = some p ∧ nestingLimit < p.height := by
  cases hparse : Program.parse? goal text with
  | none => simp [analyzeAs_of_none hparse]
  | some p => simp [analyzeAs_of_some hparse, Program.analyze_eq_tooDeep_iff]

/-! ## Both readings -/

/-- The globals of a text of unknown kind, if its syntax alone tells the kind: every text that is a
module is analyzed as one, and any other as a script. If it is neither, the fault of the module
stands. -/
def analyzeBySyntax (text : String) : Except SourceFault GlobalUsage :=
  if (Program.parse? .module text).isSome then analyzeAs .module text
  else (analyzeAs .script text).mapError fun _ => .badSyntax

/-- The text nests too deep as a module, but not as a script. -/
def OverflowsAsModuleOnly (text : String) : Prop :=
  ∃ p q, Program.parse? .module text = some p ∧ Program.parse? .script text = some q ∧
    nestingLimit < p.height ∧ q.height ≤ nestingLimit

theorem overflowsAsModuleOnly_iff {text : String} :
    OverflowsAsModuleOnly text ↔
      analyzeAs .module text = .error .tooDeep ∧ ∃ usage, analyzeAs .script text = .ok usage := by
  simp only [analyzeAs_eq_tooDeep_iff, analyzeAs_eq_ok_iff]
  constructor
  · rintro ⟨p, q, hp, hq, hover, hfits⟩
    exact ⟨⟨p, hp, hover⟩, _, q, hq, hfits, rfl⟩
  · rintro ⟨⟨p, hp, hover⟩, _, q, hq, hfits, -⟩
    exact ⟨p, q, hp, hq, hover, hfits⟩

/-- A text that is no module is judged as a script in either way. -/
theorem analyzeText_of_no_module {text : String} (h : Program.parse? .module text = none) :
    analyzeText text = analyzeBySyntax text := by
  rw [analyzeText, analyzeBySyntax, analyzeAs_of_none h, h]
  cases analyzeAs .script text <;> rfl

theorem analyzeBySyntax_of_module {text : String} {p : Program}
    (h : Program.parse? .module text = some p) :
    analyzeBySyntax text = analyzeAs .module text := by
  rw [analyzeBySyntax, h]
  rfl

/-- A text of unknown kind is judged by its syntax, unless it nests too deep as a module and not as
a script. Then it is judged as a script, though it is a module. -/
theorem analyzeText_eq_bySyntax_iff (text : String) :
    (analyzeText text = analyzeBySyntax text ↔ ¬OverflowsAsModuleOnly text) ∧
    (OverflowsAsModuleOnly text ↔
      analyzeBySyntax text = .error .tooDeep ∧
        ∃ usage, analyzeAs .script text = .ok usage ∧ analyzeText text = .ok usage) := by
  rw [overflowsAsModuleOnly_iff]
  cases hmodule : Program.parse? .module text with
  | none =>
    have hread : analyzeAs .module text = .error .badSyntax := by
      rw [analyzeAs, hmodule]
    -- The fault is one of syntax, whatever the script is like.
    have hsame := analyzeText_of_no_module hmodule
    rw [← hsame, hread]
    refine ⟨by simp, by simp, ?_⟩
    rintro ⟨hfault, usage, -, husage⟩
    rw [husage] at hfault
    exact nomatch hfault
  | some p =>
    rw [analyzeBySyntax_of_module hmodule]
    rcases Nat.lt_or_ge nestingLimit p.height with hover | hfits
    · have hread := analyzeAs_eq_tooDeep_iff.2 ⟨p, hmodule, hover⟩
      rw [analyzeText, hread]
      cases analyzeAs .script text <;> simp
    · have hread := analyzeAs_eq_ok_iff.2 ⟨p, hmodule, hfits, rfl⟩
      rw [analyzeText, hread]
      simp

/-! ## A module that nests too deep -/

/-- `await(~~…~x)` with 509 signs. -/
def nestedAwait : List Char :=
  "await(".toList ++ List.replicate 509 '~' ++ "x)".toList

/-- How high the text is in either reading, and what it refers to as a script. -/
theorem any_parse?_nestedAwait :
    (Program.parse? .module (.ofList nestedAwait)).any (·.height == 513) = true ∧
      (Program.parse? .script (.ofList nestedAwait)).any (fun q =>
        q.height == 512 && q.references == [("await", .read), ("x", .read)]) = true := by
  -- The kernel would take minutes to decode the text that the characters make.
  rw [Program.parse?, Program.parse?, String.toList_ofList]
  exact ⟨by decide +kernel, by decide +kernel⟩

/-- A module has nodes for the statement, the operator, the parentheses, the signs and the name. -/
theorem parse?_nestedAwait_module :
    ∃ p, Program.parse? .module (.ofList nestedAwait) = some p ∧ p.height = 513 := by
  simpa using (Option.any_eq_true _ _).1 any_parse?_nestedAwait.1

/-- A script has nodes for the statement, the call, the signs and the name. -/
theorem parse?_nestedAwait_script :
    ∃ q, Program.parse? .script (.ofList nestedAwait) = some q ∧ q.height = 512 ∧
      q.references = [("await", .read), ("x", .read)] := by
  simpa using (Option.any_eq_true _ _).1 any_parse?_nestedAwait.2

/-- The module `await(~~…~x)` nests too deep. For a text of unknown kind the script answers, in
which `await` is a name. -/
theorem nested_module_read_as_script :
    (Program.parse? .module (.ofList nestedAwait)).isSome ∧
    analyzeAs .module (.ofList nestedAwait) = .error .tooDeep ∧
    analyzeText (.ofList nestedAwait) = .ok (.ofList [("await", .read), ("x", .read)]) := by
  obtain ⟨p, hp, hmodule⟩ := parse?_nestedAwait_module
  obtain ⟨q, hq, hscript, hreferences⟩ := parse?_nestedAwait_script
  have hdeep : analyzeAs .module (.ofList nestedAwait) = .error .tooDeep :=
    analyzeAs_eq_tooDeep_iff.2 ⟨p, hp, by rw [hmodule]; decide⟩
  have hread : analyzeAs .script (.ofList nestedAwait) = .ok (.ofList q.references) :=
    analyzeAs_eq_ok_iff.2 ⟨q, hq, Nat.le_of_eq hscript, rfl⟩
  refine ⟨by rw [hp]; rfl, hdeep, ?_⟩
  rw [analyzeText, hdeep, hread, hreferences]

end DepTriage
