import DepTriage.Proofs.GlobalUsage.Join
import DepTriage.Proofs.JavaScript.Lookup
import Mathlib.Data.List.Basic

/-! # Parameter lists

The walk binds the parameters of a function and everything its body declares in one scope, and
visits the default values and computed keys of the parameter list inside of it. The language
evaluates them before the body has a scope, so a name that only the body declares should mean
nothing there. This module says for which parameter lists it makes a difference.

## Key results

- `Function.report_parameter_iff`: a reported lookup keeps its report unless it asks for a name that
  the body declares
- `Function.usage_parameters`: what the walk records at a parameter list, and what it records there
  if the body is empty
-/

namespace DepTriage.JavaScript

/-! ## The scope of a function -/

namespace Function

/-- The names in the scope of a function, which binds its own name if it is an expression. -/
def scopeNames (ownName : Bool) (f : Function) : List String :=
  (if ownName then f.name.toList else []) ++ Pattern.listNames f.parameters ++ bodyNames f.body

/-- The function with an empty body. -/
def withoutBody (f : Function) : Function :=
  .mk f.name f.parameters []

/-- The lookups in the default values and computed keys of the parameter list. -/
def parameterLookups (f : Function) : List Lookup :=
  Interpretation.lookups.bindings f.parameters

def bodyLookups (f : Function) : List Lookup :=
  Interpretation.lookups.stmts f.body

/-- The body only adds to the scope. -/
theorem scopeNames_eq (ownName : Bool) (f : Function) :
    f.scopeNames ownName = f.withoutBody.scopeNames ownName ++ bodyNames f.body := by
  have hempty : f.withoutBody.scopeNames ownName =
      (if ownName then f.name.toList else []) ++ Pattern.listNames f.parameters :=
    List.append_nil _
  rw [hempty]
  rfl

variable {ownName : Bool} {f : Function} {bound : List String}

theorem mem_scopeNames_append {name : String} :
    name ∈ f.scopeNames ownName ++ bound ↔
      name ∈ f.withoutBody.scopeNames ownName ++ bound ∨ name ∈ bodyNames f.body := by
  rw [scopeNames_eq ownName f, List.mem_append, List.mem_append, List.mem_append, or_right_comm]

theorem withoutBody_subset :
    f.withoutBody.scopeNames ownName ++ bound ⊆ f.scopeNames ownName ++ bound :=
  fun _ hname => mem_scopeNames_append.2 (Or.inl hname)

/-! ## What the body changes -/

/-- What is reported of a lookup where the body is empty is reported where it is not, if and only
if the lookup asks for no name that the body declares. -/
theorem report_parameter_iff {l : Lookup}
    (hreport : l.report (f.withoutBody.scopeNames ownName ++ bound) ≠ []) :
    l.report (f.scopeNames ownName ++ bound) =
        l.report (f.withoutBody.scopeNames ownName ++ bound) ↔
      ∀ name ∈ l.asked (f.withoutBody.scopeNames ownName ++ bound), name ∉ bodyNames f.body := by
  rw [Lookup.report_eq_iff withoutBody_subset hreport]
  -- None of the names that a reported lookup asks for is bound without the body either.
  have hfree : ∀ name ∈ l.asked (f.withoutBody.scopeNames ownName ++ bound),
      name ∉ f.withoutBody.scopeNames ownName ++ bound :=
    (Lookup.report_eq_iff (List.Subset.refl _) hreport).1 rfl
  refine forall₂_congr fun name hasked => ?_
  rw [mem_scopeNames_append]
  exact not_congr (or_iff_right (hfree name hasked))

/-- If every name that a lookup of the parameter list asks for is one that the body does not
declare, or that is bound without the body, the body changes none of the reports. -/
theorem reports_parameters_eq
    (h : ∀ l ∈ f.parameterLookups, ∀ name ∈ l.asked (f.withoutBody.scopeNames ownName ++ bound),
      name ∈ bodyNames f.body → name ∈ f.withoutBody.scopeNames ownName ++ bound) :
    f.parameterLookups.flatMap (Lookup.report (f.scopeNames ownName ++ bound)) =
      f.parameterLookups.flatMap (Lookup.report (f.withoutBody.scopeNames ownName ++ bound)) := by
  refine List.flatMap_congr fun l hl => Lookup.report_eq_of_asked withoutBody_subset ?_
  intro name hasked hname
  exact (mem_scopeNames_append.1 hname).elim id (h l hl name hasked)

end Function

/-! ## Walks -/

namespace Walk

/-- The names that the scopes of a walk bind. -/
def boundNames (w : Walk) : List String :=
  w.frames.flatMap (·.toList)

theorem binds_boundNames (w : Walk) : w.Binds w.boundNames := by
  intro name
  rw [isBound, boundNames, Bool.eq_iff_iff, List.any_eq_true, List.contains_iff_mem,
    List.mem_flatMap]
  simp only [Std.HashSet.mem_toList, Std.HashSet.contains_iff_mem]

end Walk

namespace Function

/-- A walk that visits a function to its end records what the parameter list reports, and then what
the body does. -/
theorem usage_visit {ownName : Bool} {f : Function} {w : Walk}
    (hw : (visitor.function ownName f w).tooDeep = false) :
    (visitor.function ownName f w).usage =
      (w.usage.recordAll (f.parameterLookups.flatMap
        (Lookup.report (f.scopeNames ownName ++ w.boundNames)))).recordAll
      (f.bodyLookups.flatMap (Lookup.report (f.scopeNames ownName ++ w.boundNames))) := by
  have hbody := (looksUp.append
    (looksUp.call (.bindings f.parameters) (w.push (f.scopeNames ownName)))
    (looksUp.call (.stmts f.body) _)).usage hw _ (w.binds_boundNames.push _)
  rw [← GlobalUsage.recordAll_append, ← List.flatMap_append]
  exact hbody

/-- Without its body, a function is visited to the end wherever it is with it. -/
theorem tooDeep_withoutBody {ownName : Bool} {f : Function} {w : Walk}
    (hdepth : w.depth ≤ nestingLimit) (hw : (visitor.function ownName f w).tooDeep = false) :
    (visitor.function ownName f.withoutBody w).tooDeep = false := by
  have hfull := (overflows.call (.function ownName f) w).tooDeep hdepth
  have hempty := (overflows.call (.function ownName f.withoutBody) w).tooDeep hdepth
  obtain ⟨name, parameters, body⟩ := f
  rw [Bool.eq_false_iff] at hw ⊢
  refine mt (fun h => hfull.2 ((hempty.1 h).imp_right fun hover => ?_)) hw
  -- The height of the parameter list is at most that of the function.
  have hle : max (Interpretation.height.bindings parameters) 0 ≤
      max (Interpretation.height.bindings parameters) (Interpretation.height.stmts body) := by
    omega
  exact Nat.lt_of_lt_of_le hover (Nat.add_le_add_left hle _)

/-- The reports of a parameter list, from every state of a walk that has room for the function. They
are made in the scope that holds the names of the body as well, while a function with an empty body
makes them without these names. Of the lookups that report anything then, those and only those keep
their report that ask for no name the body declares; and if no lookup asks for a name that only the
body declares, all reports are the same. -/
theorem usage_parameters (ownName : Bool) (f : Function) (w : Walk)
    (hdepth : w.depth ≤ nestingLimit) (hw : (visitor.function ownName f w).tooDeep = false) :
    let full := f.scopeNames ownName ++ w.boundNames
    let empty := f.withoutBody.scopeNames ownName ++ w.boundNames
    (visitor.function ownName f w).usage =
      (w.usage.recordAll (f.parameterLookups.flatMap (Lookup.report full))).recordAll
        (f.bodyLookups.flatMap (Lookup.report full)) ∧
    (visitor.function ownName f.withoutBody w).usage =
      w.usage.recordAll (f.parameterLookups.flatMap (Lookup.report empty)) ∧
    (∀ l ∈ f.parameterLookups, l.report empty ≠ [] →
      (l.report full = l.report empty ↔ ∀ name ∈ l.asked empty, name ∉ bodyNames f.body)) ∧
    ((∀ l ∈ f.parameterLookups, ∀ name ∈ l.asked empty, name ∈ bodyNames f.body → name ∈ empty) →
      f.parameterLookups.flatMap (Lookup.report full) =
        f.parameterLookups.flatMap (Lookup.report empty)) :=
  ⟨usage_visit hw, usage_visit (tooDeep_withoutBody hdepth hw),
    fun _ _ => report_parameter_iff, reports_parameters_eq⟩

/-- `function f(a = x) { var y; }`: the body declares nothing that the default value asks for, so
`x` is reported as if the body were empty. -/
theorem usage_parameters_unrelated :
    let f := Function.mk (some "f") [.withDefault (.name "a") (.identifier "x")]
      [.declare (.variableList .hoisted [.mk (.name "y") none])]
    (visitor.function false f {}).tooDeep = false ∧
    f.parameterLookups.flatMap (Lookup.report ["a", "y"]) = [("x", .read)] ∧
    f.parameterLookups.flatMap (Lookup.report ["a", "y"]) =
      f.parameterLookups.flatMap (Lookup.report ["a"]) := by
  intro f
  have hdeep : (visitor.function false f {}).tooDeep = false := by
    refine Bool.eq_false_iff.2 fun h => ?_
    have hover := ((overflows.call (.function false f) {}).tooDeep (by decide)).1 h
    exact absurd hover (by decide)
  obtain ⟨-, -, -, hsame⟩ := usage_parameters false f {} (by decide) hdeep
  exact ⟨hdeep, by decide, hsame (by decide)⟩

/-- `function f(a = fetch) { var fetch; }`: the variable of the body hides the global that the
default value reads, and with an empty body the global is reported. -/
theorem parameter_hidden_by_body :
    let f := Function.mk (some "f") [.withDefault (.name "a") (.identifier "fetch")]
      [.declare (.variableList .hoisted [.mk (.name "fetch") none])]
    f.bodyLookups = [] ∧
    Program.analyze ⟨[.declare (.function f)]⟩ = .ok (.ofList []) ∧
    Program.analyze ⟨[.declare (.function f.withoutBody)]⟩ = .ok (.ofList [("fetch", .read)]) ∧
    (GlobalUsage.ofList [("fetch", .read)]).toList ≠ [] := by
  refine ⟨rfl, ?_, ?_, GlobalUsage.toList_ofList_ne_nil (List.cons_ne_nil _ _)⟩
  · exact Program.analyze_eq_ok_iff_reported.2 ⟨by decide, congrArg _ (by decide)⟩
  · exact Program.analyze_eq_ok_iff_reported.2 ⟨by decide, congrArg _ (by decide)⟩

end Function

end DepTriage.JavaScript
