import DepTriage.Proofs.JavaScript.References

/-! # Occurrences of identifiers

Every identifier that stands where an expression may stand is an occurrence, whether or not a walk
gets there. An occurrence is due if a security scan has to hear of it: no scope binds its name, and
the name is none of those that stand for something harmless.

## Key results

- `reports`: a walk reports all due occurrences of the syntax that it visits
- `Program.due_reported_iff`: when a program's analysis has all due occurrences of the program
-/

namespace DepTriage.JavaScript

/-- An identifier where an expression may stand. -/
structure Occurrence where
  name : String
  /-- Written if it is the direct target of an assignment. -/
  access : Access
  /-- A scope around it binds the name. -/
  bound : Bool
  /-- It opens the name that bundled code has for the global object. -/
  bundler : Bool := false
  /-- It stands where no walk gets, such as in a decorator or in the options of a dynamic import. -/
  hidden : Bool := false
deriving DecidableEq, Repr

namespace Occurrence

def hide (o : Occurrence) : Occurrence :=
  { o with hidden := true }

/-- The occurrence refers to a global, and does more than to read the standard library. -/
structure Due (o : Occurrence) : Prop where
  unbound : o.bound = false
  not_alias : isGlobalAlias o.name = false
  not_arguments : o.name ≠ implicitArguments
  not_bundler : o.bundler = false
  noteworthy : ¬(o.access = .read ∧ isStandardGlobal o.name = true)

instance (o : Occurrence) : Decidable o.Due :=
  decidable_of_iff (o.bound = false ∧ isGlobalAlias o.name = false ∧ o.name ≠ implicitArguments ∧
      o.bundler = false ∧ ¬(o.access = .read ∧ isStandardGlobal o.name = true))
    ⟨fun ⟨h₁, h₂, h₃, h₄, h₅⟩ => ⟨h₁, h₂, h₃, h₄, h₅⟩,
      fun h => ⟨h.unbound, h.not_alias, h.not_arguments, h.not_bundler, h.noteworthy⟩⟩

end Occurrence

namespace Interpretation

/-- The occurrences of identifiers, from left to right, where the names in scope are given. Of a
member chain, only the root is an identifier. -/
def occurrences : Interpretation (List String → List Occurrence) where
  nothing _ := []
  append first second bound := first bound ++ second bound
  node parts := parts
  scope names body bound := body (names ++ bound)
  reference name access bound := [⟨name, access, bound.contains name, false, false⟩]
  chain names _ bound :=
    names.head?.toList.map fun root =>
      ⟨root, .read, bound.contains root, names.take 2 == ["__webpack_require__", "g"], false⟩
  hidden parts bound := (parts bound).map Occurrence.hide
  append_assoc a b c := by
    funext bound
    exact List.append_assoc _ _ _
  append_nothing a := by
    funext bound
    exact List.append_nil _

end Interpretation

/-- The occurrences of identifiers in a program. -/
def Program.occurrences (p : Program) : List Occurrence :=
  Interpretation.occurrences.program p []

/-! ## What a walk reports -/

/-- Unless a node was left out, the names of all due occurrences that are not hidden are in the
usage. -/
structure Walk.Reports (w w' : Walk) (occurrences : List String → List Occurrence) : Prop where
  balanced : w.Balanced w'
  due : w'.tooDeep = false → ∀ bound, w.Binds bound → ∀ o ∈ occurrences bound,
    o.hidden = false → o.Due → (w'.usage.get? o.name).isSome

/-- What is in a usage stays there. -/
theorem Walk.Balanced.isSome {w w' : Walk} (h : w.Balanced w') {name : String}
    (hname : (w.usage.get? name).isSome) : (w'.usage.get? name).isSome := by
  obtain ⟨access, haccess⟩ := Option.isSome_iff_exists.1 hname
  obtain ⟨stronger, hstronger, _⟩ := h.usage name access haccess
  exact Option.isSome_iff_exists.2 ⟨stronger, hstronger⟩

/-- A report is only left out if it reads the standard library. -/
theorem isSome_report (w : Walk) {name : String} {access : Access}
    (h : ¬(access = .read ∧ isStandardGlobal name = true)) :
    ((w.report name access).usage.get? name).isSome := by
  rw [Walk.report, if_neg h]
  show ((w.usage.record name access).get? name).isSome
  rw [GlobalUsage.get?_record, if_pos rfl]
  rfl

/-- Only a chain that opens with the bundler's name for the global object loses names to it. -/
theorem dropBundlerGlobal_eq_self {chain : List String}
    (h : (chain.take 2 == ["__webpack_require__", "g"]) = false) :
    dropBundlerGlobal chain = chain := by
  rw [dropBundlerGlobal.eq_def]
  split
  · exact absurd h (by simp)
  · rfl

/-- A chain refers to its root, if that stands for nothing else and no scope binds it. -/
theorem chainReference?_root {w : Walk} {root : String} {rest : List String} (assigned : Bool)
    (hroot : w.isBound root = false) (halias : isGlobalAlias root = false)
    (harguments : root ≠ implicitArguments)
    (hbundler : ((root :: rest).take 2 == ["__webpack_require__", "g"]) = false) :
    ∃ access, w.chainReference? (root :: rest) assigned = some (root, access) := by
  have hdrop : (root :: rest).dropWhile w.opensGlobal = root :: rest := by
    rw [List.dropWhile_cons, Walk.opensGlobal, halias]
    rfl
  rw [Walk.chainReference?, dropBundlerGlobal_eq_self hbundler, Walk.dropAliases_eq, hdrop]
  simp [hroot, harguments]

/-- Each step of a walk reports the due occurrences it meets. -/
theorem reports : Simulation .occurrences Walk.Reports where
  depth h := h.balanced.depth
  nothing w := ⟨.refl w, fun _ _ _ o ho => absurd ho List.not_mem_nil⟩
  append h h' := by
    refine ⟨h.balanced.trans h'.balanced, fun hdeep bound hbound o ho hvisible hdue => ?_⟩
    rcases List.mem_append.1 ho with ho | ho
    -- What the first part reported is still there after the second.
    · have hdeep' := h'.balanced.tooDeep_eq_false hdeep
      exact h'.balanced.isSome (h.due hdeep' bound hbound o ho hvisible hdue)
    · exact h'.due hdeep bound (hbound.of_frames h.balanced.frames) o ho hvisible hdue
  scope names h :=
    ⟨h.balanced.pop, fun hdeep bound hbound => h.due hdeep _ (hbound.push names)⟩
  reference w name access := by
    refine ⟨(balanced .occurrences).reference w name access, ?_⟩
    intro _ bound hbound o ho _ hdue
    -- Being due is what keeps each of the reasons to leave a name out from applying.
    obtain rfl := List.mem_singleton.1 ho
    have hlocal : w.isBound name = false := (hbound name).trans hdue.unbound
    have halias : isGlobalAlias name = false := hdue.not_alias
    have harguments : name ≠ implicitArguments := hdue.not_arguments
    rw [Walk.reference, if_neg (by simp [hlocal, halias, harguments])]
    exact isSome_report w hdue.noteworthy
  chain w names assigned := by
    refine ⟨(balanced .occurrences).chain w names assigned, ?_⟩
    intro _ bound hbound o ho _ hdue
    cases names with
    | nil => exact absurd ho List.not_mem_nil
    | cons root rest =>
      obtain rfl := List.mem_singleton.1 ho
      have hlocal : w.isBound root = false := (hbound root).trans hdue.unbound
      obtain ⟨access, haccess⟩ := chainReference?_root assigned hlocal hdue.not_alias
        hdue.not_arguments hdue.not_bundler
      rw [Walk.memberChain, haccess]
      -- The occurrence is a read, so its name is not one of the standard library.
      exact isSome_report w fun h => hdue.noteworthy ⟨rfl, h.2⟩
  hidden w a := by
    refine ⟨.refl w, fun _ bound _ o ho hvisible _ => ?_⟩
    -- Every occurrence in here is marked.
    obtain ⟨inner, _, rfl⟩ := List.mem_map.1 ho
    have hmarked : inner.hide.hidden = true := rfl
    rw [hmarked] at hvisible
    exact Bool.noConfusion hvisible
  skip _ hdeep := ⟨.refl _, fun hfalse => absurd hdeep (by rw [hfalse]; decide)⟩
  refuse a hdeep hlimit :=
    ⟨(balanced .occurrences).refuse a hdeep hlimit, fun h => Bool.noConfusion h⟩
  enter _ _ h := ⟨h.balanced.leave, fun hfalse bound hbound => h.due hfalse bound hbound⟩

/-! ## Whole programs -/

/-- The analysis of a program has the name of every due occurrence that is not hidden. It has the
names of all due occurrences if and only if each of the hidden ones shares its name with a
reference. -/
theorem Program.due_reported_iff {p : Program} {usage : GlobalUsage}
    (h : p.analyze = .ok usage) :
    (∀ o ∈ p.occurrences, o.Due → o.hidden = false → (usage.get? o.name).isSome) ∧
    ((∀ o ∈ p.occurrences, o.Due → (usage.get? o.name).isSome) ↔
      ∀ o ∈ p.occurrences, o.Due → o.hidden = true →
        ∃ access, (o.name, access) ∈ p.references) := by
  obtain ⟨hheight, rfl⟩ := Program.analyze_eq_ok_iff.1 h
  have hdeep := Program.tooDeep_walk_eq_false hheight
  -- What the walk meets it reports; only positions that it never gets to are left.
  have hvisible : ∀ o ∈ p.occurrences, o.Due → o.hidden = false →
      ((GlobalUsage.ofList p.references).get? o.name).isSome := by
    intro o ho hdue hshown
    rw [← p.usage_walk hdeep]
    exact (reports.program p).due hdeep [] (fun _ => rfl) o ho hshown hdue
  refine ⟨hvisible, ?_⟩
  constructor
  · intro hall o ho hdue _
    exact GlobalUsage.isSome_get?_ofList.1 (hall o ho hdue)
  · intro hhidden o ho hdue
    cases hposition : o.hidden with
    | false => exact hvisible o ho hdue hposition
    | true => exact GlobalUsage.isSome_get?_ofList.2 (hhidden o ho hdue hposition)

/-- `@logged class A {}` and a call of `logged`: the decorator is not visited, but the call is. -/
theorem due_reported_decorator_and_call :
    Program.analyze ⟨[.declare (.classDecl (.mk [.identifier "logged"] (some "A") none [])),
      .expr (.call (.identifier "logged") [])]⟩ = .ok (.ofList [("logged", .read)]) ∧
    ∀ o ∈ Program.occurrences
        ⟨[.declare (.classDecl (.mk [.identifier "logged"] (some "A") none [])),
          .expr (.call (.identifier "logged") [])]⟩,
      o.Due → ((GlobalUsage.ofList [("logged", .read)]).get? o.name).isSome := by
  have hanalyze : Program.analyze
      ⟨[.declare (.classDecl (.mk [.identifier "logged"] (some "A") none [])),
        .expr (.call (.identifier "logged") [])]⟩ = .ok (.ofList [("logged", .read)]) :=
    Program.analyze_eq_ok_iff.2 ⟨by decide, rfl⟩
  refine ⟨hanalyze, (Program.due_reported_iff hanalyze).2.2 ?_⟩
  intro o ho _ _
  have hname : o.name = "logged" := by
    revert o
    decide
  exact ⟨.read, by rw [hname]; decide⟩

/-- The options of `import("m", opts)` and the decorator of `@deco class A {}` are due, and nothing
of them is in the analysis. -/
theorem due_unreported :
    (Program.analyze ⟨[.expr (.dynamicImport (.string "m") (some (.identifier "opts")))]⟩ =
        .ok (.ofList []) ∧
      ∃ o ∈ Program.occurrences
          ⟨[.expr (.dynamicImport (.string "m") (some (.identifier "opts")))]⟩,
        o.Due ∧ o.name = "opts" ∧ (GlobalUsage.ofList []).get? "opts" = none) ∧
    (Program.analyze ⟨[.declare (.classDecl (.mk [.identifier "deco"] (some "A") none []))]⟩ =
        .ok (.ofList []) ∧
      ∃ o ∈ Program.occurrences
          ⟨[.declare (.classDecl (.mk [.identifier "deco"] (some "A") none []))]⟩,
        o.Due ∧ o.name = "deco" ∧ (GlobalUsage.ofList []).get? "deco" = none) := by
  have hnothing (name : String) : (GlobalUsage.ofList []).get? name = none :=
    GlobalUsage.get?_empty name
  refine ⟨⟨Program.analyze_eq_ok_iff.2 ⟨by decide, rfl⟩, ?_⟩,
    ⟨Program.analyze_eq_ok_iff.2 ⟨by decide, rfl⟩, ?_⟩⟩
  · exact ⟨⟨"opts", .read, false, false, true⟩, by decide, by decide, rfl, hnothing "opts"⟩
  · exact ⟨⟨"deco", .read, false, false, true⟩, by decide, by decide, rfl, hnothing "deco"⟩

end DepTriage.JavaScript
