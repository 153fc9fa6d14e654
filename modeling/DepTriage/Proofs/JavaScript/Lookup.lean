import DepTriage.Proofs.JavaScript.References
import Mathlib.Data.List.TakeWhile

/-!
# Lookups

Whatever a piece of syntax refers to, it refers to by looking up a chain of names, of which a bare
name is the shortest. The lookups of syntax can be listed without knowing the scopes around it; what
each of them reports then depends on the names that are bound there.

## Key results

- `looksUp`: a walk records what the lookups of the visited syntax report
- `Lookup.report_eq_of_asked`, `Lookup.report_eq_iff`: which of the bound names matter to a lookup
- `Program.analyze_eq_ok_iff_reported`: the analysis of a program, said by its lookups
-/

namespace DepTriage.JavaScript

/-! ## Interpretations and their images -/

/-- A map between two domains takes what syntax comes to in the first to what it comes to in the
second. -/
structure Interpretation.Hom {α β : Type} (A : Interpretation α) (B : Interpretation β)
    (f : α → β) : Prop where
  nothing : f A.nothing = B.nothing
  append : ∀ a b, f (A.append a b) = B.append (f a) (f b)
  node : ∀ a, f (A.node a) = B.node (f a)
  scope : ∀ names a, f (A.scope names a) = B.scope names (f a)
  reference : ∀ name access, f (A.reference name access) = B.reference name access
  chain : ∀ names assigned, f (A.chain names assigned) = B.chain names assigned
  hidden : ∀ a, f (A.hidden a) = B.hidden (f a)

/-- What a walk does as the image of an interpretation says, it does as the interpretation says. -/
theorem Simulation.comap {α β : Type} {A : Interpretation α} {B : Interpretation β} {f : α → β}
    {P : Walk → Walk → β → Prop} (h : Simulation B P) (hf : A.Hom B f) :
    Simulation A fun w w' a => P w w' (f a) where
  depth := h.depth
  nothing w := hf.nothing ▸ h.nothing w
  append hfirst hsecond := hf.append _ _ ▸ h.append hfirst hsecond
  scope names hbody := hf.scope _ _ ▸ h.scope names hbody
  reference w name access := hf.reference _ _ ▸ h.reference w name access
  chain w names assigned := hf.chain _ _ ▸ h.chain w names assigned
  hidden w a := hf.hidden a ▸ h.hidden w (f a)
  skip a hdeep := hf.node a ▸ h.skip (f a) hdeep
  refuse a hdeep hlimit := hf.node a ▸ h.refuse (f a) hdeep hlimit
  enter hdeep hlimit hparts := hf.node _ ▸ h.enter hdeep hlimit hparts

/-! ## Lookups -/

/-- A chain of names that is looked up. -/
structure Lookup where
  /-- The names that the scopes within the syntax bind at the chain. -/
  inner : List String
  names : List String
  /-- The chain is the direct target of an assignment. -/
  assigned : Bool
deriving DecidableEq, Repr

namespace Lookup

/-- The lookup from inside of a further scope. -/
def within (scope : List String) (l : Lookup) : Lookup :=
  { l with inner := l.inner ++ scope }

/-- What a lookup reports where the bound names around the syntax are given. -/
def report (bound : List String) (l : Lookup) : List (String × Access) :=
  match Interpretation.chainReference? (l.inner ++ bound) l.names l.assigned with
  | none => []
  | some (root, access) => Interpretation.noteworthy root access

theorem report_within (bound scope : List String) (l : Lookup) :
    (l.within scope).report bound = l.report (scope ++ bound) := by
  rw [report, within, List.append_assoc]
  rfl

end Lookup

namespace Interpretation

/-- The lookups of syntax, from left to right. -/
def lookups : Interpretation (List Lookup) where
  nothing := []
  append := (· ++ ·)
  node ls := ls
  scope names ls := ls.map (Lookup.within names)
  reference name access := [⟨[], [name], access = .readWrite⟩]
  chain names assigned := [⟨[], names, assigned⟩]
  hidden _ := []
  append_assoc := List.append_assoc
  append_nothing := List.append_nil

/-- A bare name is a chain of one name. -/
theorem chainReference?_singleton (bound : List String) (name : String) (access : Access) :
    chainReference? bound [name] (access = .readWrite) =
      if name ∈ bound ∨ isGlobalAlias name ∨ name = implicitArguments then none
      else some (name, access) := by
  have hdrop : dropBundlerGlobal [name] = [name] := by simp [dropBundlerGlobal]
  rw [chainReference?, hdrop]
  cases halias : isGlobalAlias name <;> cases access <;> by_cases hbound : name ∈ bound <;>
    simp [halias, hbound]

/-- The references of syntax are what its lookups report. -/
theorem hom_lookups :
    lookups.Hom references fun ls bound => ls.flatMap (Lookup.report bound) where
  nothing := rfl
  append _ _ := funext fun _ => List.flatMap_append
  node _ := rfl
  scope names ls := by
    funext bound
    -- A lookup from inside a scope reports what it does where the names of the scope are bound too.
    show (ls.map (Lookup.within names)).flatMap (Lookup.report bound) = _
    rw [List.flatMap_map]
    simp only [Lookup.report_within]
    rfl
  reference name access := by
    funext bound
    show [_].flatMap _ = if _ then [] else noteworthy name access
    rw [List.flatMap_singleton, Lookup.report, List.nil_append, chainReference?_singleton]
    by_cases h : name ∈ bound ∨ isGlobalAlias name ∨ name = implicitArguments
    · rw [if_pos h, if_pos h]
    · rw [if_neg h, if_neg h]
  chain names assigned := by
    funext bound
    exact List.flatMap_singleton _ _
  hidden _ := rfl

end Interpretation

/-- Unless a node is left out, a walk records what the lookups of the visited syntax report. -/
theorem looksUp : Simulation .lookups fun w w' ls =>
    w.Records w' fun bound => ls.flatMap (Lookup.report bound) :=
  records.comap Interpretation.hom_lookups

/-! ## The names that a lookup asks for -/

namespace Interpretation

/-- The names that stand for the global object while no scope binds them. -/
def opensGlobal (bound : List String) (name : String) : Bool :=
  isGlobalAlias name && !bound.contains name

/-- The bound names that decide what a chain refers to: those at its front that stand for the global
object, or, if there are none, its first name. -/
def askedNames (bound chain : List String) : List String :=
  match (dropBundlerGlobal chain).takeWhile (opensGlobal bound) with
  | [] => (dropBundlerGlobal chain).head?.toList
  | aliases => aliases

section

variable {bound more chain : List String} {assigned : Bool}

theorem opensGlobal_iff {name : String} :
    opensGlobal bound name = true ↔ isGlobalAlias name = true ∧ name ∉ bound := by
  simp [opensGlobal]

/-- Where more names are bound, fewer names stand for the global object. -/
theorem opensGlobal_of_subset (hsub : bound ⊆ more) {name : String}
    (h : opensGlobal more name = true) : opensGlobal bound name = true := by
  rw [opensGlobal_iff] at h ⊢
  exact ⟨h.1, fun hmem => h.2 (hsub hmem)⟩

theorem opensGlobal_eq_false_of_subset (hsub : bound ⊆ more) {name : String}
    (h : opensGlobal bound name = false) : opensGlobal more name = false := by
  rw [Bool.eq_false_iff] at h ⊢
  exact mt (opensGlobal_of_subset hsub) h

/-- The names that become bound are those that stop the dropping of aliases now. -/
theorem opensGlobal_eq_of_subset (hsub : bound ⊆ more) :
    opensGlobal more = fun name => opensGlobal bound name && !more.contains name := by
  funext name
  rw [Bool.eq_iff_iff, Bool.and_eq_true, opensGlobal_iff, opensGlobal_iff]
  simp only [Bool.not_eq_true', List.contains_eq_mem, decide_eq_false_iff_not]
  exact ⟨fun h => ⟨⟨h.1, fun hmem => h.2 (hsub hmem)⟩, h.2⟩, fun h => ⟨h.1.1, h.2⟩⟩

/-- While none of the aliases in front becomes bound, all of them are dropped. -/
theorem dropWhile_opensGlobal (hsub : bound ⊆ more) {names : List String}
    (h : ∀ name ∈ names.takeWhile (opensGlobal bound), name ∈ more → name ∈ bound) :
    names.dropWhile (opensGlobal more) = names.dropWhile (opensGlobal bound) := by
  rw [opensGlobal_eq_of_subset hsub]
  refine dropWhile_of_not_stops fun name hname => ?_
  have hunbound : name ∉ bound := (opensGlobal_iff.1 (List.mem_takeWhile_imp hname)).2
  simpa using mt (h name hname) hunbound

/-- Once one of the aliases in front becomes bound, the dropping ends at such a one. -/
theorem exists_dropWhile_opensGlobal (hsub : bound ⊆ more) {names : List String} {name : String}
    (hname : name ∈ names.takeWhile (opensGlobal bound)) (hmore : name ∈ more) :
    ∃ first rest, names.dropWhile (opensGlobal more) = first :: rest ∧
      opensGlobal bound first = true := by
  rw [opensGlobal_eq_of_subset hsub]
  obtain ⟨first, rest, hdrop, hfirst, -⟩ :=
    exists_dropWhile_of_stops hname (List.contains_iff_mem.2 hmore)
  exact ⟨first, rest, hdrop, hfirst⟩

theorem chainReference?_eq (bound chain : List String) (assigned : Bool) :
    chainReference? bound chain assigned =
      match (dropBundlerGlobal chain).dropWhile (opensGlobal bound) with
      | [] => none
      | root :: rest =>
        if root = implicitArguments ∨
            ((dropBundlerGlobal chain).head?.any (opensGlobal bound) = false ∧ root ∈ bound) then
          none
        else some (root, if assigned = true ∧ rest = [] then .readWrite else .read) :=
  rfl

/-- Binding further names changes nothing for a chain that asks for none of them. -/
theorem chainReference?_eq_of_asked (hsub : bound ⊆ more)
    (h : ∀ name ∈ askedNames bound chain, name ∈ more → name ∈ bound) (assigned : Bool) :
    chainReference? more chain assigned = chainReference? bound chain assigned := by
  rw [askedNames] at h
  rw [chainReference?_eq, chainReference?_eq]
  generalize dropBundlerGlobal chain = names at h ⊢
  cases names with
  | nil => rfl
  | cons first rest =>
    cases hfirst : opensGlobal bound first with
    | false =>
      -- No alias stands in front, so the chain asks for its first name only.
      have hmore := opensGlobal_eq_false_of_subset hsub hfirst
      simp only [List.takeWhile_cons, hfirst, Bool.false_eq_true, if_false] at h
      have hroot : first ∈ more ↔ first ∈ bound := ⟨h first (by simp), fun hmem => hsub hmem⟩
      simp [hfirst, hmore, hroot]
    | true =>
      simp only [List.takeWhile_cons, hfirst, if_true] at h
      have hdrop : (first :: rest).dropWhile (opensGlobal more) =
          (first :: rest).dropWhile (opensGlobal bound) := dropWhile_opensGlobal hsub
        (by simpa only [List.takeWhile_cons, hfirst, if_true] using h)
      have hmore : opensGlobal more first = true :=
        opensGlobal_iff.2 ⟨(opensGlobal_iff.1 hfirst).1, fun hmem =>
          (opensGlobal_iff.1 hfirst).2 (h first List.mem_cons_self hmem)⟩
      simp only [hdrop, List.head?_cons, Option.any_some, hfirst, hmore, Bool.true_eq_false,
        false_and]

/-- No chain refers to a name that stands for the global object. -/
theorem opensGlobal_of_chainReference? {r : String × Access}
    (h : chainReference? bound chain assigned = some r) : opensGlobal bound r.1 = false := by
  rw [chainReference?_eq] at h
  cases hdrop : (dropBundlerGlobal chain).dropWhile (opensGlobal bound) with
  | nil => simp [hdrop] at h
  | cons root rest =>
    -- Dropping ends at a name that does not stand for the global object.
    have hroot := List.head?_dropWhile_not (opensGlobal bound) (dropBundlerGlobal chain)
    simp only [hdrop, List.head?_cons] at h hroot
    split at h
    · exact nomatch h
    · rw [← Option.some.inj h]
      exact hroot

/-- Once a name is bound that it asks for, a chain refers to nothing, or to a name that stood for
the global object before. -/
theorem chainReference?_of_asked {name : String} (hsub : bound ⊆ more)
    (hasked : name ∈ askedNames bound chain) (hmore : name ∈ more) :
    ∀ r ∈ chainReference? more chain assigned, opensGlobal bound r.1 = true := by
  intro r hr
  rw [askedNames] at hasked
  rw [chainReference?_eq] at hr
  generalize dropBundlerGlobal chain = names at hasked hr
  cases names with
  | nil => simp at hr
  | cons first rest =>
    cases hfirst : opensGlobal bound first with
    | false =>
      -- The chain asks for its first name, which is bound now, so that nothing is reported.
      have hstop := opensGlobal_eq_false_of_subset hsub hfirst
      simp only [List.takeWhile_cons, hfirst, Bool.false_eq_true, if_false, List.head?_cons,
        Option.toList_some, List.mem_singleton] at hasked
      subst hasked
      simp [hstop, hmore] at hr
    | true =>
      simp only [List.takeWhile_cons, hfirst, if_true] at hasked
      -- One of the aliases in front is bound now, and the chain refers to the first one of these.
      have htake : name ∈ (first :: rest).takeWhile (opensGlobal bound) := by
        rw [List.takeWhile_cons, if_pos hfirst]
        exact hasked
      obtain ⟨root, others, hdrop, hopens⟩ := exists_dropWhile_opensGlobal hsub htake hmore
      rw [hdrop] at hr
      split at hr
      · exact nomatch hr
      · next heq =>
        obtain ⟨rfl, -⟩ := List.cons.inj heq
        split at hr
        · exact nomatch hr
        · rw [← Option.some.inj hr]
          exact hopens

end

end Interpretation

namespace Lookup

variable {bound more : List String}

/-- The bound names around the syntax that decide what a lookup reports. -/
def asked (bound : List String) (l : Lookup) : List String :=
  Interpretation.askedNames (l.inner ++ bound) l.names

theorem mem_report_iff {l : Lookup} {r : String × Access} :
    r ∈ l.report bound ↔
      Interpretation.chainReference? (l.inner ++ bound) l.names l.assigned = some r ∧
        ¬(r.2 = .read ∧ isStandardGlobal r.1 = true) := by
  rw [report]
  cases Interpretation.chainReference? (l.inner ++ bound) l.names l.assigned with
  | none => simp
  | some s =>
    show r ∈ (if s.2 = .read ∧ isStandardGlobal s.1 then [] else [(s.1, s.2)]) ↔ _
    rw [Option.some.injEq]
    -- A plain read of a standard global is left out of the reports.
    split
    · next hplain =>
      refine ⟨fun hr => absurd hr List.not_mem_nil, fun ⟨hs, hr⟩ => ?_⟩
      exact absurd (hs ▸ hplain) hr
    · next hplain =>
      rw [List.mem_singleton]
      exact ⟨fun hr => ⟨hr.symm, hr ▸ hplain⟩, fun ⟨hs, _⟩ => hs.symm⟩

/-- Binding further names around the syntax changes nothing for a lookup that asks for none of
them. -/
theorem report_eq_of_asked {l : Lookup} (hsub : bound ⊆ more)
    (h : ∀ name ∈ l.asked bound, name ∈ more → name ∈ bound) :
    l.report more = l.report bound := by
  have hinner : l.inner ++ bound ⊆ l.inner ++ more := fun name hname =>
    (List.mem_append.1 hname).elim (List.mem_append_left _)
      fun hname => List.mem_append_right _ (hsub hname)
  rw [report, report, Interpretation.chainReference?_eq_of_asked hinner fun name hasked hname => ?_]
  rcases List.mem_append.1 hname with hname | hname
  · exact List.mem_append_left _ hname
  · exact List.mem_append_right _ (h name hasked hname)

/-- A lookup that reports something reports the same with further names bound around the syntax if
and only if none of the bound names is one that it asks for. -/
theorem report_eq_iff {l : Lookup} (hsub : bound ⊆ more) (hreport : l.report bound ≠ []) :
    l.report more = l.report bound ↔ ∀ name ∈ l.asked bound, name ∉ more := by
  refine ⟨fun heq name hasked hmore => ?_,
    fun h => report_eq_of_asked hsub fun name hasked hmore => absurd hmore (h name hasked)⟩
  -- What is reported would have stood for the global object before, and no chain refers to that.
  have hinner : l.inner ++ bound ⊆ l.inner ++ more := fun name hname =>
    (List.mem_append.1 hname).elim (List.mem_append_left _)
      fun hname => List.mem_append_right _ (hsub hname)
  obtain ⟨r, hr⟩ := List.exists_mem_of_ne_nil _ hreport
  have hbefore := Interpretation.opensGlobal_of_chainReference? (mem_report_iff.1 hr).1
  rw [← heq] at hr
  have hafter := Interpretation.chainReference?_of_asked hinner hasked
    (List.mem_append_right _ hmore) r (mem_report_iff.1 hr).1
  rw [hbefore] at hafter
  exact nomatch hafter

end Lookup

/-! ## Whole programs -/

/-- The lookups of a program. -/
def Program.lookups (p : Program) : List Lookup :=
  Interpretation.lookups.program p

/-- What the lookups of a program report. -/
def Program.reported (p : Program) : List (String × Access) :=
  p.lookups.flatMap (Lookup.report [])

theorem Program.analyze_eq_ok_iff_reported {p : Program} {usage : GlobalUsage} :
    p.analyze = .ok usage ↔ p.height ≤ nestingLimit ∧ .ofList p.reported = usage := by
  rw [Program.analyze_eq_ok_iff]
  refine and_congr_right fun hheight => ?_
  have hdeep := Program.tooDeep_walk_eq_false hheight
  rw [← p.usage_walk hdeep]
  exact iff_of_eq (congrArg (· = usage) ((looksUp.program p).usage hdeep [] fun _ => rfl))

end DepTriage.JavaScript
