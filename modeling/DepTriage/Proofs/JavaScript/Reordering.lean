import DepTriage.Proofs.GlobalUsage.Join
import DepTriage.Proofs.JavaScript.Exchange

/-!
# The order of statements

The names of a scope are collected before its statements are visited, a usage is the join of what
was recorded, and the walk remembers a node that stood too deep. So it does not matter in which
order the statements of a list stand.

## Key results

- `Permutes.exchangeable_lookups`, `Permutes.exchangeable_height`: what another order changes
  neither in the reports nor in the height
- `Program.analyze_reordered`: the analysis of a program is the same
-/

namespace DepTriage.JavaScript

/-- The statements of a list are put in another order. -/
inductive Permutes : Piece → Piece → Prop where
  | stmts {ss ts : List Stmt} : ss.Perm ts → Permutes (.stmts ss) (.stmts ts)

/-- The statements of one list, somewhere in the program `p`, stand in another order in `q`. -/
def Program.Reorders (p q : Program) : Prop :=
  Replaces Permutes (.stmts p.body) (.stmts q.body)

/-! ## Names -/

/-- Two lists hold the same names. -/
def SameNames (names names' : List String) : Prop :=
  ∀ name, name ∈ names ↔ name ∈ names'

theorem nameRelation_sameNames : NameRelation SameNames where
  refl _ _ := Iff.rfl
  append h h' name := by rw [List.mem_append, List.mem_append, h name, h' name]

theorem sameNames_hoistedNames {ss ts : List Stmt} (h : ss.Perm ts) :
    SameNames (hoistedNames ss) (hoistedNames ts) := by
  intro name
  simp only [mem_hoistedNames_iff, h.mem_iff]

theorem sameNames_lexicalNames {ss ts : List Stmt} (h : ss.Perm ts) :
    SameNames (lexicalNames ss) (lexicalNames ts) := by
  intro name
  simp only [mem_lexicalNames_iff, h.mem_iff]

/-! ## Reports -/

/-- A lookup asks which names are bound, not in which order. -/
theorem Lookup.report_congr {bound more : List String} (h : SameNames bound more) (l : Lookup) :
    l.report more = l.report bound :=
  report_eq_of_asked (fun name => (h name).1) fun name _ => (h name).2

/-- What is reported is the same whatever names are bound. -/
def SameReports (ls ls' : List Lookup) : Prop :=
  ∀ bound r, r ∈ ls.flatMap (Lookup.report bound) ↔ r ∈ ls'.flatMap (Lookup.report bound)

theorem SameReports.of_perm {ls ls' : List Lookup} (h : ls.Perm ls') : SameReports ls ls' :=
  fun _ _ => (h.flatMap_right _).mem_iff

theorem congruence_sameReports : Congruence .lookups SameNames SameReports where
  left c h bound r := by
    show r ∈ (_ ++ c).flatMap _ ↔ r ∈ (_ ++ c).flatMap _
    rw [List.flatMap_append, List.flatMap_append, List.mem_append, List.mem_append, h bound r]
  right c h bound r := by
    show r ∈ (c ++ _).flatMap _ ↔ r ∈ (c ++ _).flatMap _
    rw [List.flatMap_append, List.flatMap_append, List.mem_append, List.mem_append, h bound r]
  node h := h
  scope {names names' a b} hnames h bound r := by
    show r ∈ (a.map (Lookup.within names)).flatMap _ ↔ r ∈ (b.map (Lookup.within names')).flatMap _
    -- From inside, the names of the scope are bound in front of the others.
    have hbound : SameNames (names ++ bound) (names' ++ bound) :=
      nameRelation_sameNames.append hnames (nameRelation_sameNames.refl bound)
    simp only [List.flatMap_map, Lookup.report_within, Lookup.report_congr hbound]
    exact h (names ++ bound) r
  hidden _ _ _ := Iff.rfl

/-! ## Statement lists -/

namespace Interpretation

theorem lookups_stmts (ss : List Stmt) : lookups.stmts ss = ss.flatMap lookups.stmt := by
  induction ss with
  | nil => rfl
  | cons s ss ih =>
    rw [List.flatMap_cons, ← ih]
    rfl

theorem height_stmts_of_perm {ss ts : List Stmt} (h : ss.Perm ts) :
    height.stmts ss = height.stmts ts := by
  induction h with
  | nil => rfl
  | cons s _ ih => exact congrArg (max (height.stmt s)) ih
  | swap s t ss => exact Nat.max_left_comm (height.stmt t) (height.stmt s) (height.stmts ss)
  | trans _ _ ih ih' => exact ih.trans ih'

theorem congruence_height : Congruence height SameNames (· = ·) where
  left c h := congrArg (max · c) h
  right c h := congrArg (max c) h
  node h := congrArg (· + 1) h
  scope _ h := h
  hidden _ := rfl

end Interpretation

namespace Permutes

variable {x y : Piece}

theorem namesRelated (h : Permutes x y) : x.NamesRelated SameNames y := by
  obtain ⟨hperm⟩ := h
  exact ⟨sameNames_hoistedNames hperm, sameNames_lexicalNames hperm, fun _ => Iff.rfl⟩

/-- A list of statements is no expression and no key. -/
theorem exposed (h : Permutes x y) : x.Exposed y := by
  obtain ⟨-⟩ := h
  exact ⟨nofun, nofun, nofun, nofun⟩

theorem exchangeable_lookups (h : Permutes x y) :
    x.Exchangeable .lookups SameNames SameReports y := by
  refine ⟨h.namesRelated, h.exposed, ?_⟩
  obtain ⟨hperm⟩ := h
  show SameReports (Interpretation.lookups.stmts _) (Interpretation.lookups.stmts _)
  rw [Interpretation.lookups_stmts, Interpretation.lookups_stmts]
  exact .of_perm (hperm.flatMap_right _)

theorem exchangeable_height (h : Permutes x y) : x.Exchangeable .height SameNames (· = ·) y := by
  refine ⟨h.namesRelated, h.exposed, ?_⟩
  obtain ⟨hperm⟩ := h
  exact Interpretation.height_stmts_of_perm hperm

end Permutes

/-! ## Programs -/

theorem Program.reported_reordered {p q : Program} (h : p.Reorders q) (r : String × Access) :
    r ∈ p.reported ↔ r ∈ q.reported :=
  h.program nameRelation_sameNames congruence_sameReports (fun _ _ _ => Iff.rfl)
    (fun hbase => hbase.exchangeable_lookups) [] r

theorem Program.height_reordered {p q : Program} (h : p.Reorders q) : p.height = q.height :=
  h.program nameRelation_sameNames Interpretation.congruence_height (fun _ => rfl)
    fun hbase => hbase.exchangeable_height

/-- If the statements of one list of a program are put in another order, be it the program itself, a
body, a block or the statements of a case, the analysis gives the same accesses to the same names,
or the program nests too deep in both orders. -/
theorem Program.analyze_reordered {p q : Program} (h : p.Reorders q) :
    p.analyze.map GlobalUsage.toList = q.analyze.map GlobalUsage.toList := by
  have husage : (GlobalUsage.ofList p.reported).toList = (GlobalUsage.ofList q.reported).toList :=
    (GlobalUsage.joins_ofList _).toList_eq
      ((GlobalUsage.joins_ofList _).congr fun r => (reported_reordered h r).symm)
  rw [p.analyze_eq_reported, q.analyze_eq_reported, height_reordered h]
  split
  · exact congrArg Except.ok husage
  · rfl

/-- In `(function () { x = v; var x; })()` the declaration can stand in front of the assignment: the
name is not a global in either. -/
theorem Program.analyze_reordered_declaration :
    let use : Stmt := .expr (.assign (.name "x") (.identifier "v"))
    let declare : Stmt := .declare (.variableList .hoisted [.mk (.name "x") none])
    let program body : Program := ⟨[.expr (.call (.function (.mk none [] body)) [])]⟩
    (program [use, declare]).Reorders (program [declare, use]) ∧
      (program [use, declare]).analyze = .ok (.ofList [("v", .read)]) ∧
      (program [use, declare]).analyze.map GlobalUsage.toList =
        (program [declare, use]).analyze.map GlobalUsage.toList := by
  intro use declare program
  have hbody : (program [use, declare]).Reorders (program [declare, use]) :=
    Replaces.alone (.inside .callee (.inside .function
      (.inside .functionBody (.here (.stmts (.swap declare use []))))))
  exact ⟨hbody, Program.analyze_eq_ok_iff_reported.2 ⟨by decide, congrArg _ (by decide)⟩,
    Program.analyze_reordered hbody⟩

end DepTriage.JavaScript
