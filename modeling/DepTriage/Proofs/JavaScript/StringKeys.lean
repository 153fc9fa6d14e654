import DepTriage.Proofs.JavaScript.Exchange

/-!
# String keys

An access by a string, `o["k"]`, means the access by a name, `o.k`. Both continue a member chain
alike. Where no chain is made of them, the string is visited as an expression of its own, but it
refers to nothing and never stands deeper than the object in front of it.

## Key results

- `Unquotes.exchangeable`: both accesses are seen alike and come to the same
- `Program.analyze_unquoted`: the analysis of a program is the same with either access
-/

namespace DepTriage.JavaScript

/-- An access by a string becomes the access by a name: as an expression, as a link of an optional
chain or as a target. -/
inductive Unquotes : Piece → Piece → Prop where
  | expr {o k} : Unquotes (.expr (.member o (.computed (.string k)))) (.expr (.member o (.name k)))
  | link {o k} : Unquotes (.link (.member o (.computed (.string k)))) (.link (.member o (.name k)))
  | target {role o k} : Unquotes (.pattern role (.member o (.computed (.string k))))
      (.pattern role (.member o (.name k)))

/-- One access by a string, somewhere in the program `p`, is the access by a name in `q`. -/
def Program.UnquotesKey (p q : Program) : Prop :=
  Replaces Unquotes (.stmts p.body) (.stmts q.body)

/-! ## What an access comes to -/

namespace Interpretation

variable {α : Type} {A : Interpretation α}

/-- Behind a node, a string adds nothing. -/
def IgnoresStrings (A : Interpretation α) : Prop :=
  ∀ a, A.append (A.node a) (A.expr (.string "")) = A.append (A.node a) A.nothing

theorem ignoresStrings_lookups : lookups.IgnoresStrings :=
  fun _ => rfl

/-- A string is no deeper than any node in front of it. -/
theorem ignoresStrings_height : height.IgnoresStrings := by
  intro h
  show max (h + 1) (0 + 1) = max (h + 1) 0
  omega

theorem IgnoresStrings.member (hA : A.IgnoresStrings) (o : Expr) (k : String) (assigned : Bool) :
    A.member o (.computed (.string k)) assigned = A.member o (.name k) assigned := by
  rw [Interpretation.member, Interpretation.member]
  have hchain : o.memberChain? (.computed (.string k)) = o.memberChain? (.name k) := rfl
  rw [hchain]
  cases o.memberChain? (.name k) with
  | some names => rfl
  | none => exact hA (A.exprParts o)

/-- Equal parts make equal values. -/
theorem congruence_eq (A : Interpretation α) : Congruence A (· = ·) (· = ·) where
  left c h := congrArg (A.append · c) h
  right c h := congrArg (A.append c) h
  node h := congrArg A.node h
  scope hnames h := by rw [hnames, h]
  hidden h := congrArg A.hidden h

end Interpretation

namespace Unquotes

variable {x y : Piece}

/-- Both accesses continue a chain by the same name. -/
theorem exposed (h : Unquotes x y) : x.Exposed y := by
  cases h with
  | expr =>
    -- An indexed expression is neither a plain name nor a function, so what the walk reads off an
    -- operand is the same on both sides.
    refine ⟨?_, ?_, ?_, nofun⟩
    · rintro _ _ ⟨⟩ ⟨⟩ names
      rfl
    · rintro _ _ ⟨⟩ ⟨⟩
      rfl
    · rintro _ _ ⟨⟩ ⟨⟩
      rfl
  | link => exact ⟨nofun, nofun, nofun, nofun⟩
  | target => exact ⟨nofun, nofun, nofun, nofun⟩

/-- A member access declares no name. -/
theorem namesRelated (h : Unquotes x y) : x.NamesRelated (· = ·) y := by
  cases h <;> exact ⟨rfl, rfl, rfl⟩

theorem exchangeable {α : Type} {A : Interpretation α} (hA : A.IgnoresStrings)
    (h : Unquotes x y) : x.Exchangeable A (· = ·) (· = ·) y := by
  refine ⟨h.namesRelated, h.exposed, ?_⟩
  cases h with
  -- The same member stands in each position; as a binding it is a form no program holds, whose
  -- visit is hidden.
  | @expr o k => exact hA.member o k false
  | @link o k => exact hA.member o k false
  | @target role o k =>
    cases role with
    | binding => exact congrArg A.hidden (hA (A.exprParts o))
    | target direct => exact hA.member o k direct

end Unquotes

/-! ## Programs -/

theorem Program.UnquotesKey.value {p q : Program} (h : p.UnquotesKey q) {α : Type}
    {A : Interpretation α} (hA : A.IgnoresStrings) : A.program p = A.program q :=
  h.program nameRelation_eq A.congruence_eq (fun _ => rfl) fun hbase => hbase.exchangeable hA

/-- A member access by a string can be written with a dot, wherever it stands in a program and in a
chain, and whatever the string is: the analysis is the same, and so is its failure if the program
nests too deep. -/
theorem Program.analyze_unquoted {p q : Program} (h : p.UnquotesKey q) : q.analyze = p.analyze := by
  have hlookups : p.lookups = q.lookups := h.value Interpretation.ignoresStrings_lookups
  have hheight : p.height = q.height := h.value Interpretation.ignoresStrings_height
  rw [p.analyze_eq_reported, q.analyze_eq_reported, Program.reported, Program.reported, hlookups,
    hheight]

/-- `window["fetch"].retries = 3` and `window.fetch.retries = 3`: the key stands inside of the chain
that is assigned to. -/
theorem Program.analyze_unquoted_target :
    let program key : Program := ⟨[.expr (.assign
      (.member (.member (.identifier "window") key) (.name "retries")) .constant)]⟩
    (program (.computed (.string "fetch"))).UnquotesKey (program (.name "fetch")) ∧
      (program (.name "fetch")).analyze = (program (.computed (.string "fetch"))).analyze := by
  intro program
  have hkey : (program (.computed (.string "fetch"))).UnquotesKey (program (.name "fetch")) :=
    Replaces.alone (.inside .assignTarget (.inside .targetObject (.here .expr)))
  exact ⟨hkey, Program.analyze_unquoted hkey⟩

end DepTriage.JavaScript
