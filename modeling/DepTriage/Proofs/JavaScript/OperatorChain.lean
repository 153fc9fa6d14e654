import DepTriage.Proofs.JavaScript.Calls
import DepTriage.Proofs.JavaScript.Parameters

/-!
# Chains of operators

The walk takes the operands of a chain of binary and logical operators from a list, so that a chain
of any length takes no more room than its deepest operand does. A plain recursion visits the left
operand and then the right one, and takes one level more for every operator on the left. Where it
has the room for that, it does what the walk does.

## Key results

- `Expr.operators_eq_visitPlainly`: the loop and the plain recursion agree within the limit
- `tooDeep_exprs`: a list of expressions stands too deep if one of them does
- `Expr.operators_agree`: both together, with the chains that the loop rejects
-/

namespace DepTriage.JavaScript

/-! ## Plain recursion -/

/-- Visits a tree of operators by plain recursion: every operator in it is a node of its own, which
visits its left operand and then its right one. -/
def Expr.visitPlainly : Expr → Visit
  | .binary l r => (Walk.nested l.visitPlainly).andThen (Walk.nested r.visitPlainly)
  | .logical l r => (Walk.nested l.visitPlainly).andThen (Walk.nested r.visitPlainly)
  | e => visitor.exprParts e

/-- What a tree of operators comes to if every operator in it is a node of its own. -/
def Interpretation.plainParts {α : Type} (A : Interpretation α) : Expr → α
  | .binary l r => A.append (A.node (A.plainParts l)) (A.node (A.plainParts r))
  | .logical l r => A.append (A.node (A.plainParts l)) (A.node (A.plainParts r))
  | e => A.exprParts e

namespace Simulation

variable {α : Type} {A : Interpretation α} {P : Walk → Walk → α → Prop}

theorem realizes_node (h : Simulation A P) {v : Visit} {a : α} (hv : ∀ n, v.Realizes P n a)
    (n : Nat) : (Walk.nested v).Realizes P n (A.node a) := by
  cases n with
  | zero => exact h.realizes_nested_zero v a
  | succ n => exact h.realizes_nested (hv n)

theorem realizes_visitPlainly (h : Simulation A P) (e : Expr) (n : Nat) :
    e.visitPlainly.Realizes P n (A.plainParts e) := by
  -- By induction along both operands, which plain recursion treats alike.
  fun_induction Expr.visitPlainly e generalizing n with
  | case1 l r ihl ihr =>
    rw [Interpretation.plainParts]
    exact h.realizes_andThen (h.realizes_node ihl n) (h.realizes_node ihr n)
  | case2 l r ihl ihr =>
    rw [Interpretation.plainParts]
    exact h.realizes_andThen (h.realizes_node ihl n) (h.realizes_node ihr n)
  -- What is no operator has no operand to recurse into, so its parts are visited as ever.
  | case3 e hbinary hlogical =>
    have hparts : A.plainParts e = A.exprParts e := by
      cases e with
      | binary l r => exact (hbinary l r rfl).elim
      | logical l r => exact (hlogical l r rfl).elim
      | _ => rfl
    rw [hparts]
    exact (h.visitor n).exprParts e

theorem visitPlainly (h : Simulation A P) (e : Expr) (w : Walk) :
    P w (e.visitPlainly w) (A.plainParts e) :=
  of_realizes (h.realizes_visitPlainly e) w

end Simulation

namespace Interpretation

/-- Further nodes have no references of their own. -/
theorem references_plainParts (e : Expr) : references.plainParts e = references.exprParts e := by
  -- The two forms of a chain link differ in one node, which collects no reference.
  have hsame : ∀ l r, references.plainParts l = references.exprParts l →
      references.plainParts r = references.exprParts r →
      references.append (references.plainParts l) (references.plainParts r) =
        references.append (if l.isOperator then references.exprParts l else references.exprParts l)
          (references.exprParts r) := by
    intro l r hl hr
    rw [hl, hr, ite_self]
  fun_induction plainParts references e with
  | case1 l r ihl ihr => exact hsame l r ihl ihr
  | case2 l r ihl ihr => exact hsame l r ihl ihr
  | case3 e => rfl

/-- Without nodes for the operators on its left, a tree is no higher. -/
theorem height_exprParts_le_plainParts (e : Expr) :
    height.exprParts e ≤ height.plainParts e := by
  -- Going into the left operand costs a level in plain recursion and none in the loop.
  have hle : ∀ l r, height.exprParts l ≤ height.plainParts l →
      height.exprParts r ≤ height.plainParts r →
      max (if l.isOperator then height.exprParts l else height.exprParts l + 1)
          (height.exprParts r + 1) ≤
        max (height.plainParts l + 1) (height.plainParts r + 1) := by
    intro l r hl hr
    split <;> omega
  fun_induction plainParts height e with
  | case1 l r ihl ihr => exact hle l r ihl ihr
  | case2 l r ihl ihr => exact hle l r ihl ihr
  | case3 e => exact Nat.le_refl _

end Interpretation

/-! ## Both walks -/

/-- Two balanced ways from one state end in the same state if they record the same and both or
neither of them went too deep. -/
theorem Walk.Balanced.eq {w v v' : Walk} (h : w.Balanced v) (h' : w.Balanced v')
    (husage : v.usage = v'.usage) (hdeep : v.tooDeep = v'.tooDeep) : v = v' := by
  -- A balanced visit restores frames and depth, so only usage and the flag can differ.
  have hframes : v.frames = v'.frames := h.frames.trans h'.frames.symm
  have hdepth : v.depth = v'.depth := h.depth.trans h'.depth.symm
  obtain ⟨frames, usage, depth, tooDeep⟩ := v
  obtain ⟨frames', usage', depth', tooDeep'⟩ := v'
  obtain rfl : frames = frames' := hframes
  obtain rfl : usage = usage' := husage
  obtain rfl : depth = depth' := hdepth
  obtain rfl : tooDeep = tooDeep' := hdeep
  rfl

/-- A node is too deep if it is met too deep, or if it holds something that is. -/
theorem Walk.tooDeep_nested {visit : Visit} {w : Walk} :
    (Walk.nested visit w).tooDeep = true ↔
      w.tooDeep = true ∨ nestingLimit ≤ w.depth ∨
        (w.tooDeep = false ∧ w.depth < nestingLimit ∧
          (visit { w with depth := w.depth + 1 }).tooDeep = true) := by
  rw [Walk.nested]
  by_cases hdeep : w.tooDeep = true
  · simp [hdeep]
  · by_cases hlimit : nestingLimit ≤ w.depth
    · simp [hdeep, hlimit]
    · simp [hdeep, hlimit, Nat.lt_of_not_le hlimit]

namespace Expr

theorem exprParts_of_isOperator {e : Expr} (h : e.isOperator = true) :
    visitor.exprParts e = visitor.operators e := by
  cases e with
  | binary l r => rfl
  | logical l r => rfl
  | _ => exact nomatch h

/-- The plain recursion has room for an operator only below the limit. -/
theorem depth_lt_of_visitPlainly {e : Expr} {w : Walk} (h : e.isOperator = true)
    (hdeep : (e.visitPlainly w).tooDeep = false) : w.depth < nestingLimit := by
  have hleft : ∀ l r : Expr,
      ((Walk.nested l.visitPlainly).andThen (Walk.nested r.visitPlainly) w).tooDeep = false →
        w.depth < nestingLimit := by
    -- The flag never goes down again, so the left operand was within the limit when it was visited.
    intro l r hdeep
    have hbalanced := Simulation.of_realizes
      ((balanced .height).realizes_node ((balanced .height).realizes_visitPlainly r))
      (Walk.nested l.visitPlainly w)
    have hfirst := hbalanced.tooDeep_eq_false hdeep
    refine Nat.lt_of_not_le fun hlimit => ?_
    rw [Walk.tooDeep_nested.2 (Or.inr (Or.inl hlimit))] at hfirst
    exact nomatch hfirst
  cases e with
  | binary l r => exact hleft l r hdeep
  | logical l r => exact hleft l r hdeep
  | _ => exact nomatch h

/-- Where the plain recursion over a tree of operators goes nowhere too deep, the loop over its
operands ends in the same state. -/
theorem operators_eq_visitPlainly {e : Expr} {w : Walk} (h : e.isOperator = true)
    (hdeep : (e.visitPlainly w).tooDeep = false) : visitor.operators e w = e.visitPlainly w := by
  have hdepth := Nat.le_of_lt (depth_lt_of_visitPlainly h hdeep)
  -- The loop goes too deep only where the plain recursion does, since its tree is no higher.
  have hplain := (overflows.visitPlainly e w).tooDeep hdepth
  have hloop := (overflows.call (.exprParts e) w).tooDeep hdepth
  have hdeep' : (visitor.exprParts e w).tooDeep = false := by
    rw [Bool.eq_false_iff] at hdeep ⊢
    refine mt (fun hover => hplain.2 ((hloop.1 hover).imp_right fun hover => ?_)) hdeep
    exact Nat.lt_of_lt_of_le hover
      (Nat.add_le_add_left (Interpretation.height_exprParts_le_plainParts e) _)
  -- So both record the references of the tree.
  have hplainUsage := (records.visitPlainly e w).usage hdeep _ w.binds_boundNames
  have hloopUsage := (records.call (.exprParts e) w).usage hdeep' _ w.binds_boundNames
  rw [Interpretation.references_plainParts] at hplainUsage
  rw [← exprParts_of_isOperator h]
  exact (records.call (.exprParts e) w).balanced.eq (records.visitPlainly e w).balanced
    (hloopUsage.trans hplainUsage.symm) (hdeep'.trans hdeep.symm)

end Expr

/-! ## Chains that are too deep -/

theorem tooDeep_expr (e : Expr) (w : Walk) :
    (visitor.expr e w).tooDeep = true ↔
      w.tooDeep = true ∨ nestingLimit < w.depth + Interpretation.height.expr e := by
  by_cases hdepth : w.depth ≤ nestingLimit
  · exact (overflows.call (.expr e) w).tooDeep hdepth
  · rw [visitor_expr, Walk.tooDeep_nested]
    have hlimit : nestingLimit ≤ w.depth := by omega
    have hover : nestingLimit < w.depth + Interpretation.height.expr e := by omega
    simp only [hlimit, hover, true_or, or_true]

/-- A list of expressions is too deep if one of them is. -/
theorem tooDeep_exprs (es : List Expr) (w : Walk) :
    (visitor.exprs es w).tooDeep = true ↔
      w.tooDeep = true ∨ ∃ e ∈ es, nestingLimit < w.depth + Interpretation.height.expr e := by
  -- By induction on the operands, each of which is visited at the same depth.
  induction es generalizing w with
  | nil =>
    show w.tooDeep = true ↔ _
    simp
  | cons e es ih =>
    have hdepth : (visitor.expr e w).depth = w.depth := ((balanced .height).call (.expr e) w).depth
    show (visitor.exprs es (visitor.expr e w)).tooDeep = true ↔ _
    rw [ih, tooDeep_expr, hdepth, List.exists_mem_cons_iff, or_assoc]

/-- The operators that make a chain. -/
inductive Operator where
  | binary
  | logical
deriving DecidableEq, Repr

def Operator.apply : Operator → Expr → Expr → Expr
  | binary, l, r => .binary l r
  | logical, l, r => .logical l r

namespace Expr

/-- The chain that starts with an operand and goes on with the others, each behind its operator. -/
def leftNested (first : Expr) (rest : List (Operator × Expr)) : Expr :=
  rest.foldl (fun left next => next.1.apply left next.2) first

theorem operandsWith_apply (op : Operator) (l r : Expr) (operands : List Expr) :
    (op.apply l r).operandsWith operands = l.operandsWith (r :: operands) := by
  cases op <;> rfl

theorem operandsWith_leftNested (first : Expr) (rest : List (Operator × Expr))
    (operands : List Expr) :
    (first.leftNested rest).operandsWith operands =
      first.operandsWith (rest.map Prod.snd ++ operands) := by
  induction rest generalizing first with
  | nil => rfl
  | cons next rest ih =>
    -- The first operand of the longer chain is a chain itself, for any operator in between.
    have hstep := ih (next.1.apply first next.2)
    rw [operandsWith_apply] at hstep
    exact hstep

/-- The loop takes the operands of a chain in their order. -/
theorem operands_leftNested {first : Expr} (h : first.isOperator = false)
    (rest : List (Operator × Expr)) :
    (first.leftNested rest).operands = first :: rest.map Prod.snd := by
  rw [operands, operandsWith_leftNested, List.append_nil]
  cases first with
  | binary l r => exact nomatch h
  | logical l r => exact nomatch h
  | _ => rfl

theorem isOperator_leftNested (first : Expr) {rest : List (Operator × Expr)} (h : rest ≠ []) :
    (first.leftNested rest).isOperator = true := by
  obtain ⟨before, last, rfl⟩ := List.eq_nil_or_concat rest |>.resolve_left h
  -- The last operator is the outermost one.
  rw [leftNested, List.concat_eq_append, List.foldl_append]
  show (last.1.apply _ last.2).isOperator = true
  cases last.1 <;> rfl

/-- A chain of operators takes one level for itself, and is too deep if one of its operands is. -/
theorem tooDeep_leftNested {first : Expr} {rest : List (Operator × Expr)} {w : Walk}
    (hfirst : first.isOperator = false) (hrest : rest ≠ []) :
    (visitor.expr (first.leftNested rest) w).tooDeep = true ↔
      w.tooDeep = true ∨ ∃ e ∈ first :: rest.map Prod.snd,
        nestingLimit < w.depth + 1 + Interpretation.height.expr e := by
  rw [visitor_expr, exprParts_of_isOperator (isOperator_leftNested first hrest),
    Walk.tooDeep_nested]
  show _ ∨ _ ∨ (_ ∧ _ ∧ (visitor.exprs (first.leftNested rest).operands _).tooDeep = true) ↔ _
  rw [tooDeep_exprs, operands_leftNested hfirst]
  constructor
  · rintro (hdeep | hlimit | ⟨hdeep, -, hover⟩)
    · exact Or.inl hdeep
    -- Without room for the chain there is none for its first operand.
    · exact Or.inr ⟨first, List.mem_cons_self, by omega⟩
    · exact Or.inr (hover.resolve_left (by simp [hdeep]))
  · rintro (hdeep | hover)
    · exact Or.inl hdeep
    · by_cases hdeep : w.tooDeep = true
      · exact Or.inl hdeep
      · by_cases hlimit : nestingLimit ≤ w.depth
        · exact Or.inr (Or.inl hlimit)
        · exact Or.inr (Or.inr ⟨Bool.eq_false_iff.2 hdeep, Nat.lt_of_not_le hlimit, Or.inr hover⟩)

/-- The loop over a tree of operators, whatever its shape, ends in the state that the plain
recursion ends in, wherever that one stays within the limit. A chain that leans to the left stands
too deep if it is met too deep or an operand does, one level below the chain, however many operands
there are. -/
theorem operators_agree (e : Expr) (w : Walk) :
    (e.isOperator = true → (e.visitPlainly w).tooDeep = false →
      visitor.operators e w = e.visitPlainly w) ∧
    ∀ first rest, e = leftNested first rest → first.isOperator = false → rest ≠ [] →
      ((visitor.expr e w).tooDeep = true ↔ w.tooDeep = true ∨
        ∃ operand ∈ first :: rest.map Prod.snd,
          nestingLimit < w.depth + 1 + Interpretation.height.expr operand) := by
  refine ⟨operators_eq_visitPlainly, ?_⟩
  rintro first rest rfl hfirst hrest
  exact tooDeep_leftNested hfirst hrest

/-- The chain `a + (b && c) + d` in an empty walk: a right operand is a chain of its own. -/
theorem operators_agree_mixed :
    let inner : Expr := .logical (.identifier "b") (.identifier "c")
    let rest := [(Operator.binary, inner), (.binary, .identifier "d")]
    let chain := leftNested (.identifier "a") rest
    (chain.isOperator = true ∧ (chain.visitPlainly {}).tooDeep = false ∧
        visitor.operators chain {} = chain.visitPlainly {}) ∧
      (Expr.isOperator (.identifier "a") = false ∧ rest ≠ [] ∧
        ((visitor.expr chain {}).tooDeep = true ↔ ({} : Walk).tooDeep = true ∨
          ∃ operand ∈ .identifier "a" :: rest.map Prod.snd,
            nestingLimit < ({} : Walk).depth + 1 + Interpretation.height.expr operand)) := by
  intro inner rest chain
  have hdeep : (chain.visitPlainly {}).tooDeep = false := by
    decide
  obtain ⟨hplain, hnested⟩ := operators_agree chain {}
  exact ⟨⟨rfl, hdeep, hplain rfl hdeep⟩,
    rfl, List.cons_ne_nil _ _, hnested _ rest rfl rfl (List.cons_ne_nil _ _)⟩

end Expr

end DepTriage.JavaScript
