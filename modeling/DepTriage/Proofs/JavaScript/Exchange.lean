import DepTriage.Proofs.JavaScript.Lookup
import DepTriage.Proofs.JavaScript.Replacement

/-!
# Exchanging alike pieces

A piece of syntax is looked into from outside in two places only: an access asks the expressions and
keys below it for the names of a member chain, and a chain of operators asks its left side whether
it goes on there. Pieces that answer these questions alike can be exchanged for each other wherever
they stand, and what the whole comes to stays related.

## Key results

- `Piece.Exposed.of_swaps`, `Piece.Exposed.openable`: a step keeps the answers, and they are all
  that a step asks for
- `Replaces.exchangeable`: what an exchange at one place does to the whole piece
- `Replaces.program`: and to a program
-/

namespace DepTriage.JavaScript

/-! ## What is seen from outside -/

/-- What the surroundings can see of a piece is the same for both. -/
structure Piece.Exposed (x y : Piece) : Prop where
  chain : ∀ {e e' : Expr}, x = .expr e → y = .expr e' → ∀ names, e'.chain? names = e.chain? names
  string : ∀ {e e' : Expr}, x = .expr e → y = .expr e' →
    (Key.computed e').fixed? = (Key.computed e).fixed?
  operator : ∀ {e e' : Expr}, x = .expr e → y = .expr e' → e'.isOperator = e.isOperator
  key : ∀ {k k' : Key}, x = .key k → y = .key k' → k'.fixed? = k.fixed?

namespace Piece.Exposed

variable {x y c d : Piece}

theorem memberChain?_of_object {o o' : Expr} (h : (Piece.expr o).Exposed (.expr o')) (k : Key) :
    o'.memberChain? k = o.memberChain? k := by
  rw [Expr.memberChain?, Expr.memberChain?]
  exact congrArg k.fixed?.bind (funext fun text => h.chain rfl rfl [text])

theorem memberChain?_of_key {k k' : Key} (h : (Piece.key k).Exposed (.key k')) (o : Expr) :
    o.memberChain? k' = o.memberChain? k := by
  rw [Expr.memberChain?, Expr.memberChain?, h.key rfl rfl]

/-- A step hides the part that is replaced, or passes on what is seen of it. -/
theorem of_swaps (hswaps : Swaps x y c d) (h : x.Exposed y) : c.Exposed d where
  chain := by
    rintro e e' rfl rfl names
    cases hswaps
    case memberObject o o' k =>
      rw [Expr.chain?, Expr.chain?]
      cases k.fixed? with
      | none => rfl
      | some text => exact h.chain rfl rfl (text :: names)
    case memberKey o k k' => rw [Expr.chain?, Expr.chain?, h.key rfl rfl]
    -- No other expression with parts is a chain.
    all_goals rfl
  string := by
    rintro e e' rfl rfl
    cases hswaps <;> rfl
  operator := by
    rintro e e' rfl rfl
    cases hswaps <;> rfl
  key := by
    rintro k k' rfl rfl
    cases hswaps
    exact h.string rfl rfl

variable {α : Type} {A : Interpretation α} {N : List String → List String → Prop}
  {R : α → α → Prop}

/-- Nothing else is asked for by the places that look into a part. -/
theorem openable (hA : Congruence A N R) (hrefl : ∀ a, R a a) (h : x.Exposed y)
    (hx : R (x.value A) (y.value A)) : x.Openable A R y where
  object := by
    rintro o o' k assigned rfl rfl
    -- The exchanged piece is the object: it goes into the chain, or else it is a node in front of
    -- the key.
    rw [Interpretation.member, Interpretation.member, h.memberChain?_of_object k]
    cases o.memberChain? k with
    | some names => exact hrefl _
    | none => exact hA.left _ (hA.node hx)
  key := by
    rintro k k' o assigned rfl rfl
    -- The exchanged piece stands in the key, where a chain has no room for it.
    rw [Interpretation.member, Interpretation.member, h.memberChain?_of_key o]
    cases o.memberChain? k with
    | some names => exact hrefl _
    | none => exact hA.right _ hx
  operators := by
    rintro e e' rfl rfl
    rw [Interpretation.operators, Interpretation.operators, h.operator rfl rfl]
    cases e.isOperator with
    | true => exact hx
    | false => exact hA.node hx

end Piece.Exposed

/-! ## Exchanges -/

/-- The pieces declare related names, are seen alike from outside and come to related values. -/
structure Piece.Exchangeable {α : Type} (A : Interpretation α)
    (N : List String → List String → Prop) (R : α → α → Prop) (x y : Piece) : Prop where
  names : x.NamesRelated N y
  exposed : x.Exposed y
  value : R (x.value A) (y.value A)

section

variable {α : Type} {A : Interpretation α} {N : List String → List String → Prop}
  {R : α → α → Prop} {base : Piece → Piece → Prop}

/-- Pieces around exchangeable ones are exchangeable. -/
theorem Replaces.exchangeable (hN : NameRelation N) (hA : Congruence A N R) (hrefl : ∀ a, R a a)
    (hbase : ∀ {x y}, base x y → x.Exchangeable A N R y) {x y : Piece} (h : Replaces base x y) :
    x.Exchangeable A N R y := by
  induction h with
  | here hxy => exact hbase hxy
  | inside hswaps _ ih =>
    -- The surroundings ask the part, and make a piece of it that answers alike.
    have hopen := ih.exposed.openable hA hrefl ih.value
    exact ⟨hswaps.names hN ih.names, ih.exposed.of_swaps hswaps,
      hswaps.value hN hA ih.names hopen ih.value⟩

/-- A program comes to a related value when a piece of it is exchanged. -/
theorem Replaces.program (hN : NameRelation N) (hA : Congruence A N R) (hrefl : ∀ a, R a a)
    (hbase : ∀ {x y}, base x y → x.Exchangeable A N R y) {p q : Program}
    (h : Replaces base (.stmts p.body) (.stmts q.body)) : R (A.program p) (A.program q) := by
  have hbody := h.exchangeable hN hA hrefl hbase
  exact hA.scope (hN.append hbody.names.hoisted hbody.names.declared) hbody.value

end

/-! ## Analysis -/

theorem Program.analyze_eq_reported (p : Program) :
    p.analyze =
      if p.height ≤ nestingLimit then .ok (.ofList p.reported) else .error .tooDeep := by
  split
  · next h => exact Program.analyze_eq_ok_iff_reported.2 ⟨h, rfl⟩
  · next h => exact Program.analyze_eq_tooDeep_iff.2 (Nat.lt_of_not_le h)

end DepTriage.JavaScript
