import DepTriage.Proofs.JavaScript.Interpretation

/-! # Walks and interpretations

A walk over a program passes one state from node to node, while an interpretation is a plain
recursion. A `Simulation` relates the two by what single steps do: a relation between the state
before a visit, the state after it and what the visited syntax comes to, which holds when nothing
is visited, passes through `append`, through scopes and through the three ways a node can be met,
and holds of references and member chains.

## Key results

- `Simulation.call`: the relation then holds of every call that the walk makes, from every state
- `Simulation.program`: and of the walk over a whole program
-/

namespace DepTriage.JavaScript

variable {α β : Type}

/-- What the steps of a walk have to keep for `P` to relate the states before and after a visit to
what the visited syntax comes to. -/
structure Simulation (A : Interpretation α) (P : Walk → Walk → α → Prop) : Prop where
  depth : ∀ {w w' a}, P w w' a → w'.depth = w.depth
  nothing : ∀ w, P w w A.nothing
  append : ∀ {w w' w'' a b}, P w w' a → P w' w'' b → P w w'' (A.append a b)
  scope : ∀ {w w' a} names, P (w.push names) w' a → P w w'.pop (A.scope names a)
  reference : ∀ w name access,
    P w (Walk.reference name access w) (A.reference name access)
  chain : ∀ w names assigned,
    P w (Walk.memberChain names assigned w) (A.chain names assigned)
  hidden : ∀ w a, P w w (A.hidden a)
  /-- After a node that stood too deep, no node is visited. -/
  skip : ∀ {w} a, w.tooDeep = true → P w w (A.node a)
  /-- A node that stands too deep. -/
  refuse : ∀ {w} a, w.tooDeep = false → nestingLimit ≤ w.depth →
    P w { w with tooDeep := true } (A.node a)
  enter : ∀ {w w' a}, w.tooDeep = false → w.depth < nestingLimit →
    P { w with depth := w.depth + 1 } w' a → P w { w' with depth := w'.depth - 1 } (A.node a)

/-- From every state with room for at most `n` levels, the visit is related to `a`. -/
def Visit.Realizes (visit : Visit) (P : Walk → Walk → α → Prop) (n : Nat) (a : α) : Prop :=
  ∀ w, nestingLimit ≤ w.depth + n → P w (visit w) a

namespace Simulation

variable {A : Interpretation α} {P : Walk → Walk → α → Prop} {n : Nat}

theorem realizes_nothing (h : Simulation A P) : Visit.Realizes id P n A.nothing :=
  fun w _ => h.nothing w

theorem realizes_andThen (h : Simulation A P) {v v' : Visit} {a b : α}
    (hv : v.Realizes P n a) (hv' : v'.Realizes P n b) :
    (v.andThen v').Realizes P n (A.append a b) := by
  intro w hn
  have hfirst := hv w hn
  have hsecond := hv' (v w) (by rw [h.depth hfirst]; exact hn)
  exact h.append hfirst hsecond

theorem realizes_withScope (h : Simulation A P) {v : Visit} {a : α} (names : List String)
    (hv : v.Realizes P n a) : (Walk.withScope names v).Realizes P n (A.scope names a) :=
  fun w hn => h.scope names (hv (w.push names) hn)

/-- Hidden syntax is not visited at all. -/
theorem realizes_hidden (h : Simulation A P) (a : α) : Visit.Realizes id P n (A.hidden a) :=
  fun w _ => h.hidden w a

/-- A visit that leaves some syntax out before the rest. -/
theorem realizes_hidden_append (h : Simulation A P) {v : Visit} {a : α} (b : α)
    (hv : v.Realizes P n a) : v.Realizes P n (A.append (A.hidden b) a) :=
  fun w hn => h.append (h.hidden w b) (hv w hn)

/-- A visit that leaves some syntax out after the rest. -/
theorem realizes_append_hidden (h : Simulation A P) {v : Visit} {a : α} (b : α)
    (hv : v.Realizes P n a) : v.Realizes P n (A.append a (A.hidden b)) :=
  fun w hn => h.append (hv w hn) (h.hidden _ b)

/-- A node uses up one level. -/
theorem realizes_nested (h : Simulation A P) {v : Visit} {a : α} (hv : v.Realizes P n a) :
    (Walk.nested v).Realizes P (n + 1) (A.node a) := by
  intro w hn
  rw [Walk.nested]
  -- The three ways a node can be met: skipped, refused, entered.
  by_cases hdeep : w.tooDeep = true
  · rw [if_pos hdeep]
    exact h.skip a hdeep
  · rw [if_neg hdeep]
    have hdeep : w.tooDeep = false := Bool.eq_false_iff.2 hdeep
    by_cases hlimit : nestingLimit ≤ w.depth
    · rw [if_pos hlimit]
      exact h.refuse a hdeep hlimit
    · rw [if_neg hlimit]
      have hroom : nestingLimit ≤ w.depth + 1 + n := by omega
      exact h.enter hdeep (Nat.lt_of_not_le hlimit) (hv _ hroom)

/-- Without room for another level, a node is refused or skipped whatever it holds. -/
theorem realizes_nested_zero (h : Simulation A P) (v : Visit) (a : α) :
    (Walk.nested v).Realizes P 0 (A.node a) := by
  intro w hn
  rw [Walk.nested]
  -- `hn` says that the state is at the limit, so the node cannot be entered.
  by_cases hdeep : w.tooDeep = true
  · rw [if_pos hdeep]
    exact h.skip a hdeep
  · rw [if_neg hdeep, if_pos (show nestingLimit ≤ w.depth from hn)]
    exact h.refuse a (Bool.eq_false_iff.2 hdeep) hn

/-- A list is visited member by member. -/
theorem realizes_each (h : Simulation A P) {visit : β → Visit} {value : β → α}
    {values : List β → α} (hnil : values [] = A.nothing)
    (hcons : ∀ x xs, values (x :: xs) = A.append (value x) (values xs))
    (hx : ∀ x, (visit x).Realizes P n (value x)) (xs : List β) :
    (Visit.each visit xs).Realizes P n (values xs) := by
  induction xs with
  | nil =>
    rw [hnil]
    exact h.realizes_nothing
  | cons x xs ih =>
    rw [hcons]
    exact h.realizes_andThen (hx x) ih

theorem realizes_optional (h : Simulation A P) {visit : β → Visit} {value : β → α}
    {values : Option β → α} (hnone : values none = A.nothing)
    (hsome : ∀ x, values (some x) = value x)
    (hx : ∀ x, (visit x).Realizes P n (value x)) (x : Option β) :
    (Visit.optional visit x).Realizes P n (values x) := by
  cases x with
  | none =>
    rw [hnone]
    exact h.realizes_nothing
  | some x =>
    rw [hsome]
    exact hx x

end Simulation

/-! ## The forms of syntax

If the visits one level further down realize what expressions and statements come to, then so do
the visits of all forms of syntax that are made of them. -/

/-- The visits of expressions and statements realize what these come to. -/
structure Descent.Realizes (down : Descent) (A : Interpretation α)
    (P : Walk → Walk → α → Prop) (n : Nat) : Prop where
  simulation : Simulation A P
  expr : ∀ e, (down.expr e).Realizes P n (A.expr e)
  stmt : ∀ s, (down.stmt s).Realizes P n (A.stmt s)

namespace Descent.Realizes

variable {down : Descent} {A : Interpretation α} {P : Walk → Walk → α → Prop} {n : Nat}

theorem exprs (h : down.Realizes A P n) (es : List Expr) :
    (down.exprs es).Realizes P n (A.exprs es) :=
  h.simulation.realizes_each rfl (fun _ _ => rfl) h.expr es

theorem stmts (h : down.Realizes A P n) (ss : List Stmt) :
    (down.stmts ss).Realizes P n (A.stmts ss) :=
  h.simulation.realizes_each rfl (fun _ _ => rfl) h.stmt ss

theorem optExpr (h : down.Realizes A P n) (e : Option Expr) :
    (down.optExpr e).Realizes P n (A.optExpr e) :=
  h.simulation.realizes_optional rfl (fun _ => rfl) h.expr e

theorem key (h : down.Realizes A P n) (k : Key) :
    (down.key k).Realizes P n (A.key k) := by
  cases k with
  | name text => exact h.simulation.realizes_nothing
  | computed e => exact h.expr e
  | privateName text => exact h.simulation.realizes_nothing

theorem member (h : down.Realizes A P n) (object : Expr) (k : Key) (assigned : Bool) :
    (down.member object k assigned).Realizes P n (A.member object k assigned) := by
  rw [Descent.member, Interpretation.member]
  cases object.memberChain? k with
  | some chain => exact fun w _ => h.simulation.chain w chain assigned
  | none => exact h.simulation.realizes_andThen (h.expr object) (h.key k)

/-! ### Patterns -/

mutual

theorem binding (h : down.Realizes A P n) :
    ∀ p, (down.binding p).Realizes P n (A.binding p)
  | .name _ => h.simulation.realizes_nothing
  | .member _ _ => h.simulation.realizes_hidden _
  | .object fields => bindingFields h fields
  | .array items => bindingItems h items
  | .withDefault p e => h.simulation.realizes_andThen (binding h p) (h.expr e)
  | .rest p => binding h p

theorem bindingFields (h : down.Realizes A P n) :
    ∀ fs, (down.bindingFields fs).Realizes P n (A.bindingFields fs)
  | [] => h.simulation.realizes_nothing
  | .keyed k p :: fs =>
    h.simulation.realizes_andThen (h.key k)
      (h.simulation.realizes_andThen (binding h p) (bindingFields h fs))
  | .rest p :: fs => h.simulation.realizes_andThen (binding h p) (bindingFields h fs)

theorem bindingItems (h : down.Realizes A P n) :
    ∀ ps, (down.bindingItems ps).Realizes P n (A.bindingItems ps)
  | [] => h.simulation.realizes_nothing
  | none :: ps => bindingItems h ps
  | some p :: ps => h.simulation.realizes_andThen (binding h p) (bindingItems h ps)

end

mutual

theorem target (h : down.Realizes A P n) (direct : Bool) :
    ∀ p, (down.target direct p).Realizes P n (A.target direct p)
  | .name name => fun w _ => h.simulation.reference w name _
  | .member object k => h.member object k direct
  | .object fields => targetFields h fields
  | .array items => targetItems h items
  | .withDefault p e => h.simulation.realizes_andThen (target h false p) (h.expr e)
  | .rest p => target h false p

theorem targetFields (h : down.Realizes A P n) :
    ∀ fs, (down.targetFields fs).Realizes P n (A.targetFields fs)
  | [] => h.simulation.realizes_nothing
  | .keyed k p :: fs =>
    h.simulation.realizes_andThen (h.key k)
      (h.simulation.realizes_andThen (target h false p) (targetFields h fs))
  | .rest p :: fs => h.simulation.realizes_andThen (target h false p) (targetFields h fs)

theorem targetItems (h : down.Realizes A P n) :
    ∀ ps, (down.targetItems ps).Realizes P n (A.targetItems ps)
  | [] => h.simulation.realizes_nothing
  | none :: ps => targetItems h ps
  | some p :: ps => h.simulation.realizes_andThen (target h false p) (targetItems h ps)

end

theorem bindings (h : down.Realizes A P n) (ps : List Pattern) :
    (down.bindings ps).Realizes P n (A.bindings ps) :=
  h.simulation.realizes_each rfl (fun _ _ => rfl) h.binding ps

/-! ### Functions and classes -/

theorem function (h : down.Realizes A P n) (ownName : Bool) (f : Function) :
    (down.function ownName f).Realizes P n (A.function ownName f) := by
  obtain ⟨name, ps, body⟩ := f
  exact h.simulation.realizes_withScope _
    (h.simulation.realizes_andThen (h.bindings ps) (h.stmts body))

theorem block (h : down.Realizes A P n) (body : List Stmt) :
    (down.block body).Realizes P n (A.block body) :=
  h.simulation.realizes_withScope _ (h.stmts body)

theorem classMember (h : down.Realizes A P n) (m : ClassMember) :
    -- Decorators are hidden from the walk, and a static block is a scope of its own.
    (down.classMember m).Realizes P n (A.classMember m) := by
  cases m with
  | method decorators k f =>
    rw [Descent.classMember, Interpretation.classMember]
    exact h.simulation.realizes_hidden_append _
      (h.simulation.realizes_andThen (h.key k) (h.function false f))
  | field decorators k value =>
    rw [Descent.classMember, Interpretation.classMember]
    exact h.simulation.realizes_hidden_append _
      (h.simulation.realizes_andThen (h.key k) (h.optExpr value))
  | staticBlock body => exact h.simulation.realizes_withScope _ (h.stmts body)

theorem «class» (h : down.Realizes A P n) (c : Class) :
    (down.class c).Realizes P n (A.class c) := by
  obtain ⟨decorators, name, heritage, members⟩ := c
  -- The decorators stand in front of the scope of the class, and the walk leaves them out.
  have hmembers : (Visit.each down.classMember members).Realizes P n
      (A.classMembers members) :=
    h.simulation.realizes_each rfl (fun _ _ => rfl) h.classMember members
  exact h.simulation.realizes_hidden_append _
    (h.simulation.realizes_withScope _
      (h.simulation.realizes_andThen (h.optExpr heritage) hmembers))

/-! ### Declarations -/

theorem declarator (h : down.Realizes A P n) (d : Declarator) :
    (down.declarator d).Realizes P n (A.declarator d) := by
  obtain ⟨p, init⟩ := d
  rw [Descent.declarator, Interpretation.declarator]
  exact h.simulation.realizes_andThen (h.binding p) (h.optExpr init)

theorem declarators (h : down.Realizes A P n) (ds : List Declarator) :
    (down.declarators ds).Realizes P n (A.declarators ds) :=
  h.simulation.realizes_each rfl (fun _ _ => rfl) h.declarator ds

theorem declaration (h : down.Realizes A P n) (d : Declaration) :
    (down.declaration d).Realizes P n (A.declaration d) := by
  cases d with
  | variableList kind ds => exact h.declarators ds
  | function f => exact h.function false f
  | classDecl c => exact h.class c

/-! ### Expressions -/

theorem element (h : down.Realizes A P n) (e : Element) :
    (down.element e).Realizes P n (A.element e) := by
  cases e with
  | hole => exact h.simulation.realizes_nothing
  | item e => exact h.expr e
  | spread e => exact h.expr e

theorem elements (h : down.Realizes A P n) (es : List Element) :
    (down.elements es).Realizes P n (A.elements es) :=
  h.simulation.realizes_each rfl (fun _ _ => rfl) h.element es

theorem property (h : down.Realizes A P n) (p : Property) :
    (down.property p).Realizes P n (A.property p) := by
  cases p with
  | keyed k e =>
    rw [Descent.property, Interpretation.property]
    exact h.simulation.realizes_andThen (h.key k) (h.expr e)
  | spread e => exact h.expr e

theorem call (h : down.Realizes A P n) (callee : Expr) (args : List Element) :
    (down.call callee args).Realizes P n
      (A.append (A.expr callee) (A.elements args)) :=
  h.simulation.realizes_andThen (h.expr callee) (h.elements args)

theorem chainElement (h : down.Realizes A P n) (e : Expr) :
    (down.chainElement e).Realizes P n (A.exprParts (.chain e)) := by
  cases e with
  | call callee args => exact h.call callee args
  | member object k => exact h.member object k false
  | _ => exact h.simulation.realizes_hidden _

private theorem exprs_cons (h : down.Realizes A P n) (e : Expr) {rest : List Expr} {a : α}
    (hrest : (down.exprs rest).Realizes P n a) :
    (down.exprs (e :: rest)).Realizes P n (A.append (A.expr e) a) := by
  show (down.expr e |>.andThen (down.exprs rest)).Realizes P n _
  exact h.simulation.realizes_andThen (h.expr e) hrest

/-- The loop along the left side of an operator chain realizes the recursion over it. -/
theorem operandsWith (h : down.Realizes A P n) (e : Expr) {rest : List Expr} {a : α}
    (hrest : (down.exprs rest).Realizes P n a) :
    (down.exprs (e.operandsWith rest)).Realizes P n
      (A.append (A.operators e) a) := by
  -- The loop puts right operands in front of `rest`, while the recursion appends them to the left
  -- side: each turn moves one of them over by associativity.
  fun_induction Expr.operandsWith e rest generalizing a with
  | case1 left right rest ih =>
    have hright := ih (h.exprs_cons right hrest)
    rw [← A.append_assoc] at hright
    exact hright
  | case2 left right rest ih =>
    have hright := ih (h.exprs_cons right hrest)
    rw [← A.append_assoc] at hright
    exact hright
  | case3 e rest hbinary hlogical =>
    -- The loop ends at the first expression that is no operator.
    have hoperand : e.isOperator = false := by
      cases e with
      | binary l r => exact absurd rfl (hbinary l r)
      | logical l r => exact absurd rfl (hlogical l r)
      | _ => rfl
    rw [Interpretation.operators, hoperand]
    exact h.exprs_cons e hrest

theorem operators (h : down.Realizes A P n) (e : Expr) :
    (down.operators e).Realizes P n (A.operators e) := by
  have hnone : (down.exprs []).Realizes P n A.nothing := h.simulation.realizes_nothing
  have hall := h.operandsWith e hnone
  rw [A.append_nothing] at hall
  exact hall

theorem exprParts (h : down.Realizes A P n) (e : Expr) :
    (down.exprParts e).Realizes P n (A.exprParts e) := by
  -- By the form of the expression: its parts are visited in the order in which they are appended.
  cases e with
  | identifier name => exact fun w _ => h.simulation.reference w name .read
  | string value => exact h.simulation.realizes_nothing
  | constant => exact h.simulation.realizes_nothing
  | array es => exact h.elements es
  | object ps => exact h.simulation.realizes_each rfl (fun _ _ => rfl) h.property ps
  | function f => exact h.function true f
  | arrow f => exact h.function false f
  | classExpr c => exact h.class c
  | template parts => exact h.exprs parts
  | taggedTemplate tag parts =>
    rw [Descent.exprParts, Interpretation.exprParts]
    exact h.simulation.realizes_andThen (h.expr tag) (h.exprs parts)
  | member object k => exact h.member object k false
  | call callee args => exact h.call callee args
  | construct callee args => exact h.call callee args
  | chain e => exact h.chainElement e
  | dynamicImport source options => exact h.simulation.realizes_append_hidden _ (h.expr source)
  | unary e => exact h.expr e
  | update p => exact h.target false p
  | await e => exact h.expr e
  | yield e => exact h.optExpr e
  | binary l r => exact h.operators (.binary l r)
  | logical l r => exact h.operators (.logical l r)
  | privateIn e => exact h.expr e
  | conditional t c a =>
    have hbranches := h.simulation.realizes_andThen (h.expr c) (h.expr a)
    rw [Descent.exprParts, Interpretation.exprParts]
    exact h.simulation.realizes_andThen (h.expr t) hbranches
  | assign p e =>
    rw [Descent.exprParts, Interpretation.exprParts]
    exact h.simulation.realizes_andThen (h.target true p) (h.expr e)
  | sequence es => exact h.exprs es
  | paren e => exact h.expr e

/-! ### Statements -/

theorem forInit (h : down.Realizes A P n) (init : ForInit) :
    (down.forInit init).Realizes P n (A.forInit init) := by
  cases init with
  | none => exact h.simulation.realizes_nothing
  | declare kind ds => exact h.declarators ds
  | expr e => exact h.expr e

theorem forLeft (h : down.Realizes A P n) (left : ForLeft) :
    (down.forLeft left).Realizes P n (A.forLeft left) := by
  cases left with
  | declare kind ds => exact h.declarators ds
  | target p => exact h.target false p

theorem optBinding (h : down.Realizes A P n) (p : Option Pattern) :
    (down.bindings p.toList).Realizes P n (A.optBinding p) := by
  cases p with
  | none => exact h.simulation.realizes_nothing
  | some p => exact h.binding p

theorem catchClause (h : down.Realizes A P n) (c : CatchClause) :
    (down.catchClause c).Realizes P n (A.catchClause c) := by
  obtain ⟨parameter, body⟩ := c
  exact h.simulation.realizes_withScope _
    (h.simulation.realizes_andThen (h.optBinding parameter) (h.block body))

theorem switchCase (h : down.Realizes A P n) (c : SwitchCase) :
    (down.switchCase c).Realizes P n (A.switchCase c) := by
  obtain ⟨test, body⟩ := c
  rw [Descent.switchCase, Interpretation.switchCase]
  exact h.simulation.realizes_andThen (h.optExpr test) (h.stmts body)

theorem exportNames (h : down.Realizes A P n) (names : List String) :
    (down.stmtParts (.exportNames names)).Realizes P n
      (A.stmtParts (.exportNames names)) :=
  h.simulation.realizes_each rfl (fun _ _ => rfl)
    (fun name w _ => h.simulation.reference w name .read) names

theorem stmtParts (h : down.Realizes A P n) (s : Stmt) :
    (down.stmtParts s).Realizes P n (A.stmtParts s) := by
  have sim := h.simulation
  cases s with
  | inert => exact sim.realizes_nothing
  -- Parts that may be missing are visited like lists of one part at most.
  | block body => exact h.block body
  | expr e => exact h.expr e
  | declare d => exact h.declaration d
  | ifElse t c a =>
    have ha : (Visit.optional down.stmt a).Realizes P n (A.optStmt a) :=
      sim.realizes_optional rfl (fun _ => rfl) h.stmt a
    rw [Descent.stmtParts, Interpretation.stmtParts]
    exact sim.realizes_andThen (h.expr t) (sim.realizes_andThen (h.stmt c) ha)
  | forLoop init test update body =>
    have hturn := sim.realizes_andThen (h.optExpr update) (h.stmt body)
    rw [Descent.stmtParts, Interpretation.stmtParts]
    exact sim.realizes_withScope init.lexicalNames
      (sim.realizes_andThen (h.forInit init) (sim.realizes_andThen (h.optExpr test) hturn))
  | forEach left right body =>
    have hturn := sim.realizes_andThen (h.expr right) (h.stmt body)
    rw [Descent.stmtParts, Interpretation.stmtParts]
    exact sim.realizes_withScope left.lexicalNames
      (sim.realizes_andThen (h.forLeft left) hturn)
  | «while» t body =>
    rw [Descent.stmtParts, Interpretation.stmtParts]
    exact sim.realizes_andThen (h.expr t) (h.stmt body)
  | doWhile body t =>
    rw [Descent.stmtParts, Interpretation.stmtParts]
    exact sim.realizes_andThen (h.stmt body) (h.expr t)
  | «return» e => exact h.optExpr e
  | throw e => exact h.expr e
  | tryCatch body handler finalizer =>
    have hhandler : (Visit.optional down.catchClause handler).Realizes P n
        (A.optCatchClause handler) :=
      sim.realizes_optional rfl (fun _ => rfl) h.catchClause handler
    have hfinalizer : (Visit.optional down.block finalizer).Realizes P n
        (A.optBlock finalizer) :=
      sim.realizes_optional rfl (fun _ => rfl) h.block finalizer
    rw [Descent.stmtParts, Interpretation.stmtParts]
    exact sim.realizes_andThen (h.block body)
      (sim.realizes_andThen hhandler hfinalizer)
  | switch e cases =>
    have hcases : (Visit.each down.switchCase cases).Realizes P n (A.switchCases cases) :=
      sim.realizes_each rfl (fun _ _ => rfl) h.switchCase cases
    rw [Descent.stmtParts, Interpretation.stmtParts]
    exact sim.realizes_andThen (h.expr e)
      (sim.realizes_withScope (SwitchCase.lexicalNames cases) hcases)
  | labeled s => exact h.stmt s
  | «with» e s =>
    rw [Descent.stmtParts, Interpretation.stmtParts]
    exact sim.realizes_andThen (h.expr e) (h.stmt s)
  | importNames names => exact sim.realizes_nothing
  | exportDecl d => exact h.declaration d
  | exportNames names => exact h.exportNames names
  | exportDefault e => exact h.expr e
  | exportDefaultDecl d => exact h.declaration d

end Descent.Realizes

/-! ## All levels -/

namespace Simulation

variable {A : Interpretation α} {P : Walk → Walk → α → Prop}

/-- By induction on the levels left: the walk realizes the interpretation as long as the state
has no more room than there are levels. -/
theorem descent (h : Simulation A P) (n : Nat) : (descent n).Realizes A P n := by
  induction n with
  | zero =>
    -- Without a level left, what nodes hold does not matter.
    exact ⟨h, fun _ => h.realizes_nested_zero _ _, fun _ => h.realizes_nested_zero _ _⟩
  | succ n ih =>
    exact ⟨h, fun e => h.realizes_nested (ih.exprParts e),
      fun s => h.realizes_nested (ih.stmtParts s)⟩

/-- Each state tells by its depth which levels its visits take, so no bound on the room is left. -/
theorem visitor (h : Simulation A P) (n : Nat) : visitor.Realizes A P n where
  simulation := h
  expr e w _ := (h.descent _).expr e w (by omega)
  stmt s w _ := (h.descent _).stmt s w (by omega)

/-- A visit that realizes `a` for any room does so from every state. -/
theorem of_realizes {visit : Visit} {a : α} (h : ∀ n, visit.Realizes P n a) (w : Walk) :
    P w (visit w) a :=
  h nestingLimit w (Nat.le_add_left _ _)

/-- The walk over a whole program. -/
theorem program (h : Simulation A P) (p : Program) : P {} p.walk (A.program p) :=
  of_realizes (fun n => h.realizes_withScope _ ((h.visitor n).stmts p.body)) {}

end Simulation

/-! ## The calls of a walk -/

/-- The calls that a walk makes of itself, by the kind of syntax it visits. -/
inductive Call where
  | reference (name : String) (access : Access)
  | chain (names : List String) (assigned : Bool)
  | expr (e : Expr)
  | exprParts (e : Expr)
  | exprs (es : List Expr)
  | optExpr (e : Option Expr)
  | key (k : Key)
  | member (object : Expr) (k : Key) (assigned : Bool)
  | binding (p : Pattern)
  | bindings (ps : List Pattern)
  | target (direct : Bool) (p : Pattern)
  | function (ownName : Bool) (f : Function)
  | classMember (m : ClassMember)
  | classOf (c : Class)
  | declarator (d : Declarator)
  | declarators (ds : List Declarator)
  | declaration (d : Declaration)
  | element (e : Element)
  | elements (es : List Element)
  | property (p : Property)
  | application (callee : Expr) (args : List Element)
  | chainElement (e : Expr)
  | operators (e : Expr)
  | stmt (s : Stmt)
  | stmtParts (s : Stmt)
  | stmts (ss : List Stmt)
  | block (body : List Stmt)
  | forInit (init : ForInit)
  | forLeft (left : ForLeft)
  | catchClause (c : CatchClause)
  | switchCase (c : SwitchCase)

namespace Call

/-- What a call does to the state of a walk. -/
def visit : Call → Visit
  | reference name access => Walk.reference name access
  | chain names assigned => Walk.memberChain names assigned
  | expr e => visitor.expr e
  | exprParts e => visitor.exprParts e
  | exprs es => visitor.exprs es
  | optExpr e => visitor.optExpr e
  | key k => visitor.key k
  | member object k assigned => visitor.member object k assigned
  | binding p => visitor.binding p
  | bindings ps => visitor.bindings ps
  | target direct p => visitor.target direct p
  | function ownName f => visitor.function ownName f
  | classMember m => visitor.classMember m
  | classOf c => visitor.class c
  | declarator d => visitor.declarator d
  | declarators ds => visitor.declarators ds
  | declaration d => visitor.declaration d
  | element e => visitor.element e
  | elements es => visitor.elements es
  | property p => visitor.property p
  | application callee args => visitor.call callee args
  | chainElement e => visitor.chainElement e
  | operators e => visitor.operators e
  | stmt s => visitor.stmt s
  | stmtParts s => visitor.stmtParts s
  | stmts ss => visitor.stmts ss
  | block body => visitor.block body
  | forInit init => visitor.forInit init
  | forLeft left => visitor.forLeft left
  | catchClause c => visitor.catchClause c
  | switchCase c => visitor.switchCase c

/-- What the syntax that a call visits comes to. -/
def value (A : Interpretation α) : Call → α
  | reference name access => A.reference name access
  | chain names assigned => A.chain names assigned
  | expr e => A.expr e
  | exprParts e => A.exprParts e
  | exprs es => A.exprs es
  | optExpr e => A.optExpr e
  | key k => A.key k
  | member object k assigned => A.member object k assigned
  | binding p => A.binding p
  | bindings ps => A.bindings ps
  | target direct p => A.target direct p
  | function ownName f => A.function ownName f
  | classMember m => A.classMember m
  | classOf c => A.class c
  | declarator d => A.declarator d
  | declarators ds => A.declarators ds
  | declaration d => A.declaration d
  | element e => A.element e
  | elements es => A.elements es
  | property p => A.property p
  | application callee args => A.append (A.expr callee) (A.elements args)
  | chainElement e => A.exprParts (.chain e)
  | operators e => A.operators e
  | stmt s => A.stmt s
  | stmtParts s => A.stmtParts s
  | stmts ss => A.stmts ss
  | block body => A.block body
  | forInit init => A.forInit init
  | forLeft left => A.forLeft left
  | catchClause c => A.catchClause c
  | switchCase c => A.switchCase c

end Call

namespace Simulation

variable {A : Interpretation α} {P : Walk → Walk → α → Prop}

/-- Whatever holds of the steps of a walk holds of every call it makes. -/
theorem call (h : Simulation A P) (c : Call) (w : Walk) : P w (c.visit w) (c.value A) := by
  refine of_realizes (fun n => ?_) w
  -- Each call is one form of syntax, visited by the visits of expressions and statements.
  have hv := h.visitor n
  cases c with
  | reference name access => exact fun w _ => h.reference w name access
  | chain names assigned => exact fun w _ => h.chain w names assigned
  | expr e => exact hv.expr e
  | exprParts e => exact hv.exprParts e
  | exprs es => exact hv.exprs es
  | optExpr e => exact hv.optExpr e
  | key k => exact hv.key k
  | member object k assigned => exact hv.member object k assigned
  | binding p => exact hv.binding p
  | bindings ps => exact hv.bindings ps
  | target direct p => exact hv.target direct p
  | function ownName f => exact hv.function ownName f
  | classMember m => exact hv.classMember m
  | classOf c => exact hv.class c
  | declarator d => exact hv.declarator d
  | declarators ds => exact hv.declarators ds
  | declaration d => exact hv.declaration d
  | element e => exact hv.element e
  | elements es => exact hv.elements es
  | property p => exact hv.property p
  | application callee args => exact hv.call callee args
  | chainElement e => exact hv.chainElement e
  | operators e => exact hv.operators e
  | stmt s => exact hv.stmt s
  | stmtParts s => exact hv.stmtParts s
  | stmts ss => exact hv.stmts ss
  | block body => exact hv.block body
  | forInit init => exact hv.forInit init
  | forLeft left => exact hv.forLeft left
  | catchClause c => exact hv.catchClause c
  | switchCase c => exact hv.switchCase c

end Simulation

end DepTriage.JavaScript
