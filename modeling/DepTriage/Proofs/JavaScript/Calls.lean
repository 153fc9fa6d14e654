import DepTriage.Proofs.JavaScript.Declarations
import DepTriage.Proofs.JavaScript.References

/-!
# The calls inside a call

Each call that a walk makes of itself runs further calls, one after the other, some of them inside
of a scope or one level further down. Here these are listed, and every call is shown to do just what
its list does, so that properties of all calls can be proved along the lists.

## Key results

- `Call.visit_eq_run`: a call runs its stages.
- `Call.Visits.isBound_iff`: the names that are bound at a call are those that were bound at first
  and those that the scopes around the call declare.
-/

namespace DepTriage.JavaScript

/-! ## Nodes -/

namespace Interpretation

/-- Syntax comes to the visit of it. -/
def visits : Interpretation Visit where
  nothing := id
  append := Visit.andThen
  node := Walk.nested
  scope := Walk.withScope
  reference := Walk.reference
  chain := Walk.memberChain
  hidden _ := id
  append_assoc _ _ _ := rfl
  append_nothing _ := rfl

end Interpretation

/-- What a visit comes to is the visit itself, since no call ever runs out of levels. -/
theorem visits : Simulation .visits fun w w' visit => w' = visit w ∧ w'.depth = w.depth where
  depth h := h.2
  nothing _ := ⟨rfl, rfl⟩
  append {w w' w'' a b} h h' := ⟨by rw [h'.1, h.1]; rfl, h'.2.trans h.2⟩
  scope {w w' a} names h := ⟨by rw [h.1]; rfl, h.2⟩
  reference w name access := ⟨rfl, ((balanced .height).reference w name access).depth⟩
  chain w names assigned := ⟨rfl, ((balanced .height).chain w names assigned).depth⟩
  hidden _ _ := ⟨rfl, rfl⟩
  skip visit hdeep := ⟨(if_pos hdeep).symm, rfl⟩
  refuse visit hdeep hlimit :=
    ⟨((if_neg (Bool.eq_false_iff.1 hdeep)).trans (if_pos hlimit)).symm, rfl⟩
  enter {w w' visit} hdeep hlimit h := by
    refine ⟨?_, ?_⟩
    · rw [h.1]
      exact ((if_neg (Bool.eq_false_iff.1 hdeep)).trans (if_neg (Nat.not_le.2 hlimit))).symm
    · show w'.depth - 1 = w.depth
      rw [h.2]
      rfl

theorem visitor_expr (e : Expr) : visitor.expr e = Walk.nested (visitor.exprParts e) := by
  have hparts : visitor.exprParts e = Interpretation.visits.exprParts e :=
    funext fun w => (visits.call (.exprParts e) w).1
  rw [hparts]
  exact funext fun w => (visits.call (.expr e) w).1

theorem visitor_stmt (s : Stmt) : visitor.stmt s = Walk.nested (visitor.stmtParts s) := by
  have hparts : visitor.stmtParts s = Interpretation.visits.stmtParts s :=
    funext fun w => (visits.call (.stmtParts s) w).1
  rw [hparts]
  exact funext fun w => (visits.call (.stmt s) w).1

/-! ## Stages -/

/-- What a call does next. -/
inductive Move where
  | call (c : Call)
  /-- The parts of a node, which stand one level further down. -/
  | node (c : Call)
  /-- A statement that is the only one in its place, such as the body of a loop. -/
  | single (s : Stmt)
  /-- The declaration of a default export. -/
  | default (d : Declaration)

namespace Move

/-- The call that a move makes. -/
def target : Move → Call
  | call c => c
  | node c => c
  | single s => .stmt s
  | default d => .declaration d

def visit : Move → Visit
  | call c => c.visit
  | node c => Walk.nested c.visit
  | single s => visitor.stmt s
  | default d => visitor.declaration d

end Move

/-- Some moves in a row, in a scope of their own if there is one. -/
structure Stage where
  scope : Option Scope
  moves : List Move

namespace Stage

def visit (stage : Stage) : Visit :=
  match stage.scope with
  | none => Visit.each Move.visit stage.moves
  | some s => Walk.withScope s.names (Visit.each Move.visit stage.moves)

/-- A stage without a scope. -/
def plain (cs : List Call) : Stage :=
  ⟨none, cs.map .call⟩

end Stage

namespace Call

/-! ### The calls for each form of syntax -/

def ofKey : Key → List Call
  | .name _ => []
  | .computed e => [.expr e]
  | .privateName _ => []

def ofMember (object : Expr) (k : Key) (assigned : Bool) : List Call :=
  match object.memberChain? k with
  | some names => [.chain names assigned]
  | none => [.expr object, .key k]

def ofElement : Element → List Call
  | .hole => []
  | .item e => [.expr e]
  | .spread e => [.expr e]

def ofProperty : Property → List Call
  | .keyed k e => [.key k, .expr e]
  | .spread e => [.expr e]

/-- The calls for a field of a pattern, where `call` is the one for its target. -/
def ofField (call : Pattern → Call) : Field → List Call
  | .keyed k p => [.key k, call p]
  | .rest p => [call p]

/-- The calls for a pattern that binds names. -/
def ofBinding : Pattern → List Call
  | .name _ => []
  | .member _ _ => []
  | .object fields => fields.flatMap (ofField .binding)
  | .array items => (items.filterMap id).map .binding
  | .withDefault p e => [.binding p, .expr e]
  | .rest p => [.binding p]

def ofTarget (direct : Bool) : Pattern → List Call
  | .name n => [.reference n (if direct then .readWrite else .read)]
  | .member object k => [.member object k direct]
  | .object fields => fields.flatMap (ofField (.target false))
  | .array items => (items.filterMap id).map (.target false)
  | .withDefault p e => [.target false p, .expr e]
  | .rest p => [.target false p]

def ofDeclarator : Declarator → List Call
  | .mk p init => [.binding p, .optExpr init]

def ofDeclaration : Declaration → List Call
  | .variableList _ ds => [.declarators ds]
  | .function f => [.function false f]
  | .classDecl c => [.classOf c]

def ofForInit : ForInit → List Call
  | .none => []
  | .declare _ ds => [.declarators ds]
  | .expr e => [.expr e]

def ofForLeft : ForLeft → List Call
  | .declare _ ds => [.declarators ds]
  | .target p => [.target false p]

def ofSwitchCase : SwitchCase → List Call
  | .mk t body => [.optExpr t, .stmts body]

def ofChainElement : Expr → List Call
  | .call callee args => [.application callee args]
  | .member object k => [.member object k false]
  | _ => []

/-- The calls for the parts of an expression. -/
def ofParts : Expr → List Call
  | .identifier n => [.reference n .read]
  | .string _ => []
  | .constant => []
  | .array es => [.elements es]
  | .object ps => ps.map .property
  | .function f => [.function true f]
  | .arrow f => [.function false f]
  | .classExpr c => [.classOf c]
  | .template parts => [.exprs parts]
  | .taggedTemplate tag parts => [.expr tag, .exprs parts]
  | .member object k => [.member object k false]
  | .call callee args => [.application callee args]
  | .construct callee args => [.application callee args]
  | .chain e => [.chainElement e]
  | .dynamicImport source _ => [.expr source]
  | .unary e => [.expr e]
  | .update p => [.target false p]
  | .await e => [.expr e]
  | .yield e => [.optExpr e]
  | .binary l r => [.operators (.binary l r)]
  | .logical l r => [.operators (.logical l r)]
  | .privateIn e => [.expr e]
  | .conditional t c a => [.expr t, .expr c, .expr a]
  | .assign p e => [.target true p, .expr e]
  | .sequence es => [.exprs es]
  | .paren e => [.expr e]

/-! ### The stages of each form of syntax that opens a scope or holds a single statement -/

def stagesOfFunction (ownName : Bool) (f : Function) : List Stage :=
  [⟨some (.function (if ownName then f.name else none) f.parameters f.body),
    [.call (.bindings f.parameters), .call (.stmts f.body)]⟩]

def stagesOfClassMember : ClassMember → List Stage
  | .method _ k f => [.plain [.key k, .function false f]]
  | .field _ k value => [.plain [.key k, .optExpr value]]
  | .staticBlock body => [⟨some (.body body), [.call (.stmts body)]⟩]

def stagesOfClass : Class → List Stage
  | .mk _ name heritage members =>
    [⟨some (.classOf name), .call (.optExpr heritage) :: members.map (.call ∘ .classMember)⟩]

def stagesOfCatchClause : CatchClause → List Stage
  | .mk p body =>
    [⟨some (.catchParameter p), [.call (.bindings p.toList), .call (.block body)]⟩]

def stagesOfStmt : Stmt → List Stage
  | .inert => []
  | .block body => [.plain [.block body]]
  | .expr e => [.plain [.expr e]]
  | .declare d => [.plain [.declaration d]]
  | .ifElse t c a => [⟨none, .call (.expr t) :: .single c :: a.toList.map .single⟩]
  | .forLoop init t u b =>
    [⟨some (.forHead init),
      [.call (.forInit init), .call (.optExpr t), .call (.optExpr u), .single b]⟩]
  | .forEach left e b =>
    [⟨some (.eachHead left), [.call (.forLeft left), .call (.expr e), .single b]⟩]
  | .while t b => [⟨none, [.call (.expr t), .single b]⟩]
  | .doWhile b t => [⟨none, [.single b, .call (.expr t)]⟩]
  | .return e => [.plain [.optExpr e]]
  | .throw e => [.plain [.expr e]]
  | .tryCatch body handler final =>
    [.plain (.block body :: (handler.toList.map .catchClause ++ final.toList.map .block))]
  | .switch e cases =>
    [.plain [.expr e], ⟨some (.cases cases), cases.map (.call ∘ .switchCase)⟩]
  | .labeled s => [⟨none, [.single s]⟩]
  | .with e s => [⟨none, [.call (.expr e), .single s]⟩]
  | .importNames _ => []
  | .exportDecl d => [.plain [.declaration d]]
  | .exportNames names => [.plain (names.map (.reference · .read))]
  | .exportDefault e => [.plain [.expr e]]
  | .exportDefaultDecl d => [⟨none, [.default d]⟩]

/-- What a call runs, one after the other. -/
def stages : Call → List Stage
  | reference _ _ => []
  | chain _ _ => []
  | expr e => [⟨none, [.node (.exprParts e)]⟩]
  | exprParts e => [.plain (ofParts e)]
  | exprs es => [.plain (es.map .expr)]
  | optExpr e => [.plain (e.toList.map .expr)]
  | key k => [.plain (ofKey k)]
  | member object k assigned => [.plain (ofMember object k assigned)]
  | binding p => [.plain (ofBinding p)]
  | bindings ps => [.plain (ps.map .binding)]
  | target direct p => [.plain (ofTarget direct p)]
  | function ownName f => stagesOfFunction ownName f
  | classMember m => stagesOfClassMember m
  | classOf c => stagesOfClass c
  | declarator d => [.plain (ofDeclarator d)]
  | declarators ds => [.plain (ds.map .declarator)]
  | declaration d => [.plain (ofDeclaration d)]
  | element e => [.plain (ofElement e)]
  | elements es => [.plain (es.map .element)]
  | property p => [.plain (ofProperty p)]
  | application callee args => [.plain [.expr callee, .elements args]]
  | chainElement e => [.plain (ofChainElement e)]
  | operators e => [.plain [.exprs e.operands]]
  | stmt s => [⟨none, [.node (.stmtParts s)]⟩]
  | stmtParts s => stagesOfStmt s
  | stmts ss => [.plain (ss.map .stmt)]
  | block body => [⟨some (.block body), [.call (.stmts body)]⟩]
  | forInit init => [.plain (ofForInit init)]
  | forLeft left => [.plain (ofForLeft left)]
  | catchClause c => stagesOfCatchClause c
  | switchCase c => [.plain (ofSwitchCase c)]

/-- A bare name and a member chain run nothing further. -/
def IsLeaf : Call → Prop
  | reference _ _ => True
  | chain _ _ => True
  | _ => False

/-! ### Calls as their stages -/

theorem each_map {α β : Type} (f : α → β) (visit : β → Visit) (xs : List α) :
    Visit.each visit (xs.map f) = Visit.each (visit ∘ f) xs := by
  funext w
  exact List.foldl_map

theorem each_append {α : Type} (visit : α → Visit) (xs ys : List α) :
    Visit.each visit (xs ++ ys) = (Visit.each visit xs).andThen (Visit.each visit ys) := by
  funext w
  exact List.foldl_append

theorem each_toList {α : Type} (visit : α → Visit) (x : Option α) :
    Visit.each visit x.toList = Visit.optional visit x := by
  cases x <;> rfl

theorem visit_plain (cs : List Call) : (Stage.plain cs).visit = Visit.each Call.visit cs :=
  each_map Move.call Move.visit cs

/-- Calls of one kind in a row. -/
theorem visit_calls {α : Type} (f : α → Call) (xs : List α) :
    (Stage.plain (xs.map f)).visit = Visit.each (visit ∘ f) xs := by
  rw [visit_plain, each_map]

theorem each_flatMap {α β : Type} (f : α → List β) (visit : β → Visit) (xs : List α) :
    Visit.each visit (xs.flatMap f) = Visit.each (fun x => Visit.each visit (f x)) xs := by
  induction xs with
  | nil => rfl
  | cons x xs ih =>
    rw [List.flatMap_cons, each_append, ih]
    rfl

theorem visit_parts (e : Expr) : visitor.exprParts e = Visit.each Call.visit (ofParts e) := by
  cases e with
  | object ps => exact (each_map .property Call.visit ps).symm
  | _ => rfl

theorem bindingFields_eq (fields : List Field) :
    visitor.bindingFields fields = Visit.each Call.visit (fields.flatMap (ofField .binding)) := by
  rw [each_flatMap]
  induction fields with
  | nil => rfl
  | cons f fields ih =>
    cases f <;> rw [Descent.bindingFields, ih] <;> rfl

theorem bindingItems_eq (items : List (Option Pattern)) :
    visitor.bindingItems items = Visit.each Call.visit ((items.filterMap id).map .binding) := by
  rw [each_map]
  induction items with
  | nil => rfl
  | cons i items ih =>
    cases i <;> rw [Descent.bindingItems, ih] <;> rfl

theorem targetFields_eq (fields : List Field) :
    visitor.targetFields fields =
      Visit.each Call.visit (fields.flatMap (ofField (.target false))) := by
  rw [each_flatMap]
  induction fields with
  | nil => rfl
  | cons f fields ih =>
    cases f <;> rw [Descent.targetFields, ih] <;> rfl

theorem targetItems_eq (items : List (Option Pattern)) :
    visitor.targetItems items =
      Visit.each Call.visit ((items.filterMap id).map (.target false)) := by
  rw [each_map]
  induction items with
  | nil => rfl
  | cons i items ih =>
    cases i <;> rw [Descent.targetItems, ih] <;> rfl

theorem visit_binding (p : Pattern) : visitor.binding p = Visit.each Call.visit (ofBinding p) := by
  cases p with
  | object fields => exact bindingFields_eq fields
  | array items => exact bindingItems_eq items
  | _ => rfl

theorem visit_target (direct : Bool) (p : Pattern) :
    visitor.target direct p = Visit.each Call.visit (ofTarget direct p) := by
  cases p with
  | object fields => exact targetFields_eq fields
  | array items => exact targetItems_eq items
  | _ => rfl

theorem visit_stmtParts (s : Stmt) :
    visitor.stmtParts s = Visit.each Stage.visit (stagesOfStmt s) := by
  -- Statements without optional parts are visited by the stages as listed; the others split on what
  -- is left out.
  cases s with
  | ifElse t c a =>
    cases a <;> rfl
  | tryCatch body handler final =>
    cases handler <;> cases final <;> rfl
  | switch e cases =>
    -- The cases of a switch are visited in one scope, so they become stages inside it.
    have hcases : Visit.each Move.visit (cases.map (.call ∘ .switchCase)) =
        Visit.each visitor.switchCase cases := each_map (Move.call ∘ switchCase) Move.visit cases
    show _ = (visitor.expr e).andThen (Walk.withScope _ (Visit.each Move.visit _))
    rw [hcases]
    rfl
  | exportNames names => exact (visit_calls (.reference · .read) names).symm
  | _ => rfl

theorem visit_optional {α : Type} (f : α → Call) (x : Option α) :
    (Stage.plain (x.toList.map f)).visit = Visit.optional (visit ∘ f) x := by
  rw [visit_calls, each_toList]

/-- Every call does what its stages do, one after the other. -/
theorem visit_eq_run {c : Call} (h : ¬c.IsLeaf) : c.visit = Visit.each Stage.visit c.stages := by
  -- Most calls run what is listed step by step; those over a list of parts fold over it.
  cases c with
  | reference | chain => exact absurd trivial h
  | expr e => exact visitor_expr e
  | stmt s => exact visitor_stmt s
  | exprParts e => exact (visit_parts e).trans (visit_plain _).symm
  | exprs es => exact (visit_calls .expr es).symm
  | optExpr e => exact (visit_optional .expr e).symm
  | key k => cases k <;> rfl
  | member object k assigned =>
    show visitor.member object k assigned = _
    rw [Descent.member, stages, ofMember]
    cases object.memberChain? k <;> rfl
  | binding p => exact (visit_binding p).trans (visit_plain _).symm
  | bindings ps => exact (visit_calls .binding ps).symm
  | target direct p => exact (visit_target direct p).trans (visit_plain _).symm
  | function ownName f => cases ownName <;> rfl
  | classMember m => cases m <;> rfl
  | classOf c =>
    obtain ⟨_, name, heritage, members⟩ := c
    have hmembers : Visit.each Move.visit (members.map (.call ∘ .classMember)) =
        Visit.each visitor.classMember members :=
      each_map (Move.call ∘ classMember) Move.visit members
    show _ = Walk.withScope _ ((visitor.optExpr heritage).andThen (Visit.each Move.visit _))
    rw [hmembers]
    rfl
  | declarator d =>
    cases d
    rfl
  | declarators ds => exact (visit_calls .declarator ds).symm
  | declaration d => cases d <;> rfl
  | element e => cases e <;> rfl
  | elements es => exact (visit_calls .element es).symm
  | property p => cases p <;> rfl
  | application callee args => rfl
  | chainElement e => cases e <;> rfl
  | operators e => rfl
  | stmtParts s => exact visit_stmtParts s
  | stmts ss => exact (visit_calls .stmt ss).symm
  | block body => rfl
  | forInit init => cases init <;> rfl
  | forLeft left => cases left <;> rfl
  | catchClause c =>
    cases c
    rfl
  | switchCase c =>
    cases c
    rfl

end Call

/-! ## Calls inside of calls -/

/-- What a call stands in. -/
inductive Surrounding where
  | scope (s : Scope)
  /-- A place for a single statement, with the statement in it. -/
  | single (s : Stmt)
  | default (d : Declaration)

namespace Move

/-- From the state before a move, the call that it makes starts in the other state; no call is made
where the node would stand too deep. -/
def Starts : Move → Walk → Walk → Prop
  | call _, w, w' => w' = w
  | node _, w, w' =>
    w.tooDeep = false ∧ w.depth < nestingLimit ∧ w' = { w with depth := w.depth + 1 }
  | single _, w, w' => w' = w
  | default _, w, w' => w' = w

def surroundings : Move → List Surrounding
  | call _ => []
  | node _ => []
  | single s => [.single s]
  | default d => [.default d]

end Move

namespace Stage

/-- The state in which the first move of a stage is made. -/
def enter (stage : Stage) (w : Walk) : Walk :=
  match stage.scope with
  | none => w
  | some s => w.push s.names

def surroundings (stage : Stage) : List Surrounding :=
  stage.scope.toList.map .scope

end Stage

/-- While a call runs that starts in the state `w`, another one starts in the state `v`; `around` is
what the other one stands in, up to the first one, from the outside to the inside. -/
inductive Call.Visits : Call → Walk → Call → Walk → List Surrounding → Prop
  | here {c : Call} {w : Walk} : Visits c w c w []
  | inside {c d : Call} {w w' v : Walk} {before after : List Stage} {stage : Stage}
      {done rest : List Move} {m : Move} {around : List Surrounding} :
      c.stages = before ++ stage :: after →
      stage.moves = done ++ m :: rest →
      m.Starts (Visit.each Move.visit done (stage.enter (Visit.each Stage.visit before w))) w' →
      Visits m.target w' d v around →
      Visits c w d v (stage.surroundings ++ m.surroundings ++ around)

/-- While the walk over a program runs, a call starts in the state `v`. -/
inductive Program.Visits (p : Program) : Call → Walk → List Surrounding → Prop
  | walk {d : Call} {v : Walk} {around : List Surrounding} :
      (Call.stmts p.body).Visits (({} : Walk).push (bodyNames p.body)) d v around →
      Visits p d v (.scope (.body p.body) :: around)

/-! ## Names that are bound at a call -/

namespace Walk.Balanced

theorem nested {visit : Visit} (h : ∀ w : Walk, w.Balanced (visit w)) (w : Walk) :
    w.Balanced (Walk.nested visit w) := by
  rw [Walk.nested]
  split
  · exact .refl w
  · split
    · exact ⟨rfl, rfl, w.usage.le_refl, fun _ => rfl⟩
    · exact (h { w with depth := w.depth + 1 }).leave

theorem each {α : Type} {visit : α → Visit} (h : ∀ x w, Walk.Balanced w (visit x w)) (xs : List α)
    (w : Walk) : w.Balanced (Visit.each visit xs w) := by
  induction xs generalizing w with
  | nil => exact .refl w
  | cons x xs ih => exact (h x w).trans (ih (visit x w))

end Walk.Balanced

theorem Move.balanced_visit (m : Move) (w : Walk) : w.Balanced (m.visit w) := by
  cases m with
  | call c => exact (balanced .height).call c w
  | node c => exact .nested ((balanced .height).call c) w
  | single s => exact (balanced .height).call (.stmt s) w
  | default d => exact (balanced .height).call (.declaration d) w

theorem Stage.balanced_visit (stage : Stage) (w : Walk) : w.Balanced (stage.visit w) := by
  rw [Stage.visit]
  cases stage.scope with
  | none => exact .each Move.balanced_visit _ w
  | some s => exact (Walk.Balanced.each Move.balanced_visit _ (w.push s.names)).pop

theorem Walk.isBound_of_frames {w w' : Walk} (h : w'.frames = w.frames) (n : String) :
    w'.isBound n = w.isBound n := by
  rw [Walk.isBound, Walk.isBound, h]

theorem Stage.isBound_enter {stage : Stage} {w : Walk} {n : String} :
    (stage.enter w).isBound n = true ↔
      w.isBound n = true ∨ ∃ s, .scope s ∈ stage.surroundings ∧ s.Declares n := by
  rw [Stage.enter, Stage.surroundings]
  cases stage.scope with
  | none => simp
  | some s =>
    rw [Walk.isBound_push]
    simp [← Scope.mem_names_iff, or_comm]

theorem Move.Starts.frames {m : Move} {w w' : Walk} (h : m.Starts w w') : w'.frames = w.frames := by
  cases m with
  | call c => rw [show w' = w from h]
  | node c =>
    obtain ⟨-, -, rfl⟩ := h
    rfl
  | single s => rw [show w' = w from h]
  | default d => rw [show w' = w from h]

/-- The call that a move of a stage makes has the names in scope that were bound when the stages
began, and those that its own stage declares. -/
theorem isBound_of_starts {before : List Stage} {stage : Stage} {done : List Move} {m : Move}
    {w w' : Walk} {n : String}
    (h : m.Starts (Visit.each Move.visit done (stage.enter (Visit.each Stage.visit before w))) w') :
    w'.isBound n = true ↔
      w.isBound n = true ∨ ∃ s, .scope s ∈ stage.surroundings ∧ s.Declares n := by
  have hbefore := (Walk.Balanced.each Stage.balanced_visit before w).frames
  have hdone := (Walk.Balanced.each Move.balanced_visit done
    (stage.enter (Visit.each Stage.visit before w))).frames
  rw [Walk.isBound_of_frames (h.frames.trans hdone), Stage.isBound_enter,
    Walk.isBound_of_frames hbefore]

theorem Move.scope_not_mem_surroundings {m : Move} {s : Scope} : .scope s ∉ m.surroundings := by
  cases m <;> simp [Move.surroundings]

/-- Between two calls, the names that scopes declare become bound, and no others. -/
theorem Call.Visits.isBound_iff {c d : Call} {w v : Walk} {around : List Surrounding}
    (h : c.Visits w d v around) {n : String} :
    v.isBound n = true ↔
      w.isBound n = true ∨ ∃ s, .scope s ∈ around ∧ s.Declares n := by
  -- By induction on the way down: the moves made before leave the frames as they found them.
  induction h with
  | here => simp
  | inside _ _ hstart _ ih =>
    rw [ih, isBound_of_starts hstart, or_assoc, ← exists_or]
    simp only [List.mem_append, Move.scope_not_mem_surroundings, or_false, or_and_right]

theorem Program.Visits.isBound_iff {p : Program} {c : Call} {v : Walk}
    {around : List Surrounding} (h : p.Visits c v around) {n : String} :
    v.isBound n = true ↔ ∃ s, .scope s ∈ around ∧ s.Declares n := by
  obtain ⟨h⟩ := h
  rw [h.isBound_iff, Walk.isBound_push, Walk.isBound_empty]
  simp [or_and_right, exists_or, ← Scope.mem_names_iff, Scope.names]

end DepTriage.JavaScript
