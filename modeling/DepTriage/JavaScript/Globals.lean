import DepTriage.GlobalUsage
import DepTriage.JavaScript.Builtin
import DepTriage.JavaScript.Scope
import Std.Data.HashSet

/-! # The globals a program touches

A walk over a program that records every name no enclosing scope binds. The scopes are a stack of
frames, and each frame holds all names of its scope before the scope's body is walked.

A member access whose keys are all fixed, such as `document.body["style"]`, is read as one chain:
only its root counts, and a chain that starts at the global object is unwrapped first
(`window.fetch` is a reference to `fetch`).

Statements and expressions may nest `nestingLimit` deep. The walk counts how many stand around
the current node; the first one that would stand too deep is not visited, and neither is any
statement or expression after it. Member chains count as one level, and so does a whole chain of
binary and logical operators along its left side; patterns and assignment targets count nothing. -/

namespace DepTriage.JavaScript

/-- The names bound by one scope. -/
abbrev Frame := Std.HashSet String

/-- How many statements and expressions may stand inside each other. -/
def nestingLimit : Nat := 512

/-- What a walk carries: the scopes around the current node, innermost first, the references
recorded so far, and how deep the current node stands. -/
structure Walk where
  frames : List Frame := []
  usage : GlobalUsage := {}
  /-- The number of statements and expressions around the current node. -/
  depth : Nat := 0
  /-- Some statement or expression was left out, since it stands too deep. -/
  tooDeep : Bool := false

/-- What a walk does at a piece of syntax. -/
abbrev Visit := Walk → Walk

namespace Visit

def andThen (first second : Visit) : Visit := fun w =>
  second (first w)

/-- Visits the members of a list from left to right. -/
def each {α : Type} (visit : α → Visit) (xs : List α) : Visit := fun w =>
  xs.foldl (fun w x => visit x w) w

/-- Visits what may be left out. -/
def optional {α : Type} (visit : α → Visit) : Option α → Visit
  | none => id
  | some x => visit x

end Visit

namespace Walk

def isBound (w : Walk) (name : String) : Bool :=
  w.frames.any (·.contains name)

def push (w : Walk) (names : List String) : Walk :=
  { w with frames := Std.HashSet.ofList names :: w.frames }

def pop (w : Walk) : Walk :=
  { w with frames := w.frames.tail }

/-- Runs a visit inside a scope that binds `names`. -/
def withScope (names : List String) (visit : Visit) : Visit := fun w =>
  (visit (w.push names)).pop

/-- Runs the visit of a statement or expression one level further down. -/
def nested (visit : Visit) : Visit := fun w =>
  if w.tooDeep then w
  -- The node that would be the first one past the limit is not visited either.
  else if nestingLimit ≤ w.depth then { w with tooDeep := true }
  else
    let w := visit { w with depth := w.depth + 1 }
    { w with depth := w.depth - 1 }

/-- Records a reference to a global, unless it only reads the standard library. -/
def report (w : Walk) (name : String) (access : Access) : Walk :=
  if access = .read ∧ isStandardGlobal name then w
  else { w with usage := w.usage.record name access }

/-- A bare name in expression position. -/
def reference (name : String) (access : Access) : Visit := fun w =>
  if w.isBound name || isGlobalAlias name || name == implicitArguments then w
  else w.report name access

/-- Drops the leading names of a chain that stand for the global object, and tells whether there
were any. -/
def dropAliases (w : Walk) : List String → Bool → List String × Bool
  | [], global => ([], global)
  | name :: rest, global =>
    if isGlobalAlias name && !w.isBound name then w.dropAliases rest true
    else (name :: rest, global)

/-- The global that a member chain refers to, given by its names from the root on: only the root
counts, as written if the chain is that one name and is the direct target of an assignment. -/
def chainReference? (w : Walk) (chain : List String) (assigned : Bool) :
    Option (String × Access) :=
  match w.dropAliases (dropBundlerGlobal chain) false with
  -- The chain is the global object itself.
  | ([], _) => none
  | (root :: rest, global) =>
    -- After an alias the root is a property, whatever the scopes bind; after the bundler's name
    -- alone it is looked up like any other name.
    if root == implicitArguments || (!global && w.isBound root) then none
    else some (root, if assigned && rest.isEmpty then .readWrite else .read)

/-- A member chain. -/
def memberChain (chain : List String) (assigned : Bool) : Visit := fun w =>
  match w.chainReference? chain assigned with
  | none => w
  | some (root, access) => w.report root access

end Walk

/-- The name that a key fixes, if it fixes one. -/
def Key.fixed? : Key → Option String
  | .name text => some text
  | .computed (.string text) => some text
  | _ => none

/-- Puts the names of a member chain in front of `names`, if `e` is one: an identifier followed by
fixed keys. -/
def Expr.chain? : Expr → List String → Option (List String)
  | .identifier root, names => some (root :: names)
  | .member o k, names =>
    match k.fixed? with
    | some text => o.chain? (text :: names)
    | none => none
  | _, _ => none

/-- The operands along the left side of a chain of operators, from left to right, in front of
`operands`. -/
def Expr.operandsWith : Expr → List Expr → List Expr
  | .binary left right, operands => left.operandsWith (right :: operands)
  | .logical left right, operands => left.operandsWith (right :: operands)
  | e, operands => e :: operands

def Expr.operands (e : Expr) : List Expr :=
  e.operandsWith []

/-- The names of the member chain that `object.key` is, if it is one. -/
def Expr.memberChain? (object : Expr) (key : Key) : Option (List String) :=
  key.fixed?.bind fun text => object.chain? [text]

/-- How to visit the expressions and statements one level further down. -/
structure Descent where
  expr : Expr → Visit
  stmt : Stmt → Visit

namespace Descent

def exprs (down : Descent) : List Expr → Visit :=
  Visit.each down.expr

def stmts (down : Descent) : List Stmt → Visit :=
  Visit.each down.stmt

def optExpr (down : Descent) : Option Expr → Visit :=
  Visit.optional down.expr

/-- The expression of a computed key. -/
def key (down : Descent) : Key → Visit
  | .computed e => down.expr e
  | _ => id

/-- A member access; `assigned` tells whether it is the direct target of an assignment. -/
def member (down : Descent) (object : Expr) (key : Key) (assigned : Bool) : Visit :=
  match object.memberChain? key with
  | some chain => Walk.memberChain chain assigned
  | none => (down.expr object).andThen (down.key key)

mutual

/-- The default values and computed keys of a binding pattern; the names it binds are already in
scope. -/
def binding (down : Descent) : Pattern → Visit
  | .name _ => id
  -- No declaration binds a member.
  | .member _ _ => id
  | .object fields => down.bindingFields fields
  | .array items => down.bindingItems items
  | .withDefault p e => (down.binding p).andThen (down.expr e)
  | .rest p => down.binding p

def bindingFields (down : Descent) : List Field → Visit
  | [] => id
  | .keyed k p :: fs => (down.key k).andThen ((down.binding p).andThen (down.bindingFields fs))
  | .rest p :: fs => (down.binding p).andThen (down.bindingFields fs)

def bindingItems (down : Descent) : List (Option Pattern) → Visit
  | [] => id
  | none :: ps => down.bindingItems ps
  | some p :: ps => (down.binding p).andThen (down.bindingItems ps)

end

mutual

/-- The target of an assignment. Only a `direct` target, on the left of an assignment operator, is
written; a target inside a pattern counts as read. -/
def target (down : Descent) (direct : Bool) : Pattern → Visit
  | .name n => Walk.reference n (if direct then .readWrite else .read)
  | .member object key => down.member object key direct
  | .object fields => down.targetFields fields
  | .array items => down.targetItems items
  -- Below the top of the pattern nothing is the direct target any more.
  | .withDefault p e => (down.target false p).andThen (down.expr e)
  | .rest p => down.target false p

def targetFields (down : Descent) : List Field → Visit
  | [] => id
  | .keyed k p :: fs => (down.key k).andThen ((down.target false p).andThen (down.targetFields fs))
  | .rest p :: fs => (down.target false p).andThen (down.targetFields fs)

def targetItems (down : Descent) : List (Option Pattern) → Visit
  | [] => id
  | none :: ps => down.targetItems ps
  | some p :: ps => (down.target false p).andThen (down.targetItems ps)

end

def bindings (down : Descent) : List Pattern → Visit :=
  Visit.each down.binding

/-- A function: its parameters and body share one scope. The name of a function expression is
bound inside it (`ownName`). -/
def function (down : Descent) (ownName : Bool) (f : Function) : Visit :=
  Walk.withScope
    ((if ownName then f.name.toList else []) ++ Pattern.listNames f.parameters ++ bodyNames f.body)
    ((down.bindings f.parameters).andThen (down.stmts f.body))

/-- A statement list with a scope of its own. -/
def block (down : Descent) (body : List Stmt) : Visit :=
  Walk.withScope (lexicalNames body) (down.stmts body)

def classMember (down : Descent) : ClassMember → Visit
  -- Decorators are not visited, neither here nor at the class.
  | .method _ k f => (down.key k).andThen (down.function false f)
  | .field _ k value => (down.key k).andThen (down.optExpr value)
  | .staticBlock body => Walk.withScope (bodyNames body) (down.stmts body)

def «class» (down : Descent) : Class → Visit
  | .mk _ name heritage members =>
    Walk.withScope name.toList
      ((down.optExpr heritage).andThen (Visit.each down.classMember members))

def declarator (down : Descent) : Declarator → Visit
  | .mk p init => (down.binding p).andThen (down.optExpr init)

def declarators (down : Descent) : List Declarator → Visit :=
  Visit.each down.declarator

def declaration (down : Descent) : Declaration → Visit
  | .variableList _ ds => down.declarators ds
  | .function f => down.function false f
  | .classDecl c => down.class c

def element (down : Descent) : Element → Visit
  | .hole => id
  | .item e => down.expr e
  | .spread e => down.expr e

def elements (down : Descent) : List Element → Visit :=
  Visit.each down.element

def property (down : Descent) : Property → Visit
  | .keyed k e => (down.key k).andThen (down.expr e)
  | .spread e => down.expr e

def call (down : Descent) (callee : Expr) (args : List Element) : Visit :=
  (down.expr callee).andThen (down.elements args)

/-- The link of an optional chain that the chain node holds. -/
def chainElement (down : Descent) : Expr → Visit
  | .call callee args => down.call callee args
  | .member object key => down.member object key false
  | _ => id

/-- The operands of a chain of binary and logical operators, from left to right. -/
def operators (down : Descent) (e : Expr) : Visit :=
  down.exprs e.operands

/-- The parts of an expression. -/
def exprParts (down : Descent) : Expr → Visit
  | .identifier n => Walk.reference n .read
  | .string _ => id
  | .constant => id
  | .array es => down.elements es
  | .object ps => Visit.each down.property ps
  | .function f => down.function true f
  | .arrow f => down.function false f
  | .classExpr c => down.class c
  | .template parts => down.exprs parts
  | .taggedTemplate tag parts => (down.expr tag).andThen (down.exprs parts)
  | .member object key => down.member object key false
  | .call callee args => down.call callee args
  | .construct callee args => down.call callee args
  | .chain e => down.chainElement e
  -- The options are not visited.
  | .dynamicImport source _ => down.expr source
  | .unary e => down.expr e
  | .update p => down.target false p
  | .await e => down.expr e
  | .yield e => down.optExpr e
  | .binary l r => down.operators (.binary l r)
  | .logical l r => down.operators (.logical l r)
  | .privateIn e => down.expr e
  | .conditional t c a => (down.expr t).andThen ((down.expr c).andThen (down.expr a))
  | .assign p e => (down.target true p).andThen (down.expr e)
  | .sequence es => down.exprs es
  | .paren e => down.expr e

def forInit (down : Descent) : ForInit → Visit
  | .none => id
  | .declare _ ds => down.declarators ds
  | .expr e => down.expr e

def forLeft (down : Descent) : ForLeft → Visit
  | .declare _ ds => down.declarators ds
  | .target p => down.target false p

def catchClause (down : Descent) : CatchClause → Visit
  | .mk parameter body =>
    Walk.withScope (Pattern.listNames parameter.toList)
      ((down.bindings parameter.toList).andThen (down.block body))

def switchCase (down : Descent) : SwitchCase → Visit
  | .mk test body => (down.optExpr test).andThen (down.stmts body)

/-- The parts of a statement. -/
def stmtParts (down : Descent) : Stmt → Visit
  | .inert => id
  | .block body => down.block body
  | .expr e => down.expr e
  | .declare d => down.declaration d
  | .ifElse t c a =>
    (down.expr t).andThen ((down.stmt c).andThen (Visit.optional down.stmt a))
  -- A `for` head has a scope of its own around the body, empty if it declares nothing.
  | .forLoop init test update body =>
    Walk.withScope init.lexicalNames
      ((down.forInit init).andThen
        ((down.optExpr test).andThen ((down.optExpr update).andThen (down.stmt body))))
  | .forEach left right body =>
    Walk.withScope left.lexicalNames
      ((down.forLeft left).andThen ((down.expr right).andThen (down.stmt body)))
  | .while t body => (down.expr t).andThen (down.stmt body)
  | .doWhile body t => (down.stmt body).andThen (down.expr t)
  | .return e => down.optExpr e
  | .throw e => down.expr e
  | .tryCatch body handler finalizer =>
    (down.block body).andThen
      ((Visit.optional down.catchClause handler).andThen (Visit.optional down.block finalizer))
  -- All cases share one scope, and the value that is switched on stands outside of it.
  | .switch e cases =>
    (down.expr e).andThen
      (Walk.withScope (SwitchCase.lexicalNames cases) (Visit.each down.switchCase cases))
  | .labeled s => down.stmt s
  | .with e s => (down.expr e).andThen (down.stmt s)
  | .importNames _ => id
  | .exportDecl d => down.declaration d
  | .exportNames names => Visit.each (Walk.reference · .read) names
  | .exportDefault e => down.expr e
  | .exportDefaultDecl d => down.declaration d

end Descent

/-- The visits of a walk that still has room for `n` levels. -/
def descent : Nat → Descent
  | 0 => ⟨fun _ => Walk.nested id, fun _ => Walk.nested id⟩
  | n + 1 =>
    ⟨fun e => Walk.nested ((descent n).exprParts e), fun s => Walk.nested ((descent n).stmtParts s)⟩

/-- The visits of statements and expressions: the depth of a walk tells for how many levels there
is room. -/
def visitor : Descent where
  expr e := fun w => (descent (nestingLimit - w.depth)).expr e w
  stmt s := fun w => (descent (nestingLimit - w.depth)).stmt s w

/-- The walk over a whole program. -/
def Program.walk (p : Program) : Walk :=
  Walk.withScope (bodyNames p.body) (visitor.stmts p.body) {}

/-- The globals that a program touches, or `none` if it nests deeper than `nestingLimit`. -/
def Program.globals? (p : Program) : Option GlobalUsage :=
  let w := p.walk
  if w.tooDeep then none else some w.usage

end DepTriage.JavaScript
