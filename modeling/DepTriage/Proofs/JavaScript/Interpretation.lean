import DepTriage.JavaScript.Globals

/-! # Interpretations of syntax

An `Interpretation` says what a program comes to in some domain: what its names and member chains
stand for, and how the pieces of a statement or an expression are put together. The value of a
piece of syntax is then a recursion over the tree, with no walk, no scopes carried along and no
count of levels.

The recursion goes through all of the syntax. What a walk over the globals leaves out is marked as
`hidden`: the decorators of classes, the options of a dynamic import, and the two forms that no
program has, a member access that a declaration binds and an optional chain without a link. -/

namespace DepTriage.JavaScript

/-- What syntax comes to in the domain `α`. The pieces of a node are appended from left to
right. -/
structure Interpretation (α : Type) where
  nothing : α
  append : α → α → α
  /-- A statement or an expression, given what its parts come to. -/
  node : α → α
  /-- A scope that binds names. -/
  scope : List String → α → α
  /-- A bare name. -/
  reference : String → Access → α
  /-- A member chain, and whether it is the direct target of an assignment. -/
  chain : List String → Bool → α
  /-- Syntax that is not visited. -/
  hidden : α → α
  append_assoc : ∀ a b c, append (append a b) c = append a (append b c)
  append_nothing : ∀ a, append a nothing = a

def Expr.isOperator : Expr → Bool
  | .binary _ _ | .logical _ _ => true
  | _ => false

namespace Interpretation

variable {α : Type}

mutual

/-- What the parts of an expression come to. -/
def exprParts (A : Interpretation α) : Expr → α
  | .identifier n => A.reference n .read
  | .string _ => A.nothing
  | .constant => A.nothing
  | .array es => A.elements es
  | .object ps => A.properties ps
  | .function f => A.function true f
  | .arrow f => A.function false f
  | .classExpr c => A.class c
  | .template parts => A.exprs parts
  | .taggedTemplate tag parts => A.append (A.node (A.exprParts tag)) (A.exprs parts)
  | .member object key =>
    match object.memberChain? key with
    | some chain => A.chain chain false
    | none => A.append (A.node (A.exprParts object)) (A.key key)
  | .call callee args => A.append (A.node (A.exprParts callee)) (A.elements args)
  | .construct callee args => A.append (A.node (A.exprParts callee)) (A.elements args)
  | .chain e =>
    match e with
    | .call _ _ => A.exprParts e
    | .member _ _ => A.exprParts e
    | _ => A.hidden (A.exprParts e)
  | .dynamicImport source options =>
    A.append (A.node (A.exprParts source)) (A.hidden (A.optExpr options))
  | .unary e => A.node (A.exprParts e)
  | .update p => A.target false p
  | .await e => A.node (A.exprParts e)
  | .yield e => A.optExpr e
  -- An operator on the left continues the chain, so it is no node of its own.
  | .binary l r =>
    A.append (if l.isOperator then A.exprParts l else A.node (A.exprParts l))
      (A.node (A.exprParts r))
  | .logical l r =>
    A.append (if l.isOperator then A.exprParts l else A.node (A.exprParts l))
      (A.node (A.exprParts r))
  | .privateIn e => A.node (A.exprParts e)
  | .conditional t c a =>
    A.append (A.node (A.exprParts t))
      (A.append (A.node (A.exprParts c)) (A.node (A.exprParts a)))
  | .assign p e => A.append (A.target true p) (A.node (A.exprParts e))
  | .sequence es => A.exprs es
  | .paren e => A.node (A.exprParts e)

def exprs (A : Interpretation α) : List Expr → α
  | [] => A.nothing
  | e :: es => A.append (A.node (A.exprParts e)) (A.exprs es)

def optExpr (A : Interpretation α) : Option Expr → α
  | none => A.nothing
  | some e => A.node (A.exprParts e)

def element (A : Interpretation α) : Element → α
  | .hole => A.nothing
  | .item e => A.node (A.exprParts e)
  | .spread e => A.node (A.exprParts e)

def elements (A : Interpretation α) : List Element → α
  | [] => A.nothing
  | e :: es => A.append (A.element e) (A.elements es)

def property (A : Interpretation α) : Property → α
  | .keyed k e => A.append (A.key k) (A.node (A.exprParts e))
  | .spread e => A.node (A.exprParts e)

def properties (A : Interpretation α) : List Property → α
  | [] => A.nothing
  | p :: ps => A.append (A.property p) (A.properties ps)

def key (A : Interpretation α) : Key → α
  | .name _ => A.nothing
  | .computed e => A.node (A.exprParts e)
  | .privateName _ => A.nothing

/-- The default values and computed keys of a binding pattern. -/
def binding (A : Interpretation α) : Pattern → α
  | .name _ => A.nothing
  | .member object key => A.hidden (A.append (A.node (A.exprParts object)) (A.key key))
  | .object fields => A.bindingFields fields
  | .array items => A.bindingItems items
  | .withDefault p e => A.append (A.binding p) (A.node (A.exprParts e))
  | .rest p => A.binding p

def bindingFields (A : Interpretation α) : List Field → α
  | [] => A.nothing
  | .keyed k p :: fs => A.append (A.key k) (A.append (A.binding p) (A.bindingFields fs))
  | .rest p :: fs => A.append (A.binding p) (A.bindingFields fs)

def bindingItems (A : Interpretation α) : List (Option Pattern) → α
  | [] => A.nothing
  | none :: ps => A.bindingItems ps
  | some p :: ps => A.append (A.binding p) (A.bindingItems ps)

def bindings (A : Interpretation α) : List Pattern → α
  | [] => A.nothing
  | p :: ps => A.append (A.binding p) (A.bindings ps)

def optBinding (A : Interpretation α) : Option Pattern → α
  | none => A.nothing
  | some p => A.binding p

/-- The target of an assignment. -/
def target (A : Interpretation α) (direct : Bool) : Pattern → α
  | .name n => A.reference n (if direct then .readWrite else .read)
  | .member object key =>
    match object.memberChain? key with
    | some chain => A.chain chain direct
    | none => A.append (A.node (A.exprParts object)) (A.key key)
  | .object fields => A.targetFields fields
  | .array items => A.targetItems items
  | .withDefault p e => A.append (A.target false p) (A.node (A.exprParts e))
  | .rest p => A.target false p

def targetFields (A : Interpretation α) : List Field → α
  | [] => A.nothing
  | .keyed k p :: fs => A.append (A.key k) (A.append (A.target false p) (A.targetFields fs))
  | .rest p :: fs => A.append (A.target false p) (A.targetFields fs)

def targetItems (A : Interpretation α) : List (Option Pattern) → α
  | [] => A.nothing
  | none :: ps => A.targetItems ps
  | some p :: ps => A.append (A.target false p) (A.targetItems ps)

/-- A function, whose own name it may bind itself. -/
def function (A : Interpretation α) (ownName : Bool) : Function → α
  | .mk name ps body =>
    A.scope ((if ownName then name.toList else []) ++ Pattern.listNames ps ++ bodyNames body)
      (A.append (A.bindings ps) (A.stmts body))

def «class» (A : Interpretation α) : Class → α
  | .mk decorators name heritage members =>
    A.append (A.hidden (A.exprs decorators))
      (A.scope name.toList (A.append (A.optExpr heritage) (A.classMembers members)))

def classMember (A : Interpretation α) : ClassMember → α
  | .method decorators k f =>
    A.append (A.hidden (A.exprs decorators)) (A.append (A.key k) (A.function false f))
  | .field decorators k value =>
    A.append (A.hidden (A.exprs decorators)) (A.append (A.key k) (A.optExpr value))
  | .staticBlock body => A.scope (bodyNames body) (A.stmts body)

def classMembers (A : Interpretation α) : List ClassMember → α
  | [] => A.nothing
  | m :: ms => A.append (A.classMember m) (A.classMembers ms)

def declarator (A : Interpretation α) : Declarator → α
  | .mk p init => A.append (A.binding p) (A.optExpr init)

def declarators (A : Interpretation α) : List Declarator → α
  | [] => A.nothing
  | d :: ds => A.append (A.declarator d) (A.declarators ds)

def declaration (A : Interpretation α) : Declaration → α
  | .variableList _ ds => A.declarators ds
  | .function f => A.function false f
  | .classDecl c => A.class c

def forInit (A : Interpretation α) : ForInit → α
  | .none => A.nothing
  | .declare _ ds => A.declarators ds
  | .expr e => A.node (A.exprParts e)

def forLeft (A : Interpretation α) : ForLeft → α
  | .declare _ ds => A.declarators ds
  | .target p => A.target false p

def switchCase (A : Interpretation α) : SwitchCase → α
  | .mk test body => A.append (A.optExpr test) (A.stmts body)

def switchCases (A : Interpretation α) : List SwitchCase → α
  | [] => A.nothing
  | c :: cs => A.append (A.switchCase c) (A.switchCases cs)

def catchClause (A : Interpretation α) : CatchClause → α
  | .mk parameter body =>
    A.scope (Pattern.listNames parameter.toList)
      (A.append (A.optBinding parameter) (A.scope (lexicalNames body) (A.stmts body)))

def optCatchClause (A : Interpretation α) : Option CatchClause → α
  | none => A.nothing
  | some c => A.catchClause c

/-- What the parts of a statement come to. -/
def stmtParts (A : Interpretation α) : Stmt → α
  | .inert => A.nothing
  | .block body => A.scope (lexicalNames body) (A.stmts body)
  | .expr e => A.node (A.exprParts e)
  | .declare d => A.declaration d
  | .ifElse t c a =>
    A.append (A.node (A.exprParts t)) (A.append (A.node (A.stmtParts c)) (A.optStmt a))
  | .forLoop init test update body =>
    A.scope init.lexicalNames (A.append (A.forInit init) (A.append (A.optExpr test)
      (A.append (A.optExpr update) (A.node (A.stmtParts body)))))
  | .forEach left right body =>
    A.scope left.lexicalNames (A.append (A.forLeft left)
      (A.append (A.node (A.exprParts right)) (A.node (A.stmtParts body))))
  | .while t body => A.append (A.node (A.exprParts t)) (A.node (A.stmtParts body))
  | .doWhile body t => A.append (A.node (A.stmtParts body)) (A.node (A.exprParts t))
  | .return e => A.optExpr e
  | .throw e => A.node (A.exprParts e)
  | .tryCatch body handler finalizer =>
    A.append (A.scope (lexicalNames body) (A.stmts body))
      (A.append (A.optCatchClause handler) (A.optBlock finalizer))
  | .switch e cases =>
    A.append (A.node (A.exprParts e))
      (A.scope (SwitchCase.lexicalNames cases) (A.switchCases cases))
  | .labeled s => A.node (A.stmtParts s)
  | .with e s => A.append (A.node (A.exprParts e)) (A.node (A.stmtParts s))
  | .importNames _ => A.nothing
  | .exportDecl d => A.declaration d
  | .exportNames names =>
    names.foldr (fun n rest => A.append (A.reference n .read) rest) A.nothing
  | .exportDefault e => A.node (A.exprParts e)
  | .exportDefaultDecl d => A.declaration d

def stmts (A : Interpretation α) : List Stmt → α
  | [] => A.nothing
  | s :: ss => A.append (A.node (A.stmtParts s)) (A.stmts ss)

def optStmt (A : Interpretation α) : Option Stmt → α
  | none => A.nothing
  | some s => A.node (A.stmtParts s)

/-- A block of its own, such as that of `finally`. -/
def optBlock (A : Interpretation α) : Option (List Stmt) → α
  | none => A.nothing
  | some body => A.scope (lexicalNames body) (A.stmts body)

end

def expr (A : Interpretation α) (e : Expr) : α :=
  A.node (A.exprParts e)

def stmt (A : Interpretation α) (s : Stmt) : α :=
  A.node (A.stmtParts s)

/-- A chain of operators, as the left side of a longer one: it is no node of its own. -/
def operators (A : Interpretation α) (e : Expr) : α :=
  if e.isOperator then A.exprParts e else A.expr e

/-- A member access. -/
def member (A : Interpretation α) (object : Expr) (key : Key) (assigned : Bool) : α :=
  match object.memberChain? key with
  | some chain => A.chain chain assigned
  | none => A.append (A.expr object) (A.key key)

/-- A statement list with a scope of its own. -/
def block (A : Interpretation α) (body : List Stmt) : α :=
  A.scope (lexicalNames body) (A.stmts body)

def program (A : Interpretation α) (p : Program) : α :=
  A.scope (bodyNames p.body) (A.stmts p.body)

end Interpretation

end DepTriage.JavaScript
