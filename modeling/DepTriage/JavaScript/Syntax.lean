/-! # JavaScript syntax

The syntax tree of a program, with as much detail as the reading of its globals needs: names,
member accesses, binding structure and the nesting of statements and expressions are kept, the
values of literals other than strings and the spelling of operators are not.

Patterns serve both binding positions (`let {a} = b`, parameters) and assignment targets
(`[a.b] = c`); only in a target may a pattern be a member access. -/

namespace DepTriage.JavaScript

/-- How a variable declaration binds: `var` is hoisted to the enclosing function, while `let`,
`const` and `using` bind in the enclosing block. -/
inductive VariableKind where
  | hoisted
  | lexical
deriving DecidableEq, Repr, Inhabited

mutual

inductive Expr where
  | identifier (name : String)
  | string (value : String)
  /-- Any other literal, `this`, `super` and the meta properties: they mention no name. -/
  | constant
  | array (elements : List Element)
  | object (properties : List Property)
  | function (f : Function)
  | arrow (f : Function)
  | classExpr (c : Class)
  /-- A template, given by the expressions between its pieces of text. -/
  | template (parts : List Expr)
  | taggedTemplate (tag : Expr) (parts : List Expr)
  | member (object : Expr) (key : Key)
  | call (callee : Expr) (arguments : List Element)
  | construct (callee : Expr) (arguments : List Element)
  /-- The node around a whole optional chain such as `a?.b.c()`. -/
  | chain (element : Expr)
  | dynamicImport (source : Expr) (options : Option Expr)
  | unary (argument : Expr)
  | update (target : Pattern)
  | await (argument : Expr)
  | yield (argument : Option Expr)
  | binary (left right : Expr)
  | logical (left right : Expr)
  /-- `#name in right`. -/
  | privateIn (right : Expr)
  | conditional (test consequent alternate : Expr)
  | assign (target : Pattern) (value : Expr)
  | sequence (expressions : List Expr)
  | paren (inner : Expr)

/-- An element of an array literal or an argument of a call. -/
inductive Element where
  | hole
  | item (e : Expr)
  | spread (e : Expr)

inductive Property where
  | keyed (key : Key) (value : Expr)
  | spread (e : Expr)

/-- The name side of a member access, a property or a class member. -/
inductive Key where
  | name (text : String)
  | computed (e : Expr)
  | privateName (text : String)

inductive Pattern where
  | name (text : String)
  | member (object : Expr) (key : Key)
  | object (fields : List Field)
  | array (items : List (Option Pattern))
  | withDefault (target : Pattern) (default : Expr)
  /-- `...target`, last in an array pattern or a parameter list. -/
  | rest (target : Pattern)

/-- A property of an object pattern. -/
inductive Field where
  | keyed (key : Key) (value : Pattern)
  | rest (target : Pattern)

/-- A function of any kind. The body of an arrow `x => e` is the one statement `e`. -/
inductive Function where
  | mk (name : Option String) (parameters : List Pattern) (body : List Stmt)

inductive Class where
  | mk (decorators : List Expr) (name : Option String) (heritage : Option Expr)
      (members : List ClassMember)

inductive ClassMember where
  | method (decorators : List Expr) (key : Key) (f : Function)
  | field (decorators : List Expr) (key : Key) (value : Option Expr)
  | staticBlock (body : List Stmt)

inductive Declarator where
  | mk (target : Pattern) (init : Option Expr)

inductive Declaration where
  | variableList (kind : VariableKind) (declarators : List Declarator)
  | function (f : Function)
  | classDecl (c : Class)

/-- The first part of a `for (;;)` head. -/
inductive ForInit where
  | none
  | declare (kind : VariableKind) (declarators : List Declarator)
  | expr (e : Expr)

/-- The left side of a `for-in` or `for-of` head. -/
inductive ForLeft where
  | declare (kind : VariableKind) (declarators : List Declarator)
  | target (p : Pattern)

inductive SwitchCase where
  | mk (test : Option Expr) (body : List Stmt)

inductive CatchClause where
  | mk (parameter : Option Pattern) (body : List Stmt)

inductive Stmt where
  /-- A statement without parts that can mention a global: empty, `break`, `continue`,
  `debugger`, `export ... from`. -/
  | inert
  | block (body : List Stmt)
  | expr (e : Expr)
  | declare (d : Declaration)
  | ifElse (test : Expr) (consequent : Stmt) (alternate : Option Stmt)
  | forLoop (init : ForInit) (test update : Option Expr) (body : Stmt)
  /-- `for-in` and `for-of`. -/
  | forEach (left : ForLeft) (right : Expr) (body : Stmt)
  | while (test : Expr) (body : Stmt)
  | doWhile (body : Stmt) (test : Expr)
  | return (argument : Option Expr)
  | throw (argument : Expr)
  | tryCatch (body : List Stmt) (handler : Option CatchClause) (finalizer : Option (List Stmt))
  | switch (discriminant : Expr) (cases : List SwitchCase)
  | labeled (body : Stmt)
  | with (object : Expr) (body : Stmt)
  /-- An import, given by the local names it binds. -/
  | importNames (locals : List String)
  | exportDecl (d : Declaration)
  /-- `export {a, b as c}`, given by the local names it mentions. -/
  | exportNames (locals : List String)
  | exportDefault (e : Expr)
  | exportDefaultDecl (d : Declaration)

end

instance : Inhabited Expr := ⟨.constant⟩
instance : Inhabited Stmt := ⟨.inert⟩
instance : Inhabited Pattern := ⟨.name ""⟩

/-- A program is the list of its top-level statements; directives are not statements. -/
structure Program where
  body : List Stmt
deriving Inhabited

namespace Function

def name : Function → Option String
  | .mk n _ _ => n

def parameters : Function → List Pattern
  | .mk _ ps _ => ps

def body : Function → List Stmt
  | .mk _ _ b => b

end Function

def Class.name : Class → Option String
  | .mk _ n _ _ => n

end DepTriage.JavaScript
