import DepTriage.JavaScript.Syntax

/-! # Declared names

The names that a piece of syntax binds, collected from a whole scope before its body is read, so
that a reference standing before its declaration still resolves to it.

* `Pattern.names` are the names a pattern binds.
* `hoistedNames` are the `var` and function names that a statement list gives to the enclosing
  function or program, reached through statement nesting alone.
* `lexicalNames` are the names a statement list binds in its own block.
* `bodyNames` are both, for the body of a function, program or static block. -/

namespace DepTriage.JavaScript

mutual

/-- The names a pattern binds, in order. -/
def Pattern.names : Pattern → List String
  | .name n => [n]
  | .member _ _ => []
  | .object fields => Field.listNames fields
  | .array items => Pattern.itemNames items
  | .withDefault p _ => p.names
  | .rest p => p.names

def Field.listNames : List Field → List String
  | [] => []
  | .keyed _ p :: fs => p.names ++ Field.listNames fs
  | .rest p :: fs => p.names ++ Field.listNames fs

def Pattern.itemNames : List (Option Pattern) → List String
  | [] => []
  | none :: ps => Pattern.itemNames ps
  | some p :: ps => p.names ++ Pattern.itemNames ps

end

/-- The names bound by a list of parameters. -/
def Pattern.listNames (ps : List Pattern) : List String :=
  ps.flatMap Pattern.names

def Declarator.names : Declarator → List String
  | .mk p _ => p.names

/-- The names bound by a list of declarators. -/
def Declarator.listNames (ds : List Declarator) : List String :=
  ds.flatMap Declarator.names

def Declaration.hoistedNames : Declaration → List String
  | .variableList .hoisted ds => Declarator.listNames ds
  | .variableList .lexical _ => []
  | .function f => f.name.toList
  | .classDecl _ => []

/-- The names that a declaration binds in its own block. -/
def Declaration.lexicalNames : Declaration → List String
  | .variableList .hoisted _ => []
  | .variableList .lexical ds => Declarator.listNames ds
  | .function f => f.name.toList
  | .classDecl c => c.name.toList

/-- The names of a `var` declaration in a `for` head, which are hoisted. -/
def ForInit.hoistedNames : ForInit → List String
  | .declare .hoisted ds => Declarator.listNames ds
  | _ => []

/-- The names of a `let`, `const` or `using` declaration in a `for` head. -/
def ForInit.lexicalNames : ForInit → List String
  | .declare .lexical ds => Declarator.listNames ds
  | _ => []

def ForLeft.hoistedNames : ForLeft → List String
  | .declare .hoisted ds => Declarator.listNames ds
  | _ => []

def ForLeft.lexicalNames : ForLeft → List String
  | .declare .lexical ds => Declarator.listNames ds
  | _ => []

mutual

/-- Adds to `names` those that a statement gives to the enclosing function or program. -/
def Stmt.addHoisted : Stmt → List String → List String
  | .declare d, names => d.hoistedNames ++ names
  | .exportDecl d, names => d.hoistedNames ++ names
  | .block b, names => Stmt.listAddHoisted b names
  | .ifElse _ c a, names => Stmt.optAddHoisted a (c.addHoisted names)
  -- A `var` in a `for` head is hoisted past the loop like one in its body.
  | .forLoop init _ _ b, names => b.addHoisted (init.hoistedNames ++ names)
  | .forEach left _ b, names => b.addHoisted (left.hoistedNames ++ names)
  | .while _ b, names => b.addHoisted names
  | .doWhile b _, names => b.addHoisted names
  | .labeled b, names => b.addHoisted names
  | .with _ b, names => b.addHoisted names
  | .tryCatch b h f, names =>
    Stmt.optListAddHoisted f (CatchClause.optAddHoisted h (Stmt.listAddHoisted b names))
  | .switch _ cs, names => SwitchCase.listAddHoisted cs names
  -- Functions and classes keep the names of their bodies to themselves.
  | .inert, names | .expr _, names | .return _, names | .throw _, names | .importNames _, names
  | .exportNames _, names | .exportDefault _, names | .exportDefaultDecl _, names => names

def Stmt.listAddHoisted : List Stmt → List String → List String
  | [], names => names
  | s :: ss, names => Stmt.listAddHoisted ss (s.addHoisted names)

def Stmt.optAddHoisted : Option Stmt → List String → List String
  | none, names => names
  | some s, names => s.addHoisted names

def Stmt.optListAddHoisted : Option (List Stmt) → List String → List String
  | none, names => names
  | some ss, names => Stmt.listAddHoisted ss names

def CatchClause.optAddHoisted : Option CatchClause → List String → List String
  | none, names => names
  | some (.mk _ b), names => Stmt.listAddHoisted b names

def SwitchCase.listAddHoisted : List SwitchCase → List String → List String
  | [], names => names
  | .mk _ b :: cs, names => SwitchCase.listAddHoisted cs (Stmt.listAddHoisted b names)

end

/-- The `var` and function names that a statement list gives to the enclosing function or
program. -/
def hoistedNames (body : List Stmt) : List String :=
  Stmt.listAddHoisted body []

/-- The names that one statement binds in the block it stands in. -/
def Stmt.lexicalNames : Stmt → List String
  | .declare d => d.lexicalNames
  -- An exported function is hoisted, so it is not bound a second time.
  | .exportDecl (.function _) => []
  | .exportDecl d => d.lexicalNames
  | .exportDefaultDecl d => d.lexicalNames
  | .importNames locals => locals
  | _ => []

/-- The names that a statement list binds in its own block. -/
def lexicalNames (body : List Stmt) : List String :=
  body.flatMap Stmt.lexicalNames

/-- The names that a `switch` binds: those of all its cases together. -/
def SwitchCase.lexicalNames (cases : List SwitchCase) : List String :=
  cases.flatMap fun | .mk _ body => JavaScript.lexicalNames body

/-- Everything that the body of a function, program or static block binds at its top level. -/
def bodyNames (body : List Stmt) : List String :=
  hoistedNames body ++ lexicalNames body

end DepTriage.JavaScript
