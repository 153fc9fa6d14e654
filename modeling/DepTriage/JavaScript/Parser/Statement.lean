import DepTriage.JavaScript.Parser.Expression
import DepTriage.JavaScript.Scope

/-! # Statements, declarations and modules

Imports and exports are read wherever a statement may stand, in scripts as in modules. -/

namespace DepTriage.JavaScript.Parser

/-- Notes that names are exported. -/
def noteExports (names : List String) : Parser Unit :=
  modify fun s => { s with exported := names ++ s.exported }

def parenthesized (rules : Grammar) (c : Context) : Parser Expr := do
  expectPunct c "("
  let e ← expression rules (bracketed c)
  expectPunct c ")"
  return e

/-- The statement that another one holds. -/
def body (rules : Grammar) (c : Context) : Parser Stmt :=
  rules (.statement .single) c

/-! ## Variable declarations -/

/-- The words that start a variable declaration. -/
inductive VariableWord where
  | var
  | letWord
  | const
  | using
deriving DecidableEq

def VariableWord.kind : VariableWord → VariableKind
  | .var => .hoisted
  | _ => .lexical

/-- Whether a declarator may stand before `of` or `in`: `using` declares plain names only. -/
def VariableWord.binds (w : VariableWord) : Declarator → Bool
  | .mk p _ => p.isName || w != .using

/-- Whether a declarator may stand in the head of a loop with semicolons: a pattern needs an initial
value, and so does a name declared by `const`. -/
def VariableWord.starts (w : VariableWord) : Declarator → Bool
  | .mk p value => w.binds (.mk p value) && (value.isSome || (p.isName && w != .const))

/-- Whether a declarator may stand in a statement, where `using` needs an initial value too. -/
def VariableWord.allows (w : VariableWord) : Declarator → Bool
  | .mk p value => w.starts (.mk p value) && (value.isSome || w != .using)

def declarator (rules : Grammar) (c : Context) : Parser Declarator := do
  let p ← binding rules c
  if ← eatPunct c "=" then return .mk p (some (← value rules c))
  return .mk p none

def declarators (rules : Grammar) (c : Context) : Parser (List Declarator) := do
  let first ← declarator rules c
  let more ← repeated c do
    if ← eatPunct c "," then return some (← declarator rules c)
    return none
  return first :: more

/-- The declarators of a variable statement and its end, after the word that starts it. -/
def variableList (rules : Grammar) (c : Context) (w : VariableWord) : Parser Declaration := do
  let ds ← declarators rules c
  guardThat (ds.all w.allows)
  semicolon c
  return .variableList w.kind ds

/-- Whether `using` starts a declaration: a name follows on its line. -/
def usingDeclares (next : Lexeme) : Bool :=
  next.token.isNameWord && !next.afterNewline

/-- Whether `await` starts a declaration: `using` and a name follow on its line. -/
def awaitUsingDeclares (c : Context) (next : Lexeme) : Bool :=
  next.token.isKeyword "using" && !next.afterNewline
    && usingDeclares (Lexeme.after c.goal false next.rest)

/-- Whether `let` starts a declaration, by the token after it. -/
def letDeclares (position : Position) (c : Context) (next : Token) : Bool :=
  let isOperator := (binaryOperator? { c with inOperator := true } next).isSome
    || (assignmentOperator? next).isSome
  !(isOperator || next.isPunct "." || next.isPunct "(" || next.isPunct ";"
    || (position == .single && !next.isPunct "["))

/-- Whether `let` starts a declaration in the head of a loop. -/
def letDeclaresInHead : Token → Bool
  | .word w _ => w != "in"
  | .punct p => p == "[" || p == "\x7b"
  | _ => false

/-! ## Functions and classes -/

/-- A function declaration from the word `function` on; `needsName` unless it is a default
export. -/
def functionDeclaration (rules : Grammar) (c : Context) (async needsName : Bool) :
    Parser (Function × Bool) := do
  expectKeyword c "function"
  let generator ← eatPunct c "*"
  let n ← if (← token).isNameWord then some <$> name c else pure none
  guardThat (n.isSome || !needsName)
  return (← functionRest rules c async generator n, generator)

/-- A function declaration as a statement. In the place of a single statement it may be neither
async nor a generator. -/
def functionStatement (rules : Grammar) (c : Context) (position : Position) (async : Bool) :
    Parser Stmt := do
  let (f, generator) ← functionDeclaration rules c async true
  guardThat (position == .inList || !(async || generator))
  return .declare (.function f)

/-! ## Loops -/

/-- The body of a loop over `left`, from the operator on. -/
def forEachRest (rules : Grammar) (c : Context) (awaits : Bool) (left : ForLeft) :
    Parser Stmt := do
  if ← eatKeyword c "of" then
    let right ← value rules (bracketed c)
    expectPunct c ")"
    return .forEach left right (← body rules c)
  guardThat !awaits
  expectKeyword c "in"
  let right ← expression rules (bracketed c)
  expectPunct c ")"
  return .forEach left right (← body rules c)

/-- The rest of a loop head with semicolons, from the first of them on. -/
def forLoopRest (rules : Grammar) (c : Context) (awaits : Bool) (init : ForInit) :
    Parser Stmt := do
  guardThat !awaits
  let inside := bracketed c
  expectPunct inside ";"
  let test ← if ← atPunct ";" then pure none else some <$> expression rules inside
  expectPunct inside ";"
  let update ← if ← atPunct ")" then pure none else some <$> expression rules inside
  expectPunct inside ")"
  return .forLoop init test update (← body rules c)

/-- A loop whose head declares variables, after the word that starts the declaration. -/
def forVariables (rules : Grammar) (c : Context) (awaits : Bool) (w : VariableWord) :
    Parser Stmt := do
  let ds ← declarators rules { c with inOperator := false }
  let t ← token
  if t.isKeyword "of" || t.isKeyword "in" then
    guardThat (ds.all w.binds && (t.isKeyword "of" || w != .using))
    forEachRest rules c awaits (.declare w.kind ds)
  else
    guardThat (ds.all w.starts)
    forLoopRest rules c awaits (.declare w.kind ds)

/-- A loop whose head starts with an expression. -/
def forExpression (rules : Grammar) (c : Context) (awaits : Bool) : Parser Stmt := do
  let start ← token
  let next ← lookahead c
  let outside := { c with inOperator := false }
  let first ← assignment rules outside
  let t ← token
  if t.isKeyword "of" || t.isKeyword "in" then
    let bare := next.token.isKeyword "of" && t.isKeyword "of"
    guardThat (!(bare && (start.isKeyword "let" || (start.isKeyword "async" && !awaits))))
    forEachRest rules c awaits (.target (← ofOption (first.assignable true)))
  else
    let e ← ofOption first.expr
    if t.isPunct "," then
      let more ← repeated c do
        if ← eatPunct c "," then return some (← value rules outside)
        return none
      forLoopRest rules c awaits (.expr (.sequence (e :: more)))
    else forLoopRest rules c awaits (.expr e)

def forStatement (rules : Grammar) (c : Context) : Parser Stmt := do
  advance c
  let awaits ← eatKeyword c "await"
  guardThat (!awaits || c.awaitOperator)
  expectPunct c "("
  let start ← token
  let next ← lookahead c
  if start.isPunct ";" then return ← forLoopRest rules c awaits .none
  if start.isKeyword "var" then
    advance c
    return ← forVariables rules c awaits .var
  if start.isKeyword "const" then
    advance c
    return ← forVariables rules c awaits .const
  if start.isKeyword "let" && letDeclaresInHead next.token then
    advance c
    return ← forVariables rules c awaits .letWord
  if start.isKeyword "using" && usingDeclares next && !next.token.isKeyword "of" then
    advance c
    return ← forVariables rules c awaits .using
  if start.isKeyword "await" && awaitUsingDeclares c next then
    advance c
    advance c
    return ← forVariables rules c awaits .using
  forExpression rules c awaits

/-! ## Imports and exports -/

/-- A name in an import or export list: a word, or a string of whole characters. -/
inductive ModuleName where
  | word (name : String)
  | string (text : String)

def ModuleName.text : ModuleName → String
  | .word w => w
  | .string s => s

def moduleName (c : Context) : Parser ModuleName := do
  match ← token with
  | .word w _ => advance c; return .word w
  | .string s => advance c; return .string s
  | _ => failure

/-- `with {type: "json"}` after a source, whose keys must differ. -/
def importAttributes (c : Context) : Parser Unit := do
  let l ← lexeme
  if l.token.isKeyword "with" || (l.token.isKeyword "assert" && !l.afterNewline) then
    advance c
    expectPunct c "\x7b"
    let keys ← list c "\x7d" do
      let k ← moduleName c
      expectPunct c ":"
      let _ ← string c
      return k.text
    guardThat (keys.eraseDups.length == keys.length)

/-- The source of an import or export, with the end of the statement. -/
def sourceEnd (c : Context) : Parser Unit := do
  let _ ← string c
  importAttributes c
  semicolon c

/-- One entry of an import list, given by the name it binds. -/
def importSpecifier (c : Context) : Parser String := do
  let start ← token
  let imported ← moduleName c
  if ← eatKeyword c "as" then return ← name c
  match imported with
  | .word _ => ofOption (start.name? c)
  | .string _ => failure

/-- What follows the default name in an import: a namespace or a list, with the names it binds. -/
def importedNames (c : Context) : Parser (List String) := do
  if ← eatPunct c "*" then
    expectKeyword c "as"
    return [← name c]
  expectPunct c "\x7b"
  list c "\x7d" (importSpecifier { c with awaitOperator := false, yieldOperator := false })

/-- The names that an import binds, up to its source. -/
def importClause (c : Context) : Parser (List String) := do
  if (← token).isNameWord then
    let first ← name c
    if ← eatPunct c "," then return first :: (← importedNames c)
    return [first]
  importedNames c

def importDeclaration (c : Context) : Parser Stmt := do
  advance c
  match ← token with
  | .string _ =>
    sourceEnd c
    return .importNames []
  | t =>
    let next ← lookahead c
    let phase := (t.isKeyword "defer" && next.token.isPunct "*")
      || (t.isKeyword "source" && next.token.isNameWord
        && (!next.token.isKeyword "from"
          || (Lexeme.after c.goal false next.rest).token.isKeyword "from"))
    if phase then advance c
    let locals ← importClause c
    expectKeyword c "from"
    sourceEnd c
    return .importNames locals

/-- Words that may not be exported from a module's own scope. -/
def unexportable (w : String) : Bool :=
  reservedWords.contains w || ["implements", "interface", "package", "private", "protected",
    "public", "static"].contains w

def exportSpecifier (c : Context) : Parser (ModuleName × String) := do
  let localName ← moduleName c
  if ← eatKeyword c "as" then return (localName, (← moduleName c).text)
  return (localName, localName.text)

/-- An export list with its source, after its opening brace. -/
def exportList (c : Context) : Parser Stmt := do
  let specifiers ← list c "\x7d" (exportSpecifier c)
  noteExports (specifiers.map (·.2))
  if ← eatKeyword c "from" then
    sourceEnd c
    return .inert
  let locals ← ofOption (specifiers.mapM fun
    | (.word w, _) => if unexportable w then none else some w
    | (.string _, _) => none)
  semicolon c
  return .exportNames locals

/-- `export * from`, after the star. -/
def exportAll (c : Context) : Parser Stmt := do
  if ← eatKeyword c "as" then noteExports [(← moduleName c).text]
  expectKeyword c "from"
  sourceEnd c
  return .inert

/-- Whether the word `async` starts a function: `function` follows on its line. -/
def asyncFunction (start : Token) (next : Lexeme) : Bool :=
  start.isKeyword "async" && next.token.isKeyword "function" && !next.afterNewline

def exportDefault (rules : Grammar) (c : Context) (marks : List Expr) : Parser Stmt := do
  noteExports ["default"]
  let start ← token
  let next ← lookahead c
  if start.isPunct "@" || start.isKeyword "class" then
    let marks := marks ++ (← decorators rules c)
    return .exportDefaultDecl (.classDecl (← classRest rules c marks))
  guardThat marks.isEmpty
  if start.isKeyword "function" then
    return .exportDefaultDecl (.function (← functionDeclaration rules c false false).1)
  if asyncFunction start next then
    advance c
    return .exportDefaultDecl (.function (← functionDeclaration rules c true false).1)
  let r ← assignment rules c
  let e ← ofOption r.expr
  semicolon c
  return .exportDefault e

/-- The declaration after `export`. -/
def exportedDeclaration (rules : Grammar) (c : Context) (marks : List Expr) :
    Parser Declaration := do
  let start ← token
  let next ← lookahead c
  if start.isPunct "@" || start.isKeyword "class" then
    let marks := marks ++ (← decorators rules c)
    return .classDecl (← classRest rules c marks)
  guardThat marks.isEmpty
  if start.isKeyword "function" then
    return .function (← functionDeclaration rules c false true).1
  if asyncFunction start next then
    advance c
    return .function (← functionDeclaration rules c true true).1
  if ← eatKeyword c "var" then return ← variableList rules c .var
  if ← eatKeyword c "const" then return ← variableList rules c .const
  expectKeyword c "let"
  variableList rules c .letWord

/-- The names that an exported declaration exports. -/
def exportedNames : Declaration → List String
  | .variableList _ ds => Declarator.listNames ds
  | .function f => f.name.toList
  | .classDecl d => d.name.toList

def exportDeclaration (rules : Grammar) (c : Context) (marks : List Expr) : Parser Stmt := do
  advance c
  if ← eatKeyword c "default" then return ← exportDefault rules c marks
  if marks.isEmpty then
    if ← eatPunct c "*" then return ← exportAll c
    if ← eatPunct c "\x7b" then return ← exportList c
  let d ← exportedDeclaration rules c marks
  noteExports (exportedNames d)
  return .exportDecl d

/-! ## Statements -/

def ifStatement (rules : Grammar) (c : Context) : Parser Stmt := do
  advance c
  let test ← parenthesized rules c
  let consequent ← body rules c
  if ← eatKeyword c "else" then return .ifElse test consequent (some (← body rules c))
  return .ifElse test consequent none

def doWhileStatement (rules : Grammar) (c : Context) : Parser Stmt := do
  advance c
  let repeatedBody ← body rules c
  expectKeyword c "while"
  let test ← parenthesized rules c
  let _ ← eatPunct c ";"
  return .doWhile repeatedBody test

def whileStatement (rules : Grammar) (c : Context) : Parser Stmt := do
  advance c
  let test ← parenthesized rules c
  return .while test (← body rules c)

def withStatement (rules : Grammar) (c : Context) : Parser Stmt := do
  advance c
  let e ← parenthesized rules c
  return .with e (← body rules c)

/-- `break` and `continue`, with a label on their line. -/
def jumpStatement (c : Context) : Parser Stmt := do
  advance c
  if !((← atPunct ";") || (← atStatementEnd)) then
    let _ ← name c
  semicolon c
  return .inert

def returnStatement (rules : Grammar) (c : Context) : Parser Stmt := do
  guardThat c.inFunction
  advance c
  if (← atPunct ";") || (← atStatementEnd) then
    semicolon c
    return .return none
  let e ← expression rules (bracketed c)
  semicolon c
  return .return (some e)

def throwStatement (rules : Grammar) (c : Context) : Parser Stmt := do
  advance c
  guardThat (!(← lexeme).afterNewline)
  let e ← expression rules (bracketed c)
  semicolon c
  return .throw e

def switchCase (rules : Grammar) (c : Context) : Parser SwitchCase := do
  let test ←
    if ← eatKeyword c "case" then some <$> expression rules (bracketed c)
    else
      expectKeyword c "default"
      pure none
  expectPunct c ":"
  let consequent ← repeated c do
    let t ← token
    if t.isKeyword "case" || t.isKeyword "default" || t.isPunct "\x7d" then return none
    return some (← rules (.statement .inList) c)
  return .mk test consequent

def switchStatement (rules : Grammar) (c : Context) : Parser Stmt := do
  advance c
  let e ← parenthesized rules c
  expectPunct c "\x7b"
  let cases ← repeated c do
    if ← eatPunct c "\x7d" then return none
    return some (← switchCase rules c)
  return .switch e cases

def block (rules : Grammar) (c : Context) : Parser (List Stmt) := do
  expectPunct c "\x7b"
  blockBody rules c

def catchClause (rules : Grammar) (c : Context) : Parser CatchClause := do
  if ← eatPunct c "(" then
    let p ← binding rules c
    expectPunct c ")"
    return .mk (some p) (← block rules c)
  return .mk none (← block rules c)

def tryStatement (rules : Grammar) (c : Context) : Parser Stmt := do
  advance c
  let tried ← block rules c
  let handler ← if ← eatKeyword c "catch" then some <$> catchClause rules c else pure none
  let finalizer ← if ← eatKeyword c "finally" then some <$> block rules c else pure none
  guardThat (handler.isSome || finalizer.isSome)
  return .tryCatch tried handler finalizer

def expressionStatement (rules : Grammar) (c : Context) : Parser Stmt := do
  let e ← expression rules (bracketed c)
  match e with
  | .identifier _ =>
    if ← eatPunct c ":" then return .labeled (← body rules c)
    semicolon c
    return .expr e
  | _ =>
    semicolon c
    return .expr e

/-- A class, or an exported one, after decorators. -/
def decoratedStatement (rules : Grammar) (c : Context) (position : Position) : Parser Stmt := do
  let marks ← decorators rules c
  if ← atKeyword "export" then return ← exportDeclaration rules c marks
  guardThat (position == .inList)
  return .declare (.classDecl (← classRest rules c marks))

/-- A statement that starts with a word. -/
def wordStatement (rules : Grammar) (c : Context) (position : Position) (word : String) :
    Parser Stmt := do
  match word with
  | "if" => ifStatement rules c
  | "do" => doWhileStatement rules c
  | "while" => whileStatement rules c
  | "for" => forStatement rules c
  | "continue" | "break" => jumpStatement c
  | "with" => withStatement rules c
  | "switch" => switchStatement rules c
  | "throw" => throwStatement rules c
  | "try" => tryStatement rules c
  | "return" => returnStatement rules c
  | "function" => functionStatement rules c position false
  | "export" => exportDeclaration rules c []
  | "debugger" =>
    advance c
    semicolon c
    return .inert
  | "class" =>
    guardThat (position == .inList)
    return .declare (.classDecl (← classRest rules c []))
  | "var" =>
    advance c
    return .declare (← variableList rules c .var)
  | "const" =>
    guardThat (position == .inList)
    advance c
    return .declare (← variableList rules c .const)
  | _ =>
    let l ← lexeme
    let next ← lookahead c
    if word == "let" && letDeclares position c next.token then
      guardThat (position == .inList)
      advance c
      return .declare (← variableList rules c .letWord)
    if asyncFunction l.token next then
      advance c
      return ← functionStatement rules c position true
    if word == "import" && !(next.token.isPunct "(" || next.token.isPunct ".") then
      return ← importDeclaration c
    if word == "using" && usingDeclares next then
      guardThat (position == .inList)
      advance c
      return .declare (← variableList rules c .using)
    if word == "await" && awaitUsingDeclares c next then
      guardThat (position == .inList)
      advance c
      advance c
      return .declare (← variableList rules c .using)
    expressionStatement rules c

def statement (rules : Grammar) (c : Context) (position : Position) : Parser Stmt := do
  match ← token with
  | .punct p =>
    match p with
    | "\x7b" =>
      advance c
      return .block (← blockBody rules c)
    | ";" =>
      advance c
      return .inert
    | "@" => decoratedStatement rules c position
    | _ => expressionStatement rules c
  | .word w false => wordStatement rules c position w
  | _ => expressionStatement rules c

end DepTriage.JavaScript.Parser
