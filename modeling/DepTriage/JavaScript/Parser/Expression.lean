import DepTriage.JavaScript.Parser.Basic

/-! # Expressions, patterns, functions and classes

The rules of expressions from the primary ones up to the assignment, with the functions and
classes that they hold. Every rule takes the grammar of the level below as `rules`. -/

namespace DepTriage.JavaScript.Parser

/-! ## Contexts -/

/-- Inside brackets of any kind `in` is an operator. -/
def bracketed (c : Context) : Context :=
  { c with inOperator := true, inDecorator := false }

def functionContext (c : Context) (async generator : Bool) : Context :=
  { bracketed c with awaitOperator := async, yieldOperator := generator, inFunction := true }

/-- An assignment expression that is no pattern. -/
def value (rules : Grammar) (c : Context) : Parser Expr := do
  ofOption (← rules .assignment c).expr

/-! ## Binding patterns -/

/-- A pattern with its default value, if it has one. -/
def bindingElement (rules : Grammar) (c : Context) : Parser Pattern := do
  let p ← rules .binding c
  if ← eatPunct c "=" then
    return .withDefault p (← value rules (bracketed c))
  return p

/-- The key of a property: a word, a string, a number, or an expression in brackets. -/
def key (rules : Grammar) (c : Context) : Parser Key := do
  match ← token with
  | .word w _ => advance c; return .name w
  | .string s => advance c; return .name s
  | .number => advance c; return .name ""
  | .privateName n => advance c; return .privateName n
  | _ =>
    expectPunct c "["
    let e ← value rules (bracketed c)
    expectPunct c "]"
    return .computed e

def arrayPatternItem (rules : Grammar) (c : Context) : Parser (Option Pattern) := do
  if ← atPunct "," then return none
  if ← eatPunct c "..." then
    let p ← rules .binding c
    guardThat (← atPunct "]")
    return some (.rest p)
  return some (← bindingElement rules c)

def objectPatternField (rules : Grammar) (c : Context) : Parser Field := do
  if ← eatPunct c "..." then
    let n ← name c
    guardThat (← atPunct "\x7d")
    return .rest (.name n)
  let start ← token
  let k ← key rules c
  if ← eatPunct c ":" then return .keyed k (← bindingElement rules c)
  let n ← ofOption (start.name? c)
  if ← eatPunct c "=" then
    return .keyed k (.withDefault (.name n) (← value rules (bracketed c)))
  return .keyed k (.name n)

/-- A name or a pattern in brackets or braces, without default value. -/
def binding (rules : Grammar) (c : Context) : Parser Pattern := do
  if ← eatPunct c "[" then return .array (← list c "]" (arrayPatternItem rules c))
  if ← eatPunct c "\x7b" then return .object (← list c "\x7d" (objectPatternField rules c))
  return .name (← name c)

/-! ## Functions -/

def parameter (rules : Grammar) (c : Context) : Parser Pattern := do
  if ← eatPunct c "..." then
    let p ← rules .binding c
    guardThat (← atPunct ")")
    return .rest p
  bindingElement rules c

/-- The statements of a block, after its opening brace and with its closing one. -/
def blockBody (rules : Grammar) (c : Context) : Parser (List Stmt) :=
  repeated c do
    if ← eatPunct c "\x7d" then return none
    return some (← rules (.statement .inList) c)

/-- Drops the directives that a function or program starts with. -/
def dropDirectives : List Stmt → List Stmt
  | .expr (.string _) :: body => dropDirectives body
  | body => body

def functionBody (rules : Grammar) (c : Context) : Parser (List Stmt) := do
  expectPunct c "\x7b"
  return dropDirectives (← blockBody rules c)

/-- A function from its parameter list on. -/
def functionRest (rules : Grammar) (c : Context) (async generator : Bool) (name : Option String) :
    Parser Function := do
  let inside := functionContext c async generator
  expectPunct inside "("
  let parameters ← list inside ")" (parameter rules inside)
  return .mk name parameters (← functionBody rules inside)

/-- A function expression after `async`, from the word `function` on. Its name is read as inside
it. -/
def functionExpression (rules : Grammar) (c : Context) (async : Bool) : Parser Expr := do
  expectKeyword c "function"
  let generator ← eatPunct c "*"
  let inside := { c with awaitOperator := async, yieldOperator := generator }
  let n ← if (← token).isNameWord then some <$> name inside else pure none
  return .function (← functionRest rules c async generator n)

/-- Which method is being read, as far as its parameters are restricted. -/
inductive MethodKind where
  | plain
  | getter
  | setter
deriving DecidableEq

/-- A getter takes no parameter and a setter exactly one. -/
def MethodKind.allows : MethodKind → List Pattern → Bool
  | .plain, _ => true
  | .getter, ps => ps.isEmpty
  | .setter, [.rest _] => false
  | .setter, [_] => true
  | .setter, _ => false

def method (rules : Grammar) (c : Context) (kind : MethodKind) (async generator : Bool) :
    Parser Function := do
  let f ← functionRest rules c async generator none
  guardThat (kind.allows f.parameters)
  return f

/-- The body of an arrow function, after its parameters: the arrow must stand on their line. -/
def arrowRest (rules : Grammar) (c : Context) (async : Bool) (parameters : List Pattern) :
    Parser Reading := do
  let l ← lexeme
  guardThat (l.token.isPunct "=>" && !l.afterNewline)
  let inside := { c with awaitOperator := async, yieldOperator := false }
  advance inside
  if ← atPunct "\x7b" then
    let body ← functionBody rules (functionContext c async false)
    return .ofExpr (.arrow (.mk none parameters body))
  return .ofExpr (.arrow (.mk none parameters [.expr (← value rules inside)]))

/-! ## Literals with parts -/

def coverItem (rules : Grammar) (c : Context) : Parser CoverItem := do
  if ← eatPunct c "..." then return ⟨true, ← rules .assignment c⟩
  return ⟨false, ← rules .assignment c⟩

/-- What stands between parentheses, after the opening one. -/
def group (rules : Grammar) (c : Context) : Parser CoverGroup := do
  let inside := bracketed c
  let (items, comma) ← listReverse c ")" (coverItem rules inside) c.size [] false
  return ⟨items.reverse, comma⟩

def arguments (rules : Grammar) (c : Context) : Parser (List Element) := do
  ofOption (← group rules c).arguments

def arrayItem (rules : Grammar) (c : Context) : Parser (Option CoverItem) := do
  if ← atPunct "," then return none
  return some (← coverItem rules c)

/-- An array literal after its opening bracket. -/
def array (rules : Grammar) (c : Context) : Parser Reading := do
  let (items, comma) ← listReverse c "]" (arrayItem rules (bracketed c)) c.size [] false
  return .ofArray items comma

/-- A property of an object literal that is not a method. -/
def plainProperty (rules : Grammar) (c : Context) : Parser Reading.ObjectItem := do
  let start ← token
  let k ← key rules c
  if ← atPunct "(" then
    return .ofProperty (.keyed k (.function (← method rules c .plain false false)))
  if ← eatPunct c ":" then return .keyed k (← rules .assignment c)
  let n ← ofOption (start.name? c)
  if ← eatPunct c "=" then return .shorthandDefault n (← value rules c)
  return .shorthand n

/-- A method of an object literal, from its key on. -/
def objectMethod (rules : Grammar) (c : Context) (kind : MethodKind) (async generator : Bool) :
    Parser Reading.ObjectItem := do
  let k ← key rules c
  match k with
  | .privateName _ => failure
  | _ => pure ()
  return .ofProperty (.keyed k (.function (← method rules c kind async generator)))

def objectItem (rules : Grammar) (c : Context) : Parser Reading.ObjectItem := do
  let start ← token
  match start with
  | .privateName _ => failure
  | _ =>
    let next ← lookahead c
    if ← eatPunct c "..." then return .spread (← rules .assignment c)
    if ← eatPunct c "*" then return ← objectMethod rules c .plain false true
    if start.isKeyword "async" && !next.afterNewline
        && (next.token.startsKey || next.token.isPunct "*") then
      advance c
      let generator ← eatPunct c "*"
      return ← objectMethod rules c .plain true generator
    if start.isKeyword "get" && next.token.startsKey then
      advance c
      return ← objectMethod rules c .getter false false
    if start.isKeyword "set" && next.token.startsKey then
      advance c
      return ← objectMethod rules c .setter false false
    plainProperty rules c

/-- An object literal after its opening brace. -/
def object (rules : Grammar) (c : Context) : Parser Reading := do
  let (items, comma) ← listReverse c "\x7d" (objectItem rules (bracketed c)) c.size [] false
  return .ofObject items comma

/-- An expression in the widest sense: assignments separated by commas. -/
def expression (rules : Grammar) (c : Context) : Parser Expr := do
  let first ← value rules c
  if ← atPunct "," then
    let more ← repeated c do
      if ← eatPunct c "," then return some (← value rules c)
      return none
    return .sequence (first :: more)
  return first

/-- The pieces of a template from the text `chars` on, with the expressions so far in reverse; a
template with a tag may hold malformed escapes. -/
def templateParts (rules : Grammar) (c : Context) (tagged : Bool) :
    (count : Nat) → List Char → List Expr → Parser (List Expr)
  | 0, _, _ => failure
  | count + 1, chars, parts => do
    let (wellFormed, ending, rest) ← ofOption (templateChunk chars true)
    guardThat (wellFormed || tagged)
    setLexeme (Lexeme.after c.goal false rest)
    match ending with
    | .backquote => return parts.reverse
    | .substitution =>
      let e ← expression rules (bracketed c)
      let l ← lexeme
      guardThat (l.token.isPunct "\x7d")
      templateParts rules c tagged count l.rest (e :: parts)

/-- A template from its opening backquote on. -/
def template (rules : Grammar) (c : Context) (tagged : Bool) : Parser (List Expr) := do
  templateParts rules c tagged c.size (← lexeme).rest []

/-! ## Classes -/

def decorators (rules : Grammar) (c : Context) : Parser (List Expr) :=
  repeated c do
    if ← eatPunct c "@" then
      return some (← ofOption (← rules .leftHandSide { c with inDecorator := true }).expr)
    return none

/-- The name that a class member bears, if its key is a word or a string. -/
def memberName : Token → Option String
  | .word w _ => some w
  | .string s => some s
  | _ => none

/-- The restrictions on the names of methods: `constructor` may be no accessor, generator or async
function, `prototype` no static method, and `#constructor` nothing at all. -/
def allowsMethod (start : Token) (isStatic isPlain : Bool) : Bool :=
  match start with
  | .privateName n => n != "constructor"
  | _ =>
    match memberName start with
    | some "constructor" => isStatic || isPlain
    | some "prototype" => !isStatic
    | _ => true

/-- The restrictions on the names of fields. -/
def allowsField (start : Token) (isStatic : Bool) : Bool :=
  match start with
  | .privateName n => n != "constructor"
  | _ =>
    match memberName start with
    | some "constructor" => false
    | some "prototype" => !isStatic
    | _ => true

def classMethod (rules : Grammar) (c : Context) (decorators : List Expr)
    (isStatic : Bool) (kind : MethodKind) (async generator : Bool) : Parser ClassMember := do
  let start ← token
  let k ← key rules c
  guardThat (allowsMethod start isStatic (kind == .plain && !async && !generator))
  return .method decorators k (← method rules c kind async generator)

/-- A field from its key on. Its value is computed outside any generator or async function. -/
def classField (rules : Grammar) (c : Context) (decorators : List Expr) (isStatic : Bool)
    (start : Token) (k : Key) : Parser ClassMember := do
  guardThat (allowsField start isStatic)
  let inside := { bracketed c with awaitOperator := false, yieldOperator := false }
  let e ← if ← eatPunct c "=" then some <$> value rules inside else pure none
  semicolon c
  return .field decorators k e

/-- A member of a class after its decorators and `static`. -/
def classElement (rules : Grammar) (c : Context) (decorators : List Expr) (isStatic : Bool) :
    Parser ClassMember := do
  let start ← token
  let next ← lookahead c
  if ← eatPunct c "*" then
    return ← classMethod rules c decorators isStatic .plain false true
  if start.isKeyword "async" && !next.afterNewline
      && (next.token.startsKey || next.token.isPunct "*") then
    advance c
    let generator ← eatPunct c "*"
    return ← classMethod rules c decorators isStatic .plain true generator
  if start.isKeyword "get" && next.token.startsKey then
    advance c
    return ← classMethod rules c decorators isStatic .getter false false
  if start.isKeyword "set" && next.token.startsKey then
    advance c
    return ← classMethod rules c decorators isStatic .setter false false
  if start.isKeyword "accessor" && !next.afterNewline && next.token.startsKey then
    advance c
    let start ← token
    let k ← key rules c
    return ← classField rules c decorators isStatic start k
  let k ← key rules c
  if ← atPunct "(" then
    guardThat (allowsMethod start isStatic true)
    return .method decorators k (← method rules c .plain false false)
  classField rules c decorators isStatic start k

def classMember (rules : Grammar) (c : Context) : Parser ClassMember := do
  let marks ← decorators rules c
  if ← atKeyword "static" then
    let next ← lookahead c
    if next.token.isPunct "\x7b" then
      advance c
      advance c
      let inside := { bracketed c with
        awaitOperator := true, yieldOperator := false, inFunction := false }
      return .staticBlock (← blockBody rules inside)
    if next.token.startsKey || next.token.isPunct "*" then
      advance c
      return ← classElement rules c marks true
  classElement rules c marks false

/-- A class from the word `class` on. -/
def classRest (rules : Grammar) (c : Context) (marks : List Expr) : Parser Class := do
  expectKeyword c "class"
  let n ← if (← token).isNameWord then some <$> name c else pure none
  let heritage ←
    if ← eatKeyword c "extends" then
      some <$> ofOption (← rules .leftHandSide c).expr
    else pure none
  expectPunct c "\x7b"
  let inside := { c with inDecorator := false }
  let members ← repeated c do
    if ← eatPunct c "\x7d" then return none
    if ← eatPunct c ";" then return some none
    return some (some (← classMember rules inside))
  return .mk marks n heritage (members.filterMap id)

/-! ## Primary expressions -/

/-- `import(source, options)`, from the parenthesis on. -/
def importCall (rules : Grammar) (c : Context) : Parser Expr := do
  let inside := bracketed c
  expectPunct c "("
  let source ← value rules inside
  if ← eatPunct c "," then
    if ← eatPunct c ")" then return .dynamicImport source none
    let options ← value rules inside
    let _ ← eatPunct c ","
    expectPunct c ")"
    return .dynamicImport source (some options)
  expectPunct c ")"
  return .dynamicImport source none

/-- What may follow the word `import` in an expression. -/
def importExpression (rules : Grammar) (c : Context) : Parser Expr := do
  if ← eatPunct c "." then
    if ← eatKeyword c "meta" then return .constant
    if ← eatKeyword c "source" then return ← importCall rules c
    expectKeyword c "defer"
    importCall rules c
  else importCall rules c

/-- A word in the place of an expression: a keyword that starts one, or a name. -/
def wordExpression (rules : Grammar) (c : Context) (word : String) : Parser Reading := do
  match word with
  | "this" | "null" | "true" | "false" =>
    advance c
    return .ofExpr .constant
  | "function" => return .ofExpr (← functionExpression rules c false)
  | "class" => return .ofExpr (.classExpr (← classRest rules c []))
  | "new" =>
    advance c
    rules .construct c
  | "super" =>
    advance c
    let t ← token
    guardThat (t.isPunct "." || t.isPunct "[" || t.isPunct "(")
    return .ofExpr .constant
  | "import" =>
    advance c
    return .ofExpr (← importExpression rules c)
  | _ =>
    let next ← lookahead c
    if word == "async" && next.token.isKeyword "function" && !next.afterNewline then
      advance c
      return .ofExpr (← functionExpression rules c true)
    return .ofName (← name c)

def primary (rules : Grammar) (c : Context) : Parser Reading := do
  match ← token with
  | .word w escaped => if escaped then return .ofName (← name c) else wordExpression rules c w
  | .number => advance c; return .ofExpr .constant
  | .string s => advance c; return .ofExpr (.string s)
  | .template => return .ofExpr (.template (← template rules c false))
  | .punct p =>
    match p with
    | "(" =>
      advance c
      ofOption (← group rules c).paren
    | "[" =>
      advance c
      array rules c
    | "\x7b" =>
      advance c
      object rules c
    | "@" =>
      let marks ← decorators rules c
      return .ofExpr (.classExpr (← classRest rules c marks))
    | "/" | "/=" =>
      setLexeme (← ofOption (← lexeme).regexAfter)
      advance c
      return .ofExpr .constant
    | _ => failure
  | _ => failure

/-! ## Accesses and calls -/

/-- The name after a dot. -/
def dotKey (c : Context) : Parser Key := do
  match ← token with
  | .privateName n => advance c; return .privateName n
  | _ => return .name (← anyWord c)

/-- The key in brackets after an object, after the opening bracket. -/
def bracketKey (rules : Grammar) (c : Context) : Parser Key := do
  let e ← expression rules (bracketed c)
  expectPunct c "]"
  return .computed e

/-- Which suffixes an operand may take. -/
structure SuffixRules where
  calls : Bool
  optional : Bool

/-- The accesses and calls after an object, in order; `inChain` tells whether one of them was
optional. -/
def suffixes (rules : Grammar) (c : Context) (allowed : SuffixRules) :
    (count : Nat) → Expr → (inChain : Bool) → Parser (Expr × Bool)
  | 0, _, _ => failure
  | count + 1, e, inChain => do
    match ← token with
    | .template =>
      guardThat (!inChain)
      let parts ← template rules c true
      suffixes rules c allowed count (.taggedTemplate e parts) inChain
    | .punct p =>
      match p with
      | "." =>
        advance c
        let k ← dotKey c
        suffixes rules c allowed count (.member e k) inChain
      | "[" =>
        if c.inDecorator then return (e, inChain)
        advance c
        let k ← bracketKey rules c
        suffixes rules c allowed count (.member e k) inChain
      | "(" =>
        if !allowed.calls then return (e, inChain)
        advance c
        let args ← arguments rules c
        suffixes rules c allowed count (.call e args) inChain
      | "?." =>
        guardThat allowed.optional
        advance c
        if ← eatPunct c "(" then
          let args ← arguments rules c
          suffixes rules c allowed count (.call e args) true
        else if !c.inDecorator && (← eatPunct c "[") then
          let k ← bracketKey rules c
          suffixes rules c allowed count (.member e k) true
        else
          let k ← dotKey c
          suffixes rules c allowed count (.member e k) true
      | _ => return (e, inChain)
    | _ => return (e, inChain)

/-- Whether a token continues an operand. -/
def startsSuffix (c : Context) (allowed : SuffixRules) : Token → Bool
  | .template => true
  | .punct p => p == "." || p == "?." || (p == "[" && !c.inDecorator) || (p == "(" && allowed.calls)
  | _ => false

/-- An operand from its first part on, with its accesses and calls. -/
def withSuffixes (rules : Grammar) (c : Context) (allowed : SuffixRules) (first : Reading) :
    Parser Reading := do
  if !startsSuffix c allowed (← token) then return first
  let (e, inChain) ← suffixes rules c allowed c.size (← ofOption first.expr) false
  if inChain then return .ofExpr (.chain e)
  match e with
  | .member o k => return .ofMember o k
  | _ => return .ofExpr e

def leftHandSide (rules : Grammar) (c : Context) : Parser Reading := do
  withSuffixes rules c ⟨true, true⟩ (← primary rules c)

/-- What follows `new`: `.target`, or an operand without calls and then the arguments. -/
def construct (rules : Grammar) (c : Context) : Parser Reading := do
  if ← eatPunct c "." then
    expectKeyword c "target"
    return .ofExpr .constant
  let start ← token
  let callee ← withSuffixes rules c ⟨false, false⟩ (← primary rules c)
  let e ← ofOption callee.expr
  match e with
  | .dynamicImport _ _ => guardThat (!start.isKeyword "import")
  | _ => pure ()
  if ← eatPunct c "(" then return .ofExpr (.construct e (← arguments rules c))
  guardThat (!(← atPunct "?."))
  return .ofExpr (.construct e [])

/-! ## Operators -/

/-- An operand with `++` or `--` after it, if they stand on its line. -/
def postfixed (rules : Grammar) (c : Context) (first : Reading) : Parser Operand := do
  let r ← withSuffixes rules c ⟨true, true⟩ first
  let l ← lexeme
  if (l.token.isPunct "++" || l.token.isPunct "--") && !l.afterNewline then
    let p ← ofOption (r.assignable false)
    advance c
    return { reading := .ofExpr (.update p) }
  return { reading := r }

def unary (rules : Grammar) (c : Context) : Parser Operand := do
  let t ← token
  if t.isPunct "++" || t.isPunct "--" then
    advance c
    let operand ← rules .unary c
    return { reading := .ofExpr (.update (← ofOption (operand.reading.assignable false))) }
  if t.isPunct "+" || t.isPunct "-" || t.isPunct "!" || t.isPunct "~" || t.isKeyword "delete"
      || t.isKeyword "void" || t.isKeyword "typeof" then
    advance c
    let operand ← rules .unary c
    return ⟨.ofExpr (.unary (← ofOption operand.reading.expr)), .unary⟩
  if c.awaitOperator && t.isKeyword "await" then
    advance c
    let operand ← rules .unary c
    return ⟨.ofExpr (.await (← ofOption operand.reading.expr)), .unary⟩
  postfixed rules c (← primary rules c)

/-- The operators between two operands. -/
inductive BinaryOperator where
  | coalesce
  | andOr
  | exponent
  | other
deriving DecidableEq

/-- How tightly a binary operator binds, and what else the grammar asks of it. -/
def binaryOperator? (c : Context) : Token → Option (Nat × BinaryOperator)
  | .punct p =>
    match p with
    | "??" => some (1, .coalesce)
    | "||" => some (2, .andOr)
    | "&&" => some (3, .andOr)
    | "|" => some (4, .other)
    | "^" => some (5, .other)
    | "&" => some (6, .other)
    | "==" | "!=" | "===" | "!==" => some (7, .other)
    | "<" | ">" | "<=" | ">=" => some (8, .other)
    | "<<" | ">>" | ">>>" => some (9, .other)
    | "+" | "-" => some (10, .other)
    | "*" | "/" | "%" => some (11, .other)
    | "**" => some (12, .exponent)
    | _ => none
  | .word w false =>
    if w == "instanceof" || (w == "in" && c.inOperator) then some (8, .other) else none
  | _ => none

/-- Operators that bind tighter than `level`, after the operand on their left; only `**` groups to
the right. -/
def binaryRest (rules : Grammar) (c : Context) (level : Nat) :
    (count : Nat) → Operand → (inParens : Bool) → Parser Operand
  | 0, _, _ => failure
  | count + 1, left, inParens => do
    match binaryOperator? c (← token) with
    | none => return left
    | some (binds, op) =>
      if binds < level || (binds == level && op != .exponent) then return left
      advance c
      let right ← rules (.binary binds) c
      let l ← ofOption left.reading.expr
      let r ← ofOption right.reading.expr
      match op with
      | .coalesce =>
        guardThat (left.form != .andOr && right.form != .andOr)
        binaryRest rules c level count ⟨.ofExpr (.logical l r), .plain⟩ false
      | .andOr => binaryRest rules c level count ⟨.ofExpr (.logical l r), .andOr⟩ false
      | .exponent =>
        guardThat (inParens || left.form != .unary)
        binaryRest rules c level count ⟨.ofExpr (.binary l r), .plain⟩ false
      | .other => binaryRest rules c level count ⟨.ofExpr (.binary l r), .plain⟩ false

/-- Operators that bind tighter than `level`, with their operands. -/
def binary (rules : Grammar) (c : Context) (level : Nat) : Parser Operand := do
  match ← token with
  | .privateName _ =>
    guardThat (c.inOperator && level < 8)
    advance c
    expectKeyword c "in"
    let right ← rules (.binary 8) c
    let r ← ofOption right.reading.expr
    binaryRest rules c level c.size ⟨.ofExpr (.privateIn r), .plain⟩ false
  | _ =>
    let inParens ← atPunct "("
    binaryRest rules c level c.size (← unary rules c) inParens

/-! ## Assignments -/

/-- Whether a token is `=` (`some true`) or another assignment operator (`some false`). -/
def assignmentOperator? : Token → Option Bool
  | .punct p =>
    match p with
    | "=" => some true
    | "+=" | "-=" | "*=" | "/=" | "%=" | "**=" | "<<=" | ">>=" | ">>>=" | "&=" | "|=" | "^="
    | "&&=" | "||=" | "??=" => some false
    | _ => none
  | _ => none

/-- An assignment or a conditional, after its first operand. Only `=` may assign to a pattern. -/
def assignmentRest (rules : Grammar) (c : Context) (left : Reading) : Parser Reading := do
  let t ← token
  match assignmentOperator? t with
  | some plain =>
    let p ← ofOption (left.assignable plain)
    advance c
    let e ← value rules c
    if plain then return .ofAssign left p e
    return .ofExpr (.assign p e)
  | none =>
    if t.isPunct "?" then
      let test ← ofOption left.expr
      advance c
      let consequent ← value rules { c with inOperator := true }
      expectPunct c ":"
      return .ofExpr (.conditional test consequent (← value rules c))
    return left

/-- `yield`, with what it yields. -/
def yieldRest (rules : Grammar) (c : Context) : Parser Reading := do
  advance c
  let l ← lexeme
  if l.afterNewline then return .ofExpr (.yield none)
  if ← eatPunct c "*" then return .ofExpr (.yield (some (← value rules c)))
  let ends := match l.token with
    | .endOfText => true
    | .punct p => [")", "]", "\x7d", ":", ",", ";"].contains p
    | t => t.isKeyword "in"
  if ends then return .ofExpr (.yield none)
  return .ofExpr (.yield (some (← value rules c)))

/-- An expression that starts with an operand whose first part is read already. -/
def afterPrimary (rules : Grammar) (c : Context) (first : Reading) (inParens : Bool) :
    Parser Reading := do
  let operand ← postfixed rules c first
  let operand ← binaryRest rules c 0 c.size operand inParens
  assignmentRest rules c operand.reading

/-- An arrow function or an operand in parentheses, after the opening one. -/
def groupOrArrow (rules : Grammar) (c : Context) : Parser Reading := do
  let g ← group rules c
  if ← atPunct "=>" then return ← arrowRest rules c false (← ofOption g.parameters)
  afterPrimary rules c (← ofOption g.paren) true

/-- The parenthesized parameters of an async arrow function, or else arguments, after the word
`async`. -/
def asyncGroup (rules : Grammar) (c : Context) : Parser (CoverGroup × Bool) := do
  expectPunct c "("
  let g ← group rules { c with awaitOperator := true }
  return (g, ← atPunct "=>")

/-- An expression that starts with `async` and a parenthesis on its line. Parameters are read with
`await` as an operator; if no arrow follows them, the text is read again as a call. Dots and a name
right after the parenthesis are taken for a rest parameter, so an arrow has to follow them. -/
def asyncCallOrArrow (rules : Grammar) (c : Context) : Parser Reading := do
  let start ← get
  advance c
  let inside ← lookahead c
  match (asyncGroup rules c).run (← get) with
  | some ((g, true), reached) =>
    set reached
    arrowRest rules c true (← ofOption g.parameters)
  | some ((g, false), reached) =>
    let afterInside := Lexeme.after c.goal false inside.rest
    guardThat (!(inside.token.isPunct "..." && afterInside.token.isNameWord))
    if c.awaitOperator then
      set reached
      let args ← ofOption g.arguments
      afterPrimary rules c (.ofExpr (.call (.identifier "async") args)) false
    else
      set start
      afterPrimary rules c (← primary rules c) false
  | none =>
    set start
    afterPrimary rules c (← primary rules c) false

/-- An arrow function with one bare parameter. -/
def nameArrow (rules : Grammar) (c : Context) (async : Bool) : Parser Reading := do
  let n ← name { c with awaitOperator := c.awaitOperator || async }
  arrowRest rules c async [.name n]

def operators (rules : Grammar) (c : Context) : Parser Reading := do
  let operand ← binary rules c 0
  assignmentRest rules c operand.reading

def assignment (rules : Grammar) (c : Context) : Parser Reading := do
  let l ← lexeme
  match l.token with
  | .word w escaped =>
    if w == "yield" && c.yieldOperator then
      guardThat (!escaped)
      return ← yieldRest rules c
    let next ← lookahead c
    if next.token.isPunct "=>" && l.token.isNameWord then return ← nameArrow rules c false
    if w == "async" && !escaped && !next.afterNewline then
      if next.token.isPunct "(" then return ← asyncCallOrArrow rules c
      let afterNext := Lexeme.after c.goal false next.rest
      if next.token.isNameWord && afterNext.token.isPunct "=>" then
        advance c
        return ← nameArrow rules c true
    operators rules c
  | .punct "(" =>
    advance c
    groupOrArrow rules c
  | _ => operators rules c

end DepTriage.JavaScript.Parser
