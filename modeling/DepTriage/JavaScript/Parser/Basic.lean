import DepTriage.JavaScript.Reading
import DepTriage.JavaScript.Token

/-! # Reading tokens by the grammar

A `Parser` consumes tokens from a `Cursor` and either gives a result or fails; no reason is kept,
since every failure is the same syntax error. What the surroundings allow is passed down as a
`Context`.

The grammar is recursive, so each of its rules takes the `Grammar` of the rules one level further
down and calls it wherever a construct may hold others. -/

namespace DepTriage.JavaScript

/-- The place reached in a text: the token there, and the names exported so far. -/
structure Cursor where
  lexeme : Lexeme
  exported : List String := []

abbrev Parser := StateT Cursor Option

/-- What the surroundings of a construct allow. -/
structure Context where
  goal : Goal
  /-- A bound on the length of any list in the text. -/
  size : Nat
  /-- `in` is an operator. -/
  inOperator : Bool := true
  /-- `yield` is an operator and no name. -/
  yieldOperator : Bool := false
  /-- `await` is an operator and no name. -/
  awaitOperator : Bool := false
  /-- `return` may stand. -/
  inFunction : Bool := true
  /-- `[` ends the expression, as in `@name [key]() {}`. -/
  inDecorator : Bool := false

/-- Where a statement stands: in a statement list, or as the body of another statement, where
lexical declarations may not stand. -/
inductive Position where
  | inList
  | single
deriving DecidableEq

/-- How an operand of a binary operator was formed, as far as other operators ask for it. -/
inductive OperandForm where
  | plain
  /-- A unary operator or `await`, which may not stand left of `**`. -/
  | unary
  /-- `&&` or `||`, which may not be mixed with `??`. -/
  | andOr
deriving DecidableEq

structure Operand where
  reading : Reading
  form : OperandForm := .plain

/-- The rules that recursion goes through, with what each gives. -/
inductive Rule : Type → Type where
  | assignment : Rule Reading
  | unary : Rule Operand
  /-- Operators that bind tighter than the given level. -/
  | binary (level : Nat) : Rule Operand
  /-- An operand without operators: a primary expression with its accesses and calls. -/
  | leftHandSide : Rule Reading
  /-- What follows `new`. -/
  | construct : Rule Reading
  | binding : Rule Pattern
  | statement (position : Position) : Rule Stmt

/-- The rules of the level below. -/
abbrev Grammar := {α : Type} → Rule α → Context → Parser α

namespace Parser

def lexeme : Parser Lexeme := Cursor.lexeme <$> get

def token : Parser Token := (·.lexeme.token) <$> get

def setLexeme (l : Lexeme) : Parser Unit :=
  modify fun s => { s with lexeme := l }

/-- Moves on to the next token. -/
def advance (c : Context) : Parser Unit :=
  modify fun s => { s with lexeme := Lexeme.after c.goal false s.lexeme.rest }

/-- The token after the current one. -/
def lookahead (c : Context) : Parser Lexeme := do
  return Lexeme.after c.goal false (← lexeme).rest

def guardThat (b : Bool) : Parser Unit :=
  if b then pure () else failure

def ofOption {α : Type} : Option α → Parser α
  | some a => pure a
  | none => failure

end Parser

namespace Token

def isPunct (t : Token) (text : String) : Bool :=
  match t with
  | .punct p => p == text
  | _ => false

/-- Whether a token is a keyword, which must be spelt without escapes. -/
def isKeyword (t : Token) (text : String) : Bool :=
  match t with
  | .word w false => w == text
  | _ => false

/-- Whether a token can name a property or a class member. -/
def startsKey : Token → Bool
  | .word _ _ | .string _ | .number | .privateName _ => true
  | .punct p => p == "["
  | _ => false

end Token

namespace Parser

def atPunct (text : String) : Parser Bool := do return (← token).isPunct text

def atKeyword (text : String) : Parser Bool := do return (← token).isKeyword text

def eatPunct (c : Context) (text : String) : Parser Bool := do
  if ← atPunct text then advance c; return true
  return false

def eatKeyword (c : Context) (text : String) : Parser Bool := do
  if ← atKeyword text then advance c; return true
  return false

def expectPunct (c : Context) (text : String) : Parser Unit := do
  guardThat (← eatPunct c text)

def expectKeyword (c : Context) (text : String) : Parser Unit := do
  guardThat (← eatKeyword c text)

/-- Whether a statement may end here without a semicolon. -/
def atStatementEnd : Parser Bool := do
  let l ← lexeme
  return l.afterNewline || l.token.isPunct "\x7d" || l.token == .endOfText

/-- The end of a statement. -/
def semicolon (c : Context) : Parser Unit := do
  if ← eatPunct c ";" then return
  guardThat (← atStatementEnd)

end Parser

/-- The words that are never names. -/
def reservedWords : List String :=
  ["break", "case", "catch", "class", "const", "continue", "debugger", "default", "delete", "do",
   "else", "enum", "export", "extends", "false", "finally", "for", "function", "if", "import",
   "in", "instanceof", "new", "null", "return", "super", "switch", "this", "throw", "true", "try",
   "typeof", "var", "void", "while", "with"]

/-- Whether a word may name a variable here. -/
def Context.allowsName (c : Context) (name : String) : Bool :=
  !(reservedWords.contains name || (name == "await" && c.awaitOperator)
    || (name == "yield" && c.yieldOperator))

/-- The name of a variable that a token is. -/
def Token.name? (t : Token) (c : Context) : Option String :=
  match t with
  | .word w _ => if c.allowsName w then some w else none
  | _ => none

/-- Whether a token is a word that some context allows as a name. -/
def Token.isNameWord : Token → Bool
  | .word w _ => !reservedWords.contains w
  | _ => false

namespace Parser

/-- The name of a variable. -/
def name (c : Context) : Parser String := do
  let n ← ofOption ((← token).name? c)
  advance c
  return n

/-- A name of a property, which may be any word. -/
def anyWord (c : Context) : Parser String := do
  match ← token with
  | .word w _ => advance c; return w
  | _ => failure

def string (c : Context) : Parser String := do
  match ← token with
  | .string s => advance c; return s
  | _ => failure

/-- Repeats a step until it gives `none`, at most `count` times, and gives the results from last
to first. -/
def repeatReverse {α : Type} (step : Parser (Option α)) : (count : Nat) → List α → Parser (List α)
  | 0, _ => failure
  | count + 1, results => do
    match ← step with
    | none => return results
    | some a => repeatReverse step count (a :: results)

/-- Repeats a step until it gives `none`. -/
def repeated {α : Type} (c : Context) (step : Parser (Option α)) : Parser (List α) := do
  return (← repeatReverse step c.size []).reverse

/-- Items separated by commas up to a closing punctuator, which is consumed, given from last to
first, with whether a comma stood before the end. -/
def listReverse {α : Type} (c : Context) (close : String) (item : Parser α) :
    (count : Nat) → (items : List α) → (comma : Bool) → Parser (List α × Bool)
  | 0, _, _ => failure
  | count + 1, items, comma => do
    if ← eatPunct c close then return (items, comma)
    let a ← item
    if ← eatPunct c "," then listReverse c close item count (a :: items) true
    else
      expectPunct c close
      return (a :: items, false)

/-- Items separated by commas up to a closing punctuator; a comma may stand after the last. -/
def list {α : Type} (c : Context) (close : String) (item : Parser α) : Parser (List α) := do
  return (← listReverse c close item c.size [] false).1.reverse

end Parser

end DepTriage.JavaScript
