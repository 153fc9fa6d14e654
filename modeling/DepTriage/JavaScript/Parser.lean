import DepTriage.JavaScript.Parser.Statement

/-! # Reading JavaScript programs

The rules of the grammar tied together, and the reading of a whole source text. Only the grammar
is checked: declaring a name twice, a misplaced `super` or what strict mode forbids are no
errors. -/

namespace DepTriage.JavaScript

open JavaScript.Parser in
/-- The rules with `n` levels of recursion left. -/
def grammar : Nat → {α : Type} → Rule α → Context → Parser α
  | 0, _, _, _ => failure
  | n + 1, _, .assignment, c => assignment (grammar n) c
  | n + 1, _, .unary, c => unary (grammar n) c
  | n + 1, _, .binary level, c => binary (grammar n) c level
  | n + 1, _, .leftHandSide, c => leftHandSide (grammar n) c
  | n + 1, _, .construct, c => construct (grammar n) c
  | n + 1, _, .binding, c => binding (grammar n) c
  | n + 1, _, .statement position, c => statement (grammar n) c position

namespace Program

open JavaScript.Parser in
/-- The statements up to the end of the text. -/
def statements (c : Context) : Parser (List Stmt) :=
  repeated c do
    if (← token) == .endOfText then return none
    return some (← statement (grammar (2 * c.size)) c .inList)

/-- Reads a program; `none` if it breaks the grammar. Every rule that calls itself consumes a
character on at least every second level, so the length of the text bounds the recursion. No name
may be exported twice. -/
def parse? (goal : Goal) (source : String) : Option Program := do
  let chars := source.toList
  let c : Context := { goal, size := chars.length + 8, awaitOperator := goal == .module }
  let (body, cursor) ← (statements c).run { lexeme := Lexeme.first goal chars }
  if cursor.exported.eraseDups.length == cursor.exported.length then
    return ⟨Parser.dropDirectives body⟩
  else none

end Program

end DepTriage.JavaScript
