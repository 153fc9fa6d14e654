import DepTriage.Json.Basic
import DepTriage.Text.Hex

/-! # Writing JSON

Values are written with every item and every entry on a line of its own, indented by two spaces for
each collection around it. -/

namespace DepTriage.Json

/-- How a character stands in a string. -/
def escape (c : Char) : List Char :=
  match c with
  | '"' => ['\\', '"']
  | '\\' => ['\\', '\\']
  | '\x08' => ['\\', 'b']
  | '\x0c' => ['\\', 'f']
  | '\n' => ['\\', 'n']
  | '\r' => ['\\', 'r']
  | '\t' => ['\\', 't']
  | c => if c.toNat < 0x20 then '\\' :: 'u' :: Text.hexLower 4 c.toNat else [c]

/-- A string between its quotes. -/
def quoted (text : String) : List Char :=
  '"' :: (text.toList.flatMap escape ++ ['"'])

/-- The text of a number that is not written with digits alone. -/
def numberText (negative : Bool) (digits : Nat) (exponent : Int) : List Char :=
  (if negative then ['-'] else []) ++ (toString digits).toList
    ++ (if exponent = 0 then [] else 'e' :: (toString exponent).toList)

/-- A line break, and the indentation of the line after it. -/
def newline (depth : Nat) : List Char :=
  '\n' :: List.replicate (2 * depth) ' '

mutual

/-- A value inside of `depth` collections. -/
def print (depth : Nat) : Json → List Char
  | null => "null".toList
  | bool true => "true".toList
  | bool false => "false".toList
  | natural n => (toString n).toList
  | number negative digits exponent => numberText negative digits exponent
  | string text => quoted text
  | broken => "null".toList
  | array [] => ['[', ']']
  | array (item :: items) =>
    '[' :: (newline (depth + 1) ++ print (depth + 1) item
      ++ printItems (depth + 1) items ++ newline depth ++ [']'])
  | object [] => ['\x7b', '\x7d']
  | object ((key, value) :: entries) =>
    '\x7b' :: (newline (depth + 1) ++ quoted key ++ [':', ' '] ++ print (depth + 1) value
      ++ printEntries (depth + 1) entries ++ newline depth ++ ['\x7d'])

/-- The items after the first one, each after a comma. -/
def printItems (depth : Nat) : List Json → List Char
  | [] => []
  | item :: items => ',' :: (newline depth ++ print depth item ++ printItems depth items)

/-- The entries after the first one, each after a comma. -/
def printEntries (depth : Nat) : List (String × Json) → List Char
  | [] => []
  | (key, value) :: entries =>
    ',' :: (newline depth ++ quoted key ++ [':', ' '] ++ print depth value
      ++ printEntries depth entries)

end

/-- The text of a value. -/
def toText (value : Json) : String :=
  String.ofList (print 0 value)

end DepTriage.Json
