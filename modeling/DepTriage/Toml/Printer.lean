import DepTriage.Text.Hex
import DepTriage.Text.Split

/-! # Writing TOML

A string is written in the plainest way that can hold it: between quotation marks or apostrophes, of
which there are one or three. An array of several items has an item on each line, and a table is a
section of its own. -/

namespace DepTriage.Toml

open Text (isInfix)

/-! ## Strings -/

/-- Whether a character can only be written as an escape. -/
def needsEscape (c : Char) : Bool :=
  (c.toNat < 0x20 && c != '\t' && c != '\n') || c == '\x7f'

/-- The escape of a character. -/
def escapeOf (c : Char) : List Char :=
  match c with
  | '\x08' => ['\\', 'b']
  | '\t' => ['\\', 't']
  | '\n' => ['\\', 'n']
  | '\x0c' => ['\\', 'f']
  | '\r' => ['\\', 'r']
  | '"' => ['\\', '"']
  | '\\' => ['\\', '\\']
  | c => '\\' :: 'u' :: (Text.hexLower 4 c.toNat).map Char.toUpper

/-- Writes characters between quotation marks, of which `quotes` have come just before. In a string
of several lines a newline stands as it is, and so do up to two marks in a row. -/
def escapeText (several : Bool) : List Char → (quotes : Nat) → List Char
  | [], _ => []
  | c :: cs, quotes =>
    if c == '"' then
      if several && quotes < 2 then c :: escapeText several cs (quotes + 1)
      else escapeOf c ++ escapeText several cs 0
    else if c == '\t' || c == '\\' || needsEscape c || (c == '\n' && !several) then
      escapeOf c ++ escapeText several cs 0
    else c :: escapeText several cs 0

/-- A string in quotation marks. -/
def basicText (cs : List Char) : List Char :=
  '"' :: (escapeText false cs 0 ++ ['"'])

/-- A text between three marks on each side. One for a string that holds a newline starts on a line
of its own. -/
def betweenMarks (mark : Char) (cs text : List Char) : List Char :=
  let marks := [mark, mark, mark]
  marks ++ (if cs.contains '\n' then ['\n'] else []) ++ text ++ marks

/-- A string in three quotation marks. -/
def severalLines (cs : List Char) : List Char :=
  betweenMarks '"' cs (escapeText true cs 0)

/-- A string in three apostrophes, in which nothing is escaped. -/
def literalText (cs : List Char) : List Char :=
  betweenMarks '\'' cs cs

/-- A string in the plainest way that can hold it. -/
def stringText (text : String) : List Char :=
  let cs := text.toList
  let escapes := cs.any needsEscape
  let backslash := cs.contains '\\'
  let newline := cs.contains '\n'
  if !escapes && !backslash && !newline && !cs.contains '"' then basicText cs
  else if !escapes && !newline && !cs.contains '\'' then '\'' :: (cs ++ ['\''])
  else if !escapes && !backslash && !isInfix ['"', '"', '"'] cs then severalLines cs
  else if !escapes && !isInfix ['\'', '\'', '\''] cs then literalText cs
  else if newline then severalLines cs
  else basicText cs

/-! ## Fields -/

/-- Strings in brackets: with a line for each if there are several. -/
def arrayText (items : List String) : List Char :=
  match items with
  | [] => "[]".toList
  | [item] => '[' :: (stringText item ++ [']'])
  | items =>
    "[\n".toList ++ (items.flatMap fun item => "    ".toList ++ stringText item ++ ",\n".toList)
      ++ [']']

/-- What a field of a section holds. -/
inductive FieldValue where
  | string (text : String)
  | natural (value : Nat)
  | strings (items : List String)
deriving DecidableEq, Repr

def FieldValue.text : FieldValue → List Char
  | string text => stringText text
  | natural n => (toString n).toList
  | strings items => arrayText items

/-- Lines of keys with their values. -/
def fieldsText (fields : List (String × FieldValue)) : List Char :=
  fields.flatMap fun (key, value) => key.toList ++ " = ".toList ++ value.text ++ ['\n']

/-- A section under its header, after an empty line. -/
def sectionText (name : String) (fields : List (String × FieldValue)) : List Char :=
  "\n[".toList ++ name.toList ++ "]\n".toList ++ fieldsText fields

end DepTriage.Toml
