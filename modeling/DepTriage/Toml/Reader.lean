import DepTriage.Toml.Draft
import DepTriage.Toml.Lexeme

/-! # Reading TOML

A document is a table, written line by line: keys with values, and headers that say which table the
keys below them belong to. -/

namespace DepTriage.Toml

/-! ## Keys -/

def isBareKeyChar (c : Char) : Bool :=
  c.isAlphanum || c == '_' || c == '-'

/-- A key without dots: bare, or a string of one line. -/
def simpleKey? (cs : List Char) : Option (String × List Char) :=
  match cs with
  | '"' :: rest => basicString? rest .text []
  | '\'' :: rest => literalString? rest
  | cs =>
    let key := cs.takeWhile isBareKeyChar
    if key.isEmpty then none else some (String.ofList key, cs.dropWhile isBareKeyChar)

/-- The parts of a key between its dots, given a bound on their number. -/
def keyParts? : (bound : Nat) → List Char → Option (List String × List Char)
  | 0, _ => none
  | bound + 1, cs =>
    match simpleKey? (dropBlanks cs) with
    | none => none
    | some (part, rest) =>
      match dropBlanks rest with
      | '.' :: rest => (keyParts? bound rest).map fun (parts, rest) => (part :: parts, rest)
      | rest => some ([part], rest)

/-- How many parts a key may have, and how deep values may be nested. -/
def nestingLimit : Nat :=
  79

/-- A key with the path before its last part. -/
def key? (cs : List Char) : Option (List String × String × List Char) :=
  match keyParts? nestingLimit cs with
  | none => none
  | some (parts, rest) => parts.getLast?.map fun last => (parts.dropLast, last, rest)

/-! ## Values -/

mutual

/-- A value, in which arrays and tables may be nested `depth` deep. -/
def value? (fuel depth : Nat) (cs : List Char) : Option (Value × List Char) :=
  match fuel with
  | 0 => none
  | fuel + 1 =>
    match cs with
    | [] => none
    | c :: rest =>
      if c == '"' || c == '\'' then (string? cs).map fun (text, rest) => (.string text, rest)
      else if c == '[' then
        if depth = 0 then none
        else (items? fuel (depth - 1) rest []).map fun (items, rest) => (.array items, rest)
      else if c == '\x7b' then
        if depth = 0 then none
        else
          match dropBlanks rest with
          | '\x7d' :: rest => some (.table [], rest)
          | rest =>
            (pairs? fuel (depth - 1) rest .empty).map fun (table, rest) => (table.seal, rest)
      else if c == '+' || c == '-' || c.isDigit then number? cs
      else
        ((word? "true" cs).map (.bool true, ·)) <|> ((word? "false" cs).map (.bool false, ·))
          <|> ((word? "inf" cs).map (.float (.infinite false), ·))
          <|> ((word? "nan" cs).map (.float .nan, ·))

/-- The items of an array from the next one on, onto `items` in reverse. -/
def items? (fuel depth : Nat) (cs : List Char) (items : List Value) :
    Option (List Value × List Char) :=
  match fuel with
  | 0 => none
  | fuel + 1 =>
    match dropSpace? cs false with
    | none => none
    | some (']' :: rest) => some (items.reverse, rest)
    | some cs =>
      match value? fuel depth cs with
      | none => none
      | some (item, rest) =>
        match dropSpace? rest false with
        | some (',' :: rest) => items? fuel depth rest (item :: items)
        | some (']' :: rest) => some ((item :: items).reverse, rest)
        | _ => none

/-- The entries of a table within braces, of which there is one at least. -/
def pairs? (fuel depth : Nat) (cs : List Char) (table : DraftTable) :
    Option (DraftTable × List Char) :=
  match fuel with
  | 0 => none
  | fuel + 1 =>
    match key? cs with
    | some (path, key, '=' :: rest) =>
      match value? fuel depth (dropBlanks rest) with
      | none => none
      | some (value, rest) =>
        match table.put? path key value with
        | none => none
        | some table =>
          match dropBlanks rest with
          | ',' :: rest => pairs? fuel depth rest table
          | '\x7d' :: rest => some (table, rest)
          | _ => none
    | _ => none

end

/-! ## Documents -/

/-- A document read so far, and where the keys of the next line belong. -/
structure Outline where
  root : DraftTable := .empty
  path : List String := []

/-- A header, after its first bracket. -/
def header? (o : Outline) (cs : List Char) : Option (Outline × List Char) :=
  match cs with
  | '[' :: rest =>
    match key? rest with
    | some (path, key, ']' :: ']' :: rest) =>
      (o.root.extend? path key).map fun root => (⟨root, path ++ [key]⟩, rest)
    | _ => none
  | rest =>
    match key? rest with
    | some (path, key, ']' :: rest) =>
      (o.root.define? path key).map fun root => (⟨root, path ++ [key]⟩, rest)
    | _ => none

/-- A key with its value. -/
def keyLine? (o : Outline) (cs : List Char) : Option (Outline × List Char) :=
  match key? cs with
  | some (path, key, '=' :: rest) =>
    match value? (cs.length + 1) nestingLimit (dropBlanks rest) with
    | none => none
    | some (value, rest) =>
      (o.root.alter? false (·.put? path key value) o.path).map fun root => ({ o with root }, rest)
  | _ => none

/-- Reads lines, given a bound on their number. -/
def lines? : (bound : Nat) → Outline → List Char → Option Outline
  | 0, _, _ => none
  | bound + 1, o, cs =>
    match dropBlanks cs with
    | [] => some o
    | '[' :: rest => header? o rest >>= fun (o, rest) => endLine? rest >>= lines? bound o
    | c :: rest =>
      if c == '#' || c == '\n' || c == '\r' then endLine? (c :: rest) >>= lines? bound o
      else keyLine? o (c :: rest) >>= fun (o, rest) => endLine? rest >>= lines? bound o

/-- The table of a document, which may start with a byte order mark. -/
def parse? (text : String) : Option Value :=
  let cs := match text.toList with
    | '\ufeff' :: cs => cs
    | cs => cs
  (lines? (cs.length + 1) {} cs).map fun o => o.root.seal

end DepTriage.Toml
