import DepTriage.Yaml.Scalar
import DepTriage.Yaml.Token

/-! # Tags, anchors and directives of YAML

The tokens that start with an indicator and go on with a name. Each function is given what follows
the indicator. -/

namespace DepTriage.Yaml

/-- The word in front, and what follows it. -/
def takeWord (ps : List Place) : String × List Place :=
  (String.ofList ((ps.takeWhile fun p => isWordChar p.char).map Place.char),
    ps.dropWhile fun p => isWordChar p.char)

/-- The name of an anchor or an alias. -/
def anchorName? (ps : List Place) : Option (String × List Place) :=
  let (name, rest) := takeWord ps
  let ends := atGap rest || (peek rest).any fun c => "?:,]\x7d%@`".contains c
  if name.isEmpty || !ends then none else some (name, rest)

/-! ## Tags -/

/-- The characters that a tag may hold as they are; more are allowed between angle brackets. -/
def isTagChar (verbatim : Bool) (c : Char) : Bool :=
  isWordChar c || ";/?:@&=+$.!~*'()".contains c
    || (verbatim && (c == ',' || c == '[' || c == ']'))

/-- Reads the first octet of an encoded character: the octets that follow it, and its own bits. -/
def leadOctet? (octet : Nat) : Option (Nat × Nat) :=
  if octet < 0x80 then some (0, octet)
  else if octet < 0xC0 then none
  else if octet < 0xE0 then some (1, octet % 0x20)
  else if octet < 0xF0 then some (2, octet % 0x10)
  else if octet < 0xF8 then some (3, octet % 0x08)
  else none

/-- The characters of a tag, onto `text` in reverse, and what follows them. Octets written with a
percent sign make up characters; `missing` of them are still missing of the one with bits
`value`. -/
def tagText? (verbatim : Bool) :
    List Place → (missing value : Nat) → (text : List Char) → Option (List Char × List Place)
  | [], missing, _, text => if missing = 0 then some (text, []) else none
  | p :: ps, missing, value, text =>
    if p.char == '%' then
      match ps with
      | h :: l :: rest =>
        match Text.hexDigit? h.char, Text.hexDigit? l.char with
        | some high, some low =>
          let octet := 16 * high + low
          let next := if missing = 0 then leadOctet? octet
            else if octet / 0x40 = 2 then some (missing - 1, 0x40 * value + octet % 0x40)
            else none
          match next with
          | none => none
          | some (0, code) =>
            match charOfCode? code with
            | some c => tagText? verbatim rest 0 0 (c :: text)
            | none => none
          | some (missing, value) => tagText? verbatim rest missing value text
        | _, _ => none
      | _ => none
    else if missing ≠ 0 then none
    else if isTagChar verbatim p.char then tagText? verbatim ps 0 0 (p.char :: text)
    else some (text, p :: ps)

/-- A tag after its exclamation mark: verbatim between angle brackets, with the handle of a
shorthand, or local. -/
def tagToken? (inFlow : Bool) (ps : List Place) : Option (Token × List Place) := do
  let (token, rest) ← match peek ps with
    | some '<' => do
      let (text, rest) ← tagText? true ps.tail 0 0 []
      if text.isEmpty || peek rest != some '>' then none
      else some (Token.tag "" (String.ofList text.reverse), rest.tail)
    | _ => do
      let (word, rest) := takeWord ps
      if peek rest == some '!' then
        let (text, rest) ← tagText? false rest.tail 0 0 []
        if text.isEmpty then none
        else some (Token.tag s!"!{word}!" (String.ofList text.reverse), rest)
      else
        let (text, rest) ← tagText? false rest 0 0 []
        let suffix := word ++ String.ofList text.reverse
        if suffix.isEmpty then some (Token.tag "" "!", rest)
        else some (Token.tag "!" suffix, rest)
  if atGap rest || (inFlow && peek rest == some ',') then some (token, rest) else none

/-! ## Directives -/

/-- A number of at most nine digits. -/
def versionNumber? (ps : List Place) : Option (Nat × List Place) :=
  let digits := (ps.takeWhile fun p => p.char.isDigit).map Place.char
  if digits.isEmpty || 9 < digits.length then none
  else some (digits.foldl (fun n c => 10 * n + (c.toNat - '0'.toNat)) 0,
    ps.dropWhile fun p => p.char.isDigit)

/-- A directive after its percent sign, up to the end of its line. -/
def directiveToken? (ps : List Place) : Option (Token × List Place) := do
  let (name, rest) := takeWord ps
  if !atGap rest then none
  else
    let rest := dropBlanks rest
    let (token, rest) ← match name with
      | "YAML" => do
        let (major, rest) ← versionNumber? rest
        if peek rest != some '.' then none
        else
          let (minor, rest) ← versionNumber? rest.tail
          some (Token.version major minor, rest)
      | "TAG" => do
        if peek rest != some '!' then none
        else
          let (word, rest) := takeWord rest.tail
          let (handle, rest) ← if peek rest == some '!' then some (s!"!{word}!", rest.tail)
            else if word.isEmpty then some ("!", rest) else none
          if !(peek rest).any isBlank then none
          else
            let (text, rest) ← tagText? true (dropBlanks rest) 0 0 []
            if text.isEmpty || !atGap rest then none
            else some (Token.tagShorthand handle (String.ofList text.reverse), rest)
      | _ => none
    let rest ← endLine? rest
    return (token, rest)

end DepTriage.Yaml
