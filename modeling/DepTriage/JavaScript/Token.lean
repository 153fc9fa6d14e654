import DepTriage.Text.Hex
import DepTriage.Text.Identifier

/-! # JavaScript tokens

A text is cut into tokens one at a time, since what `/` and `}` begin depends on the grammar:
`Lexeme.after` reads the token after the blanks and comments in front of a text, and the grammar
asks for a regular expression (`regexAfter`) or for the next piece of a template
(`templateChunk`) where one may stand.

A classic script has two more comment openers than a module, `<!--` anywhere and `-->` at the
start of a line. -/

namespace DepTriage.JavaScript

open DepTriage.Text

/-- The two readings of a source text. -/
inductive Goal where
  | module
  | script
deriving DecidableEq, Repr, Inhabited

inductive Token where
  /-- A name or keyword; `escaped` if it was spelt with an escape, and so is no keyword. -/
  | word (name : String) (escaped : Bool)
  | privateName (name : String)
  | number
  | string (value : String)
  | regex
  /-- The backquote that opens a template. -/
  | template
  | punct (text : String)
  | endOfText
  /-- Text that begins no token. -/
  | invalid
deriving DecidableEq, Repr, Inhabited

/-- A token in its place: `start` is the text from the token on, `rest` the text after it, and
`afterNewline` tells whether a line ended between the previous token and this one. -/
structure Lexeme where
  token : Token
  afterNewline : Bool
  start : List Char
  rest : List Char
deriving Inhabited

def isLineTerminator (c : Char) : Bool :=
  c == '\n' || c == '\r' || c.toNat == 0x2028 || c.toNat == 0x2029

/-- White space other than line ends. -/
def isBlank (c : Char) : Bool :=
  let n := c.toNat
  c == ' ' || n == 0x09 || n == 0x0B || n == 0x0C || n == 0x85 || n == 0xA0 || n == 0xFEFF
    || n == 0x1680 || (0x2000 ≤ n && n ≤ 0x200B) || n == 0x202F || n == 0x205F || n == 0x3000

/-! ## Blanks and comments -/

/-- Where a run of blanks and comments stands. -/
inductive Gap where
  | blank
  | lineComment
  | blockComment

/-- Skips blanks and comments; `newline` tells whether a line has ended so far. `none` if a block
comment has no end. -/
def skipGap (goal : Goal) : Gap → (newline : Bool) → List Char → Option (Bool × List Char)
  | .blank, newline, '/' :: '/' :: cs => skipGap goal .lineComment newline cs
  | .blank, newline, '/' :: '*' :: cs => skipGap goal .blockComment newline cs
  | .blank, newline, '<' :: '!' :: '-' :: '-' :: cs =>
    if goal = .script then skipGap goal .lineComment newline cs
    else some (newline, '<' :: '!' :: '-' :: '-' :: cs)
  | .blank, newline, '-' :: '-' :: '>' :: cs =>
    if goal = .script ∧ newline then skipGap goal .lineComment newline cs
    else some (newline, '-' :: '-' :: '>' :: cs)
  | .blank, newline, c :: cs =>
    if isLineTerminator c then skipGap goal .blank true cs
    else if isBlank c then skipGap goal .blank newline cs
    else some (newline, c :: cs)
  | .lineComment, newline, c :: cs =>
    if isLineTerminator c then skipGap goal .blank true cs
    else skipGap goal .lineComment newline cs
  | .blockComment, newline, '*' :: '/' :: cs => skipGap goal .blank newline cs
  | .blockComment, newline, c :: cs =>
    skipGap goal .blockComment (newline || isLineTerminator c) cs
  | .blockComment, _, [] => none
  | _, newline, [] => some (newline, [])

/-! ## Escapes -/

/-- The code point of an escape, after its `\u`, and what follows it. -/
def unicodeEscape : List Char → Option (Nat × List Char)
  | '\x7b' :: cs =>
    match spanHex cs 0 0 with
    | (digits, code, '\x7d' :: rest) =>
      if 0 < digits ∧ code ≤ 0x10FFFF then some (code, rest) else none
    | _ => none
  | cs => takeHex 4 cs 0

theorem length_of_unicodeEscape {cs rest : List Char} {code : Nat}
    (h : unicodeEscape cs = some (code, rest)) : rest.length < cs.length := by
  unfold unicodeEscape at h
  split at h
  · rename_i cs
    split at h
    · rename_i digits value tail heq
      have hle := length_spanHex_le cs 0 0
      rw [heq] at hle
      split at h
      · cases h
        simp only [List.length_cons] at hle ⊢
        omega
      · simp at h
    · simp at h
  · have := length_of_takeHex h
    omega

def isSurrogate (code : Nat) : Bool :=
  0xD800 ≤ code && code ≤ 0xDFFF

/-- Reads the characters of a name onto `name`, which is in reverse. `none` if an escape stands
for no character that may stand there. -/
def nameAfter (cs : List Char) (name : List Char) (escaped : Bool) :
    Option (String × Bool × List Char) :=
  match cs with
  | '\\' :: 'u' :: cs =>
    match h : unicodeEscape cs with
    | none => none
    | some (code, rest) =>
      have := length_of_unicodeEscape h
      let c := Char.ofNat code
      if isSurrogate code then none
      else if (if name.isEmpty then isIdentifierStart c else isIdentifierPart c) then
        nameAfter rest (c :: name) true
      else none
  | '\\' :: _ => none
  | c :: cs =>
    if (if name.isEmpty then isIdentifierStart c else isIdentifierPart c) then
      nameAfter cs (c :: name) escaped
    else if name.isEmpty then none
    else some (String.ofList name.reverse, escaped, c :: cs)
  | [] => if name.isEmpty then none else some (String.ofList name.reverse, escaped, [])
termination_by cs.length
decreasing_by all_goals simp only [List.length_cons]; omega

def isOctalDigit (c : Char) : Bool :=
  '0' ≤ c && c ≤ '7'

def octalValue (c : Char) : Nat :=
  c.toNat - '0'.toNat

/-- The value of an octal escape whose first digit is `c`, and what follows it. It has as many
digits as keep the value below 256, at most three. -/
def octalEscape (c : Char) : List Char → Nat × List Char
  | [] => (octalValue c, [])
  | d :: cs =>
    if isOctalDigit d then
      match cs with
      | [] => (8 * octalValue c + octalValue d, [])
      | e :: rest =>
        if isOctalDigit e ∧ c ≤ '3' then
          (8 * (8 * octalValue c + octalValue d) + octalValue e, rest)
        else (8 * octalValue c + octalValue d, e :: rest)
    else (octalValue c, d :: cs)

theorem length_octalEscape_le (c : Char) (cs : List Char) :
    (octalEscape c cs).2.length ≤ cs.length := by
  unfold octalEscape
  repeat' split
  all_goals simp only [List.length_cons, List.length_nil]; omega

/-- The code points that an escape in a string stands for, after its backslash, and what follows
it. A backslash before a line end stands for nothing. -/
def stringEscape : List Char → Option (List Nat × List Char)
  | 'n' :: cs => some ([0x0A], cs)
  | 't' :: cs => some ([0x09], cs)
  | 'r' :: cs => some ([0x0D], cs)
  | 'b' :: cs => some ([0x08], cs)
  | 'v' :: cs => some ([0x0B], cs)
  | 'f' :: cs => some ([0x0C], cs)
  | 'x' :: cs => (takeHex 2 cs 0).map fun (code, rest) => ([code], rest)
  | 'u' :: cs => (unicodeEscape cs).map fun (code, rest) => ([code], rest)
  | '\r' :: '\n' :: cs => some ([], cs)
  | c :: cs =>
    if isLineTerminator c then some ([], cs)
    else if isOctalDigit c then some ([(octalEscape c cs).1], (octalEscape c cs).2)
    else some ([c.toNat], cs)
  | [] => none

theorem length_of_stringEscape {cs rest : List Char} {codes : List Nat}
    (h : stringEscape cs = some (codes, rest)) : rest.length < cs.length := by
  unfold stringEscape at h
  split at h
  case h_7 cs =>
    obtain ⟨⟨n, r⟩, hr, he⟩ := Option.map_eq_some_iff.1 h
    cases he
    have := length_of_takeHex hr
    simp only [List.length_cons]; omega
  case h_8 cs =>
    obtain ⟨⟨n, r⟩, hr, he⟩ := Option.map_eq_some_iff.1 h
    cases he
    have := length_of_unicodeEscape hr
    simp only [List.length_cons]; omega
  case h_10 c cs _ _ _ _ _ _ _ _ _ =>
    have := length_octalEscape_le c cs
    split at h
    · cases h; simp only [List.length_cons]; omega
    · split at h <;> (cases h; simp only [List.length_cons]; omega)
  case h_11 => cases h
  all_goals cases h; simp only [List.length_cons]; omega

/-- The text of a string literal from the code points it lists. Two surrogates written one after
the other make one character. In a text with a surrogate left alone, that surrogate is written as
U+FFFD and its four digits, and so is U+FFFD itself. -/
def textOfCodes (codes : List Nat) : String :=
  let joined := joinPairs codes
  if joined.any isSurrogate then
    String.ofList (joined.flatMap fun code =>
      if isSurrogate code || code == 0xFFFD then Char.ofNat 0xFFFD :: hexLower 4 code
      else [Char.ofNat code])
  else String.ofList (joined.map Char.ofNat)
where
  joinPairs : List Nat → List Nat
    | high :: low :: codes =>
      if 0xD800 ≤ high ∧ high ≤ 0xDBFF ∧ 0xDC00 ≤ low ∧ low ≤ 0xDFFF then
        (0x10000 + 0x400 * (high - 0xD800) + (low - 0xDC00)) :: joinPairs codes
      else high :: joinPairs (low :: codes)
    | codes => codes

/-- Reads a string literal after its opening quote, with the code points so far in reverse. -/
def stringAfter (quote : Char) (cs : List Char) (codes : List Nat) : Option (String × List Char) :=
  match cs with
  | [] => none
  | '\\' :: cs =>
    match h : stringEscape cs with
    | none => none
    | some (more, rest) =>
      have := length_of_stringEscape h
      stringAfter quote rest (more ++ codes)
  | c :: cs =>
    if c = quote then some (textOfCodes codes.reverse, cs)
    else if c = '\n' ∨ c = '\r' then none
    else stringAfter quote cs (c.toNat :: codes)
termination_by cs.length
decreasing_by all_goals simp only [List.length_cons]; omega

/-! ## Templates and regular expressions -/

/-- Whether an escape, after its backslash, is one that a template may hold. -/
def isTemplateEscape : List Char → Bool
  | 'x' :: cs => (takeHex 2 cs 0).isSome
  | 'u' :: cs => (unicodeEscape cs).isSome
  | '0' :: d :: _ => !d.isDigit
  | '0' :: [] => true
  | c :: _ => !c.isDigit
  | [] => false

/-- How a piece of template text ends. -/
inductive ChunkEnd where
  | backquote
  | substitution
deriving DecidableEq

/-- Reads a piece of template text, and tells whether all of its escapes are well formed, how it
ends, and what follows. -/
def templateChunk : List Char → (wellFormed : Bool) → Option (Bool × ChunkEnd × List Char)
  | [], _ => none
  | '`' :: cs, ok => some (ok, .backquote, cs)
  | '$' :: '\x7b' :: cs, ok => some (ok, .substitution, cs)
  | '\\' :: c :: cs, ok => templateChunk cs (ok && isTemplateEscape (c :: cs))
  | _ :: cs, ok => templateChunk cs ok

/-- Skips the body of a regular expression and the slash that ends it. -/
def regexBody : (inClass : Bool) → List Char → Option (List Char)
  | _, [] => none
  | inClass, '\\' :: c :: cs => if isLineTerminator c then none else regexBody inClass cs
  | inClass, c :: cs =>
    if isLineTerminator c then none
    else if c = '/' ∧ !inClass then some cs
    else if c = '[' then regexBody true cs
    else if c = ']' then regexBody false cs
    else regexBody inClass cs

def isFlagCharacter (c : Char) : Bool :=
  c.isAlphanum || c == '$' || c == '_'

/-- Whether the flags are known ones, none stands twice, and not both `u` and `v` are among
them. -/
def areRegexFlags (flags : List Char) : Bool :=
  flags.all "dgimsuvy".toList.contains && flags.eraseDups.length == flags.length
    && !(flags.contains 'u' && flags.contains 'v')

/-- Reads the regular expression that starts with the slash of a lexeme. -/
def Lexeme.regexAfter (l : Lexeme) : Option Lexeme :=
  match l.start with
  | '/' :: cs => do
    let cs ← regexBody false cs
    let flags := cs.takeWhile isFlagCharacter
    if areRegexFlags flags then
      return { l with token := .regex, rest := cs.drop flags.length }
    else none
  | _ => none

/-! ## Numbers -/

/-- Skips digits, with single underscores between them; the character before is a digit. -/
def moreDigits (isDigit : Char → Bool) : List Char → Option (List Char)
  | '_' :: d :: cs => if isDigit d then moreDigits isDigit cs else none
  | '_' :: [] => none
  | c :: cs => if isDigit c then moreDigits isDigit cs else some (c :: cs)
  | [] => some []

def digits (isDigit : Char → Bool) : List Char → Option (List Char)
  | c :: cs => if isDigit c then moreDigits isDigit cs else none
  | [] => none

/-- A number ends before anything but a digit or the start of a name. -/
def numberEnd : List Char → Option (List Char)
  | c :: cs => if isIdentifierStart c || c.isDigit then none else some (c :: cs)
  | [] => some []

/-- Skips an exponent, if there is one, to the end of the number. -/
def exponentOrEnd : List Char → Option (List Char)
  | c :: cs =>
    if c = 'e' ∨ c = 'E' then
      match cs with
      | '+' :: cs => (digits Char.isDigit cs).bind numberEnd
      | '-' :: cs => (digits Char.isDigit cs).bind numberEnd
      | cs => (digits Char.isDigit cs).bind numberEnd
    else numberEnd (c :: cs)
  | [] => some []

/-- Skips what may follow the decimal point of a number that has digits before it. -/
def fractionOrEnd : List Char → Option (List Char)
  | c :: cs =>
    if c.isDigit then (moreDigits Char.isDigit cs).bind exponentOrEnd
    else exponentOrEnd (c :: cs)
  | [] => some []

/-- Skips what may follow the whole digits of a decimal number. -/
def afterWhole : List Char → Option (List Char)
  | '.' :: cs => fractionOrEnd cs
  | 'n' :: cs => numberEnd cs
  | cs => exponentOrEnd cs

/-- Skips the digits of a number in base 2, 8 or 16. -/
def afterBase (isDigit : Char → Bool) (cs : List Char) : Option (List Char) := do
  match ← digits isDigit cs with
  | 'n' :: cs => numberEnd cs
  | cs => numberEnd cs

/-- Skips a number without base mark that starts with zero and another digit: an octal number, or
a decimal one if it has an 8 or a 9. The exponent of a decimal one without point is marked by a
small letter. -/
def afterLeadingZero (cs : List Char) : Option (List Char) :=
  let run := cs.takeWhile Char.isDigit
  let rest := cs.drop run.length
  if run.all isOctalDigit then numberEnd rest
  else
    match rest with
    | '.' :: rest => fractionOrEnd rest
    | 'e' :: rest => exponentOrEnd ('e' :: rest)
    | rest => numberEnd rest

/-- Skips a number; `none` if it is malformed. -/
def numberAfter : List Char → Option (List Char)
  | '.' :: cs => (digits Char.isDigit cs).bind exponentOrEnd
  | '0' :: c :: cs =>
    if c = 'b' ∨ c = 'B' then afterBase (fun d => d == '0' || d == '1') cs
    else if c = 'o' ∨ c = 'O' then afterBase isOctalDigit cs
    else if c = 'x' ∨ c = 'X' then afterBase (fun d => (hexDigit? d).isSome) cs
    else if c.isDigit then afterLeadingZero (c :: cs)
    else afterWhole (c :: cs)
  | '0' :: [] => some []
  | cs => (digits Char.isDigit cs).bind afterWhole

/-! ## Punctuators -/

/-- The longest punctuator in front of a text. -/
def punctuator : List Char → Option (String × List Char)
  | '\x7b' :: cs => some ("\x7b", cs)
  | '\x7d' :: cs => some ("\x7d", cs)
  | '(' :: cs => some ("(", cs)
  | ')' :: cs => some (")", cs)
  | '[' :: cs => some ("[", cs)
  | ']' :: cs => some ("]", cs)
  | ';' :: cs => some (";", cs)
  | ',' :: cs => some (",", cs)
  | '~' :: cs => some ("~", cs)
  | ':' :: cs => some (":", cs)
  | '@' :: cs => some ("@", cs)
  | '.' :: '.' :: '.' :: cs => some ("...", cs)
  | '.' :: cs => some (".", cs)
  | '?' :: '?' :: '=' :: cs => some ("??=", cs)
  | '?' :: '?' :: cs => some ("??", cs)
  | '?' :: '.' :: d :: cs => if d.isDigit then some ("?", '.' :: d :: cs) else some ("?.", d :: cs)
  | '?' :: '.' :: [] => some ("?.", [])
  | '?' :: cs => some ("?", cs)
  | '<' :: '<' :: '=' :: cs => some ("<<=", cs)
  | '<' :: '<' :: cs => some ("<<", cs)
  | '<' :: '=' :: cs => some ("<=", cs)
  | '<' :: cs => some ("<", cs)
  | '>' :: '>' :: '>' :: '=' :: cs => some (">>>=", cs)
  | '>' :: '>' :: '>' :: cs => some (">>>", cs)
  | '>' :: '>' :: '=' :: cs => some (">>=", cs)
  | '>' :: '>' :: cs => some (">>", cs)
  | '>' :: '=' :: cs => some (">=", cs)
  | '>' :: cs => some (">", cs)
  | '=' :: '=' :: '=' :: cs => some ("===", cs)
  | '=' :: '=' :: cs => some ("==", cs)
  | '=' :: '>' :: cs => some ("=>", cs)
  | '=' :: cs => some ("=", cs)
  | '!' :: '=' :: '=' :: cs => some ("!==", cs)
  | '!' :: '=' :: cs => some ("!=", cs)
  | '!' :: cs => some ("!", cs)
  | '+' :: '+' :: cs => some ("++", cs)
  | '+' :: '=' :: cs => some ("+=", cs)
  | '+' :: cs => some ("+", cs)
  | '-' :: '-' :: cs => some ("--", cs)
  | '-' :: '=' :: cs => some ("-=", cs)
  | '-' :: cs => some ("-", cs)
  | '*' :: '*' :: '=' :: cs => some ("**=", cs)
  | '*' :: '*' :: cs => some ("**", cs)
  | '*' :: '=' :: cs => some ("*=", cs)
  | '*' :: cs => some ("*", cs)
  | '/' :: '=' :: cs => some ("/=", cs)
  | '/' :: cs => some ("/", cs)
  | '%' :: '=' :: cs => some ("%=", cs)
  | '%' :: cs => some ("%", cs)
  | '&' :: '&' :: '=' :: cs => some ("&&=", cs)
  | '&' :: '&' :: cs => some ("&&", cs)
  | '&' :: '=' :: cs => some ("&=", cs)
  | '&' :: cs => some ("&", cs)
  | '|' :: '|' :: '=' :: cs => some ("||=", cs)
  | '|' :: '|' :: cs => some ("||", cs)
  | '|' :: '=' :: cs => some ("|=", cs)
  | '|' :: cs => some ("|", cs)
  | '^' :: '=' :: cs => some ("^=", cs)
  | '^' :: cs => some ("^", cs)
  | _ => none

/-- Reads the token that a text begins with. -/
def tokenAt (cs : List Char) : Token × List Char :=
  match cs with
  | [] => (.endOfText, [])
  | '`' :: rest => (.template, rest)
  | '#' :: rest =>
    match nameAfter rest [] false with
    | some (name, _, rest) => (.privateName name, rest)
    | none => (.invalid, [])
  | '\'' :: rest => ofString (stringAfter '\'' rest [])
  | '"' :: rest => ofString (stringAfter '"' rest [])
  | '.' :: d :: _ => if d.isDigit then ofNumber (numberAfter cs) else ofPunctuator cs
  | c :: _ =>
    if c.isDigit then ofNumber (numberAfter cs)
    else if isIdentifierStart c || c == '\\' then
      match nameAfter cs [] false with
      | some (name, escaped, rest) => (.word name escaped, rest)
      | none => (.invalid, [])
    else ofPunctuator cs
where
  ofString : Option (String × List Char) → Token × List Char
    | some (value, rest) => (.string value, rest)
    | none => (.invalid, [])
  ofNumber : Option (List Char) → Token × List Char
    | some rest => (.number, rest)
    | none => (.invalid, [])
  ofPunctuator (cs : List Char) : Token × List Char :=
    match punctuator cs with
    | some (text, rest) => (.punct text, rest)
    | none => (.invalid, [])

/-- Reads the next token of a text; `newline` tells whether it stands at the start of a line
already. -/
def Lexeme.after (goal : Goal) (newline : Bool) (cs : List Char) : Lexeme :=
  match skipGap goal .blank newline cs with
  | none => ⟨.invalid, newline, [], []⟩
  | some (newline, start) =>
    let (token, rest) := tokenAt start
    ⟨token, newline, start, rest⟩

/-- Reads the first token of a program, after its `#!` line if it has one. -/
def Lexeme.first (goal : Goal) : List Char → Lexeme
  | '#' :: '!' :: cs => Lexeme.after goal true (cs.dropWhile fun c => !isLineTerminator c)
  | cs => Lexeme.after goal true cs

end DepTriage.JavaScript
