import DepTriage.Finding
import DepTriage.JavaScript.Analysis
import DepTriage.Text.Split

/-! # Rules on source texts

Rules that look for marks in the text of each file. -/

namespace DepTriage.Rule

open Text (isInfix dropStart?)

/-! ## Obfuscation -/

/-- Phrases that an obfuscator leaves in its output. -/
def obfuscationMarks : List String :=
  ["while(!![])", "+-parseInt("]

/-- Whether a text starts with `_0x` and six hexadecimal digits. -/
def startsMangled (cs : List Char) : Bool :=
  match dropStart? "_0x".toList cs with
  | none => false
  | some rest =>
    let digits := rest.take 6
    digits.length == 6 && digits.all fun c => (Text.hexDigit? c).isSome

/-- Whether a text holds the kind of name that an obfuscator makes up. -/
def hasMangledName : List Char → Bool
  | [] => false
  | c :: cs => startsMangled (c :: cs) || hasMangledName cs

def isObfuscated (text : String) : Bool :=
  obfuscationMarks.any (fun mark => isInfix mark.toList text.toList) || hasMangledName text.toList

/-- A finding with a line of evidence for each hit, if there are any. -/
def ofHits (rule : Rule) (severity : Severity) (description : String) (hits : List String) :
    Option Finding :=
  if hits.isEmpty then none
  else some { rule, severity, description, evidence := "\n".intercalate hits }

def obfuscationHits (files : List SourceFile) : List String :=
  (files.filter fun f => isObfuscated f.text).map fun f => s!"- {f.path} is obfuscated"

/-- Fires when a file looks obfuscated. -/
def checkObfuscation (files : List SourceFile) : Option Finding :=
  ofHits .obfuscation .medium "code appears to be obfuscated" (obfuscationHits files)

/-! ## Keywords -/

/-- The hits of one file, in the order of the keywords; an empty keyword has none. -/
def keywordHitsIn (keywords : List String) (file : SourceFile) : List String :=
  (keywords.filter fun k => !k.isEmpty && isInfix k.toList file.text.toList).map fun k =>
    s!"- {file.path} uses {k}"

def keywordHits (keywords : List String) (files : List SourceFile) : List String :=
  files.flatMap (keywordHitsIn keywords)

/-- Fires when a file holds a keyword. -/
def checkKeywords (keywords : List String) (files : List SourceFile) : Option Finding :=
  ofHits .keyword .low "matches a keyword rule" (keywordHits keywords files)

end DepTriage.Rule
