/-! # Tokens of YAML

Besides what is written, tokens say where block collections start and end: these have no characters
of their own but follow from indentation. -/

namespace DepTriage.Yaml

inductive Token where
  | version (major minor : Nat)
  | tagShorthand (handle start : String)
  | documentStart
  | documentEnd
  | blockSequence
  | blockMapping
  | blockEnd
  | flowSequence
  | flowSequenceEnd
  | flowMapping
  | flowMappingEnd
  /-- The dash before an element of a block sequence. -/
  | dash
  | comma
  | key
  | value
  | alias (name : String)
  | anchor (name : String)
  | tag (handle suffix : String)
  /-- A scalar; `plain` ones are those without quotes that start no block. -/
  | scalar (plain : Bool) (text : String)
deriving DecidableEq, Repr, Inhabited

end DepTriage.Yaml
