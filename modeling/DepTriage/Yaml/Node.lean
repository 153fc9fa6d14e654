import DepTriage.Yaml.Scanner

/-! # From tokens to nodes

A document is a tree of scalars, sequences and mappings. An alias stays in the tree, as the number
of the anchor that it names, so that a tree remains finite where its aliases make a cycle. -/

namespace DepTriage.Yaml

inductive Node where
  | scalar (tag : Option String) (plain : Bool) (text : String)
  | sequence (tag : Option String) (items : List Node)
  | mapping (tag : Option String) (entries : List (Node × Node))
  | alias (anchor : Nat)
deriving Repr, Inhabited

/-- The scalar that stands where a node is left out. -/
def Node.omitted : Node :=
  .scalar none true ""

mutual

/-- The number of scalars and aliases, and of the two ends of each collection. -/
def Node.size : Node → Nat
  | .scalar .. => 1
  | .alias _ => 1
  | .sequence _ items => 2 + Node.sizes items
  | .mapping _ entries => 2 + Node.entrySizes entries

def Node.sizes : List Node → Nat
  | [] => 0
  | n :: ns => n.size + Node.sizes ns

def Node.entrySizes : List (Node × Node) → Nat
  | [] => 0
  | (k, v) :: es => k.size + v.size + Node.entrySizes es

end

/-! ## Anchors -/

/-- The anchors of a document. A node gets as its number the count of the names that were anchored
before it; of nodes with one number the last one counts. -/
structure Anchors where
  /-- The numbers of the names, the last ones first. -/
  names : List (String × Nat) := []
  /-- The number of each anchored node, in the order in which the nodes start, the last first. -/
  numbers : List Nat := []
  /-- The anchored nodes that are finished, with their places in that order. -/
  nodes : List (Nat × Node) := []
deriving Inhabited

namespace Anchors

/-- The count of different names. -/
def nameCount (a : Anchors) : Nat :=
  (a.names.map Prod.fst).eraseDups.length

/-- Notes that a node with an anchor starts. -/
def start (a : Anchors) (name : String) : Anchors :=
  let number := a.nameCount
  { a with names := (name, number) :: a.names, numbers := number :: a.numbers }

def finish (a : Anchors) (order : Nat) (node : Node) : Anchors :=
  { a with nodes := (order, node) :: a.nodes }

/-- The node that an alias stands for. -/
def node? (a : Anchors) (number : Nat) : Option Node :=
  match a.numbers.findIdx? (· == number) with
  | none => none
  | some i => a.nodes.lookup (a.numbers.length - 1 - i)

end Anchors

/-! ## Reading tokens -/

/-- The tokens still to be read, with what names in them mean. -/
structure Reader where
  tokens : List Token
  shorthands : List (String × String) := []
  anchors : Anchors := {}

namespace Reader

def next? (r : Reader) : Option Token :=
  r.tokens.head?

def skip (r : Reader) : Reader :=
  { r with tokens := r.tokens.tail }

def isNext (r : Reader) (token : Token) : Bool :=
  r.next? == some token

/-- What is written before a node. -/
structure Properties where
  anchor : Option String := none
  tag : Option String := none

/-- The tag that a handle and a suffix stand for. -/
def resolveTag? (r : Reader) (handle suffix : String) : Option String :=
  if handle.isEmpty then some suffix
  else (r.shorthands.lookup handle).map (· ++ suffix)

/-- An anchor and a tag in either order. -/
def takeProperties? (r : Reader) : Option (Properties × Reader) :=
  match r.tokens with
  | .anchor name :: .tag handle suffix :: tokens
  | .tag handle suffix :: .anchor name :: tokens =>
    (r.resolveTag? handle suffix).map fun tag => (⟨some name, some tag⟩, { r with tokens })
  | .anchor name :: tokens => some (⟨some name, none⟩, { r with tokens })
  | .tag handle suffix :: tokens =>
    (r.resolveTag? handle suffix).map fun tag => (⟨none, some tag⟩, { r with tokens })
  | _ => some ({}, r)

/-- Notes an anchor that starts a node; gives its place in the order of anchored nodes. -/
def startAnchor (r : Reader) : Option String → Option Nat × Reader
  | none => (none, r)
  | some name =>
    (some r.anchors.numbers.length, { r with anchors := r.anchors.start name })

def finishAnchor (r : Reader) (order : Option Nat) (node : Node) : Reader :=
  match order with
  | none => r
  | some order => { r with anchors := r.anchors.finish order node }

/-- The tokens before which a node of a block collection may be left out. -/
def endsBlockNode : Option Token → Bool
  | some .key | some .value | some .blockEnd => true
  | _ => false

end Reader

open Reader in
mutual

/-- A node; `block` allows block collections, and `compact` a block sequence that is not
indented. -/
def readNode? (fuel : Nat) (block compact : Bool) (r : Reader) : Option (Node × Reader) :=
  match fuel with
  | 0 => none
  | fuel + 1 =>
    match r.tokens with
    | .alias name :: tokens =>
      (r.anchors.names.lookup name).map fun number => (.alias number, { r with tokens })
    | _ => do
      let (properties, r) ← r.takeProperties?
      let (order, r) := r.startAnchor properties.anchor
      let tag := properties.tag
      let (node, r) ← match r.next? with
        | some .dash =>
          if compact then
            (readCompactSequence? fuel r []).map fun (items, r) => (.sequence tag items, r)
          else omittedNode? properties r
        | some (.scalar plain text) =>
          if tag == some "!" then some (.scalar none plain text, r.skip)
          else some (.scalar tag plain text, r.skip)
        | some .flowSequence =>
          (readFlowSequence? fuel true r.skip []).map fun (items, r) => (.sequence tag items, r)
        | some .flowMapping =>
          (readFlowMapping? fuel true r.skip []).map fun (entries, r) => (.mapping tag entries, r)
        | some .blockSequence =>
          if block then
            (readBlockSequence? fuel r.skip []).map fun (items, r) => (.sequence tag items, r)
          else omittedNode? properties r
        | some .blockMapping =>
          if block then
            (readBlockMapping? fuel r.skip []).map fun (entries, r) => (.mapping tag entries, r)
          else omittedNode? properties r
        | _ => omittedNode? properties r
      return (node, r.finishAnchor order node)
where
  /-- A node of which only properties are written. -/
  omittedNode? (properties : Properties) (r : Reader) : Option (Node × Reader) :=
    if properties.anchor.isNone && properties.tag.isNone then none
    else some (.scalar properties.tag true "", r)

/-- A node of a block collection, which may be left out. -/
def readBlockNode? (fuel : Nat) (compact : Bool) (r : Reader) : Option (Node × Reader) :=
  match fuel with
  | 0 => none
  | fuel + 1 =>
    if endsBlockNode r.next? then some (Node.omitted, r) else readNode? fuel true compact r

def readBlockSequence? (fuel : Nat) (r : Reader) (items : List Node) :
    Option (List Node × Reader) :=
  match fuel with
  | 0 => none
  | fuel + 1 =>
    match r.next? with
    | some .blockEnd => some (items.reverse, r.skip)
    | some .dash =>
      let r := r.skip
      if r.isNext .dash || r.isNext .blockEnd then
        readBlockSequence? fuel r (Node.omitted :: items)
      else
        match readNode? fuel true false r with
        | some (item, r) => readBlockSequence? fuel r (item :: items)
        | none => none
    | _ => none

/-- A block sequence as the value of a mapping whose column it shares; it has no end of its own. -/
def readCompactSequence? (fuel : Nat) (r : Reader) (items : List Node) :
    Option (List Node × Reader) :=
  match fuel with
  | 0 => none
  | fuel + 1 =>
    match r.next? with
    | some .dash =>
      let r := r.skip
      if r.isNext .dash then readCompactSequence? fuel r (Node.omitted :: items)
      else
        match readBlockNode? fuel false r with
        | some (item, r) => readCompactSequence? fuel r (item :: items)
        | none => none
    | _ => some (items.reverse, r)

def readBlockMapping? (fuel : Nat) (r : Reader) (entries : List (Node × Node)) :
    Option (List (Node × Node) × Reader) :=
  match fuel with
  | 0 => none
  | fuel + 1 =>
    match r.next? with
    | some .blockEnd => some (entries.reverse, r.skip)
    | some .key =>
      match readBlockNode? fuel true r.skip with
      | none => none
      | some (key, r) =>
        if r.isNext .value then
          match readBlockNode? fuel true r.skip with
          | some (value, r) => readBlockMapping? fuel r ((key, value) :: entries)
          | none => none
        else readBlockMapping? fuel r ((key, Node.omitted) :: entries)
    | _ => none

def readFlowSequence? (fuel : Nat) (first : Bool) (r : Reader) (items : List Node) :
    Option (List Node × Reader) :=
  match fuel with
  | 0 => none
  | fuel + 1 =>
    if r.isNext .flowSequenceEnd then some (items.reverse, r.skip)
    else if !first && !r.isNext .comma then none
    else
      let r := if first then r else r.skip
      if r.isNext .flowSequenceEnd then some (items.reverse, r.skip)
      else
        let item :=
          if r.isNext .key then readFlowPair? fuel r.skip else readNode? fuel false false r
        match item with
        | some (item, r) => readFlowSequence? fuel false r (item :: items)
        | none => none

/-- A mapping of one entry inside a flow sequence, after its key token. Where the key is left out,
the token after it is passed over. -/
def readFlowPair? (fuel : Nat) (r : Reader) : Option (Node × Reader) :=
  match fuel with
  | 0 => none
  | fuel + 1 =>
    let key := match r.next? with
      | some .value | some .comma | some .flowSequenceEnd => some (Node.omitted, r.skip)
      | _ => readNode? fuel false false r
    match key with
    | none => none
    | some (key, r) =>
      let value :=
        if r.isNext .value then
          let r := r.skip
          if r.isNext .comma || r.isNext .flowSequenceEnd then some (Node.omitted, r)
          else readNode? fuel false false r
        else some (Node.omitted, r)
      value.map fun (value, r) => (.mapping none [(key, value)], r)

def readFlowMapping? (fuel : Nat) (first : Bool) (r : Reader) (entries : List (Node × Node)) :
    Option (List (Node × Node) × Reader) :=
  match fuel with
  | 0 => none
  | fuel + 1 =>
    if r.isNext .flowMappingEnd then some (entries.reverse, r.skip)
    else if !first && !r.isNext .comma then none
    else
      let r := if first then r else r.skip
      if r.isNext .flowMappingEnd then some (entries.reverse, r.skip)
      else if r.isNext .key then
        let r := r.skip
        let key := match r.next? with
          | some .value | some .comma | some .flowMappingEnd => some (Node.omitted, r)
          | _ => readNode? fuel false false r
        match key with
        | none => none
        | some (key, r) =>
          let value :=
            if r.isNext .value then
              let r := r.skip
              if r.isNext .comma || r.isNext .flowMappingEnd then some (Node.omitted, r)
              else readNode? fuel false false r
            else some (Node.omitted, r)
          match value with
          | some (value, r) => readFlowMapping? fuel false r ((key, value) :: entries)
          | none => none
      else
        match readNode? fuel false false r with
        | some (key, r) => readFlowMapping? fuel false r ((key, Node.omitted) :: entries)
        | none => none

end

/-! ## Documents -/

/-- The root of a document and the nodes that its aliases stand for. -/
structure Document where
  root : Node
  anchors : Anchors := {}
deriving Inhabited

/-- The directives before a document: one version at most, and each handle at most once. -/
def readDirectives? :
    List Token → (version : Bool) → (shorthands : List (String × String)) →
      Option (List (String × String) × List Token)
  | .version major minor :: tokens, version, shorthands =>
    if version || major != 1 || (minor != 1 && minor != 2) then none
    else readDirectives? tokens true shorthands
  | .tagShorthand handle start :: tokens, version, shorthands =>
    if (shorthands.lookup handle).isSome then none
    else readDirectives? tokens version ((handle, start) :: shorthands)
  | tokens, _, shorthands => some (shorthands, tokens)

/-- The handles that mean something without a directive. -/
def commonShorthands : List (String × String) :=
  [("!", "!"), ("!!", "tag:yaml.org,2002:")]

/-- What is read of a document after its marker, if it has one. -/
def readContent? (shorthands : List (String × String)) (tokens : List Token) :
    Option (Document × List Token) :=
  (readNode? (2 * tokens.length + 2) true false
    { tokens, shorthands := shorthands ++ commonShorthands }).map
    fun (root, r) => (⟨root, r.anchors⟩, r.tokens)

/-- Whether a token in front means that a document after its marker has no content. -/
def endsDocument : List Token → Bool
  | [] => true
  | .version .. :: _ | .tagShorthand .. :: _ | .documentStart :: _ | .documentEnd :: _ => true
  | _ => false

/-- The only document among the tokens of a text. A text without any holds an empty one. -/
def Document.ofTokens? (tokens : List Token) : Option Document :=
  if tokens.isEmpty then some ⟨Node.omitted, {}⟩
  else do
    let (shorthands, rest) ← readDirectives? tokens false []
    let (document, rest) ← match rest with
      | .documentStart :: rest =>
        if endsDocument rest then some (⟨Node.omitted, {}⟩, rest)
        else readContent? shorthands rest
      | _ =>
        if rest.length < tokens.length then none else readContent? shorthands rest
    if (rest.dropWhile (· == .documentEnd)).isEmpty then some document else none

def Document.parse? (text : List Char) : Option Document :=
  tokens? text >>= Document.ofTokens?

end DepTriage.Yaml
