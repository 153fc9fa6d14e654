import DepTriage.JavaScript.Syntax

/-! # The readings of a text that may be an expression or a pattern

Until its `=` or `=>` is seen, `[a, b]` may be an array, the target of an assignment or the
parameter of an arrow function. A `Reading` holds all three, each as far as the text allows it, and
is put together from the readings of its parts; the grammar picks one once it knows which.

Only the expression reading is lost by `{a = 1}`, and only the patterns are by most other
syntax. -/

namespace DepTriage.JavaScript

structure Reading where
  expr : Option Expr := none
  /-- The text as an assignment target, perhaps with a default value. -/
  target : Option Pattern := none
  /-- The text as a binding pattern, perhaps with a default value. -/
  binding : Option Pattern := none
deriving Inhabited

/-- One of the items between parentheses or brackets, perhaps after `...`. -/
structure CoverItem where
  spread : Bool
  reading : Reading

/-- What stands between a pair of parentheses. -/
structure CoverGroup where
  items : List CoverItem
  trailingComma : Bool

namespace Pattern

/-- Whether a target may be assigned by any operator: a name or a member. -/
def isSimple : Pattern → Bool
  | .name _ => true
  | .member _ _ => true
  | _ => false

def isName : Pattern → Bool
  | .name _ => true
  | _ => false

def hasDefault : Pattern → Bool
  | .withDefault _ _ => true
  | _ => false

end Pattern

namespace Reading

/-- A text that is an expression only. -/
def ofExpr (e : Expr) : Reading :=
  { expr := some e }

def ofName (name : String) : Reading :=
  { expr := some (.identifier name), target := some (.name name), binding := some (.name name) }

def ofMember (object : Expr) (key : Key) : Reading :=
  { expr := some (.member object key), target := some (.member object key) }

/-- The target on the left of an operator: a pattern only if `patterns` are allowed. -/
def assignable (r : Reading) (patterns : Bool) : Option Pattern := do
  let p ← r.target
  if p.isSimple || (patterns && !p.hasDefault) then some p else none

/-- `(e)`: parentheses keep a simple target and lose any pattern. -/
def ofParen (e : Expr) (inner : Reading) : Reading :=
  { expr := some (.paren e), target := inner.assignable false }

/-- `left = value`. -/
def ofAssign (left : Reading) (target : Pattern) (value : Expr) : Reading :=
  { expr := some (.assign target value)
    target := some (.withDefault target value)
    binding := left.binding.bind fun p =>
      if p.hasDefault then none else some (.withDefault p value) }

/-- A text of which the pattern after `...` is read. -/
def restOf (p : Option Pattern) : Option Pattern := do
  let p ← p
  if p.hasDefault then none else some (.rest p)

/-- The three lists that the items of an array literal make. -/
structure ArrayParts where
  elements : Option (List Element) := some []
  targets : Option (List (Option Pattern)) := some []
  bindings : Option (List (Option Pattern)) := some []

namespace ArrayParts

/-- Puts an item in front; `last` tells whether nothing follows it, not even a comma. -/
def cons (item : Option CoverItem) (last : Bool) (parts : ArrayParts) : ArrayParts :=
  match item with
  | none =>
    { elements := parts.elements.map (.hole :: ·)
      targets := parts.targets.map (none :: ·)
      bindings := parts.bindings.map (none :: ·) }
  | some ⟨false, r⟩ =>
    { elements := do return .item (← r.expr) :: (← parts.elements)
      targets := do return some (← r.target) :: (← parts.targets)
      bindings := do return some (← r.binding) :: (← parts.bindings) }
  | some ⟨true, r⟩ =>
    { elements := do return .spread (← r.expr) :: (← parts.elements)
      targets := if last then do return some (← restOf r.target) :: (← parts.targets) else none
      bindings := if last then do return some (← restOf r.binding) :: (← parts.bindings) else none }

/-- The parts of items given from last to first. -/
def ofReverse (items : List (Option CoverItem)) (trailingComma : Bool) : ArrayParts :=
  (items.foldl (fun (parts, last) item => (parts.cons item last, false)) ({}, !trailingComma)).1

end ArrayParts

/-- An array literal, given by its items from last to first, `none` for a hole. -/
def ofArray (items : List (Option CoverItem)) (trailingComma : Bool) : Reading :=
  let parts := ArrayParts.ofReverse items trailingComma
  { expr := parts.elements.map .array
    target := parts.targets.map .array
    binding := parts.bindings.map .array }

/-- One property of an object literal, in its three readings. -/
structure ObjectItem where
  property : Option Property := none
  target : Option Field := none
  binding : Option Field := none

namespace ObjectItem

def ofProperty (p : Property) : ObjectItem :=
  { property := some p }

/-- `key: value`. -/
def keyed (key : Key) (r : Reading) : ObjectItem :=
  { property := r.expr.map (.keyed key)
    target := r.target.map (.keyed key)
    binding := r.binding.map (.keyed key) }

/-- `name`, which is short for `name: name`. -/
def shorthand (name : String) : ObjectItem :=
  keyed (.name name) (ofName name)

/-- `name = value`, which only a pattern may hold. -/
def shorthandDefault (name : String) (value : Expr) : ObjectItem :=
  let field := Field.keyed (.name name) (.withDefault (.name name) value)
  { target := some field, binding := some field }

/-- `...value`. The rest of an object goes to a name or a member, and is bound by a name. -/
def spread (r : Reading) : ObjectItem :=
  { property := r.expr.map .spread
    target := r.target.bind fun p => if p.isSimple then some (.rest p) else none
    binding := r.binding.bind fun p => if p.isName then some (.rest p) else none }

/-- A property, and whether it is `...value`. -/
def isRest : ObjectItem → Bool
  | { target := some (.rest _), .. } => true
  | _ => false

end ObjectItem

structure ObjectParts where
  properties : Option (List Property) := some []
  targets : Option (List Field) := some []
  bindings : Option (List Field) := some []

/-- An object literal, given by its items from last to first. -/
def ofObject (items : List ObjectItem) (trailingComma : Bool) : Reading :=
  let step : ObjectParts × Bool → ObjectItem → ObjectParts × Bool := fun (parts, last) item =>
    let allowed := last || !item.isRest
    ({ properties := do return (← item.property) :: (← parts.properties)
       targets := if allowed then do return (← item.target) :: (← parts.targets) else none
       bindings := if allowed then do return (← item.binding) :: (← parts.bindings) else none },
     false)
  let parts := (items.foldl step ({}, !trailingComma)).1
  { expr := parts.properties.map .object
    target := parts.targets.map .object
    binding := parts.bindings.map .object }

end Reading

namespace CoverGroup

/-- The items as the arguments of a call. -/
def arguments (g : CoverGroup) : Option (List Element) :=
  g.items.mapM fun i => do
    let e ← i.reading.expr
    return if i.spread then .spread e else .item e

/-- The items as the parameters of an arrow function. -/
def parameters (g : CoverGroup) : Option (List Pattern) :=
  go g.items
where
  go : List CoverItem → Option (List Pattern)
    | [] => some []
    | [⟨true, r⟩] => do
      if g.trailingComma then none else return [← Reading.restOf r.binding]
    | ⟨true, _⟩ :: _ => none
    | ⟨false, r⟩ :: items => do return (← r.binding) :: (← go items)

/-- The items as a parenthesized expression. -/
def paren (g : CoverGroup) : Option Reading :=
  if g.trailingComma then none else
  match g.items with
  | [⟨false, r⟩] => do return .ofParen (← r.expr) r
  | _ :: _ :: _ => do
    let es ← g.items.mapM fun i => if i.spread then none else i.reading.expr
    return .ofExpr (.paren (.sequence es))
  | _ => none

end CoverGroup

end DepTriage.JavaScript
