import DepTriage.Proofs.JavaScript.Declarations
import DepTriage.Proofs.JavaScript.Interpretation

/-!
# Replacing one piece of syntax

A program that differs from another in one place is described by the place: the piece of syntax that
is replaced there, the piece of which it is a direct part, and so on up to the whole program. What
one such step keeps, all of them keep.

## Key results

- `Swaps.names`: a step keeps how the names relate that the scopes around bind
- `Swaps.value`: a step keeps how the values relate, if the interpretation puts related values
  together to related ones
-/

namespace DepTriage.JavaScript

/-! ## Pieces of syntax -/

/-- Where a pattern stands. -/
inductive Role where
  | binding
  | target (direct : Bool)
deriving DecidableEq, Repr

/-- Where the patterns inside of a pattern stand. -/
def Role.inner : Role → Role
  | binding => binding
  | target _ => target false

/-- A piece of syntax that may have parts. -/
inductive Piece where
  | expr (e : Expr)
  /-- What the node around an optional chain holds. -/
  | link (e : Expr)
  | element (e : Element)
  | property (p : Property)
  | key (k : Key)
  | pattern (role : Role) (p : Pattern)
  /-- A field of an object pattern, given the role of the patterns inside. -/
  | field (role : Role) (f : Field)
  | function (ownName : Bool) (f : Function)
  | classOf (c : Class)
  | classMember (m : ClassMember)
  | declarator (d : Declarator)
  | declaration (d : Declaration)
  | forInit (init : ForInit)
  | forLeft (left : ForLeft)
  | switchCase (c : SwitchCase)
  | catchClause (c : CatchClause)
  | stmt (s : Stmt)
  | stmts (ss : List Stmt)

/-- `Swaps x y c d`: the piece `d` is `c` with `y` in the place of the direct part `x`. -/
inductive Swaps : Piece → Piece → Piece → Piece → Prop where
  -- Expressions
  | arrayElement {x y xs ys} : Swaps (.element x) (.element y)
      (.expr (.array (xs ++ x :: ys))) (.expr (.array (xs ++ y :: ys)))
  | objectProperty {x y xs ys} : Swaps (.property x) (.property y)
      (.expr (.object (xs ++ x :: ys))) (.expr (.object (xs ++ y :: ys)))
  | function {x y} : Swaps (.function true x) (.function true y)
      (.expr (.function x)) (.expr (.function y))
  | arrow {x y} : Swaps (.function false x) (.function false y)
      (.expr (.arrow x)) (.expr (.arrow y))
  | classExpr {x y} : Swaps (.classOf x) (.classOf y)
      (.expr (.classExpr x)) (.expr (.classExpr y))
  | templatePart {x y xs ys} : Swaps (.expr x) (.expr y)
      (.expr (.template (xs ++ x :: ys))) (.expr (.template (xs ++ y :: ys)))
  | templateTag {x y parts} : Swaps (.expr x) (.expr y)
      (.expr (.taggedTemplate x parts)) (.expr (.taggedTemplate y parts))
  | taggedPart {tag x y xs ys} : Swaps (.expr x) (.expr y)
      (.expr (.taggedTemplate tag (xs ++ x :: ys))) (.expr (.taggedTemplate tag (xs ++ y :: ys)))
  | memberObject {x y k} : Swaps (.expr x) (.expr y)
      (.expr (.member x k)) (.expr (.member y k))
  | memberKey {o x y} : Swaps (.key x) (.key y)
      (.expr (.member o x)) (.expr (.member o y))
  | callee {x y args} : Swaps (.expr x) (.expr y)
      (.expr (.call x args)) (.expr (.call y args))
  | argument {callee x y xs ys} : Swaps (.element x) (.element y)
      (.expr (.call callee (xs ++ x :: ys))) (.expr (.call callee (xs ++ y :: ys)))
  | constructor {x y args} : Swaps (.expr x) (.expr y)
      (.expr (.construct x args)) (.expr (.construct y args))
  | constructorArgument {callee x y xs ys} : Swaps (.element x) (.element y)
      (.expr (.construct callee (xs ++ x :: ys))) (.expr (.construct callee (xs ++ y :: ys)))
  | chain {x y} : Swaps (.link x) (.link y) (.expr (.chain x)) (.expr (.chain y))
  | importSource {x y options} : Swaps (.expr x) (.expr y)
      (.expr (.dynamicImport x options)) (.expr (.dynamicImport y options))
  | importOptions {source x y} : Swaps (.expr x) (.expr y)
      (.expr (.dynamicImport source (some x))) (.expr (.dynamicImport source (some y)))
  | unary {x y} : Swaps (.expr x) (.expr y) (.expr (.unary x)) (.expr (.unary y))
  | updateTarget {x y} : Swaps (.pattern (.target false) x) (.pattern (.target false) y)
      (.expr (.update x)) (.expr (.update y))
  | await {x y} : Swaps (.expr x) (.expr y) (.expr (.await x)) (.expr (.await y))
  | yield {x y} : Swaps (.expr x) (.expr y)
      (.expr (.yield (some x))) (.expr (.yield (some y)))
  | binaryLeft {x y r} : Swaps (.expr x) (.expr y)
      (.expr (.binary x r)) (.expr (.binary y r))
  | binaryRight {l x y} : Swaps (.expr x) (.expr y)
      (.expr (.binary l x)) (.expr (.binary l y))
  | logicalLeft {x y r} : Swaps (.expr x) (.expr y)
      (.expr (.logical x r)) (.expr (.logical y r))
  | logicalRight {l x y} : Swaps (.expr x) (.expr y)
      (.expr (.logical l x)) (.expr (.logical l y))
  | privateIn {x y} : Swaps (.expr x) (.expr y)
      (.expr (.privateIn x)) (.expr (.privateIn y))
  | test {x y c a} : Swaps (.expr x) (.expr y)
      (.expr (.conditional x c a)) (.expr (.conditional y c a))
  | consequent {t x y a} : Swaps (.expr x) (.expr y)
      (.expr (.conditional t x a)) (.expr (.conditional t y a))
  | alternate {t c x y} : Swaps (.expr x) (.expr y)
      (.expr (.conditional t c x)) (.expr (.conditional t c y))
  | assignTarget {x y e} : Swaps (.pattern (.target true) x) (.pattern (.target true) y)
      (.expr (.assign x e)) (.expr (.assign y e))
  | assigned {p x y} : Swaps (.expr x) (.expr y)
      (.expr (.assign p x)) (.expr (.assign p y))
  | sequence {x y xs ys} : Swaps (.expr x) (.expr y)
      (.expr (.sequence (xs ++ x :: ys))) (.expr (.sequence (xs ++ y :: ys)))
  | paren {x y} : Swaps (.expr x) (.expr y) (.expr (.paren x)) (.expr (.paren y))
  -- The links of optional chains
  | linkObject {x y k} : Swaps (.expr x) (.expr y)
      (.link (.member x k)) (.link (.member y k))
  | linkKey {o x y} : Swaps (.key x) (.key y)
      (.link (.member o x)) (.link (.member o y))
  | linkCallee {x y args} : Swaps (.expr x) (.expr y)
      (.link (.call x args)) (.link (.call y args))
  | linkArgument {callee x y xs ys} : Swaps (.element x) (.element y)
      (.link (.call callee (xs ++ x :: ys))) (.link (.call callee (xs ++ y :: ys)))
  -- Elements, properties and keys
  | item {x y} : Swaps (.expr x) (.expr y) (.element (.item x)) (.element (.item y))
  | spread {x y} : Swaps (.expr x) (.expr y) (.element (.spread x)) (.element (.spread y))
  | propertyKey {x y e} : Swaps (.key x) (.key y)
      (.property (.keyed x e)) (.property (.keyed y e))
  | propertyValue {k x y} : Swaps (.expr x) (.expr y)
      (.property (.keyed k x)) (.property (.keyed k y))
  | propertySpread {x y} : Swaps (.expr x) (.expr y)
      (.property (.spread x)) (.property (.spread y))
  | computed {x y} : Swaps (.expr x) (.expr y) (.key (.computed x)) (.key (.computed y))
  -- Patterns
  | targetObject {role x y k} : Swaps (.expr x) (.expr y)
      (.pattern role (.member x k)) (.pattern role (.member y k))
  | targetKey {role o x y} : Swaps (.key x) (.key y)
      (.pattern role (.member o x)) (.pattern role (.member o y))
  | patternField {role x y xs ys} : Swaps (.field role.inner x) (.field role.inner y)
      (.pattern role (.object (xs ++ x :: ys))) (.pattern role (.object (xs ++ y :: ys)))
  | patternItem {role x y xs ys} : Swaps (.pattern role.inner x) (.pattern role.inner y)
      (.pattern role (.array (xs ++ some x :: ys))) (.pattern role (.array (xs ++ some y :: ys)))
  | defaulted {role x y e} : Swaps (.pattern role.inner x) (.pattern role.inner y)
      (.pattern role (.withDefault x e)) (.pattern role (.withDefault y e))
  | default {role p x y} : Swaps (.expr x) (.expr y)
      (.pattern role (.withDefault p x)) (.pattern role (.withDefault p y))
  | rest {role x y} : Swaps (.pattern role.inner x) (.pattern role.inner y)
      (.pattern role (.rest x)) (.pattern role (.rest y))
  | fieldKey {role x y p} : Swaps (.key x) (.key y)
      (.field role (.keyed x p)) (.field role (.keyed y p))
  | fieldTarget {role k x y} : Swaps (.pattern role x) (.pattern role y)
      (.field role (.keyed k x)) (.field role (.keyed k y))
  | fieldRest {role x y} : Swaps (.pattern role x) (.pattern role y)
      (.field role (.rest x)) (.field role (.rest y))
  -- Functions and classes
  | parameter {ownName name x y xs ys body} : Swaps (.pattern .binding x) (.pattern .binding y)
      (.function ownName (.mk name (xs ++ x :: ys) body))
      (.function ownName (.mk name (xs ++ y :: ys) body))
  | functionBody {ownName name ps x y} : Swaps (.stmts x) (.stmts y)
      (.function ownName (.mk name ps x)) (.function ownName (.mk name ps y))
  | classDecorator {x y xs ys name heritage members} : Swaps (.expr x) (.expr y)
      (.classOf (.mk (xs ++ x :: ys) name heritage members))
      (.classOf (.mk (xs ++ y :: ys) name heritage members))
  | heritage {decorators name x y members} : Swaps (.expr x) (.expr y)
      (.classOf (.mk decorators name (some x) members))
      (.classOf (.mk decorators name (some y) members))
  | classMember {decorators name heritage x y xs ys} : Swaps (.classMember x) (.classMember y)
      (.classOf (.mk decorators name heritage (xs ++ x :: ys)))
      (.classOf (.mk decorators name heritage (xs ++ y :: ys)))
  | methodDecorator {x y xs ys k f} : Swaps (.expr x) (.expr y)
      (.classMember (.method (xs ++ x :: ys) k f)) (.classMember (.method (xs ++ y :: ys) k f))
  | methodKey {decorators x y f} : Swaps (.key x) (.key y)
      (.classMember (.method decorators x f)) (.classMember (.method decorators y f))
  | method {decorators k x y} : Swaps (.function false x) (.function false y)
      (.classMember (.method decorators k x)) (.classMember (.method decorators k y))
  | memberDecorator {x y xs ys k value} : Swaps (.expr x) (.expr y)
      (.classMember (.field (xs ++ x :: ys) k value))
      (.classMember (.field (xs ++ y :: ys) k value))
  | memberFieldKey {decorators x y value} : Swaps (.key x) (.key y)
      (.classMember (.field decorators x value)) (.classMember (.field decorators y value))
  | memberFieldValue {decorators k x y} : Swaps (.expr x) (.expr y)
      (.classMember (.field decorators k (some x))) (.classMember (.field decorators k (some y)))
  | staticBlock {x y} : Swaps (.stmts x) (.stmts y)
      (.classMember (.staticBlock x)) (.classMember (.staticBlock y))
  -- Declarations
  | declared {x y init} : Swaps (.pattern .binding x) (.pattern .binding y)
      (.declarator (.mk x init)) (.declarator (.mk y init))
  | initializer {p x y} : Swaps (.expr x) (.expr y)
      (.declarator (.mk p (some x))) (.declarator (.mk p (some y)))
  | declarator {kind x y xs ys} : Swaps (.declarator x) (.declarator y)
      (.declaration (.variableList kind (xs ++ x :: ys)))
      (.declaration (.variableList kind (xs ++ y :: ys)))
  | functionDeclaration {x y} : Swaps (.function false x) (.function false y)
      (.declaration (.function x)) (.declaration (.function y))
  | classDeclaration {x y} : Swaps (.classOf x) (.classOf y)
      (.declaration (.classDecl x)) (.declaration (.classDecl y))
  | initDeclarator {kind x y xs ys} : Swaps (.declarator x) (.declarator y)
      (.forInit (.declare kind (xs ++ x :: ys))) (.forInit (.declare kind (xs ++ y :: ys)))
  | initExpr {x y} : Swaps (.expr x) (.expr y) (.forInit (.expr x)) (.forInit (.expr y))
  | leftDeclarator {kind x y xs ys} : Swaps (.declarator x) (.declarator y)
      (.forLeft (.declare kind (xs ++ x :: ys))) (.forLeft (.declare kind (xs ++ y :: ys)))
  | leftTarget {x y} : Swaps (.pattern (.target false) x) (.pattern (.target false) y)
      (.forLeft (.target x)) (.forLeft (.target y))
  -- Statements
  | caseTest {x y body} : Swaps (.expr x) (.expr y)
      (.switchCase (.mk (some x) body)) (.switchCase (.mk (some y) body))
  | caseBody {test x y} : Swaps (.stmts x) (.stmts y)
      (.switchCase (.mk test x)) (.switchCase (.mk test y))
  | catchParameter {x y body} : Swaps (.pattern .binding x) (.pattern .binding y)
      (.catchClause (.mk (some x) body)) (.catchClause (.mk (some y) body))
  | catchBody {parameter x y} : Swaps (.stmts x) (.stmts y)
      (.catchClause (.mk parameter x)) (.catchClause (.mk parameter y))
  | block {x y} : Swaps (.stmts x) (.stmts y) (.stmt (.block x)) (.stmt (.block y))
  | exprStmt {x y} : Swaps (.expr x) (.expr y) (.stmt (.expr x)) (.stmt (.expr y))
  | declare {x y} : Swaps (.declaration x) (.declaration y)
      (.stmt (.declare x)) (.stmt (.declare y))
  | ifTest {x y c a} : Swaps (.expr x) (.expr y)
      (.stmt (.ifElse x c a)) (.stmt (.ifElse y c a))
  | ifThen {t x y a} : Swaps (.stmt x) (.stmt y)
      (.stmt (.ifElse t x a)) (.stmt (.ifElse t y a))
  | ifElse {t c x y} : Swaps (.stmt x) (.stmt y)
      (.stmt (.ifElse t c (some x))) (.stmt (.ifElse t c (some y)))
  | forInit {x y test update body} : Swaps (.forInit x) (.forInit y)
      (.stmt (.forLoop x test update body)) (.stmt (.forLoop y test update body))
  | forTest {init x y update body} : Swaps (.expr x) (.expr y)
      (.stmt (.forLoop init (some x) update body)) (.stmt (.forLoop init (some y) update body))
  | forUpdate {init test x y body} : Swaps (.expr x) (.expr y)
      (.stmt (.forLoop init test (some x) body)) (.stmt (.forLoop init test (some y) body))
  | forBody {init test update x y} : Swaps (.stmt x) (.stmt y)
      (.stmt (.forLoop init test update x)) (.stmt (.forLoop init test update y))
  | eachLeft {x y right body} : Swaps (.forLeft x) (.forLeft y)
      (.stmt (.forEach x right body)) (.stmt (.forEach y right body))
  | eachRight {left x y body} : Swaps (.expr x) (.expr y)
      (.stmt (.forEach left x body)) (.stmt (.forEach left y body))
  | eachBody {left right x y} : Swaps (.stmt x) (.stmt y)
      (.stmt (.forEach left right x)) (.stmt (.forEach left right y))
  | whileTest {x y body} : Swaps (.expr x) (.expr y)
      (.stmt (.while x body)) (.stmt (.while y body))
  | whileBody {t x y} : Swaps (.stmt x) (.stmt y)
      (.stmt (.while t x)) (.stmt (.while t y))
  | doBody {x y t} : Swaps (.stmt x) (.stmt y)
      (.stmt (.doWhile x t)) (.stmt (.doWhile y t))
  | doTest {body x y} : Swaps (.expr x) (.expr y)
      (.stmt (.doWhile body x)) (.stmt (.doWhile body y))
  | returned {x y} : Swaps (.expr x) (.expr y)
      (.stmt (.return (some x))) (.stmt (.return (some y)))
  | thrown {x y} : Swaps (.expr x) (.expr y) (.stmt (.throw x)) (.stmt (.throw y))
  | tried {x y handler finalizer} : Swaps (.stmts x) (.stmts y)
      (.stmt (.tryCatch x handler finalizer)) (.stmt (.tryCatch y handler finalizer))
  | handler {body x y finalizer} : Swaps (.catchClause x) (.catchClause y)
      (.stmt (.tryCatch body (some x) finalizer)) (.stmt (.tryCatch body (some y) finalizer))
  | finalizer {body handler x y} : Swaps (.stmts x) (.stmts y)
      (.stmt (.tryCatch body handler (some x))) (.stmt (.tryCatch body handler (some y)))
  | switched {x y cases} : Swaps (.expr x) (.expr y)
      (.stmt (.switch x cases)) (.stmt (.switch y cases))
  | switchCase {e x y xs ys} : Swaps (.switchCase x) (.switchCase y)
      (.stmt (.switch e (xs ++ x :: ys))) (.stmt (.switch e (xs ++ y :: ys)))
  | labeled {x y} : Swaps (.stmt x) (.stmt y) (.stmt (.labeled x)) (.stmt (.labeled y))
  | withObject {x y body} : Swaps (.expr x) (.expr y)
      (.stmt (.with x body)) (.stmt (.with y body))
  | withBody {o x y} : Swaps (.stmt x) (.stmt y) (.stmt (.with o x)) (.stmt (.with o y))
  | exported {x y} : Swaps (.declaration x) (.declaration y)
      (.stmt (.exportDecl x)) (.stmt (.exportDecl y))
  | exportedDefault {x y} : Swaps (.expr x) (.expr y)
      (.stmt (.exportDefault x)) (.stmt (.exportDefault y))
  | defaultDeclaration {x y} : Swaps (.declaration x) (.declaration y)
      (.stmt (.exportDefaultDecl x)) (.stmt (.exportDefaultDecl y))
  | listed {x y xs ys} : Swaps (.stmt x) (.stmt y)
      (.stmts (xs ++ x :: ys)) (.stmts (xs ++ y :: ys))

/-- One piece stands where the other did, somewhere inside of a third one. -/
inductive Replaces (base : Piece → Piece → Prop) : Piece → Piece → Prop where
  | here {x y} : base x y → Replaces base x y
  | inside {x y c d} : Swaps x y c d → Replaces base x y → Replaces base c d

/-- An expression is all there is. -/
theorem Replaces.alone {base : Piece → Piece → Prop} {e e' : Expr}
    (h : Replaces base (.expr e) (.expr e')) :
    Replaces base (.stmts [.expr e]) (.stmts [.expr e']) :=
  .inside (@Swaps.listed _ _ [] []) (.inside .exprStmt h)

/-! ## Declared names -/

mutual

/-- Hoisting only puts names in front of those collected so far. -/
theorem Stmt.addHoisted_eq :
    ∀ (s : Stmt) (names : List String), s.addHoisted names = s.addHoisted [] ++ names
  | .declare d, names => by simp [Stmt.addHoisted]
  | .exportDecl d, names => by simp [Stmt.addHoisted]
  | .block b, names => Stmt.listAddHoisted_eq b names
  | .ifElse _ c a, names => by
    rw [Stmt.addHoisted, Stmt.addHoisted, Stmt.optAddHoisted_eq a, Stmt.addHoisted_eq c names,
      Stmt.optAddHoisted_eq a (c.addHoisted []), List.append_assoc]
  | .forLoop init _ _ b, names => by
    rw [Stmt.addHoisted, Stmt.addHoisted, Stmt.addHoisted_eq b,
      Stmt.addHoisted_eq b (init.hoistedNames ++ []), List.append_nil, List.append_assoc]
  | .forEach left _ b, names => by
    rw [Stmt.addHoisted, Stmt.addHoisted, Stmt.addHoisted_eq b,
      Stmt.addHoisted_eq b (left.hoistedNames ++ []), List.append_nil, List.append_assoc]
  | .while _ b, names => Stmt.addHoisted_eq b names
  | .doWhile b _, names => Stmt.addHoisted_eq b names
  | .labeled b, names => Stmt.addHoisted_eq b names
  | .with _ b, names => Stmt.addHoisted_eq b names
  | .tryCatch b h f, names => by
    rw [Stmt.addHoisted, Stmt.addHoisted, Stmt.optListAddHoisted_eq f,
      CatchClause.optAddHoisted_eq h, Stmt.listAddHoisted_eq b names,
      Stmt.optListAddHoisted_eq f (CatchClause.optAddHoisted h _),
      CatchClause.optAddHoisted_eq h (Stmt.listAddHoisted b [])]
    simp only [List.append_assoc]
  | .switch _ cs, names => SwitchCase.listAddHoisted_eq cs names
  | .inert, _ | .expr _, _ | .return _, _ | .throw _, _ | .importNames _, _ | .exportNames _, _
  | .exportDefault _, _ | .exportDefaultDecl _, _ => rfl

theorem Stmt.listAddHoisted_eq :
    ∀ (ss : List Stmt) (names : List String),
      Stmt.listAddHoisted ss names = Stmt.listAddHoisted ss [] ++ names
  | [], _ => rfl
  | s :: ss, names => by
    rw [Stmt.listAddHoisted, Stmt.listAddHoisted, Stmt.listAddHoisted_eq ss,
      Stmt.listAddHoisted_eq ss (s.addHoisted []), Stmt.addHoisted_eq s names, List.append_assoc]

theorem Stmt.optAddHoisted_eq :
    ∀ (a : Option Stmt) (names : List String),
      Stmt.optAddHoisted a names = Stmt.optAddHoisted a [] ++ names
  | none, _ => rfl
  | some s, names => Stmt.addHoisted_eq s names

theorem Stmt.optListAddHoisted_eq :
    ∀ (f : Option (List Stmt)) (names : List String),
      Stmt.optListAddHoisted f names = Stmt.optListAddHoisted f [] ++ names
  | none, _ => rfl
  | some ss, names => Stmt.listAddHoisted_eq ss names

theorem CatchClause.optAddHoisted_eq :
    ∀ (h : Option CatchClause) (names : List String),
      CatchClause.optAddHoisted h names = CatchClause.optAddHoisted h [] ++ names
  | none, _ => rfl
  | some (.mk _ b), names => Stmt.listAddHoisted_eq b names

theorem SwitchCase.listAddHoisted_eq :
    ∀ (cs : List SwitchCase) (names : List String),
      SwitchCase.listAddHoisted cs names = SwitchCase.listAddHoisted cs [] ++ names
  | [], _ => rfl
  | .mk _ b :: cs, names => by
    rw [SwitchCase.listAddHoisted, SwitchCase.listAddHoisted, SwitchCase.listAddHoisted_eq cs,
      SwitchCase.listAddHoisted_eq cs (Stmt.listAddHoisted b []), Stmt.listAddHoisted_eq b names,
      List.append_assoc]

end

theorem hoistedNames_append (ss ts : List Stmt) :
    hoistedNames (ss ++ ts) = hoistedNames ts ++ hoistedNames ss := by
  induction ss with
  | nil => exact (List.append_nil _).symm
  | cons s ss ih =>
    have hfront : ∀ body, hoistedNames (s :: body) = hoistedNames body ++ s.addHoisted [] :=
      fun body => Stmt.listAddHoisted_eq body _
    rw [List.cons_append, hfront, ih, hfront, List.append_assoc]

theorem SwitchCase.listAddHoisted_append (cs ds : List SwitchCase) :
    SwitchCase.listAddHoisted (cs ++ ds) [] =
      SwitchCase.listAddHoisted ds [] ++ SwitchCase.listAddHoisted cs [] := by
  induction cs with
  | nil => exact (List.append_nil _).symm
  | cons c cs ih =>
    obtain ⟨test, body⟩ := c
    -- The names of a case are collected in front of those that come from the cases before it.
    have hfront : ∀ rest, SwitchCase.listAddHoisted (.mk test body :: rest) [] =
        SwitchCase.listAddHoisted rest [] ++ Stmt.listAddHoisted body [] :=
      fun rest => SwitchCase.listAddHoisted_eq rest _
    rw [List.cons_append, hfront, ih, hfront, List.append_assoc]

theorem Field.listNames_append (fs gs : List Field) :
    Field.listNames (fs ++ gs) = Field.listNames fs ++ Field.listNames gs := by
  induction fs with
  | nil => rfl
  | cons f fs ih => cases f <;> simp [Field.listNames, ih]

theorem SwitchCase.lexicalNames_append_cons (c : SwitchCase) (front back : List SwitchCase) :
    SwitchCase.lexicalNames (front ++ c :: back) =
      SwitchCase.lexicalNames front ++
        (SwitchCase.lexicalNames [c] ++ SwitchCase.lexicalNames back) := by
  simp [SwitchCase.lexicalNames]

theorem Field.listNames_cons (f : Field) (fs : List Field) :
    Field.listNames (f :: fs) = f.target.names ++ Field.listNames fs := by
  cases f <;> rfl

theorem Pattern.itemNames_append (ps qs : List (Option Pattern)) :
    Pattern.itemNames (ps ++ qs) = Pattern.itemNames ps ++ Pattern.itemNames qs := by
  induction ps with
  | nil => rfl
  | cons p ps ih => cases p <;> simp [Pattern.itemNames, ih]

namespace Piece

/-- The names that a piece gives to the enclosing function or program. -/
def hoisted : Piece → List String
  | declaration d => d.hoistedNames
  | forInit init => init.hoistedNames
  | forLeft left => left.hoistedNames
  | switchCase c => SwitchCase.listAddHoisted [c] []
  | catchClause c => CatchClause.optAddHoisted (some c) []
  | stmt s => s.addHoisted []
  | stmts ss => hoistedNames ss
  | _ => []

/-- The names that a piece binds in the scope it stands in. -/
def declared : Piece → List String
  | pattern _ p => p.names
  | field _ f => f.target.names
  | function _ f => f.name.toList
  | classOf c => c.name.toList
  | declarator d => d.names
  | declaration d => d.lexicalNames
  | forInit init => init.lexicalNames
  | forLeft left => left.lexicalNames
  | switchCase c => SwitchCase.lexicalNames [c]
  | stmt s => s.lexicalNames
  | stmts ss => lexicalNames ss
  | _ => []

/-- The names that a declaration binds in the scope it stands in if it is exported. -/
def exported : Piece → List String
  | declaration d => (Stmt.exportDecl d).lexicalNames
  | _ => []

end Piece

/-- A relation between lists of names that can be put together of parts. -/
structure NameRelation (N : List String → List String → Prop) : Prop where
  refl : ∀ names, N names names
  append : ∀ {names names' more more'}, N names names' → N more more' →
    N (names ++ more) (names' ++ more')

theorem nameRelation_eq : NameRelation (· = ·) where
  refl _ := rfl
  append h h' := by rw [h, h']

/-- The names that two pieces declare are related. -/
structure Piece.NamesRelated (N : List String → List String → Prop) (x y : Piece) : Prop where
  hoisted : N x.hoisted y.hoisted
  declared : N x.declared y.declared
  exported : N x.exported y.exported

section

variable {N : List String → List String → Prop} {x y c d : Piece}

/-- Names in the midst of others. -/
theorem NameRelation.between (hN : NameRelation N) {names names' : List String} (h : N names names')
    (front back : List String) : N (front ++ (names ++ back)) (front ++ (names' ++ back)) :=
  hN.append (hN.refl front) (hN.append h (hN.refl back))

theorem NameRelation.flatMap {α : Type} (hN : NameRelation N) {names : α → List String} {a b : α}
    (h : N (names a) (names b)) (front back : List α) :
    N ((front ++ a :: back).flatMap names) ((front ++ b :: back).flatMap names) := by
  rw [List.flatMap_append, List.flatMap_append, List.flatMap_cons, List.flatMap_cons]
  exact hN.between h _ _

/-- A declarator list declares its names by the kind of the declaration. -/
theorem Swaps.variableList (hN : NameRelation N) {a b : Declarator} {kind : VariableKind}
    {xs ys : List Declarator} (h : N a.names b.names) :
    (Piece.declaration (.variableList kind (xs ++ a :: ys))).NamesRelated N
      (.declaration (.variableList kind (xs ++ b :: ys))) := by
  have hlist : N (Declarator.listNames (xs ++ a :: ys)) (Declarator.listNames (xs ++ b :: ys)) :=
    hN.flatMap h xs ys
  cases kind with
  | hoisted => exact ⟨hlist, hN.refl _, hN.refl _⟩
  | lexical => exact ⟨hN.refl _, hlist, hlist⟩

theorem Swaps.hoisted_tryCatch (body : List Stmt) (handler : Option CatchClause)
    (finalizer : Option (List Stmt)) :
    (Piece.stmt (.tryCatch body handler finalizer)).hoisted =
      Stmt.optListAddHoisted finalizer [] ++
        (CatchClause.optAddHoisted handler [] ++ Stmt.listAddHoisted body []) := by
  show Stmt.optListAddHoisted finalizer _ = _
  rw [Stmt.optListAddHoisted_eq, CatchClause.optAddHoisted_eq]

/-- What a piece declares stays related when one of its parts is replaced by one whose names are
related. -/
theorem Swaps.names (hN : NameRelation N) (h : Swaps x y c d) (hx : x.NamesRelated N y) :
    c.NamesRelated N d := by
  have same {names : List String} : N names names := hN.refl names
  cases h
  case patternField xs ys =>
    refine ⟨same, ?_, same⟩
    show N (Field.listNames _) (Field.listNames _)
    rw [Field.listNames_append, Field.listNames_append, Field.listNames_cons, Field.listNames_cons]
    exact hN.between hx.declared _ _
  case patternItem xs ys =>
    refine ⟨same, ?_, same⟩
    show N (Pattern.itemNames _) (Pattern.itemNames _)
    rw [Pattern.itemNames_append, Pattern.itemNames_append]
    exact hN.between hx.declared _ _
  case defaulted => exact ⟨same, hx.declared, same⟩
  case rest => exact ⟨same, hx.declared, same⟩
  case fieldTarget => exact ⟨same, hx.declared, same⟩
  case fieldRest => exact ⟨same, hx.declared, same⟩
  case declared => exact ⟨same, hx.declared, same⟩
  case declarator => exact variableList hN hx.declared
  case functionDeclaration => exact ⟨hx.declared, hx.declared, same⟩
  case classDeclaration => exact ⟨same, hx.declared, hx.declared⟩
  -- A `for` head declares its names by its kind, as a statement does.
  case initDeclarator kind a b xs ys =>
    have hab : N a.names b.names := hx.declared
    cases kind with
    | hoisted => exact ⟨hN.flatMap hab xs ys, same, same⟩
    | lexical => exact ⟨same, hN.flatMap hab xs ys, same⟩
  case leftDeclarator kind a b xs ys =>
    have hab : N a.names b.names := hx.declared
    cases kind with
    | hoisted => exact ⟨hN.flatMap hab xs ys, same, same⟩
    | lexical => exact ⟨same, hN.flatMap hab xs ys, same⟩
  case caseBody => exact ⟨hx.hoisted, hN.append hx.declared same, same⟩
  case catchBody => exact ⟨hx.hoisted, same, same⟩
  case block => exact ⟨hx.hoisted, same, same⟩
  case declare => exact ⟨hN.append hx.hoisted same, hx.declared, same⟩
  case ifThen a =>
    refine ⟨?_, same, same⟩
    show N (Stmt.optAddHoisted a _) (Stmt.optAddHoisted a _)
    rw [Stmt.optAddHoisted_eq a, Stmt.optAddHoisted_eq a (Stmt.addHoisted _ _)]
    exact hN.append same hx.hoisted
  case ifElse s t =>
    refine ⟨?_, same, same⟩
    show N (Stmt.addHoisted s _) (Stmt.addHoisted t _)
    rw [Stmt.addHoisted_eq s, Stmt.addHoisted_eq t]
    exact hN.append hx.hoisted same
  case forInit i j _ _ body =>
    refine ⟨?_, same, same⟩
    show N (body.addHoisted (i.hoistedNames ++ [])) (body.addHoisted (j.hoistedNames ++ []))
    rw [body.addHoisted_eq, body.addHoisted_eq (j.hoistedNames ++ [])]
    exact hN.append same (hN.append hx.hoisted same)
  case forBody init _ _ s t =>
    refine ⟨?_, same, same⟩
    show N (s.addHoisted (init.hoistedNames ++ [])) (t.addHoisted (init.hoistedNames ++ []))
    rw [s.addHoisted_eq, t.addHoisted_eq]
    exact hN.append hx.hoisted same
  case eachLeft l m _ body =>
    refine ⟨?_, same, same⟩
    show N (body.addHoisted (l.hoistedNames ++ [])) (body.addHoisted (m.hoistedNames ++ []))
    rw [body.addHoisted_eq, body.addHoisted_eq (m.hoistedNames ++ [])]
    exact hN.append same (hN.append hx.hoisted same)
  case eachBody left _ s t =>
    refine ⟨?_, same, same⟩
    show N (s.addHoisted (left.hoistedNames ++ [])) (t.addHoisted (left.hoistedNames ++ []))
    rw [s.addHoisted_eq, t.addHoisted_eq]
    exact hN.append hx.hoisted same
  case whileBody => exact ⟨hx.hoisted, same, same⟩
  case doBody => exact ⟨hx.hoisted, same, same⟩
  case labeled => exact ⟨hx.hoisted, same, same⟩
  case withBody => exact ⟨hx.hoisted, same, same⟩
  case tried ss ts handler finalizer =>
    refine ⟨?_, same, same⟩
    rw [hoisted_tryCatch, hoisted_tryCatch]
    exact hN.append same (hN.append same hx.hoisted)
  case handler finalizer =>
    refine ⟨?_, same, same⟩
    rw [hoisted_tryCatch, hoisted_tryCatch]
    exact hN.append same (hN.append hx.hoisted same)
  case finalizer =>
    refine ⟨?_, same, same⟩
    rw [hoisted_tryCatch, hoisted_tryCatch]
    exact hN.append hx.hoisted same
  case switchCase xs ys =>
    refine ⟨?_, same, same⟩
    show N (SwitchCase.listAddHoisted (xs ++ ([_] ++ ys)) [])
      (SwitchCase.listAddHoisted (xs ++ ([_] ++ ys)) [])
    simp only [SwitchCase.listAddHoisted_append]
    exact hN.append (hN.append same hx.hoisted) same
  case exported => exact ⟨hN.append hx.hoisted same, hx.exported, same⟩
  case defaultDeclaration => exact ⟨same, hx.declared, same⟩
  case listed s t xs ys =>
    have hst : N s.lexicalNames t.lexicalNames := hx.declared
    refine ⟨?_, hN.flatMap hst xs ys, same⟩
    show N (hoistedNames (xs ++ ([_] ++ ys))) (hoistedNames (xs ++ ([_] ++ ys)))
    simp only [hoistedNames_append]
    exact hN.append (hN.append same hx.hoisted) same
  -- The other pieces declare nothing, or declare their names outside of the part.
  all_goals exact ⟨same, same, same⟩

end

/-! ## What pieces come to -/

namespace Interpretation

variable {α : Type}

def pattern (A : Interpretation α) : Role → Pattern → α
  | .binding => A.binding
  | .target direct => A.target direct

/-- A field of an object pattern, given the role of the pattern inside. -/
def field (A : Interpretation α) (role : Role) : Field → α
  | .keyed k p => A.append (A.key k) (A.pattern role p)
  | .rest p => A.pattern role p

end Interpretation

/-- What a piece of syntax comes to. -/
def Piece.value {α : Type} (A : Interpretation α) : Piece → α
  | expr e => A.exprParts e
  | link e => A.exprParts (.chain e)
  | element e => A.element e
  | property p => A.property p
  | key k => A.key k
  | pattern role p => A.pattern role p
  | field role f => A.field role f
  | function ownName f => A.function ownName f
  | classOf c => A.class c
  | classMember m => A.classMember m
  | declarator d => A.declarator d
  | declaration d => A.declaration d
  | forInit init => A.forInit init
  | forLeft left => A.forLeft left
  | switchCase c => A.switchCase c
  | catchClause c => A.catchClause c
  | stmt s => A.stmt s
  | stmts ss => A.stmts ss

/-- A relation between what syntax comes to that can be put together of parts. -/
structure Congruence {α : Type} (A : Interpretation α) (N : List String → List String → Prop)
    (R : α → α → Prop) : Prop where
  left : ∀ {a b} c, R a b → R (A.append a c) (A.append b c)
  right : ∀ {a b} c, R a b → R (A.append c a) (A.append c b)
  node : ∀ {a b}, R a b → R (A.node a) (A.node b)
  scope : ∀ {names names' a b}, N names names' → R a b → R (A.scope names a) (A.scope names' b)
  hidden : ∀ {a b}, R a b → R (A.hidden a) (A.hidden b)

/-- What is related in the places that look into a part: a member access looks for a chain of names
in its object and its key, and a chain of operators goes on in its left side. -/
structure Piece.Openable {α : Type} (A : Interpretation α) (R : α → α → Prop) (x y : Piece) :
    Prop where
  object : ∀ {o o' : Expr} (k : Key) (assigned : Bool), x = .expr o → y = .expr o' →
    R (A.member o k assigned) (A.member o' k assigned)
  key : ∀ {k k' : Key} (o : Expr) (assigned : Bool), x = .key k → y = .key k' →
    R (A.member o k assigned) (A.member o k' assigned)
  operators : ∀ {e e' : Expr}, x = .expr e → y = .expr e' → R (A.operators e) (A.operators e')

namespace Congruence

variable {α β : Type} {A : Interpretation α} {N : List String → List String → Prop}
  {R : α → α → Prop}

/-- One member of a list that is put together member by member. -/
theorem list (hA : Congruence A N R) (value : β → α) (values : List β → α)
    (hcons : ∀ x xs, values (x :: xs) = A.append (value x) (values xs)) {a b : β}
    (h : R (value a) (value b)) (xs ys : List β) :
    R (values (xs ++ a :: ys)) (values (xs ++ b :: ys)) := by
  induction xs with
  | nil =>
    rw [List.nil_append, List.nil_append, hcons, hcons]
    exact hA.left _ h
  | cons x xs ih =>
    rw [List.cons_append, List.cons_append, hcons, hcons]
    exact hA.right _ ih

theorem exprs (hA : Congruence A N R) {a b : Expr} (h : R (A.exprParts a) (A.exprParts b))
    (xs ys : List Expr) : R (A.exprs (xs ++ a :: ys)) (A.exprs (xs ++ b :: ys)) :=
  hA.list A.expr A.exprs (fun _ _ => rfl) (hA.node h) xs ys

theorem elements (hA : Congruence A N R) {a b : Element} (h : R (A.element a) (A.element b))
    (xs ys : List Element) : R (A.elements (xs ++ a :: ys)) (A.elements (xs ++ b :: ys)) :=
  hA.list A.element A.elements (fun _ _ => rfl) h xs ys

theorem declarators (hA : Congruence A N R) {a b : Declarator}
    (h : R (A.declarator a) (A.declarator b)) (xs ys : List Declarator) :
    R (A.declarators (xs ++ a :: ys)) (A.declarators (xs ++ b :: ys)) :=
  hA.list A.declarator A.declarators (fun _ _ => rfl) h xs ys

/-- The fields of a pattern in either role. -/
theorem fields (hA : Congruence A N R) (role : Role) {a b : Field}
    (h : R (A.field role.inner a) (A.field role.inner b)) (xs ys : List Field) :
    R (A.pattern role (.object (xs ++ a :: ys))) (A.pattern role (.object (xs ++ b :: ys))) := by
  cases role with
  | binding =>
    -- The exchanged field stands in the list; a key and its target are appended one after the
    -- other.
    refine hA.list (A.field .binding) A.bindingFields (fun f fs => ?_) h xs ys
    cases f with
    | keyed k p => exact (A.append_assoc _ _ _).symm
    | rest p => rfl
  | target direct =>
    refine hA.list (A.field (.target false)) A.targetFields (fun f fs => ?_) h xs ys
    cases f with
    | keyed k p => exact (A.append_assoc _ _ _).symm
    | rest p => rfl

/-- The items of a pattern in either role, of which some may be left out. -/
theorem items (hA : Congruence A N R) (role : Role) {a b : Pattern}
    (h : R (A.pattern role.inner a) (A.pattern role.inner b)) (xs ys : List (Option Pattern)) :
    R (A.pattern role (.array (xs ++ some a :: ys)))
      (A.pattern role (.array (xs ++ some b :: ys))) := by
  -- By induction on the items in front of the exchanged one; a gap among them adds nothing.
  induction xs with
  | nil =>
    cases role with
    | binding => exact hA.left (A.bindingItems ys) h
    | target direct => exact hA.left (A.targetItems ys) h
  | cons x xs ih =>
    cases role with
    | binding =>
      cases x with
      | none => exact ih
      | some p => exact hA.right (A.binding p) ih
    | target direct =>
      cases x with
      | none => exact ih
      | some p => exact hA.right (A.target false p) ih

end Congruence

section

variable {α : Type} {A : Interpretation α} {N : List String → List String → Prop} {R : α → α → Prop}
  {x y c d : Piece}

/-- What an expression comes to stays related when one of its parts is replaced by a related one. -/
theorem Swaps.value_expr (hA : Congruence A N R) {e : Expr}
    (h : Swaps x y (.expr e) d) (hopen : x.Openable A R y) (hx : R (x.value A) (y.value A)) :
    R ((Piece.expr e).value A) (d.value A) := by
  -- By the place of the exchanged part: it is a node or none there, on the left or on the right of
  -- the rest.
  cases h with
  | @arrayElement _ _ xs ys => exact hA.elements hx xs ys
  | @objectProperty _ _ xs ys => exact hA.list A.property A.properties (fun _ _ => rfl) hx xs ys
  | function => exact hx
  | arrow => exact hx
  | classExpr => exact hx
  | @templatePart _ _ xs ys => exact hA.exprs hx xs ys
  | templateTag => exact hA.left _ (hA.node hx)
  | @taggedPart _ _ _ xs ys => exact hA.right _ (hA.exprs hx xs ys)
  | memberObject => exact hopen.object _ false rfl rfl
  | memberKey => exact hopen.key _ false rfl rfl
  | callee => exact hA.left _ (hA.node hx)
  | @argument _ _ _ xs ys => exact hA.right _ (hA.elements hx xs ys)
  | constructor => exact hA.left _ (hA.node hx)
  | @constructorArgument _ _ _ xs ys => exact hA.right _ (hA.elements hx xs ys)
  | chain => exact hx
  | importSource => exact hA.left _ (hA.node hx)
  | importOptions => exact hA.right _ (hA.hidden (hA.node hx))
  | unary => exact hA.node hx
  | updateTarget => exact hx
  | await => exact hA.node hx
  | yield => exact hA.node hx
  | binaryLeft => exact hA.left _ (hopen.operators rfl rfl)
  | binaryRight => exact hA.right _ (hA.node hx)
  | logicalLeft => exact hA.left _ (hopen.operators rfl rfl)
  | logicalRight => exact hA.right _ (hA.node hx)
  | privateIn => exact hA.node hx
  | test => exact hA.left _ (hA.node hx)
  | consequent => exact hA.right _ (hA.left _ (hA.node hx))
  | alternate => exact hA.right _ (hA.right _ (hA.node hx))
  | assignTarget => exact hA.left _ hx
  | assigned => exact hA.right _ (hA.node hx)
  | @sequence _ _ xs ys => exact hA.exprs hx xs ys
  | paren => exact hA.node hx

theorem Swaps.value_pattern (hA : Congruence A N R) {role : Role} {p : Pattern}
    (h : Swaps x y (.pattern role p) d) (hopen : x.Openable A R y)
    (hx : R (x.value A) (y.value A)) : R ((Piece.pattern role p).value A) (d.value A) := by
  cases h with
  | targetObject =>
    -- In a binding, a member access is hidden; in a target it is an access like any other.
    cases role with
    | binding => exact hA.hidden (hA.left _ (hA.node hx))
    | target direct => exact hopen.object _ direct rfl rfl
  | targetKey =>
    cases role with
    | binding => exact hA.hidden (hA.right _ hx)
    | target direct => exact hopen.key _ direct rfl rfl
  | @patternField _ _ _ xs ys => exact hA.fields role hx xs ys
  | @patternItem _ _ _ xs ys => exact hA.items role hx xs ys
  | defaulted => cases role <;> exact hA.left _ hx
  | default => cases role <;> exact hA.right _ (hA.node hx)
  | rest => cases role <;> exact hx

theorem Swaps.value_function (hN : NameRelation N) (hA : Congruence A N R) {ownName : Bool}
    {f : Function} (h : Swaps x y (.function ownName f) d) (hnames : x.NamesRelated N y)
    (hx : R (x.value A) (y.value A)) : R ((Piece.function ownName f).value A) (d.value A) := by
  cases h with
  | @parameter _ _ a b xs ys =>
    -- The parameters are bound together, so that those beside the exchanged one stay as they are.
    have hab : N a.names b.names := hnames.declared
    refine hA.scope (hN.append (hN.append (hN.refl _) (hN.flatMap hab xs ys)) (hN.refl _)) ?_
    exact hA.left _ (hA.list A.binding A.bindings (fun _ _ => rfl) hx xs ys)
  | functionBody =>
    refine hA.scope (hN.append (hN.refl _) (hN.append hnames.hoisted hnames.declared)) ?_
    exact hA.right _ hx

theorem Swaps.value_class (hN : NameRelation N) (hA : Congruence A N R) {k : Class}
    (h : Swaps x y (.classOf k) d) (hx : R (x.value A) (y.value A)) :
    R ((Piece.classOf k).value A) (d.value A) := by
  cases h with
  | @classDecorator _ _ xs ys => exact hA.left _ (hA.hidden (hA.exprs hx xs ys))
  | heritage => exact hA.right _ (hA.scope (hN.refl _) (hA.left _ (hA.node hx)))
  | @classMember _ _ _ _ _ xs ys =>
    have hmembers := hA.list A.classMember A.classMembers (fun _ _ => rfl) hx xs ys
    exact hA.right _ (hA.scope (hN.refl _) (hA.right _ hmembers))

theorem Swaps.value_classMember (hN : NameRelation N) (hA : Congruence A N R) {m : ClassMember}
    -- Decorators are hidden, and only a static block declares names for a scope.
    (h : Swaps x y (.classMember m) d) (hnames : x.NamesRelated N y)
    (hx : R (x.value A) (y.value A)) : R ((Piece.classMember m).value A) (d.value A) := by
  cases h with
  | @methodDecorator _ _ xs ys => exact hA.left _ (hA.hidden (hA.exprs hx xs ys))
  | methodKey => exact hA.right _ (hA.left _ hx)
  | method => exact hA.right _ (hA.right _ hx)
  | @memberDecorator _ _ xs ys => exact hA.left _ (hA.hidden (hA.exprs hx xs ys))
  | memberFieldKey => exact hA.right _ (hA.left _ hx)
  | memberFieldValue => exact hA.right _ (hA.right _ (hA.node hx))
  | staticBlock => exact hA.scope (hN.append hnames.hoisted hnames.declared) hx

theorem Swaps.value_stmt (hN : NameRelation N) (hA : Congruence A N R) {s : Stmt}
    (h : Swaps x y (.stmt s) d) (hnames : x.NamesRelated N y) (hx : R (x.value A) (y.value A)) :
    R ((Piece.stmt s).value A) (d.value A) := by
  have same {names : List String} : N names names := hN.refl names
  -- As for expressions, and where the part declares names for a scope, these are related too.
  cases h with
  | block => exact hA.node (hA.scope hnames.declared hx)
  | exprStmt => exact hA.node (hA.node hx)
  | declare => exact hA.node hx
  | ifTest => exact hA.node (hA.left _ (hA.node hx))
  | ifThen => exact hA.node (hA.right _ (hA.left _ hx))
  | ifElse => exact hA.node (hA.right _ (hA.right _ hx))
  | forInit => exact hA.node (hA.scope hnames.declared (hA.left _ hx))
  | forTest => exact hA.node (hA.scope same (hA.right _ (hA.left _ (hA.node hx))))
  | forUpdate => exact hA.node (hA.scope same (hA.right _ (hA.right _ (hA.left _ (hA.node hx)))))
  | forBody => exact hA.node (hA.scope same (hA.right _ (hA.right _ (hA.right _ hx))))
  | eachLeft => exact hA.node (hA.scope hnames.declared (hA.left _ hx))
  | eachRight => exact hA.node (hA.scope same (hA.right _ (hA.left _ (hA.node hx))))
  | eachBody => exact hA.node (hA.scope same (hA.right _ (hA.right _ hx)))
  | whileTest => exact hA.node (hA.left _ (hA.node hx))
  | whileBody => exact hA.node (hA.right _ hx)
  | doBody => exact hA.node (hA.left _ hx)
  | doTest => exact hA.node (hA.right _ (hA.node hx))
  | returned => exact hA.node (hA.node hx)
  | thrown => exact hA.node (hA.node hx)
  | tried => exact hA.node (hA.left _ (hA.scope hnames.declared hx))
  | handler => exact hA.node (hA.right _ (hA.left _ hx))
  | finalizer => exact hA.node (hA.right _ (hA.right _ (hA.scope hnames.declared hx)))
  | switched => exact hA.node (hA.left _ (hA.node hx))
  | @switchCase _ a b xs ys =>
    -- The cases of a switch share one scope.
    have hab : N (SwitchCase.lexicalNames [a]) (SwitchCase.lexicalNames [b]) := hnames.declared
    have hcases : N (SwitchCase.lexicalNames (xs ++ a :: ys))
        (SwitchCase.lexicalNames (xs ++ b :: ys)) := by
      rw [SwitchCase.lexicalNames_append_cons, SwitchCase.lexicalNames_append_cons]
      exact hN.between hab _ _
    have hlist := hA.list A.switchCase A.switchCases (fun _ _ => rfl) hx xs ys
    exact hA.node (hA.right _ (hA.scope hcases hlist))
  | labeled => exact hA.node hx
  | withObject => exact hA.node (hA.left _ (hA.node hx))
  | withBody => exact hA.node (hA.right _ hx)
  | exported => exact hA.node hx
  | exportedDefault => exact hA.node (hA.node hx)
  | defaultDeclaration => exact hA.node hx

/-- What a piece comes to stays related when one of its parts is replaced by one that is related. -/
theorem Swaps.value (hN : NameRelation N) (hA : Congruence A N R) (h : Swaps x y c d)
    (hnames : x.NamesRelated N y) (hopen : x.Openable A R y) (hx : R (x.value A) (y.value A)) :
    R (c.value A) (d.value A) := by
  -- Pieces with parts of many kinds have a lemma each, and the others a few places.
  cases c with
  | expr e => exact h.value_expr hA hopen hx
  | link e =>
    cases h with
    | linkObject => exact hopen.object _ false rfl rfl
    | linkKey => exact hopen.key _ false rfl rfl
    | linkCallee => exact hA.left _ (hA.node hx)
    | @linkArgument _ _ _ xs ys => exact hA.right _ (hA.elements hx xs ys)
  | element e => cases h <;> exact hA.node hx
  | property p =>
    cases h with
    | propertyKey => exact hA.left _ hx
    | propertyValue => exact hA.right _ (hA.node hx)
    | propertySpread => exact hA.node hx
  | key k => cases h; exact hA.node hx
  | pattern role p => exact h.value_pattern hA hopen hx
  | field role f =>
    cases h with
    | fieldKey => exact hA.left _ hx
    | fieldTarget => exact hA.right _ hx
    | fieldRest => exact hx
  | function ownName f => exact h.value_function hN hA hnames hx
  | classOf k => exact h.value_class hN hA hx
  | classMember m => exact h.value_classMember hN hA hnames hx
  | declarator d =>
    cases h with
    | declared => exact hA.left _ hx
    | initializer => exact hA.right _ (hA.node hx)
  | declaration d =>
    cases h with
    | @declarator _ _ _ xs ys => exact hA.declarators hx xs ys
    | functionDeclaration => exact hx
    | classDeclaration => exact hx
  | forInit init =>
    cases h with
    | @initDeclarator _ _ _ xs ys => exact hA.declarators hx xs ys
    | initExpr => exact hA.node hx
  | forLeft left =>
    cases h with
    | @leftDeclarator _ _ _ xs ys => exact hA.declarators hx xs ys
    | leftTarget => exact hx
  | switchCase c =>
    cases h with
    | caseTest => exact hA.left _ (hA.node hx)
    | caseBody => exact hA.right _ hx
  | catchClause c =>
    cases h with
    | @catchParameter a b _ =>
      have hab : N ([a].flatMap Pattern.names) ([b].flatMap Pattern.names) :=
        hN.append hnames.declared (hN.refl _)
      exact hA.scope hab (hA.left _ hx)
    | catchBody => exact hA.scope (hN.refl _) (hA.right _ (hA.scope hnames.declared hx))
  | stmt s => exact h.value_stmt hN hA hnames hx
  | stmts ss =>
    cases h with
    | @listed _ _ xs ys => exact hA.list A.stmt A.stmts (fun _ _ => rfl) hx xs ys

end

end DepTriage.JavaScript
