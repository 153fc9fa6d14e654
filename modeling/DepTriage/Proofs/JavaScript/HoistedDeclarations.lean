import DepTriage.Proofs.JavaScript.References
import DepTriage.Proofs.JavaScript.Replacement
import Mathlib.Logic.Relation

/-!
# The declarations behind hoisted names

Hoisted names are collected by a recursion that goes into each form of statement by a case of its
own. What the parts of a piece of syntax are is known without that recursion: the parts are what can
be replaced. Here the hoisted names are shown to be those of the `var` and function declarations
that are reached from part to part, through no function, no class and no expression. Hoisting does
not go into default exports either, and there it misses names.

## Key results

- `Piece.leadsTo_isOpen_iff`: a piece hoists the names of the declarations that are reached from it
  through open pieces
- `isVarScoped_iff`: a name that is declared for the function or program around a list is hoisted,
  or some default export in the list declares it
- `mem_hoistedNames_iff_reached`: the names that hoisting collects, and when it misses none
-/

namespace DepTriage.JavaScript

/-! ## Parts of pieces -/

namespace Piece

/-- A piece is a direct part of another: it stands in a place where it can be swapped for itself. -/
def IsPart (x c : Piece) : Prop :=
  Swaps x x c c

/-- A piece is reached from another, from each piece on the way to a direct part of it. Every piece
that is left for a part of it may be entered. -/
def Reaches (enters : Piece → Prop) : Piece → Piece → Prop :=
  Relation.ReflTransGen fun c x => enters c ∧ x.IsPart c

/-- Expressions, functions of all kinds and classes keep to themselves what is declared in them. -/
def KeepsNames : Piece → Prop
  | expr _ => True
  | function _ _ => True
  | classOf _ => True
  | classMember _ => True
  | _ => False

def IsDefaultExport : Piece → Prop
  | stmt (.exportDefaultDecl _) => True
  | _ => False

/-- What hoisting goes into. -/
def IsOpen (c : Piece) : Prop :=
  ¬c.KeepsNames ∧ ¬c.IsDefaultExport

/-- The piece is a `var` declaration that binds the name, be it in the head of a loop or not, or a
function declaration that bears it. -/
def DeclaresVar : Piece → String → Prop
  | declaration d, n => d.IsHoisted ∧ d.Binds n
  | forInit init, n => ∃ d, init.declaration? = some d ∧ d.IsHoisted ∧ d.Binds n
  | forLeft left, n => ∃ d, left.declaration? = some d ∧ d.IsHoisted ∧ d.Binds n
  | _, _ => False

/-- A `var` or function declaration of the name is reached. -/
def LeadsTo (enters : Piece → Prop) (c : Piece) (n : String) : Prop :=
  ∃ x, c.Reaches enters x ∧ x.DeclaresVar n

/-- A piece gives a name to the enclosing function or program. -/
def Hoists : Piece → String → Prop
  | stmt s, n => s.Hoists n
  | stmts ss, n => ∃ s ∈ ss, s.Hoists n
  | switchCase (.mk _ body), n => ∃ s ∈ body, s.Hoists n
  | catchClause (.mk _ body), n => ∃ s ∈ body, s.Hoists n
  | c, n => c.DeclaresVar n

end Piece

/-- A name is declared for the function or program around a statement list: a `var` or function
declaration of it is reached without entering a function, a class or an expression. -/
def IsVarScoped (body : List Stmt) (n : String) : Prop :=
  (Piece.stmts body).LeadsTo (fun c => ¬c.KeepsNames) n

namespace Piece

variable {n : String} {x c : Piece} {enters : Piece → Prop}

/-! ## From a declaration outwards -/

theorem DeclaresVar.leadsTo (h : c.DeclaresVar n) : c.LeadsTo enters n :=
  ⟨c, .refl, h⟩

theorem LeadsTo.within (h : x.LeadsTo enters n) (hpart : x.IsPart c) (hc : enters c) :
    c.LeadsTo enters n := by
  obtain ⟨y, hreaches, hy⟩ := h
  exact ⟨y, .head ⟨hc, hpart⟩ hreaches, hy⟩

theorem LeadsTo.listed {s : Stmt} {body : List Stmt} (h : (stmt s).LeadsTo enters n)
    (hs : s ∈ body) (hc : enters (stmts body)) : (stmts body).LeadsTo enters n := by
  obtain ⟨front, back, rfl⟩ := List.append_of_mem hs
  exact h.within .listed hc

theorem LeadsTo.inSwitch {e : Expr} {sc : SwitchCase} {cases : List SwitchCase}
    (h : (switchCase sc).LeadsTo enters n) (hsc : sc ∈ cases)
    (hc : enters (stmt (.switch e cases))) : (stmt (.switch e cases)).LeadsTo enters n := by
  obtain ⟨front, back, rfl⟩ := List.append_of_mem hsc
  exact h.within .switchCase hc

theorem LeadsTo.of_declaration {d : Declaration} (hd : d.IsHoisted) (hn : d.Binds n) :
    (declaration d).LeadsTo enters n :=
  DeclaresVar.leadsTo ⟨hd, hn⟩

/-- From a statement that hoists a name, a declaration of it is reached. -/
theorem leadsTo_of_hoists_stmt {s : Stmt} (h : s.Hoists n) : (stmt s).LeadsTo IsOpen n := by
  -- Every form of statement that hoists is open, and what it hoists from is a part of it.
  induction h with
  | declare hd hn => exact (LeadsTo.of_declaration hd hn).within .declare ⟨id, id⟩
  | exportDecl hd hn => exact (LeadsTo.of_declaration hd hn).within .exported ⟨id, id⟩
  | block hs _ ih => exact (ih.listed hs ⟨id, id⟩).within .block ⟨id, id⟩
  | consequent _ ih => exact ih.within .ifThen ⟨id, id⟩
  | alternate _ ih => exact ih.within .ifElse ⟨id, id⟩
  | @forHead init _ _ _ d _ hinit hd hn =>
    have hhead : (forInit init).DeclaresVar _ := ⟨d, hinit, hd, hn⟩
    exact hhead.leadsTo.within .forInit ⟨id, id⟩
  | forBody _ ih => exact ih.within .forBody ⟨id, id⟩
  | @eachHead left _ _ d _ hleft hd hn =>
    have hhead : (forLeft left).DeclaresVar _ := ⟨d, hleft, hd, hn⟩
    exact hhead.leadsTo.within .eachLeft ⟨id, id⟩
  | eachBody _ ih => exact ih.within .eachBody ⟨id, id⟩
  | «while» _ ih => exact ih.within .whileBody ⟨id, id⟩
  | doWhile _ ih => exact ih.within .doBody ⟨id, id⟩
  | tryBody hs _ ih => exact (ih.listed hs ⟨id, id⟩).within .tried ⟨id, id⟩
  | handler hs _ ih =>
    exact ((ih.listed hs ⟨id, id⟩).within .catchBody ⟨id, id⟩).within .handler ⟨id, id⟩
  | finalizer hs _ ih => exact (ih.listed hs ⟨id, id⟩).within .finalizer ⟨id, id⟩
  | switch hsc hs _ ih =>
    exact ((ih.listed hs ⟨id, id⟩).within .caseBody ⟨id, id⟩).inSwitch hsc ⟨id, id⟩
  | labeled _ ih => exact ih.within .labeled ⟨id, id⟩
  | «with» _ ih => exact ih.within .withBody ⟨id, id⟩

theorem leadsTo_of_hoists_stmts {body : List Stmt} (h : ∃ s ∈ body, s.Hoists n) :
    (stmts body).LeadsTo IsOpen n := by
  obtain ⟨s, hs, hn⟩ := h
  exact (leadsTo_of_hoists_stmt hn).listed hs ⟨id, id⟩

theorem leadsTo_of_hoists (h : c.Hoists n) : c.LeadsTo IsOpen n := by
  -- A list is entered from the clause or case that it is the body of, which is open itself.
  cases c with
  | stmt s => exact leadsTo_of_hoists_stmt h
  | stmts ss => exact leadsTo_of_hoists_stmts h
  | switchCase sc =>
    obtain ⟨test, body⟩ := sc
    exact (leadsTo_of_hoists_stmts h).within .caseBody ⟨id, id⟩
  | catchClause cc =>
    obtain ⟨parameter, body⟩ := cc
    exact (leadsTo_of_hoists_stmts h).within .catchBody ⟨id, id⟩
  | declaration | forInit | forLeft => exact DeclaresVar.leadsTo h
  | _ => exact h.elim

/-! ## From the whole inwards -/

theorem DeclaresVar.hoists (h : c.DeclaresVar n) : c.Hoists n := by
  cases c with
  | declaration | forInit | forLeft => exact h
  | _ => exact h.elim

/-- What a part hoists, the piece around it hoists as well, unless that keeps its names or exports
the part by default. -/
theorem IsPart.hoists (hpart : x.IsPart c) (hkeeps : ¬c.KeepsNames) (h : x.Hoists n) :
    c.Hoists n ∨ ∃ d, x = declaration d ∧ c = stmt (.exportDefaultDecl d) := by
  -- Where the same piece is put back, the two sides of a swap cannot be told apart by `cases`.
  obtain ⟨y, d, hswaps⟩ : ∃ y d, Swaps x y c d := ⟨x, c, hpart⟩
  cases hswaps
  case listed s _ front back => exact .inl ⟨s, by simp, h⟩
  case block =>
    obtain ⟨s, hs, hn⟩ := h
    exact .inl (.block hs hn)
  case declare => exact .inl (.declare h.1 h.2)
  case exported => exact .inl (.exportDecl h.1 h.2)
  case defaultDeclaration d _ => exact .inr ⟨d, rfl, rfl⟩
  case ifThen => exact .inl (.consequent h)
  case ifElse => exact .inl (.alternate h)
  case forInit =>
    obtain ⟨d, hinit, hd, hn⟩ := h
    exact .inl (.forHead hinit hd hn)
  case forBody => exact .inl (.forBody h)
  case eachLeft =>
    obtain ⟨d, hleft, hd, hn⟩ := h
    exact .inl (.eachHead hleft hd hn)
  case eachBody => exact .inl (.eachBody h)
  case whileBody => exact .inl (.while h)
  case doBody => exact .inl (.doWhile h)
  case labeled => exact .inl (.labeled h)
  case withBody => exact .inl (.with h)
  case tried =>
    obtain ⟨s, hs, hn⟩ := h
    exact .inl (.tryBody hs hn)
  case catchBody => exact .inl h
  case handler cc _ _ =>
    obtain ⟨parameter, body⟩ := cc
    obtain ⟨s, hs, hn⟩ := h
    exact .inl (.handler hs hn)
  case finalizer =>
    obtain ⟨s, hs, hn⟩ := h
    exact .inl (.finalizer hs hn)
  case caseBody => exact .inl h
  case switchCase sc _ front back =>
    obtain ⟨test, body⟩ := sc
    obtain ⟨s, hs, hn⟩ := h
    have hsc : SwitchCase.mk test body ∈ front ++ .mk test body :: back := by simp
    exact .inl (.switch hsc hs hn)
  -- The bodies of functions and of static blocks hoist names, which are kept there.
  case functionBody => exact absurd trivial hkeeps
  case staticBlock => exact absurd trivial hkeeps
  -- No other part hoists a name.
  all_goals exact h.elim

/-- If pieces that keep their names are not entered, a name that a piece leads to is hoisted by the
piece, or it is declared in a default export that is entered. -/
theorem LeadsTo.hoists_or_exports (henters : ∀ c, enters c → ¬c.KeepsNames)
    (h : c.LeadsTo enters n) :
    c.Hoists n ∨ ∃ d, c.Reaches enters (stmt (.exportDefaultDecl d)) ∧
      enters (stmt (.exportDefaultDecl d)) ∧ d.IsHoisted ∧ d.Binds n := by
  obtain ⟨x, hreaches, hx⟩ := h
  -- By induction on the way, from the declaration outwards.
  induction hreaches using Relation.ReflTransGen.head_induction_on with
  | refl => exact .inl hx.hoists
  | @head c y hstep _ ih =>
    obtain ⟨hc, hpart⟩ := hstep
    obtain hy | ⟨d, hd, hexport⟩ := ih
    · obtain hhoists | ⟨d, rfl, rfl⟩ := hpart.hoists (henters c hc) hy
      · exact .inl hhoists
      · exact .inr ⟨d, .refl, hc, hy⟩
    · exact .inr ⟨d, .head ⟨hc, hpart⟩ hd, hexport⟩

/-- A piece hoists the names of the declarations that are reached from it through open pieces, and
no others. -/
theorem leadsTo_isOpen_iff : c.LeadsTo IsOpen n ↔ c.Hoists n := by
  refine ⟨fun h => ?_, leadsTo_of_hoists⟩
  obtain hhoists | ⟨d, -, hopen, -⟩ := h.hoists_or_exports fun _ hopen => hopen.1
  · exact hhoists
  · exact absurd trivial hopen.2

end Piece

/-! ## Statement lists -/

section

variable {body : List Stmt} {n : String}

theorem mem_hoistedNames_iff_leadsTo :
    n ∈ hoistedNames body ↔ (Piece.stmts body).LeadsTo Piece.IsOpen n := by
  rw [mem_hoistedNames_iff, Piece.leadsTo_isOpen_iff]
  rfl

theorem isVarScoped_of_mem_hoistedNames (h : n ∈ hoistedNames body) : IsVarScoped body n := by
  obtain ⟨x, hreaches, hx⟩ := mem_hoistedNames_iff_leadsTo.1 h
  exact ⟨x, Relation.ReflTransGen.mono (fun _ _ hstep => ⟨hstep.1.1, hstep.2⟩) _ _ hreaches, hx⟩

/-- The names that are declared for the function or program around a statement list are those that
are hoisted, and those of the default exports in it. -/
theorem isVarScoped_iff :
    IsVarScoped body n ↔ n ∈ hoistedNames body ∨
      ∃ d, (Piece.stmts body).Reaches (fun c => ¬c.KeepsNames) (.stmt (.exportDefaultDecl d)) ∧
        d.IsHoisted ∧ d.Binds n := by
  constructor
  · intro h
    -- A declaration that is not hoisted was reached through a default export.
    obtain hhoists | ⟨d, hd, -, hdeclares⟩ := h.hoists_or_exports fun _ => id
    · exact .inl (mem_hoistedNames_iff.2 hhoists)
    · exact .inr ⟨d, hd, hdeclares⟩
  · rintro (h | ⟨d, hd, hdeclares⟩)
    · exact isVarScoped_of_mem_hoistedNames h
    · exact ⟨.declaration d, hd.tail ⟨id, .defaultDeclaration⟩, hdeclares⟩

end

/-! ## Exactness -/

/-- Hoisting collects the names of the `var` and function declarations that are reached from a
statement list through open pieces. Whether these are all that are declared for the function or
program around the list depends on the default exports alone: a name is missed if and only if one of
them declares it and it is not collected from elsewhere. -/
theorem mem_hoistedNames_iff_reached (body : List Stmt) (n : String) :
    (n ∈ hoistedNames body ↔ (Piece.stmts body).LeadsTo Piece.IsOpen n) ∧
    ((n ∈ hoistedNames body ↔ IsVarScoped body n) ↔
      ∀ d, (Piece.stmts body).Reaches (fun c => ¬c.KeepsNames) (.stmt (.exportDefaultDecl d)) →
        d.IsHoisted → d.Binds n → n ∈ hoistedNames body) := by
  refine ⟨mem_hoistedNames_iff_leadsTo, ?_⟩
  rw [isVarScoped_iff]
  constructor
  · intro hexact d hreached hd hn
    exact hexact.2 (.inr ⟨d, hreached, hd, hn⟩)
  · intro hexports
    refine ⟨.inl, ?_⟩
    rintro (h | ⟨d, hreached, hd, hn⟩)
    · exact h
    · exact hexports d hreached hd hn

/-- A function that is exported by its name is hoisted out of a block. -/
example : hoistedNames [.block [.exportDecl (.function (.mk (some "f") [] []))]] = ["f"] := by
  decide

/-- The program `{ export default function f() {} } f;`. -/
def defaultExportInBlock : Program :=
  ⟨[.block [.exportDefaultDecl (.function (.mk (some "f") [] []))], .expr (.identifier "f")]⟩

theorem parse?_defaultExportInBlock :
    Program.parse? .module "{ export default function f() {} } f;" =
      some defaultExportInBlock :=
  Program.eq_some_of_isSame (by decide +kernel)

/-- A function that is exported by default in a block is not hoisted out of it: in the program that
is read from `{ export default function f() {} } f;` the declaration is reached through a block and
an export alone, but the name is not collected, and its use behind the block is reported. -/
theorem default_export_not_hoisted :
    Program.parse? .module "{ export default function f() {} } f;" = some defaultExportInBlock ∧
    IsVarScoped defaultExportInBlock.body "f" ∧
    "f" ∉ hoistedNames defaultExportInBlock.body ∧
    defaultExportInBlock.analyze = .ok (.ofList [("f", .read)]) := by
  let d : Declaration := .function (.mk (some "f") [] [])
  have hexport : (Piece.stmt (.exportDefaultDecl d)).LeadsTo (fun c => ¬c.KeepsNames) "f" :=
    (Piece.LeadsTo.of_declaration (d := d) trivial rfl).within .defaultDeclaration id
  have hblock : (Piece.stmt (.block [.exportDefaultDecl d])).LeadsTo (fun c => ¬c.KeepsNames) "f" :=
    (hexport.listed List.mem_cons_self id).within .block id
  exact ⟨parse?_defaultExportInBlock, hblock.listed List.mem_cons_self id, by decide,
    Program.analyze_eq_ok_iff.2 ⟨by decide, rfl⟩⟩

end DepTriage.JavaScript
