import DepTriage.Proofs.JavaScript.Calls

/-!
# Names are in scope before their declarations

The names of a scope are in scope before anything in it is visited. Here it is proved, along the
calls of a walk, that each declaration is met with its names in scope, unless it stands in a place
for a single statement and gives its names to no function: then no statement list has collected
them.

## Key results

- `Call.needs_of_stage`: what a stage of a call needs in scope, the call needs as well.
- `Call.Visits.needs`: what a call needs, some scope around it declares, or its place loses it.
- `Program.isBound_of_declares`: the names of a declaration are in scope when it is visited.
-/

namespace DepTriage.JavaScript

/-- The names that a call is to find in scope, since it meets their declaration. -/
def Call.Declares : Call → String → Prop
  | .binding p, n => p.Binds n
  | .declaration (.function f), n => f.name = some n
  | .declaration (.classDecl c), n => c.name = some n
  | _, _ => False

/-- A place loses a name: what stands there declares the name for the block around it, but no block
collects it from there, and no function either. In a place for a single statement these are the
names that are not hoisted. A default export loses only those of a `var`, which no program has. -/
def Surrounding.Loses : Surrounding → String → Prop
  | .scope _, _ => False
  | .single s, n => s.Declares n ∧ ¬s.Hoists n
  | .default d, n => d.Binds n ∧ ¬d.IsLexical

/-! ## What calls need in scope -/

def CatchClause.body : CatchClause → List Stmt
  | .mk _ ss => ss

def SwitchCase.body : SwitchCase → List Stmt
  | .mk _ ss => ss

/-- The names that are to be in scope for a call: those of the declarations in it which no scope in
it declares. -/
def Call.Needs : Call → String → Prop
  | .binding p, n => p.Binds n
  | .bindings ps, n => ∃ p ∈ ps, p.Binds n
  | .declarator d, n => d.Binds n
  | .declarators ds, n => ∃ d ∈ ds, d.Binds n
  | .declaration d, n => d.Binds n
  | .stmt s, n => s.Hoists n ∨ s.Declares n
  | .stmtParts s, n => s.Hoists n ∨ s.Declares n
  | .stmts ss, n => ∃ s ∈ ss, s.Hoists n ∨ s.Declares n
  | .block ss, n => ∃ s ∈ ss, s.Hoists n
  | .forInit init, n => ∃ d, init.declaration? = some d ∧ d.Binds n
  | .forLeft left, n => ∃ d, left.declaration? = some d ∧ d.Binds n
  | .catchClause c, n => ∃ s ∈ c.body, s.Hoists n
  | .switchCase c, n => ∃ s ∈ c.body, s.Hoists n ∨ s.Declares n
  | _, _ => False

theorem Declaration.isHoisted_or_isLexical (d : Declaration) : d.IsHoisted ∨ d.IsLexical := by
  cases d with
  | variableList kind ds => cases kind <;> simp [Declaration.IsHoisted, Declaration.IsLexical]
  | function f => exact .inl trivial
  | classDecl c => exact .inr trivial

theorem Call.Declares.needs {c : Call} {n : String} (h : c.Declares n) : c.Needs n := by
  cases c with
  | binding p => exact h
  | declaration d =>
    cases d with
    | variableList kind ds => exact h.elim
    | function f => exact h
    | classDecl c => exact h
  | _ => exact h.elim

/-- A single statement needs only what it hoists, and a default export what a block collects. -/
def Move.Needs : Move → String → Prop
  | .call c, n => c.Needs n
  | .node c, n => c.Needs n
  | .single s, n => s.Hoists n
  | .default d, n => d.IsLexical ∧ d.Binds n

/-- Some of the moves needs a name. -/
def Move.AnyNeeds : List Move → String → Prop
  | [], _ => False
  | m :: ms, n => m.Needs n ∨ AnyNeeds ms n

/-- A stage needs what its moves need, other than what its scope declares. -/
def Stage.Needs (stage : Stage) (n : String) : Prop :=
  Move.AnyNeeds stage.moves n ∧ ∀ s, stage.scope = some s → ¬s.Declares n

theorem Move.anyNeeds_iff {ms : List Move} {n : String} :
    AnyNeeds ms n ↔ ∃ m ∈ ms, m.Needs n := by
  induction ms with
  | nil => simp [AnyNeeds]
  | cons m ms ih =>
    rw [AnyNeeds, ih]
    simp only [List.mem_cons, exists_eq_or_imp]

theorem Move.anyNeeds_map {α : Type} {f : α → Move} {xs : List α} {n : String} :
    AnyNeeds (xs.map f) n ↔ ∃ x ∈ xs, (f x).Needs n := by
  rw [anyNeeds_iff]
  constructor
  · rintro ⟨_, hm, hn⟩
    obtain ⟨x, hx, rfl⟩ := List.mem_map.1 hm
    exact ⟨x, hx, hn⟩
  · rintro ⟨x, hx, hn⟩
    exact ⟨f x, List.mem_map_of_mem hx, hn⟩

namespace Call

variable {n : String}

/-- Some of the calls needs a name. -/
def AnyNeeds (cs : List Call) (n : String) : Prop :=
  Move.AnyNeeds (cs.map .call) n

theorem anyNeeds_iff {cs : List Call} : AnyNeeds cs n ↔ ∃ c ∈ cs, c.Needs n :=
  Move.anyNeeds_map

theorem anyNeeds_map {α : Type} {f : α → Call} {xs : List α} :
    AnyNeeds (xs.map f) n ↔ ∃ x ∈ xs, (f x).Needs n := by
  rw [AnyNeeds, List.map_map, Move.anyNeeds_map]
  rfl

/-- Expressions declare nothing outside of the functions and classes in them. -/
theorem not_anyNeeds_ofParts (e : Expr) : ¬AnyNeeds (ofParts e) n := by
  cases e with
  | object ps =>
    rw [ofParts, anyNeeds_map]
    exact fun ⟨_, _, h⟩ => h
  | _ => simp [AnyNeeds, ofParts, Move.AnyNeeds, Move.Needs, Needs]

theorem eq_of_mem_ofField {f : Field} {call : Pattern → Call} {c : Call} (h : c ∈ ofField call f) :
    (∃ k, c = .key k) ∨ ∃ p, c = call p ∧ (f = .rest p ∨ ∃ k, f = .keyed k p) := by
  cases f with
  | keyed k p =>
    obtain rfl | h := List.mem_cons.1 h
    · exact .inl ⟨k, rfl⟩
    · exact .inr ⟨p, List.mem_singleton.1 h, .inr ⟨k, rfl⟩⟩
  | rest p => exact .inr ⟨p, List.mem_singleton.1 h, .inl rfl⟩

theorem not_anyNeeds_ofTarget (direct : Bool) (p : Pattern) : ¬AnyNeeds (ofTarget direct p) n := by
  cases p with
  | object fields =>
    -- Neither a key nor a target needs a name, so that no field does.
    rw [anyNeeds_iff]
    rintro ⟨c, hc, hn⟩
    obtain ⟨f, -, hc⟩ := List.mem_flatMap.1 hc
    obtain ⟨k, rfl⟩ | ⟨q, rfl, -⟩ := eq_of_mem_ofField hc
    · exact hn
    · exact hn
  | array items =>
    rw [ofTarget, anyNeeds_map]
    exact fun ⟨_, _, h⟩ => h
  | _ => simp [AnyNeeds, ofTarget, Move.AnyNeeds, Move.Needs, Needs]

/-- Of the calls for a pattern, those for patterns in it need no more than the pattern binds. -/
theorem binds_of_anyNeeds_ofBinding {p : Pattern} (h : AnyNeeds (ofBinding p) n) : p.Binds n := by
  cases p with
  | name => exact h.elim
  | member => exact h.elim
  | object fields =>
    -- A key needs no name, and the pattern of a field binds what the whole pattern does.
    obtain ⟨c, hc, hn⟩ := anyNeeds_iff.1 h
    obtain ⟨f, hf, hc⟩ := List.mem_flatMap.1 hc
    obtain ⟨k, rfl⟩ | ⟨q, rfl, rfl | ⟨k, rfl⟩⟩ := eq_of_mem_ofField hc
    · exact hn.elim
    · exact .fieldRest hf hn
    · exact .field hf hn
  | array items =>
    obtain ⟨q, hq, hn⟩ := anyNeeds_map.1 h
    exact .item (by simpa using hq) hn
  | withDefault q e =>
    obtain hn | hn | hn := h
    · exact .withDefault hn
    · exact hn.elim
    · exact hn.elim
  | rest q =>
    obtain hn | hn := h
    · exact .rest hn
    · exact hn.elim

theorem binds_of_anyNeeds_ofDeclaration {d : Declaration} (h : AnyNeeds (ofDeclaration d) n) :
    d.Binds n := by
  cases d with
  | variableList kind ds =>
    obtain hn | hn := h
    · exact hn
    · exact hn.elim
  | function f => simp [AnyNeeds, ofDeclaration, Move.AnyNeeds, Move.Needs, Needs] at h
  | classDecl c => simp [AnyNeeds, ofDeclaration, Move.AnyNeeds, Move.Needs, Needs] at h

/-- A statement needs for its parts what it hoists and what it declares in its block; what only its
own scopes declare it does not need. -/
theorem needs_of_mem_stagesOfStmt {s : Stmt} {stage : Stage} (hstage : stage ∈ stagesOfStmt s)
    (hn : stage.Needs n) : s.Hoists n ∨ s.Declares n := by
  obtain ⟨hn, hscope⟩ := hn
  cases s with
  | inert => cases hstage
  | block body =>
    obtain rfl := List.mem_singleton.1 hstage
    obtain ⟨s, hs, hn⟩ | hn := hn
    · exact .inl (.block hs hn)
    · exact hn.elim
  | declare d =>
    obtain rfl := List.mem_singleton.1 hstage
    obtain hn | hn := hn
    · exact d.isHoisted_or_isLexical.imp (.declare · hn) (⟨·, hn⟩)
    · exact hn.elim
  | ifElse t c a =>
    obtain rfl := List.mem_singleton.1 hstage
    obtain hn | hn | hn := hn
    · exact hn.elim
    · exact .inl (.consequent hn)
    · obtain ⟨s, hs, hn⟩ := Move.anyNeeds_map.1 hn
      rw [Option.mem_toList.1 hs]
      exact .inl (.alternate hn)
  | forLoop init t u b =>
    obtain rfl := List.mem_singleton.1 hstage
    obtain ⟨d, hinit, hn⟩ | hn | hn | hn | hn := hn
    -- What the head declares for its own scope is not needed outside of it.
    · obtain hd | hd := d.isHoisted_or_isLexical
      · exact .inl (.forHead hinit hd hn)
      · exact absurd ⟨d, hinit, hd, hn⟩ (hscope _ rfl)
    · exact hn.elim
    · exact hn.elim
    · exact .inl (.forBody hn)
    · exact hn.elim
  | forEach left e b =>
    obtain rfl := List.mem_singleton.1 hstage
    obtain ⟨d, hleft, hn⟩ | hn | hn | hn := hn
    · obtain hd | hd := d.isHoisted_or_isLexical
      · exact .inl (.eachHead hleft hd hn)
      · exact absurd ⟨d, hleft, hd, hn⟩ (hscope _ rfl)
    · exact hn.elim
    · exact .inl (.eachBody hn)
    · exact hn.elim
  | «while» t b =>
    obtain rfl := List.mem_singleton.1 hstage
    obtain hn | hn | hn := hn
    · exact hn.elim
    · exact .inl (.while hn)
    · exact hn.elim
  | doWhile b t =>
    obtain rfl := List.mem_singleton.1 hstage
    obtain hn | hn | hn := hn
    · exact .inl (.doWhile hn)
    · exact hn.elim
    · exact hn.elim
  | tryCatch body handler final =>
    obtain rfl := List.mem_singleton.1 hstage
    obtain ⟨s, hs, hn⟩ | hn := hn
    · exact .inl (.tryBody hs hn)
    · obtain ⟨c, hc, hn⟩ := anyNeeds_iff.1 hn
      obtain hc | hc := List.mem_append.1 hc
      · obtain ⟨⟨p, ss⟩, hh, rfl⟩ := List.mem_map.1 hc
        obtain ⟨s, hs, hn⟩ := hn
        rw [Option.mem_toList.1 hh]
        exact .inl (.handler hs hn)
      · obtain ⟨ss, hf, rfl⟩ := List.mem_map.1 hc
        obtain ⟨s, hs, hn⟩ := hn
        rw [Option.mem_toList.1 hf]
        exact .inl (.finalizer hs hn)
  | switch e cases =>
    obtain rfl | hstage := List.mem_cons.1 hstage
    · exact (hn.elim id id).elim
    · obtain rfl := List.mem_singleton.1 hstage
      obtain ⟨⟨t, body⟩, hc, s, hs, hn⟩ := Move.anyNeeds_map.1 hn
      obtain hn | hn := hn
      · exact .inl (.switch hc hs hn)
      · exact absurd ⟨t, body, hc, s, hs, hn⟩ (hscope _ rfl)
  | labeled b =>
    obtain rfl := List.mem_singleton.1 hstage
    obtain hn | hn := hn
    · exact .inl (.labeled hn)
    · exact hn.elim
  | «with» e b =>
    obtain rfl := List.mem_singleton.1 hstage
    obtain hn | hn | hn := hn
    · exact hn.elim
    · exact .inl (.with hn)
    · exact hn.elim
  | importNames => cases hstage
  | exportDecl d =>
    obtain rfl := List.mem_singleton.1 hstage
    obtain hn | hn := hn
    · by_cases hd : d.IsHoisted
      · exact .inl (.exportDecl hd hn)
      · exact .inr ⟨⟨d.isHoisted_or_isLexical.resolve_left hd, hd⟩, hn⟩
    · exact hn.elim
  | exportNames names =>
    obtain rfl := List.mem_singleton.1 hstage
    obtain ⟨_, _, hn⟩ := anyNeeds_map.1 hn
    exact hn.elim
  | exportDefaultDecl d =>
    obtain rfl := List.mem_singleton.1 hstage
    obtain hn | hn := hn
    · exact .inr hn
    · exact hn.elim
  | expr | «return» | throw | exportDefault =>
    obtain rfl := List.mem_singleton.1 hstage
    exact (hn.elim id id).elim

/-- What a stage of a call needs, the call needs as well: no name is needed that only a scope inside
of the call declares. -/
theorem needs_of_stage {c : Call} {stage : Stage} (hstage : stage ∈ c.stages)
    (hn : stage.Needs n) : c.Needs n := by
  -- By the kind of call. Where a stage has a scope, what that declares is not needed outside of it.
  cases c with
  | reference | chain => cases hstage
  | stmtParts s => exact needs_of_mem_stagesOfStmt hstage hn
  | function ownName f =>
    obtain rfl := List.mem_singleton.1 hstage
    obtain ⟨hn | hn | hn, hscope⟩ := hn
    · exact absurd (.inr (.inl hn)) (hscope _ rfl)
    · exact absurd (.inr (.inr hn)) (hscope _ rfl)
    · exact hn.elim
  | classMember m =>
    cases m with
    | staticBlock body =>
      obtain rfl := List.mem_singleton.1 hstage
      obtain ⟨hn | hn, hscope⟩ := hn
      · exact absurd hn (hscope _ rfl)
      · exact hn.elim
    | _ =>
      obtain rfl := List.mem_singleton.1 hstage
      obtain ⟨hn | hn | hn, -⟩ := hn <;> exact hn.elim
  | classOf c =>
    obtain ⟨_, name, heritage, members⟩ := c
    obtain rfl := List.mem_singleton.1 hstage
    obtain ⟨hn | hn, -⟩ := hn
    · exact hn.elim
    · obtain ⟨_, _, hn⟩ := Move.anyNeeds_map.1 hn
      exact hn.elim
  | block body =>
    obtain rfl := List.mem_singleton.1 hstage
    obtain ⟨⟨s, hs, hn | hn⟩ | hn, hscope⟩ := hn
    · exact ⟨s, hs, hn⟩
    · exact absurd ⟨s, hs, hn⟩ (hscope _ rfl)
    · exact hn.elim
  | catchClause c =>
    obtain ⟨p, body⟩ := c
    obtain rfl := List.mem_singleton.1 hstage
    obtain ⟨⟨q, hq, hn⟩ | hn | hn, hscope⟩ := hn
    · exact absurd ⟨q, Option.mem_toList.1 hq, hn⟩ (hscope _ rfl)
    · exact hn
    · exact hn.elim
  | exprParts e =>
    obtain rfl := List.mem_singleton.1 hstage
    exact absurd hn.1 (not_anyNeeds_ofParts e)
  | target direct p =>
    obtain rfl := List.mem_singleton.1 hstage
    exact absurd hn.1 (not_anyNeeds_ofTarget direct p)
  | binding p =>
    obtain rfl := List.mem_singleton.1 hstage
    exact binds_of_anyNeeds_ofBinding hn.1
  | declaration d =>
    obtain rfl := List.mem_singleton.1 hstage
    exact binds_of_anyNeeds_ofDeclaration hn.1
  | bindings ps =>
    obtain rfl := List.mem_singleton.1 hstage
    exact anyNeeds_map.1 hn.1
  | declarator d =>
    obtain ⟨p, init⟩ := d
    obtain rfl := List.mem_singleton.1 hstage
    obtain ⟨hn | hn | hn, -⟩ := hn
    · exact hn
    · exact hn.elim
    · exact hn.elim
  | declarators ds =>
    obtain rfl := List.mem_singleton.1 hstage
    exact anyNeeds_map.1 hn.1
  | stmt s =>
    obtain rfl := List.mem_singleton.1 hstage
    exact hn.1.resolve_right id
  | stmts ss =>
    obtain rfl := List.mem_singleton.1 hstage
    exact anyNeeds_map.1 hn.1
  | forInit init =>
    obtain rfl := List.mem_singleton.1 hstage
    cases init with
    | none => exact hn.1.elim
    | declare kind ds => exact ⟨_, rfl, hn.1.resolve_right id⟩
    | expr e => exact (hn.1.elim id id).elim
  | forLeft left =>
    obtain rfl := List.mem_singleton.1 hstage
    cases left with
    | declare kind ds => exact ⟨_, rfl, hn.1.resolve_right id⟩
    | target p => exact (hn.1.elim id id).elim
  | switchCase c =>
    obtain ⟨t, body⟩ := c
    obtain rfl := List.mem_singleton.1 hstage
    obtain ⟨hn | hn | hn, -⟩ := hn
    · exact hn.elim
    · exact hn
    · exact hn.elim
  -- From here on the parts are expressions, and these need no name.
  | exprs | optExpr | elements =>
    obtain rfl := List.mem_singleton.1 hstage
    obtain ⟨_, _, hn⟩ := anyNeeds_map.1 hn.1
    exact hn.elim
  | member object k assigned =>
    obtain rfl := List.mem_singleton.1 hstage
    obtain ⟨hn, -⟩ := hn
    rw [ofMember] at hn
    cases hchain : object.memberChain? k <;>
      simp [Stage.plain, Move.AnyNeeds, Move.Needs, Needs, hchain] at hn
  | expr | operators | application =>
    obtain rfl := List.mem_singleton.1 hstage
    simp [Stage.plain, Stage.Needs, Move.AnyNeeds, Move.Needs, Needs] at hn
  | key k =>
    obtain rfl := List.mem_singleton.1 hstage
    cases k <;> simp [Stage.plain, Stage.Needs, ofKey, Move.AnyNeeds, Move.Needs, Needs] at hn
  | element e =>
    obtain rfl := List.mem_singleton.1 hstage
    cases e <;> simp [Stage.plain, Stage.Needs, ofElement, Move.AnyNeeds, Move.Needs, Needs] at hn
  | property p =>
    obtain rfl := List.mem_singleton.1 hstage
    cases p <;> simp [Stage.plain, Stage.Needs, ofProperty, Move.AnyNeeds, Move.Needs, Needs] at hn
  | chainElement e =>
    obtain rfl := List.mem_singleton.1 hstage
    cases e <;>
      simp [Stage.plain, Stage.Needs, ofChainElement, Move.AnyNeeds, Move.Needs, Needs] at hn

/-- What the call of a move needs, the move needs, or else its place loses it. -/
theorem needs_target {m : Move} (h : m.target.Needs n) :
    m.Needs n ∨ ∃ x ∈ m.surroundings, x.Loses n := by
  -- A single statement loses what it declares without hoisting it, and a default export loses a
  -- function's name.
  cases m with
  | call c => exact .inl h
  | node c => exact .inl h
  | single s =>
    by_cases hn : s.Hoists n
    · exact .inl hn
    · exact .inr ⟨.single s, List.mem_singleton_self _, h.resolve_left hn, hn⟩
  | default d =>
    by_cases hd : d.IsLexical
    · exact .inl ⟨hd, h⟩
    · exact .inr ⟨.default d, List.mem_singleton_self _, h, hd⟩

/-- What a call needs, the calls that it stands in need as well, up to the scope that declares it or
the place that loses it. -/
theorem Visits.needs {c d : Call} {w v : Walk} {around : List Surrounding}
    (h : c.Visits w d v around) (hn : d.Needs n) :
    c.Needs n ∨ (∃ s, .scope s ∈ around ∧ s.Declares n) ∨ ∃ x ∈ around, x.Loses n := by
  -- By induction on the way down; each call on it passes the name on to the one it stands in.
  induction h with
  | here => exact .inl hn
  | @inside c d w w' v before after stage done rest m around hstages hmoves _ _ ih =>
    obtain hm | ⟨s, hs, hdeclares⟩ | ⟨x, hx, hlost⟩ := ih hn
    · obtain hm | ⟨x, hx, hlost⟩ := needs_target hm
      · have hany : Move.AnyNeeds stage.moves n :=
          Move.anyNeeds_iff.2 ⟨m, by rw [hmoves]; simp, hm⟩
        -- The scope of the stage may declare the name; otherwise the stage needs it.
        by_cases hscope : ∃ s, stage.scope = some s ∧ s.Declares n
        · obtain ⟨s, hs, hdeclares⟩ := hscope
          exact .inr (.inl ⟨s, by simp [Stage.surroundings, hs], hdeclares⟩)
        · exact .inl (needs_of_stage (by rw [hstages]; simp)
            ⟨hany, fun s hs hdeclares => hscope ⟨s, hs, hdeclares⟩⟩)
      · exact .inr (.inr ⟨x, by simp [hx], hlost⟩)
    · exact .inr (.inl ⟨s, by simp [hs], hdeclares⟩)
    · exact .inr (.inr ⟨x, by simp [hx], hlost⟩)

end Call

/-! ## Whole programs -/

/-- At each call of a walk over a program, the names in scope are those that the scopes around it
declare, wherever in them the declarations stand. The names that the call itself declares are among
them, unless a place around it loses them; and a bare name that is among them is not reported. -/
theorem Program.isBound_of_declares {p : Program} {c : Call} {v : Walk}
    {around : List Surrounding} (h : p.Visits c v around) :
    (∀ n, v.isBound n = true ↔ ∃ s, .scope s ∈ around ∧ s.Declares n) ∧
    (∀ n, c.Declares n → v.isBound n = true ∨ ∃ x ∈ around, x.Loses n) ∧
    ∀ n access, c = .reference n access → (∃ s, .scope s ∈ around ∧ s.Declares n) →
      c.visit v = v := by
  refine ⟨fun n => h.isBound_iff, fun n hn => ?_, fun n access hc hs => ?_⟩
  · rw [h.isBound_iff]
    obtain ⟨h⟩ := h
    obtain hbody | ⟨s, hs, hdeclares⟩ | ⟨x, hx, hlost⟩ := h.needs hn.needs
    -- What the statements of the program need, the program declares.
    · exact .inl ⟨.body p.body, List.mem_cons_self, hbody⟩
    · exact .inl ⟨s, List.mem_cons_of_mem _ hs, hdeclares⟩
    · exact .inr ⟨x, List.mem_cons_of_mem _ hx, hlost⟩
  · have hbound := h.isBound_iff.2 hs
    rw [hc]
    show Walk.reference n access v = v
    rw [Walk.reference, hbound]
    rfl

/-! ## Programs of one statement -/

/-- A call that runs other calls in a row makes the first of them. -/
theorem Call.Visits.first {c c' d : Call} {w v : Walk} {cs : List Call} {around : List Surrounding}
    (hstages : c.stages = [.plain (c' :: cs)]) (h : c'.Visits w d v around) :
    c.Visits w d v around :=
  .inside (show c.stages = [] ++ _ :: [] from hstages)
    (show (Stage.plain (c' :: cs)).moves = [] ++ _ from rfl)
    (show Move.Starts (.call c') _ _ from rfl) h

/-- A node makes the call for its parts, one level further down. -/
theorem Call.Visits.parts {c c' d : Call} {w v : Walk} {around : List Surrounding}
    (hstages : c.stages = [⟨none, [.node c']⟩]) (hdeep : w.tooDeep = false)
    (hlimit : w.depth < nestingLimit)
    (h : c'.Visits { w with depth := w.depth + 1 } d v around) : c.Visits w d v around :=
  .inside (show c.stages = [] ++ _ :: [] from hstages)
    (show [Move.node c'] = [] ++ _ from rfl)
    (show Move.Starts (.node c') w _ from ⟨hdeep, hlimit, rfl⟩) h

/-- The program `y; let y = 1;`. -/
def usedBeforeDeclared : Program :=
  ⟨[.expr (.identifier "y"),
    .declare (.variableList .lexical [.mk (.name "y") (some .constant)])]⟩

/-- The name is not reported where it stands before its declaration. -/
theorem visit_usedBeforeDeclared :
    ∃ v, usedBeforeDeclared.Visits (.reference "y" .read) v
        [.scope (.body usedBeforeDeclared.body)] ∧
      v.isBound "y" = true ∧ (Call.reference "y" .read).visit v = v := by
  -- The walk gets from the program through its statement to the name, with one scope around it.
  let w : Walk := ({} : Walk).push (bodyNames usedBeforeDeclared.body)
  have hvisits : usedBeforeDeclared.Visits (.reference "y" .read) { w with depth := 2 }
      [.scope (.body usedBeforeDeclared.body)] := by
    refine .walk (.first rfl (.parts rfl rfl (by decide) (.first rfl ?_)))
    exact .parts rfl rfl (by decide) (.first rfl .here)
  have hdeclares : (Scope.body usedBeforeDeclared.body).Declares "y" :=
    Scope.mem_names_iff.1 (by decide)
  obtain ⟨hbound, -, hreference⟩ := Program.isBound_of_declares hvisits
  exact ⟨_, hvisits, (hbound "y").2 ⟨_, List.mem_singleton_self _, hdeclares⟩,
    hreference "y" .read rfl ⟨_, List.mem_singleton_self _, hdeclares⟩⟩

/-- The program `x: export let y = 1, z = y;`. -/
def labeledExport : Program :=
  ⟨[.labeled (.exportDecl (.variableList .lexical
    [.mk (.name "y") (some .constant), .mk (.name "z") (some (.identifier "y"))]))]⟩

theorem parse?_labeledExport :
    Program.parse? .module "x: export let y = 1, z = y;" = some labeledExport :=
  Program.eq_some_of_isSame (by decide +kernel)

/-- Behind a label an exported `let` is in no scope: the program that is read from
`x: export let y = 1, z = y;` meets the declaration of `y` while nothing binds the name, and it
reports the name. -/
theorem declaration_not_isBound :
    Program.parse? .module "x: export let y = 1, z = y;" = some labeledExport ∧
    (∃ v around, labeledExport.Visits (.binding (.name "y")) v around ∧
      (Call.binding (.name "y")).Declares "y" ∧ v.isBound "y" = false) ∧
    labeledExport.analyze = .ok (.ofList [("y", .read)]) := by
  refine ⟨parse?_labeledExport, ?_, Program.analyze_eq_ok_iff.2 ⟨by decide, rfl⟩⟩
  let w : Walk := ({} : Walk).push (bodyNames labeledExport.body)
  let s : Stmt := .exportDecl (.variableList .lexical
    [.mk (.name "y") (some .constant), .mk (.name "z") (some (.identifier "y"))])
  -- Below the label, the walk gets through the export and the declarator to the pattern.
  have hinner : (Call.stmt s).Visits { w with depth := 1 } (.binding (.name "y"))
      { w with depth := 2 } [] :=
    .parts rfl rfl (by decide) (.first rfl (.first rfl (.first rfl (.first rfl .here))))
  have hsingle : (Call.stmtParts (.labeled s)).Visits { w with depth := 1 } (.binding (.name "y"))
      { w with depth := 2 } [.single s] :=
    .inside (show _ = [] ++ (⟨none, [.single s]⟩ : Stage) :: [] from rfl)
      (show _ = [] ++ Move.single s :: [] from rfl) (show Move.Starts (.single s) _ _ from rfl)
      hinner
  have hvisits : labeledExport.Visits (.binding (.name "y")) { w with depth := 2 }
      [.scope (.body labeledExport.body), .single s] :=
    .walk (.first rfl (.parts rfl rfl (by decide) hsingle))
  have hscope : ¬(Scope.body labeledExport.body).Declares "y" := fun h =>
    absurd (Scope.mem_names_iff.2 h) (by decide)
  refine ⟨_, _, hvisits, .name, Bool.eq_false_iff.2 fun hbound => ?_⟩
  -- The program has not collected the name, and the label opens no scope.
  obtain ⟨scope, hmem, hdeclares⟩ := hvisits.isBound_iff.1 hbound
  obtain hmem | hmem := List.mem_cons.1 hmem
  · cases hmem
    exact hscope hdeclares
  · simp at hmem

end DepTriage.JavaScript
