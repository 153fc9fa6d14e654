import DepTriage.JavaScript.Scope

/-!
# Declarations and the names they bind

The names of a scope are collected by recursions with accumulators. Here it is said what a
declaration binds, which of these names it gives to the function around it and which to its own
block, and the recursions are shown to collect just these.

## Key results

- `Pattern.binds_iff`: a pattern binds the names that are collected from it.
- `Stmt.mem_addHoisted_iff`, `mem_hoistedNames_iff`: the names that are hoisted are those of the
  `var` and function declarations that can be reached through statements alone.
- `mem_lexicalNames_iff`, `mem_bodyNames_iff`: the names of a block, and of a body.
- `Program.eq_some_of_isSame`: how a program of a few declarations is recognized.
-/

namespace DepTriage.JavaScript

/-! ## Patterns -/

/-- A name is bound by a pattern, through any nesting of its parts. -/
inductive Pattern.Binds : Pattern → String → Prop
  | name {n : String} : Binds (.name n) n
  | field {fields : List Field} {k : Key} {p : Pattern} {n : String} :
      .keyed k p ∈ fields → Binds p n → Binds (.object fields) n
  | fieldRest {fields : List Field} {p : Pattern} {n : String} :
      .rest p ∈ fields → Binds p n → Binds (.object fields) n
  | item {items : List (Option Pattern)} {p : Pattern} {n : String} :
      some p ∈ items → Binds p n → Binds (.array items) n
  | withDefault {p : Pattern} {e : Expr} {n : String} : Binds p n → Binds (.withDefault p e) n
  | rest {p : Pattern} {n : String} : Binds p n → Binds (.rest p) n

mutual

theorem Pattern.binds_of_mem : ∀ {p : Pattern} {n : String}, n ∈ p.names → p.Binds n
  | .name _, _, h => by
    obtain rfl := List.mem_singleton.1 h
    exact .name
  | .member _ _, _, h => nomatch h
  | .object _, _, h => Pattern.binds_of_mem_fields h fun _ => id
  | .array _, _, h => Pattern.binds_of_mem_items h fun _ => id
  | .withDefault _ _, _, h => .withDefault (Pattern.binds_of_mem h)
  | .rest _, _, h => .rest (Pattern.binds_of_mem h)

/-- The names of the last fields of a pattern are bound by the pattern. -/
theorem Pattern.binds_of_mem_fields {all : List Field} :
    ∀ {fields : List Field} {n : String}, n ∈ Field.listNames fields → (∀ f ∈ fields, f ∈ all) →
      Pattern.Binds (.object all) n
  | [], _, h, _ => nomatch h
  | .keyed _ _ :: _, _, h, hall =>
    match List.mem_append.1 h with
    | .inl h => .field (hall _ List.mem_cons_self) (Pattern.binds_of_mem h)
    | .inr h => Pattern.binds_of_mem_fields h fun f hf => hall f (List.mem_cons_of_mem _ hf)
  | .rest _ :: _, _, h, hall =>
    match List.mem_append.1 h with
    | .inl h => .fieldRest (hall _ List.mem_cons_self) (Pattern.binds_of_mem h)
    | .inr h => Pattern.binds_of_mem_fields h fun f hf => hall f (List.mem_cons_of_mem _ hf)

/-- The names of the last items of a pattern are bound by the pattern. -/
theorem Pattern.binds_of_mem_items {all : List (Option Pattern)} :
    ∀ {items : List (Option Pattern)} {n : String}, n ∈ Pattern.itemNames items →
      (∀ i ∈ items, i ∈ all) → Pattern.Binds (.array all) n
  | [], _, h, _ => nomatch h
  | none :: items, n, h, hall =>
    have h : n ∈ Pattern.itemNames items := h
    Pattern.binds_of_mem_items h fun i hi => hall i (List.mem_cons_of_mem _ hi)
  | some _ :: _, _, h, hall =>
    match List.mem_append.1 h with
    | .inl h => .item (hall _ List.mem_cons_self) (Pattern.binds_of_mem h)
    | .inr h => Pattern.binds_of_mem_items h fun i hi => hall i (List.mem_cons_of_mem _ hi)

end

def Field.target : Field → Pattern
  | .keyed _ p => p
  | .rest p => p

theorem Field.names_subset_listNames {fields : List Field} {f : Field} {n : String}
    (h : f ∈ fields) (hn : n ∈ f.target.names) : n ∈ Field.listNames fields := by
  induction h with
  | head fields => cases f <;> exact List.mem_append_left _ hn
  | tail f _ ih => cases f <;> exact List.mem_append_right _ ih

theorem Pattern.names_subset_of_item {items : List (Option Pattern)} {p : Pattern} {n : String}
    (h : some p ∈ items) (hn : n ∈ p.names) : n ∈ Pattern.itemNames items := by
  induction h with
  | head items => exact List.mem_append_left _ hn
  | tail i _ ih =>
    cases i with
    | none => exact ih
    | some _ => exact List.mem_append_right _ ih

theorem Pattern.binds_iff {p : Pattern} {n : String} : p.Binds n ↔ n ∈ p.names := by
  refine ⟨fun h => ?_, Pattern.binds_of_mem⟩
  -- By induction on how the pattern binds the name, one case for each place a name can stand.
  induction h with
  | name => exact List.mem_singleton_self _
  | field hfield _ ih => exact Field.names_subset_listNames hfield ih
  | fieldRest hfield _ ih => exact Field.names_subset_listNames hfield ih
  | item hitem _ ih => exact Pattern.names_subset_of_item hitem ih
  | withDefault _ ih => exact ih
  | rest _ ih => exact ih

theorem Pattern.mem_listNames_iff {ps : List Pattern} {n : String} :
    n ∈ Pattern.listNames ps ↔ ∃ p ∈ ps, p.Binds n := by
  simp only [Pattern.listNames, List.mem_flatMap, Pattern.binds_iff]

/-! ## Declarations -/

def Declarator.Binds : Declarator → String → Prop
  | .mk p _, n => p.Binds n

theorem Declarator.mem_listNames_iff {ds : List Declarator} {n : String} :
    n ∈ Declarator.listNames ds ↔ ∃ d ∈ ds, d.Binds n := by
  rw [Declarator.listNames, List.mem_flatMap]
  refine exists_congr fun d => and_congr_right fun _ => ?_
  obtain ⟨p, init⟩ := d
  exact Pattern.binds_iff.symm

def Declaration.Binds : Declaration → String → Prop
  | .variableList _ ds, n => ∃ d ∈ ds, d.Binds n
  | .function f, n => f.name = some n
  | .classDecl c, n => c.name = some n

/-- The names of `var` and function declarations belong to the function around them. -/
def Declaration.IsHoisted : Declaration → Prop
  | .variableList kind _ => kind = .hoisted
  | .function _ => True
  | .classDecl _ => False

/-- The names of all declarations other than `var` belong to the block around them. -/
def Declaration.IsLexical : Declaration → Prop
  | .variableList kind _ => kind = .lexical
  | .function _ => True
  | .classDecl _ => True

theorem Declaration.mem_hoistedNames_iff {d : Declaration} {n : String} :
    n ∈ d.hoistedNames ↔ d.IsHoisted ∧ d.Binds n := by
  cases d with
  -- Only `var` hoists among the variable lists.
  | variableList kind ds =>
    cases kind <;>
      simp [Declaration.hoistedNames, Declaration.IsHoisted, Declaration.Binds,
        Declarator.mem_listNames_iff]
  | function f =>
    simp [Declaration.hoistedNames, Declaration.IsHoisted, Declaration.Binds]
  | classDecl c => simp [Declaration.hoistedNames, Declaration.IsHoisted]

theorem Declaration.mem_lexicalNames_iff {d : Declaration} {n : String} :
    n ∈ d.lexicalNames ↔ d.IsLexical ∧ d.Binds n := by
  cases d with
  | variableList kind ds =>
    cases kind <;>
      simp [Declaration.lexicalNames, Declaration.IsLexical, Declaration.Binds,
        Declarator.mem_listNames_iff]
  | function f => simp [Declaration.lexicalNames, Declaration.IsLexical, Declaration.Binds]
  | classDecl c => simp [Declaration.lexicalNames, Declaration.IsLexical, Declaration.Binds]

/-! ## Heads of loops -/

/-- A head declares as a list of variables does. -/
def ForInit.declaration? : ForInit → Option Declaration
  | .declare kind ds => some (.variableList kind ds)
  | .none => Option.none
  | .expr _ => Option.none

def ForLeft.declaration? : ForLeft → Option Declaration
  | .declare kind ds => some (.variableList kind ds)
  | .target _ => none

theorem ForInit.mem_hoistedNames_iff {init : ForInit} {n : String} :
    n ∈ init.hoistedNames ↔ ∃ d, init.declaration? = some d ∧ d.IsHoisted ∧ d.Binds n := by
  cases init with
  | declare kind ds =>
    simp only [← Declaration.mem_hoistedNames_iff, ForInit.declaration?]
    cases kind <;> simp [ForInit.hoistedNames, Declaration.hoistedNames]
  | _ => simp [ForInit.hoistedNames, ForInit.declaration?]

theorem ForInit.mem_lexicalNames_iff {init : ForInit} {n : String} :
    n ∈ init.lexicalNames ↔ ∃ d, init.declaration? = some d ∧ d.IsLexical ∧ d.Binds n := by
  cases init with
  | declare kind ds =>
    simp only [← Declaration.mem_lexicalNames_iff, ForInit.declaration?]
    cases kind <;> simp [ForInit.lexicalNames, Declaration.lexicalNames]
  | _ => simp [ForInit.lexicalNames, ForInit.declaration?]

theorem ForLeft.mem_hoistedNames_iff {left : ForLeft} {n : String} :
    n ∈ left.hoistedNames ↔ ∃ d, left.declaration? = some d ∧ d.IsHoisted ∧ d.Binds n := by
  cases left with
  | declare kind ds =>
    simp only [← Declaration.mem_hoistedNames_iff, ForLeft.declaration?]
    cases kind <;> simp [ForLeft.hoistedNames, Declaration.hoistedNames]
  | target p => simp [ForLeft.hoistedNames, ForLeft.declaration?]

theorem ForLeft.mem_lexicalNames_iff {left : ForLeft} {n : String} :
    n ∈ left.lexicalNames ↔ ∃ d, left.declaration? = some d ∧ d.IsLexical ∧ d.Binds n := by
  cases left with
  | declare kind ds =>
    simp only [← Declaration.mem_lexicalNames_iff, ForLeft.declaration?]
    cases kind <;> simp [ForLeft.lexicalNames, Declaration.lexicalNames]
  | target p => simp [ForLeft.lexicalNames, ForLeft.declaration?]

/-! ## Statements -/

/-- A statement gives a name to the function around it: a `var` or function declaration that binds
the name is reached through statements alone, without entering a function, a class or an
expression. -/
inductive Stmt.Hoists : Stmt → String → Prop
  | declare {d : Declaration} {n : String} : d.IsHoisted → d.Binds n → Hoists (.declare d) n
  | exportDecl {d : Declaration} {n : String} : d.IsHoisted → d.Binds n → Hoists (.exportDecl d) n
  | block {body : List Stmt} {s : Stmt} {n : String} : s ∈ body → Hoists s n →
      Hoists (.block body) n
  | consequent {t : Expr} {c : Stmt} {a : Option Stmt} {n : String} : Hoists c n →
      Hoists (.ifElse t c a) n
  | alternate {t : Expr} {c a : Stmt} {n : String} : Hoists a n → Hoists (.ifElse t c (some a)) n
  | forHead {init : ForInit} {t u : Option Expr} {b : Stmt} {d : Declaration} {n : String} :
      init.declaration? = some d → d.IsHoisted → d.Binds n → Hoists (.forLoop init t u b) n
  | forBody {init : ForInit} {t u : Option Expr} {b : Stmt} {n : String} : Hoists b n →
      Hoists (.forLoop init t u b) n
  | eachHead {left : ForLeft} {e : Expr} {b : Stmt} {d : Declaration} {n : String} :
      left.declaration? = some d → d.IsHoisted → d.Binds n → Hoists (.forEach left e b) n
  | eachBody {left : ForLeft} {e : Expr} {b : Stmt} {n : String} : Hoists b n →
      Hoists (.forEach left e b) n
  | while {t : Expr} {b : Stmt} {n : String} : Hoists b n → Hoists (.while t b) n
  | doWhile {b : Stmt} {t : Expr} {n : String} : Hoists b n → Hoists (.doWhile b t) n
  | tryBody {body : List Stmt} {h : Option CatchClause} {f : Option (List Stmt)} {s : Stmt}
      {n : String} : s ∈ body → Hoists s n → Hoists (.tryCatch body h f) n
  | handler {body handler : List Stmt} {p : Option Pattern} {f : Option (List Stmt)} {s : Stmt}
      {n : String} : s ∈ handler → Hoists s n → Hoists (.tryCatch body (some (.mk p handler)) f) n
  | finalizer {body final : List Stmt} {h : Option CatchClause} {s : Stmt} {n : String} :
      s ∈ final → Hoists s n → Hoists (.tryCatch body h (some final)) n
  | switch {t : Option Expr} {v : Expr} {cases : List SwitchCase} {body : List Stmt} {s : Stmt}
      {n : String} : .mk t body ∈ cases → s ∈ body → Hoists s n → Hoists (.switch v cases) n
  | labeled {b : Stmt} {n : String} : Hoists b n → Hoists (.labeled b) n
  | with {e : Expr} {b : Stmt} {n : String} : Hoists b n → Hoists (.with e b) n

namespace Stmt

variable {n : String}

theorem hoists_declare {d : Declaration} :
    (Stmt.declare d).Hoists n ↔ d.IsHoisted ∧ d.Binds n :=
  ⟨fun | .declare hd hn => ⟨hd, hn⟩, fun ⟨hd, hn⟩ => .declare hd hn⟩

theorem hoists_exportDecl {d : Declaration} :
    (Stmt.exportDecl d).Hoists n ↔ d.IsHoisted ∧ d.Binds n :=
  ⟨fun | .exportDecl hd hn => ⟨hd, hn⟩, fun ⟨hd, hn⟩ => .exportDecl hd hn⟩

theorem hoists_block {body : List Stmt} : (Stmt.block body).Hoists n ↔ ∃ s ∈ body, s.Hoists n :=
  ⟨fun | .block hs hn => ⟨_, hs, hn⟩, fun ⟨_, hs, hn⟩ => .block hs hn⟩

theorem hoists_ifElse {t : Expr} {c : Stmt} {a : Option Stmt} :
    (Stmt.ifElse t c a).Hoists n ↔ (∃ s, a = some s ∧ s.Hoists n) ∨ c.Hoists n :=
  ⟨fun
    | .consequent hn => .inr hn
    | .alternate hn => .inl ⟨_, rfl, hn⟩,
   fun
    | .inl ⟨_, hs, hn⟩ => hs ▸ .alternate hn
    | .inr hn => .consequent hn⟩

theorem hoists_forLoop {init : ForInit} {t u : Option Expr} {b : Stmt} :
    (Stmt.forLoop init t u b).Hoists n ↔ b.Hoists n ∨ n ∈ init.hoistedNames := by
  rw [ForInit.mem_hoistedNames_iff]
  exact ⟨fun
    | .forBody hn => .inl hn
    | .forHead hinit hd hn => .inr ⟨_, hinit, hd, hn⟩,
   fun
    | .inl hn => .forBody hn
    | .inr ⟨_, hinit, hd, hn⟩ => .forHead hinit hd hn⟩

theorem hoists_forEach {left : ForLeft} {e : Expr} {b : Stmt} :
    (Stmt.forEach left e b).Hoists n ↔ b.Hoists n ∨ n ∈ left.hoistedNames := by
  rw [ForLeft.mem_hoistedNames_iff]
  exact ⟨fun
    | .eachBody hn => .inl hn
    | .eachHead hleft hd hn => .inr ⟨_, hleft, hd, hn⟩,
   fun
    | .inl hn => .eachBody hn
    | .inr ⟨_, hleft, hd, hn⟩ => .eachHead hleft hd hn⟩

theorem hoists_while {t : Expr} {b : Stmt} : (Stmt.while t b).Hoists n ↔ b.Hoists n :=
  ⟨fun | .while hn => hn, .while⟩

theorem hoists_doWhile {b : Stmt} {t : Expr} : (Stmt.doWhile b t).Hoists n ↔ b.Hoists n :=
  ⟨fun | .doWhile hn => hn, .doWhile⟩

theorem hoists_labeled {b : Stmt} : (Stmt.labeled b).Hoists n ↔ b.Hoists n :=
  ⟨fun | .labeled hn => hn, .labeled⟩

theorem hoists_with {e : Expr} {b : Stmt} : (Stmt.with e b).Hoists n ↔ b.Hoists n :=
  ⟨fun | .with hn => hn, .with⟩

theorem hoists_tryCatch {body : List Stmt} {handler : Option CatchClause}
    {final : Option (List Stmt)} :
    (Stmt.tryCatch body handler final).Hoists n ↔
      (∃ ss, final = some ss ∧ ∃ s ∈ ss, s.Hoists n) ∨
      (∃ p ss, handler = some (.mk p ss) ∧ ∃ s ∈ ss, s.Hoists n) ∨ ∃ s ∈ body, s.Hoists n :=
  ⟨fun
    | .tryBody hs hn => .inr (.inr ⟨_, hs, hn⟩)
    | .handler hs hn => .inr (.inl ⟨_, _, rfl, _, hs, hn⟩)
    | .finalizer hs hn => .inl ⟨_, rfl, _, hs, hn⟩,
   fun
    | .inl ⟨_, hf, _, hs, hn⟩ => hf ▸ .finalizer hs hn
    | .inr (.inl ⟨_, _, hh, _, hs, hn⟩) => hh ▸ .handler hs hn
    | .inr (.inr ⟨_, hs, hn⟩) => .tryBody hs hn⟩

theorem hoists_switch {v : Expr} {cases : List SwitchCase} :
    (Stmt.switch v cases).Hoists n ↔
      ∃ t body, .mk t body ∈ cases ∧ ∃ s ∈ body, s.Hoists n :=
  ⟨fun | .switch hc hs hn => ⟨_, _, hc, _, hs, hn⟩,
   fun ⟨_, _, hc, _, hs, hn⟩ => .switch hc hs hn⟩

end Stmt

mutual

/-- The hoisted names that a statement adds to others. -/
theorem Stmt.mem_addHoisted_iff {n : String} :
    ∀ (s : Stmt) (names : List String), n ∈ s.addHoisted names ↔ s.Hoists n ∨ n ∈ names
  | .declare d, names => by
    rw [Stmt.addHoisted, List.mem_append, Declaration.mem_hoistedNames_iff, Stmt.hoists_declare]
  | .exportDecl d, names => by
    rw [Stmt.addHoisted, List.mem_append, Declaration.mem_hoistedNames_iff,
      Stmt.hoists_exportDecl]
  | .block b, names => by
    rw [Stmt.addHoisted, Stmt.mem_listAddHoisted_iff, Stmt.hoists_block]
  | .ifElse t c a, names => by
    rw [Stmt.addHoisted, Stmt.mem_optAddHoisted_iff, Stmt.mem_addHoisted_iff c,
      Stmt.hoists_ifElse, or_assoc]
  | .forLoop init t u b, names => by
    rw [Stmt.addHoisted, Stmt.mem_addHoisted_iff b, List.mem_append, Stmt.hoists_forLoop, or_assoc]
  | .forEach left e b, names => by
    rw [Stmt.addHoisted, Stmt.mem_addHoisted_iff b, List.mem_append, Stmt.hoists_forEach, or_assoc]
  | .while t b, names => by
    rw [Stmt.addHoisted, Stmt.mem_addHoisted_iff b, Stmt.hoists_while]
  | .doWhile b t, names => by
    rw [Stmt.addHoisted, Stmt.mem_addHoisted_iff b, Stmt.hoists_doWhile]
  | .labeled b, names => by
    rw [Stmt.addHoisted, Stmt.mem_addHoisted_iff b, Stmt.hoists_labeled]
  | .with e b, names => by
    rw [Stmt.addHoisted, Stmt.mem_addHoisted_iff b, Stmt.hoists_with]
  | .tryCatch b h f, names => by
    rw [Stmt.addHoisted, Stmt.mem_optListAddHoisted_iff, CatchClause.mem_optAddHoisted_iff,
      Stmt.mem_listAddHoisted_iff b, Stmt.hoists_tryCatch, or_assoc, or_assoc]
  | .switch v cs, names => by
    rw [Stmt.addHoisted, SwitchCase.mem_listAddHoisted_iff, Stmt.hoists_switch]
  -- The other statements hold no statements of their own.
  | .inert, _ | .expr _, _ | .return _, _ | .throw _, _ | .importNames _, _ | .exportNames _, _
  | .exportDefault _, _ | .exportDefaultDecl _, _ => ⟨.inr, fun h => h.resolve_left nofun⟩

theorem Stmt.mem_listAddHoisted_iff {n : String} :
    ∀ (body : List Stmt) (names : List String),
      n ∈ Stmt.listAddHoisted body names ↔ (∃ s ∈ body, s.Hoists n) ∨ n ∈ names
  | [], names => by simp [Stmt.listAddHoisted]
  | s :: ss, names => by
    rw [Stmt.listAddHoisted, Stmt.mem_listAddHoisted_iff ss, Stmt.mem_addHoisted_iff s]
    simp only [List.mem_cons, exists_eq_or_imp]
    rw [← or_assoc, or_comm (a := ∃ s ∈ ss, s.Hoists n)]

theorem Stmt.mem_optAddHoisted_iff {n : String} :
    ∀ (a : Option Stmt) (names : List String),
      n ∈ Stmt.optAddHoisted a names ↔ (∃ s, a = some s ∧ s.Hoists n) ∨ n ∈ names
  | none, names => by simp [Stmt.optAddHoisted]
  | some s, names => by
    rw [Stmt.optAddHoisted, Stmt.mem_addHoisted_iff s]
    simp

theorem Stmt.mem_optListAddHoisted_iff {n : String} :
    ∀ (f : Option (List Stmt)) (names : List String),
      n ∈ Stmt.optListAddHoisted f names ↔
        (∃ ss, f = some ss ∧ ∃ s ∈ ss, s.Hoists n) ∨ n ∈ names
  | none, names => by simp [Stmt.optListAddHoisted]
  | some ss, names => by
    rw [Stmt.optListAddHoisted, Stmt.mem_listAddHoisted_iff ss]
    simp

theorem CatchClause.mem_optAddHoisted_iff {n : String} :
    ∀ (h : Option CatchClause) (names : List String),
      n ∈ CatchClause.optAddHoisted h names ↔
        (∃ p ss, h = some (.mk p ss) ∧ ∃ s ∈ ss, s.Hoists n) ∨ n ∈ names
  | none, names => by simp [CatchClause.optAddHoisted]
  | some (.mk p ss), names => by
    rw [CatchClause.optAddHoisted, Stmt.mem_listAddHoisted_iff ss]
    exact or_congr_left
      ⟨fun hn => ⟨p, ss, rfl, hn⟩, fun | ⟨_, _, rfl, hn⟩ => hn⟩

theorem SwitchCase.mem_listAddHoisted_iff {n : String} :
    ∀ (cases : List SwitchCase) (names : List String),
      n ∈ SwitchCase.listAddHoisted cases names ↔
        (∃ t body, .mk t body ∈ cases ∧ ∃ s ∈ body, s.Hoists n) ∨ n ∈ names
  | [], names => by simp [SwitchCase.listAddHoisted]
  | .mk t b :: cs, names => by
    rw [SwitchCase.listAddHoisted, SwitchCase.mem_listAddHoisted_iff cs,
      Stmt.mem_listAddHoisted_iff b, ← or_assoc]
    refine or_congr_left ⟨?_, ?_⟩
    · rintro (⟨t', b', hc, hn⟩ | hn)
      · exact ⟨t', b', List.mem_cons_of_mem _ hc, hn⟩
      · exact ⟨t, b, List.mem_cons_self, hn⟩
    · rintro ⟨t', b', hc, hn⟩
      rcases List.mem_cons.1 hc with hc | hc
      · cases hc
        exact .inr hn
      · exact .inl ⟨t', b', hc, hn⟩

end

theorem mem_hoistedNames_iff {body : List Stmt} {n : String} :
    n ∈ hoistedNames body ↔ ∃ s ∈ body, s.Hoists n := by
  rw [hoistedNames, Stmt.mem_listAddHoisted_iff]
  simp

/-- A statement gives a name to the block it stands in. An exported function is hoisted, so that it
is not bound there a second time. -/
def Stmt.Declares : Stmt → String → Prop
  | .declare d, n => d.IsLexical ∧ d.Binds n
  | .exportDecl d, n => (d.IsLexical ∧ ¬d.IsHoisted) ∧ d.Binds n
  | .exportDefaultDecl d, n => d.IsLexical ∧ d.Binds n
  | .importNames locals, n => n ∈ locals
  | _, _ => False

theorem Stmt.mem_lexicalNames_iff {s : Stmt} {n : String} : n ∈ s.lexicalNames ↔ s.Declares n := by
  cases s with
  | declare d => exact Declaration.mem_lexicalNames_iff
  | exportDecl d =>
    -- An exported function is hoisted, and so declares nothing here.
    cases d with
    | function f => simp [Stmt.lexicalNames, Stmt.Declares, Declaration.IsHoisted]
    | classDecl c =>
      simp [Stmt.lexicalNames, Stmt.Declares, Declaration.mem_lexicalNames_iff,
        Declaration.IsHoisted]
    | variableList kind ds =>
      cases kind <;>
        simp [Stmt.lexicalNames, Stmt.Declares, Declaration.mem_lexicalNames_iff,
          Declaration.IsHoisted, Declaration.IsLexical]
  | exportDefaultDecl d => exact Declaration.mem_lexicalNames_iff
  | importNames locals => exact Iff.rfl
  | _ => simp [Stmt.lexicalNames, Stmt.Declares]

theorem mem_lexicalNames_iff {body : List Stmt} {n : String} :
    n ∈ lexicalNames body ↔ ∃ s ∈ body, s.Declares n := by
  simp only [lexicalNames, List.mem_flatMap, Stmt.mem_lexicalNames_iff]

theorem mem_bodyNames_iff {body : List Stmt} {n : String} :
    n ∈ bodyNames body ↔ ∃ s ∈ body, s.Hoists n ∨ s.Declares n := by
  rw [bodyNames, List.mem_append, mem_hoistedNames_iff, mem_lexicalNames_iff, ← exists_or]
  simp only [and_or_left]

theorem SwitchCase.mem_lexicalNames_iff {cases : List SwitchCase} {n : String} :
    n ∈ SwitchCase.lexicalNames cases ↔
      ∃ t body, .mk t body ∈ cases ∧ ∃ s ∈ body, s.Declares n := by
  simp only [SwitchCase.lexicalNames, List.mem_flatMap]
  constructor
  · rintro ⟨⟨t, body⟩, hc, hn⟩
    exact ⟨t, body, hc, JavaScript.mem_lexicalNames_iff.1 hn⟩
  · rintro ⟨t, body, hc, hn⟩
    exact ⟨.mk t body, hc, JavaScript.mem_lexicalNames_iff.2 hn⟩

/-! ## Scopes -/

/-- What opens a scope, with the parts that declare names in it. -/
inductive Scope where
  /-- A function of any kind; only the expression of a named function binds its own name. -/
  | function (ownName : Option String) (parameters : List Pattern) (body : List Stmt)
  /-- A program, or the body of a static block. -/
  | body (body : List Stmt)
  | block (body : List Stmt)
  | classOf (name : Option String)
  | forHead (init : ForInit)
  | eachHead (left : ForLeft)
  | cases (cases : List SwitchCase)
  | catchParameter (parameter : Option Pattern)

namespace Scope

def names : Scope → List String
  | function ownName ps ss => ownName.toList ++ Pattern.listNames ps ++ bodyNames ss
  | body ss => bodyNames ss
  | block ss => lexicalNames ss
  | classOf name => name.toList
  | forHead init => init.lexicalNames
  | eachHead left => left.lexicalNames
  | cases cs => SwitchCase.lexicalNames cs
  | catchParameter p => Pattern.listNames p.toList

/-- A name is declared in a scope, wherever in it the declaration stands. -/
def Declares : Scope → String → Prop
  | function ownName ps ss, n =>
    ownName = some n ∨ (∃ p ∈ ps, p.Binds n) ∨ ∃ s ∈ ss, s.Hoists n ∨ s.Declares n
  | body ss, n => ∃ s ∈ ss, s.Hoists n ∨ s.Declares n
  | block ss, n => ∃ s ∈ ss, s.Declares n
  | classOf name, n => name = some n
  | forHead init, n => ∃ d, init.declaration? = some d ∧ d.IsLexical ∧ d.Binds n
  | eachHead left, n => ∃ d, left.declaration? = some d ∧ d.IsLexical ∧ d.Binds n
  | cases cs, n => ∃ t body, .mk t body ∈ cs ∧ ∃ s ∈ body, s.Declares n
  | catchParameter p, n => ∃ q, p = some q ∧ q.Binds n

theorem mem_names_iff {s : Scope} {n : String} : n ∈ s.names ↔ s.Declares n := by
  -- By the kind of scope: each collects its names by a recursion that was described above.
  cases s with
  | function ownName ps ss =>
    simp only [names, Declares, List.mem_append, Option.mem_toList, Pattern.mem_listNames_iff,
      mem_bodyNames_iff, or_assoc]
  | body ss => exact mem_bodyNames_iff
  | block ss => exact mem_lexicalNames_iff
  | classOf name => exact Option.mem_toList
  | forHead init => exact ForInit.mem_lexicalNames_iff
  | eachHead left => exact ForLeft.mem_lexicalNames_iff
  | cases cs => exact SwitchCase.mem_lexicalNames_iff
  | catchParameter p =>
    simp only [names, Declares, Pattern.mem_listNames_iff, Option.mem_toList]

end Scope

/-! ## Comparing programs

A program of a few declarations is told from others by going through it. No two expressions,
patterns or functions with parts count as the same here. -/

def Expr.isSame : Expr → Expr → Bool
  | .identifier n, .identifier n' => n == n'
  | .constant, .constant => true
  | _, _ => false

def Declarator.isSame : Declarator → Declarator → Bool
  | .mk (.name n) (some e), .mk (.name n') (some e') => n == n' && e.isSame e'
  | _, _ => false

def Declaration.isSame : Declaration → Declaration → Bool
  | .variableList kind ds, .variableList kind' ds' =>
    kind == kind' && ds.isEqv ds' Declarator.isSame
  | .function (.mk n [] []), .function (.mk n' [] []) => n == n'
  | _, _ => false

mutual

def Stmt.isSame : Stmt → Stmt → Bool
  | .expr e, .expr e' => e.isSame e'
  | .block ss, .block ss' => areSame ss ss'
  | .labeled s, .labeled s' => s.isSame s'
  | .exportDecl d, .exportDecl d' => d.isSame d'
  | .exportDefaultDecl d, .exportDefaultDecl d' => d.isSame d'
  | _, _ => false

def Stmt.areSame : List Stmt → List Stmt → Bool
  | [], [] => true
  | s :: ss, s' :: ss' => s.isSame s' && areSame ss ss'
  | _, _ => false

end

theorem Expr.eq_of_isSame {e e' : Expr} (h : e.isSame e' = true) : e = e' := by
  fun_cases Expr.isSame e e' <;> simp_all [Expr.isSame]

theorem Declarator.eq_of_isSame {d d' : Declarator} (h : d.isSame d' = true) : d = d' := by
  unfold Declarator.isSame at h
  split at h
  · obtain ⟨hname, hinit⟩ := Bool.and_eq_true_iff.1 h
    rw [eq_of_beq hname, Expr.eq_of_isSame hinit]
  · cases h

theorem Declarator.eq_of_isEqv {ds ds' : List Declarator} (h : ds.isEqv ds' isSame = true) :
    ds = ds' := by
  -- Declarators are compared in pairs, so the lists have one length.
  induction ds generalizing ds' with
  | nil =>
    cases ds' with
    | nil => rfl
    | cons => cases h
  | cons d ds ih =>
    cases ds' with
    | nil => cases h
    | cons d' ds' =>
      obtain ⟨hd, hds⟩ := Bool.and_eq_true_iff.1 h
      rw [eq_of_isSame hd, ih hds]

theorem Declaration.eq_of_isSame {d d' : Declaration} (h : d.isSame d' = true) : d = d' := by
  unfold Declaration.isSame at h
  split at h
  · obtain ⟨hkind, hds⟩ := Bool.and_eq_true_iff.1 h
    rw [eq_of_beq hkind, Declarator.eq_of_isEqv hds]
  · rw [eq_of_beq h]
  · cases h

mutual

theorem Stmt.eq_of_isSame : ∀ {s s' : Stmt}, s.isSame s' = true → s = s'
  | .expr _, .expr _, h => congrArg _ (Expr.eq_of_isSame h)
  | .block _, .block _, h => congrArg _ (eq_of_areSame h)
  | .labeled _, .labeled _, h => congrArg _ (eq_of_isSame h)
  | .exportDecl _, .exportDecl _, h => congrArg _ (Declaration.eq_of_isSame h)
  | .exportDefaultDecl _, .exportDefaultDecl _, h => congrArg _ (Declaration.eq_of_isSame h)

theorem Stmt.eq_of_areSame : ∀ {ss ss' : List Stmt}, areSame ss ss' = true → ss = ss'
  | [], [], _ => rfl
  | _ :: _, _ :: _, h => by
    obtain ⟨hs, hss⟩ := Bool.and_eq_true_iff.1 h
    rw [eq_of_isSame hs, eq_of_areSame hss]

end

def Program.isSame (p q : Program) : Bool :=
  Stmt.areSame p.body q.body

/-- What is the same as a program is this program. -/
theorem Program.eq_some_of_isSame {p : Program} {o : Option Program} (h : o.any p.isSame = true) :
    o = some p := by
  obtain ⟨q, rfl, hsame⟩ := (Option.any_eq_true _ _).1 h
  rw [show p = q from congrArg Program.mk (Stmt.eq_of_areSame hsame)]

end DepTriage.JavaScript
