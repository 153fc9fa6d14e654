import DepTriage.Proofs.GlobalUsage.Join
import DepTriage.Proofs.JavaScript.Lookup
import DepTriage.Proofs.JavaScript.Occurrence
import DepTriage.Proofs.JavaScript.Replacement

/-!
# Parentheses

A parenthesized expression means what the expression means. The walk sees through the parentheses
wherever it visits an expression, but it does not look for the names of a member chain behind them:
of a chain with parentheses inside, only the names before these are looked up. This module says what
one pair of parentheses does to the lookups of a program, and when that changes its usage.

## Key results

- `Program.lookups_of_parenthesizes`: at most one lookup is cut short
- `Lookup.report_cut`, `Lookup.report_cut_of_le`: what a lookup reports that is cut short
- `Program.usage_parenthesized`: when the usage stays the same
-/

namespace DepTriage.JavaScript

/-- An expression is put in parentheses. -/
inductive Wraps : Piece → Piece → Prop where
  | paren {e} : Wraps (.expr e) (.expr (.paren e))

/-- One expression of the program `p` stands in parentheses in `q`. -/
def Program.Parenthesizes (p q : Program) : Prop :=
  Replaces Wraps (.stmts p.body) (.stmts q.body)

/-- The program is a single expression. -/
theorem Program.parenthesizes_expr {e e' : Expr} (h : Replaces Wraps (.expr e) (.expr e')) :
    Program.Parenthesizes ⟨[.expr e]⟩ ⟨[.expr e']⟩ :=
  h.alone

/-! ## Lookups that are cut short -/

/-- The lookup of the first `n` names alone, which then stand in the object of an access. -/
def Lookup.cut (n : Nat) (l : Lookup) : Lookup :=
  { l with names := l.names.take n, assigned := false }

/-- Two lists of lookups are the same, but for one lookup that may be cut short in the second. -/
def CutsOne (ls ls' : List Lookup) : Prop :=
  ls' = ls ∨ ∃ before l after n, ls = before ++ l :: after ∧ ls' = before ++ l.cut n :: after ∧
    0 < n ∧ n < l.names.length

theorem CutsOne.refl (ls : List Lookup) : CutsOne ls ls :=
  Or.inl rfl

theorem CutsOne.eq_nil {ls : List Lookup} (h : CutsOne [] ls) : ls = [] := by
  rcases h with h | ⟨before, l, after, n, h, -⟩
  · exact h
  · exact absurd h (by simp)

/-- A chain that is cut, if it is cut at all. -/
theorem CutsOne.take {names : List String} {assigned : Bool} {n : Nat} (hpos : 0 < n)
    (hlt : n < names.length) : CutsOne [⟨[], names, assigned⟩] [⟨[], names.take n, false⟩] :=
  Or.inr ⟨[], _, [], n, rfl, rfl, hpos, hlt⟩

theorem congruence_cutsOne : Congruence .lookups (· = ·) CutsOne where
  left := by
    -- What is added on either side stands before or after the lookup that is cut, so that this
    -- stays the only one.
    rintro a b c (rfl | ⟨before, l, after, n, rfl, rfl, hn⟩)
    · exact .refl _
    · exact Or.inr ⟨before, l, after ++ c, n, List.append_assoc _ _ _, List.append_assoc _ _ _, hn⟩
  right := by
    rintro a b c (rfl | ⟨before, l, after, n, rfl, rfl, hn⟩)
    · exact .refl _
    · exact Or.inr ⟨c ++ before, l, after, n, (List.append_assoc _ _ _).symm,
        (List.append_assoc _ _ _).symm, hn⟩
  node h := h
  scope := by
    -- Inside of a scope, the same lookup is cut after as many names.
    rintro names _ a b rfl (rfl | ⟨before, l, after, n, rfl, rfl, hn⟩)
    · exact .refl _
    · exact Or.inr ⟨before.map (Lookup.within names), l.within names,
        after.map (Lookup.within names), n, List.map_append, List.map_append, hn⟩
  hidden _ := .refl _

/-! ## Member chains -/

namespace Expr

/-- A chain goes in front of the names that follow it. -/
theorem chain?_append (e : Expr) (names more : List String) :
    e.chain? (names ++ more) = (e.chain? names).map (· ++ more) := by
  fun_induction Expr.chain? e names with
  | case1 root names => rfl
  | case2 object key names text hkey ih =>
    rw [chain?, hkey]
    exact ih
  | case3 object key names hkey =>
    rw [chain?, hkey]
    rfl
  | case4 e names hidentifier hmember =>
    -- Neither a root nor a link of a chain: there are no names to append to.
    cases e with
    | identifier root => exact (hidentifier root rfl).elim
    | member object key => exact (hmember object key rfl).elim
    | _ => rfl

theorem chain?_member (object : Expr) (k : Key) :
    (member object k).chain? [] = object.memberChain? k := by
  rw [chain?, memberChain?]
  cases k.fixed? <;> rfl

/-- The chain of a member access ends with the key, in front of which the object is a chain. -/
theorem memberChain?_eq_some {object : Expr} {k : Key} {names : List String}
    (h : object.memberChain? k = some names) :
    ∃ front text, object.chain? [] = some front ∧ k.fixed? = some text ∧
      names = front ++ [text] := by
  rw [memberChain?, Option.bind_eq_some_iff] at h
  obtain ⟨text, hkey, hobject⟩ := h
  rw [← List.nil_append [text], chain?_append, Option.map_eq_some_iff] at hobject
  obtain ⟨front, hfront, rfl⟩ := hobject
  exact ⟨front, text, hfront, hkey, rfl⟩

/-- A chain is looked up at once. -/
theorem lookups_of_chain? {e : Expr} {names : List String} (h : e.chain? [] = some names) :
    Interpretation.lookups.exprParts e = [⟨[], names, false⟩] := by
  cases e with
  | identifier root =>
    -- A chain of one name and a longer one are looked up in the same way, as they are.
    obtain rfl : [root] = names := Option.some.inj h
    rfl
  | member object k =>
    rw [chain?_member] at h
    show Interpretation.lookups.member object k false = _
    rw [Interpretation.member, h]
    rfl
  | _ => exact absurd h.symm (Option.some_ne_none names)

theorem length_pos_of_chain? {e : Expr} {names : List String} (h : e.chain? [] = some names) :
    0 < names.length := by
  cases e with
  | identifier root =>
    obtain rfl : [root] = names := Option.some.inj h
    exact Nat.zero_lt_one
  | member object k =>
    rw [chain?_member] at h
    obtain ⟨front, text, -, -, rfl⟩ := memberChain?_eq_some h
    simp
  | _ => exact absurd h.symm (Option.some_ne_none names)

end Expr

/-- A key with a fixed name has nothing to look up. -/
theorem Key.lookups_of_fixed? {k : Key} {text : String} (h : k.fixed? = some text) :
    Interpretation.lookups.key k = [] := by
  cases k with
  | name _ => rfl
  | computed e =>
    -- Only a string fixes a name, and it has no parts.
    cases e with
    | string _ => rfl
    | _ => exact absurd h.symm (Option.some_ne_none text)
  | privateName _ => rfl

/-- An access that is no chain looks up what its object and its key do. -/
theorem Interpretation.lookups_member {o : Expr} {k : Key} (h : o.memberChain? k = none)
    (assigned : Bool) : lookups.member o k assigned = lookups.exprParts o ++ lookups.key k := by
  rw [member, h]
  rfl

/-- An access that is no chain with parentheses either looked up the same, but for one lookup, or
was a chain of which the first names are left. -/
theorem CutsOne.member {o o' : Expr} {k k' : Key} (assigned : Bool) (h' : o'.memberChain? k' = none)
    (hchain : ∀ names, o.memberChain? k = some names → ∃ n, 0 < n ∧ n < names.length ∧
      Interpretation.lookups.exprParts o' ++ Interpretation.lookups.key k' =
        [⟨[], names.take n, false⟩])
    (hparts : CutsOne (Interpretation.lookups.exprParts o ++ Interpretation.lookups.key k)
      (Interpretation.lookups.exprParts o' ++ Interpretation.lookups.key k')) :
    CutsOne (Interpretation.lookups.member o k assigned)
      (Interpretation.lookups.member o' k' assigned) := by
  rw [Interpretation.lookups_member h']
  cases hnames : o.memberChain? k with
  -- A chain with parentheses is no chain any more: its object is looked up alone.
  | some names =>
    obtain ⟨n, hpos, hlt, hlookups⟩ := hchain names hnames
    rw [hlookups, Interpretation.member, hnames]
    exact .take hpos hlt
  | none =>
    rw [Interpretation.lookups_member hnames]
    exact hparts

/-! ## One pair of parentheses -/

/-- What a pair of parentheses inside of the piece `x`, which it makes `y`, does to its lookups. -/
structure Piece.Wrapped (x y : Piece) : Prop where
  names : x.NamesRelated (· = ·) y
  lookups : CutsOne (x.value .lookups) (y.value .lookups)
  /-- An expression with parentheses continues no chain, and what remains of a chain that it was is
  looked up on its own. -/
  expr : ∀ {e e' : Expr}, x = .expr e → y = .expr e' →
    (∀ names, e'.chain? names = none) ∧ (Key.computed e').fixed? = none ∧
    ∀ names, e.chain? [] = some names → ∃ n, 0 < n ∧ n ≤ names.length ∧
      Interpretation.lookups.exprParts e' = [⟨[], names.take n, false⟩]
  /-- A key with parentheses is not fixed, even if its string is. -/
  key : ∀ {k k' : Key}, x = .key k → y = .key k' → k'.fixed? = none

namespace Piece.Wrapped

variable {x y c d : Piece}

/-! ### Member accesses -/

section

variable {o o' : Expr} {k k' : Key}

theorem memberChain?_of_object (h : (Piece.expr o).Wrapped (.expr o')) (k : Key) :
    o'.memberChain? k = none := by
  rw [Expr.memberChain?]
  cases k.fixed? with
  | none => rfl
  | some text => exact (h.expr rfl rfl).1 [text]

/-- Of a chain with parentheses in its object, the names before them are left. -/
theorem lookups_of_object (h : (Piece.expr o).Wrapped (.expr o')) {names : List String}
    (hnames : o.memberChain? k = some names) :
    ∃ n, 0 < n ∧ n < names.length ∧
      Interpretation.lookups.exprParts o' ++ Interpretation.lookups.key k =
        [⟨[], names.take n, false⟩] := by
  obtain ⟨front, text, hobject, hkey, rfl⟩ := Expr.memberChain?_eq_some hnames
  obtain ⟨n, hpos, hle, hlookups⟩ := (h.expr rfl rfl).2.2 front hobject
  have hlength : (front ++ [text]).length = front.length + 1 := List.length_append
  refine ⟨n, hpos, by omega, ?_⟩
  rw [hlookups, Key.lookups_of_fixed? hkey, List.append_nil, List.take_append_of_le_length hle]

theorem memberChain?_of_key (h : (Piece.key k).Wrapped (.key k')) (o : Expr) :
    o.memberChain? k' = none := by
  rw [Expr.memberChain?, h.key rfl rfl]
  rfl

/-- Of a chain with parentheses in its last key, the names before that are left. -/
theorem lookups_of_key (h : (Piece.key k).Wrapped (.key k')) {names : List String}
    (hnames : o.memberChain? k = some names) :
    ∃ n, 0 < n ∧ n < names.length ∧
      Interpretation.lookups.exprParts o ++ Interpretation.lookups.key k' =
        [⟨[], names.take n, false⟩] := by
  obtain ⟨front, text, hobject, hkey, rfl⟩ := Expr.memberChain?_eq_some hnames
  -- The key had nothing to look up, and has nothing with the parentheses.
  have hnothing : Interpretation.lookups.key k' = [] := by
    have hlookups : CutsOne (Interpretation.lookups.key k) (Interpretation.lookups.key k') :=
      h.lookups
    rw [Key.lookups_of_fixed? hkey] at hlookups
    exact hlookups.eq_nil
  have hlength : (front ++ [text]).length = front.length + 1 := List.length_append
  refine ⟨front.length, Expr.length_pos_of_chain? hobject, by omega, ?_⟩
  rw [hnothing, List.append_nil, Expr.lookups_of_chain? hobject, List.take_left]

/-- An access with parentheses, as the object or the key of a further access. -/
theorem expr_member (h' : o'.memberChain? k' = none)
    (hchain : ∀ names, o.memberChain? k = some names → ∃ n, 0 < n ∧ n < names.length ∧
      Interpretation.lookups.exprParts o' ++ Interpretation.lookups.key k' =
        [⟨[], names.take n, false⟩]) :
    (∀ names, (Expr.member o' k').chain? names = none) ∧
    (Key.computed (.member o' k')).fixed? = none ∧
    ∀ names, (Expr.member o k).chain? [] = some names → ∃ n, 0 < n ∧ n ≤ names.length ∧
      Interpretation.lookups.exprParts (.member o' k') = [⟨[], names.take n, false⟩] := by
  refine ⟨fun names => ?_, rfl, fun names hnames => ?_⟩
  · rw [← List.nil_append names, Expr.chain?_append, Expr.chain?_member, h']
    rfl
  · rw [Expr.chain?_member] at hnames
    obtain ⟨n, hpos, hlt, hlookups⟩ := hchain names hnames
    refine ⟨n, hpos, Nat.le_of_lt hlt, ?_⟩
    rw [← hlookups]
    exact Interpretation.lookups_member h' false

end

theorem openable (h : x.Wrapped y) : x.Openable .lookups CutsOne y where
  object := by
    rintro o o' k assigned rfl rfl
    exact .member assigned (h.memberChain?_of_object k) (fun _ => h.lookups_of_object)
      (congruence_cutsOne.left _ h.lookups)
  key := by
    rintro k k' o assigned rfl rfl
    exact .member assigned (h.memberChain?_of_key o) (fun _ => h.lookups_of_key)
      (congruence_cutsOne.right _ h.lookups)
  operators := by
    rintro e e' rfl rfl
    -- Operators have no lookups of their own, whether they count as nodes or not.
    have hoperators : ∀ e : Expr,
        Interpretation.lookups.operators e = Interpretation.lookups.exprParts e :=
      fun _ => ite_self _
    rw [hoperators, hoperators]
    exact h.lookups

/-! ### All steps -/

theorem base (h : Wraps x y) : x.Wrapped y := by
  obtain @⟨e⟩ := h
  refine ⟨⟨rfl, rfl, rfl⟩, .refl _, ?_, fun h => nomatch h⟩
  rintro _ _ ⟨⟩ ⟨⟩
  refine ⟨fun _ => rfl, rfl, fun names hnames => ?_⟩
  -- The parentheses stand around a whole expression, of which nothing is cut off.
  refine ⟨names.length, Expr.length_pos_of_chain? hnames, Nat.le_refl _, ?_⟩
  rw [List.take_length]
  show Interpretation.lookups.exprParts e = _
  exact Expr.lookups_of_chain? hnames

theorem step (hswaps : Swaps x y c d) (h : x.Wrapped y) : c.Wrapped d where
  names := hswaps.names nameRelation_eq h.names
  lookups := hswaps.value nameRelation_eq congruence_cutsOne h.names h.openable h.lookups
  expr := by
    rintro e e' rfl rfl
    cases hswaps
    case memberObject o o' k =>
      exact expr_member (h.memberChain?_of_object k) fun _ => h.lookups_of_object
    case memberKey o k k' =>
      exact expr_member (h.memberChain?_of_key o) fun _ => h.lookups_of_key
    -- No other expression is a chain.
    all_goals exact ⟨fun _ => rfl, rfl, fun _ hnames => nomatch hnames⟩
  key := by
    rintro k k' rfl rfl
    cases hswaps
    exact (h.expr rfl rfl).2.1

theorem of_replaces (h : Replaces Wraps x y) : x.Wrapped y := by
  induction h with
  | here hbase => exact base hbase
  | inside hswaps _ ih => exact step hswaps ih

end Piece.Wrapped

/-- A pair of parentheses cuts at most one lookup of a program short. -/
theorem Program.lookups_of_parenthesizes {p q : Program} (h : p.Parenthesizes q) :
    CutsOne p.lookups q.lookups := by
  have hbody := Piece.Wrapped.of_replaces h
  refine congruence_cutsOne.scope ?_ hbody.lookups
  exact nameRelation_eq.append hbody.names.hoisted hbody.names.declared

/-! ## What a lookup reports that is cut short -/

namespace Interpretation

/-- How many names at the front of a chain stand for the global object. -/
def globalFront (bound chain : List String) : Nat :=
  chain.length - ((dropBundlerGlobal chain).dropWhile (opensGlobal bound)).length

theorem dropWhile_take {α : Type} (p : α → Bool) (xs : List α) (n : Nat) :
    (xs.take n).dropWhile p = (xs.dropWhile p).take (n - (xs.takeWhile p).length) := by
  induction xs generalizing n with
  | nil => simp
  | cons x xs ih =>
    -- Where nothing is left to take, nothing is left to drop.
    cases n with
    | zero => simp
    | succ n =>
      cases h : p x with
      | true => simp [h, ih]
      | false => simp [h]

/-- A chain opens with the bundler's name for the global object, or no front of it does. -/
theorem bundler_or_not (chain : List String) :
    (∃ names, chain = "__webpack_require__" :: "g" :: names) ∨
      ∀ n, dropBundlerGlobal (chain.take n) = chain.take n := by
  by_cases h : chain.take 2 = ["__webpack_require__", "g"]
  · refine Or.inl ⟨chain.drop 2, ?_⟩
    rw [← List.take_append_drop 2 chain, h]
    rfl
  · refine Or.inr fun n => dropBundlerGlobal_eq_self (beq_eq_false_iff_ne.2 fun hfront => h ?_)
    -- A front of two names is the front of the whole chain.
    rw [List.take_take] at hfront
    have hlength : (chain.take (min 2 n)).length = 2 := by rw [hfront]; rfl
    rw [List.length_take] at hlength
    rwa [show min 2 n = 2 by omega] at hfront

section

variable {bound names chain cut : List String} {n : Nat}

/-- A chain that is cut behind the name it leads to still leads there, and only reads it. -/
theorem chainReference?_of_take (assigned : Bool) (hchain : dropBundlerGlobal chain = names)
    (hcut : dropBundlerGlobal cut = names.take n)
    (hn : (names.takeWhile (opensGlobal bound)).length < n) (hlt : n < names.length) :
    chainReference? bound cut false = chainReference? bound chain assigned := by
  have hlength : (names.takeWhile (opensGlobal bound)).length +
      (names.dropWhile (opensGlobal bound)).length = names.length := by
    rw [← List.length_append, List.takeWhile_append_dropWhile]
  have hhead : (names.take n).head? = names.head? := List.head?_take.trans (if_neg (by omega))
  rw [chainReference?_eq, chainReference?_eq, hchain, hcut, hhead, dropWhile_take]
  -- At least two names are left, so the first is not the one that may be assigned to.
  match hdrop : names.dropWhile (opensGlobal bound) with
  | [] => simp only [hdrop, List.length_nil] at hlength; omega
  | [_] => simp only [hdrop, List.length_singleton] at hlength; omega
  | root :: next :: rest =>
    obtain ⟨m, hm⟩ : ∃ m, n - (names.takeWhile (opensGlobal bound)).length = m + 1 :=
      ⟨_, (Nat.sub_add_cancel (Nat.sub_pos_of_lt hn)).symm⟩
    simp [hm]

/-- A chain that is cut before the name it leads to leads nowhere. -/
theorem chainReference?_of_take_le (hcut : dropBundlerGlobal cut = names.take n)
    (hn : n ≤ (names.takeWhile (opensGlobal bound)).length) :
    chainReference? bound cut false = none := by
  rw [chainReference?_eq, hcut, dropWhile_take, Nat.sub_eq_zero_of_le hn]
  rfl

end

section

variable {bound chain : List String} {n : Nat}

/-- In front of the names that are left stand the bundler's name for the global object, if the
chain opens with it, and the aliases. -/
theorem globalFront_eq {names : List String} (k : Nat) (hchain : dropBundlerGlobal chain = names)
    (hlength : chain.length = k + names.length) :
    globalFront bound chain = k + (names.takeWhile (opensGlobal bound)).length := by
  have hsplit : (names.takeWhile (opensGlobal bound)).length +
      (names.dropWhile (opensGlobal bound)).length = names.length := by
    rw [← List.length_append, List.takeWhile_append_dropWhile]
  rw [globalFront, hchain]
  omega

theorem globalFront_bundler (bound names : List String) :
    globalFront bound ("__webpack_require__" :: "g" :: names) =
      2 + (names.takeWhile (opensGlobal bound)).length :=
  globalFront_eq 2 rfl (by simp only [List.length_cons]; omega)

theorem globalFront_plain (h : dropBundlerGlobal chain = chain) :
    globalFront bound chain = (chain.takeWhile (opensGlobal bound)).length := by
  rw [globalFront_eq 0 h (Nat.zero_add _).symm, Nat.zero_add]

theorem chainReference?_take (assigned : Bool) (hn : globalFront bound chain < n)
    (hlt : n < chain.length) :
    chainReference? bound (chain.take n) false = chainReference? bound chain assigned := by
  rcases bundler_or_not chain with ⟨names, rfl⟩ | hplain
  -- The bundler's name for the global object takes two names, which are cut off in front.
  · rw [globalFront_bundler] at hn
    obtain ⟨m, rfl⟩ : ∃ m, n = m + 2 := ⟨n - 2, by omega⟩
    have hm : (names.takeWhile (opensGlobal bound)).length < m := by omega
    exact chainReference?_of_take assigned rfl rfl hm (Nat.lt_of_add_lt_add_right hlt)
  · have hchain : dropBundlerGlobal chain = chain := by simpa using hplain chain.length
    rw [globalFront_plain hchain] at hn
    exact chainReference?_of_take assigned hchain (hplain n) hn hlt

/-- A chain that is cut among the names that stand for the global object leads nowhere, unless it is
cut inside of the bundler's name for that. -/
theorem chainReference?_take_le (hpos : 0 < n) (hn : n ≤ globalFront bound chain) :
    ∀ r ∈ chainReference? bound (chain.take n) false, r = ("__webpack_require__", .read) := by
  intro r hr
  rcases bundler_or_not chain with ⟨names, rfl⟩ | hplain
  · rw [globalFront_bundler] at hn
    match n, hpos with
    -- Cut off behind its first name, the bundler's name is a name like any other.
    | 1, _ =>
      have hsingle := chainReference?_singleton bound "__webpack_require__" .read
      rw [show (("__webpack_require__" :: "g" :: names).take 1) = ["__webpack_require__"] from rfl,
        show false = decide (Access.read = .readWrite) from rfl, hsingle] at hr
      split at hr
      · exact nomatch hr
      · exact (Option.some.inj hr).symm
    -- Otherwise all that is left leads to the global object, and to no property of it.
    | m + 2, _ =>
      have hnone : chainReference? bound (("__webpack_require__" :: "g" :: names).take (m + 2))
          false = none := chainReference?_of_take_le rfl (by omega)
      rw [hnone] at hr
      exact nomatch hr
  · have hchain : dropBundlerGlobal chain = chain := by simpa using hplain chain.length
    rw [globalFront_plain hchain] at hn
    rw [chainReference?_of_take_le (hplain n) hn] at hr
    exact nomatch hr

end

end Interpretation

namespace Lookup

variable {bound : List String} {l : Lookup} {n : Nat}

/-- How many names at the front of a lookup stand for the global object. -/
def globalFront (bound : List String) (l : Lookup) : Nat :=
  Interpretation.globalFront (l.inner ++ bound) l.names

/-- A lookup reports the same if it is cut behind the global that it leads to. -/
theorem report_cut (hn : l.globalFront bound < n) (hlt : n < l.names.length) :
    (l.cut n).report bound = l.report bound := by
  have hsame := Interpretation.chainReference?_take l.assigned hn hlt
  simp only [report, cut, hsame]

/-- A lookup that is cut before the global that it leads to reports no global but the bundler's. -/
theorem report_cut_of_le (hpos : 0 < n) (hn : n ≤ l.globalFront bound) :
    ∀ r ∈ (l.cut n).report bound, r = ("__webpack_require__", .read) := by
  intro r hr
  exact Interpretation.chainReference?_take_le hpos hn r (mem_report_iff.1 hr).1

end Lookup

/-! ## The usage of a program -/

/-- Of two programs whose lookups differ in one place, the usage is the same exactly if both have
what the other looks up there. -/
theorem Program.toList_eq_iff_of_lookups {p q : Program} {u v : GlobalUsage}
    {before after : List Lookup} {l l' : Lookup} (hp : p.lookups = before ++ l :: after)
    (hq : q.lookups = before ++ l' :: after) (hu : p.analyze = .ok u) (hv : q.analyze = .ok v) :
    v.toList = u.toList ↔ (∀ r ∈ l.report [], v.Covers r) ∧ ∀ r ∈ l'.report [], u.Covers r := by
  have hjoin : ∀ {p : Program} {u : GlobalUsage} {l : Lookup}, p.lookups = before ++ l :: after →
      p.analyze = .ok u → u.Joins {r | r ∈ before.flatMap (Lookup.report []) ∨ r ∈ l.report [] ∨
        r ∈ after.flatMap (Lookup.report [])} := by
    intro p u l hp hu
    obtain ⟨-, rfl⟩ := Program.analyze_eq_ok_iff_reported.1 hu
    rw [Program.reported, hp, List.flatMap_append, List.flatMap_cons]
    exact (GlobalUsage.joins_ofList _).congr fun r => by simp
  have hpu := hjoin hp hu
  have hqv := hjoin hq hv
  rw [GlobalUsage.toList_eq_iff, and_comm, hpu.le_iff, hqv.le_iff]
  -- The lookups that the programs have in common are in both usages.
  refine and_congr ⟨fun h r hr => h r (Or.inr (Or.inl hr)), fun h r hr => ?_⟩
    ⟨fun h r hr => h r (Or.inr (Or.inl hr)), fun h r hr => ?_⟩
  · rcases hr with hr | hr | hr
    · exact hqv.covers (Or.inl hr)
    · exact h r hr
    · exact hqv.covers (Or.inr (Or.inr hr))
  · rcases hr with hr | hr | hr
    · exact hpu.covers (Or.inl hr)
    · exact h r hr
    · exact hpu.covers (Or.inr (Or.inr hr))

/-- If one expression of a program is put in parentheses and both programs are analyzed, then either
they look up the same and have the same usage, or the parentheses stand inside of one member chain
and leave its first `n` names to be looked up. In this case, the usage is the same if more names are
left than stand for the global object at the front of the chain. Otherwise the chain leads nowhere
or to the bundler's function, and the usage is the same if and only if the global that the chain led
to is used elsewhere as much, and what it leads to now was used before. -/
theorem Program.usage_parenthesized {p q : Program} {u v : GlobalUsage} (h : p.Parenthesizes q)
    (hu : p.analyze = .ok u) (hv : q.analyze = .ok v) :
    (q.lookups = p.lookups ∧ v = u) ∨
    ∃ before l after n, p.lookups = before ++ l :: after ∧
      q.lookups = before ++ l.cut n :: after ∧ 0 < n ∧ n < l.names.length ∧
      (l.globalFront [] < n → v = u) ∧
      (n ≤ l.globalFront [] → ∀ r ∈ (l.cut n).report [], r = ("__webpack_require__", .read)) ∧
      (v.toList = u.toList ↔
        (∀ r ∈ l.report [], v.Covers r) ∧ ∀ r ∈ (l.cut n).report [], u.Covers r) := by
  -- A usage is made of the reports alone.
  have husage : q.reported = p.reported → v = u := by
    intro hreports
    rw [← (Program.analyze_eq_ok_iff_reported.1 hu).2,
      ← (Program.analyze_eq_ok_iff_reported.1 hv).2,
      hreports]
  rcases Program.lookups_of_parenthesizes h with heq | ⟨before, l, after, n, hp, hq, hpos, hlt⟩
  · exact Or.inl ⟨heq, husage (by rw [Program.reported, Program.reported, heq])⟩
  -- As many names as are left in front of the cut decide whether the same is reported.
  · refine Or.inr ⟨before, l, after, n, hp, hq, hpos, hlt, fun hn => husage ?_,
      Lookup.report_cut_of_le hpos, Program.toList_eq_iff_of_lookups hp hq hu hv⟩
    rw [Program.reported, Program.reported, hp, hq, List.flatMap_append, List.flatMap_append,
      List.flatMap_cons, List.flatMap_cons, Lookup.report_cut hn hlt]

/-- `a.b.c` and `(a.b).c`: the names before the parentheses lead to `a` as the whole chain does. -/
theorem usage_parenthesized_property :
    let p : Program := ⟨[.expr (.member (.member (.identifier "a") (.name "b")) (.name "c"))]⟩
    let q : Program :=
      ⟨[.expr (.member (.paren (.member (.identifier "a") (.name "b"))) (.name "c"))]⟩
    p.Parenthesizes q ∧ p.lookups ≠ q.lookups ∧
      ∃ u, p.analyze = .ok u ∧ q.analyze = .ok u := by
  intro p q
  have hparens : p.Parenthesizes q :=
    Program.parenthesizes_expr (.inside .memberObject (.here .paren))
  have hp : p.analyze = .ok (.ofList [("a", .read)]) :=
    Program.analyze_eq_ok_iff_reported.2 ⟨by decide, congrArg _ (by decide)⟩
  have hq : q.analyze = .ok (.ofList [("a", .read)]) :=
    Program.analyze_eq_ok_iff_reported.2 ⟨by decide, congrArg _ (by decide)⟩
  refine ⟨hparens, by decide, ?_⟩
  rcases Program.usage_parenthesized hparens hp hq with
    ⟨-, husage⟩ | ⟨before, l, after, n, hl, -, hpos, -, hfront, -⟩
  · exact ⟨_, hp, husage ▸ hq⟩
  -- The program has one lookup, whose first name is no alias, so that nothing leads to the global
  -- object.
  · have hmem : l ∈ p.lookups := by rw [hl]; simp
    obtain rfl : l = ⟨[], ["a", "b", "c"], false⟩ := by
      simpa using (show l ∈ [(⟨[], ["a", "b", "c"], false⟩ : Lookup)] from hmem)
    exact ⟨_, hp, hfront hpos ▸ hq⟩

/-- `window.fetch` and `(window).fetch`, and with a string for the key `window["fetch"]` and
`window[("fetch")]`: the parentheses hide the global from the analysis. -/
theorem global_hidden_by_parentheses :
    let p : Program := ⟨[.expr (.member (.identifier "window") (.name "fetch"))]⟩
    let q : Program := ⟨[.expr (.member (.paren (.identifier "window")) (.name "fetch"))]⟩
    let p' : Program := ⟨[.expr (.member (.identifier "window") (.computed (.string "fetch")))]⟩
    let q' : Program :=
      ⟨[.expr (.member (.identifier "window") (.computed (.paren (.string "fetch"))))]⟩
    p.Parenthesizes q ∧ p'.Parenthesizes q' ∧
      p.analyze = .ok (.ofList [("fetch", .read)]) ∧ q.analyze = .ok (.ofList []) ∧
      p'.analyze = .ok (.ofList [("fetch", .read)]) ∧ q'.analyze = .ok (.ofList []) ∧
      (GlobalUsage.ofList [("fetch", .read)]).toList ≠ (GlobalUsage.ofList []).toList := by
  refine ⟨Program.parenthesizes_expr (.inside .memberObject (.here .paren)),
    Program.parenthesizes_expr (.inside .memberKey (.inside .computed (.here .paren))),
    ?_, ?_, ?_, ?_, GlobalUsage.toList_ofList_ne_nil (List.cons_ne_nil _ _)⟩
  · exact Program.analyze_eq_ok_iff_reported.2 ⟨by decide, congrArg _ (by decide)⟩
  · exact Program.analyze_eq_ok_iff_reported.2 ⟨by decide, congrArg _ (by decide)⟩
  · exact Program.analyze_eq_ok_iff_reported.2 ⟨by decide, congrArg _ (by decide)⟩
  · exact Program.analyze_eq_ok_iff_reported.2 ⟨by decide, congrArg _ (by decide)⟩

end DepTriage.JavaScript
