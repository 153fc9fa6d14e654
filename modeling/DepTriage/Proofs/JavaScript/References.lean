import DepTriage.JavaScript.Analysis
import DepTriage.Proofs.GlobalUsage
import DepTriage.Proofs.JavaScript.MemberChain
import DepTriage.Proofs.JavaScript.Simulation

/-! # The references of a program

A program has a height, and under given bound names it has references to globals; both are plain
recursions over its syntax. The walk over a program refines them: it answers for a program that is
not too high, and its answer is the fold of the program's references.

## Key results

- `balanced`: every call leaves the scopes and the depth as it found them and only adds usage
- `Program.analyze_eq`: the analysis of a program, said by its height and its references
-/

namespace DepTriage.JavaScript

/-! ## Height and references -/

namespace Interpretation

/-- How many statements and expressions stand inside each other. -/
def height : Interpretation Nat where
  nothing := 0
  append := max
  node h := h + 1
  scope _ h := h
  reference _ _ := 0
  chain _ _ := 0
  hidden _ := 0
  append_assoc := Nat.max_assoc
  append_nothing := Nat.max_zero

/-- A reference to a global, unless it only reads the standard library. -/
def noteworthy (name : String) (access : Access) : List (String × Access) :=
  if access = .read ∧ isStandardGlobal name then [] else [(name, access)]

/-- The global that a member chain refers to under the bound names: the first name left when the
names that stand for the global object are dropped from the front. -/
def chainReference? (bound chain : List String) (assigned : Bool) : Option (String × Access) :=
  let chain := dropBundlerGlobal chain
  let opensGlobal name := isGlobalAlias name && !bound.contains name
  match chain.dropWhile opensGlobal with
  | [] => none
  | root :: rest =>
    if root = implicitArguments ∨ (chain.head?.any opensGlobal = false ∧ root ∈ bound) then none
    else some (root, if assigned = true ∧ rest = [] then .readWrite else .read)

/-- The references to globals, from left to right, where the names in scope are given. -/
def references : Interpretation (List String → List (String × Access)) where
  nothing _ := []
  append first second bound := first bound ++ second bound
  node parts := parts
  scope names body bound := body (names ++ bound)
  reference name access bound :=
    if name ∈ bound ∨ isGlobalAlias name ∨ name = implicitArguments then []
    else noteworthy name access
  chain names assigned bound :=
    match chainReference? bound names assigned with
    | none => []
    | some (root, access) => noteworthy root access
  hidden _ _ := []
  append_assoc a b c := by
    funext bound
    exact List.append_assoc _ _ _
  append_nothing a := by
    funext bound
    exact List.append_nil _

end Interpretation

/-- How many statements and expressions of a program stand inside each other. -/
def Program.height (p : Program) : Nat :=
  Interpretation.height.program p

/-- The references of a program to globals. -/
def Program.references (p : Program) : List (String × Access) :=
  Interpretation.references.program p []

/-! ## What every call leaves as it was -/

/-- Between the two states, the scopes and the depth are the same, usage was only added, and a
node that was left out is not forgotten. -/
structure Walk.Balanced (w w' : Walk) : Prop where
  frames : w'.frames = w.frames
  depth : w'.depth = w.depth
  usage : w.usage ≤ w'.usage
  tooDeep : w.tooDeep = true → w'.tooDeep = true

namespace Walk.Balanced

theorem refl (w : Walk) : w.Balanced w :=
  ⟨rfl, rfl, w.usage.le_refl, id⟩

theorem trans {w w' w'' : Walk} (h : w.Balanced w') (h' : w'.Balanced w'') : w.Balanced w'' :=
  ⟨h'.frames.trans h.frames, h'.depth.trans h.depth, GlobalUsage.le_trans h.usage h'.usage,
    h'.tooDeep ∘ h.tooDeep⟩

/-- A walk that goes too deep does not come back. -/
theorem tooDeep_eq_false {w w' : Walk} (h : w.Balanced w') (hdeep : w'.tooDeep = false) :
    w.tooDeep = false := by
  cases hw : w.tooDeep with
  | false => rfl
  | true => exact absurd (h.tooDeep hw) (by rw [hdeep]; decide)

theorem report (w : Walk) (name : String) (access : Access) :
    w.Balanced (w.report name access) := by
  rw [Walk.report]
  split
  · exact refl w
  · exact ⟨rfl, rfl, w.usage.le_record name access, id⟩

theorem pop {w w' : Walk} {names : List String} (h : (w.push names).Balanced w') :
    w.Balanced w'.pop := by
  refine ⟨?_, h.depth, h.usage, h.tooDeep⟩
  show w'.frames.tail = w.frames
  rw [h.frames]
  rfl

theorem leave {w w' : Walk} (h : Walk.Balanced { w with depth := w.depth + 1 } w') :
    w.Balanced { w' with depth := w'.depth - 1 } := by
  refine ⟨h.frames, ?_, h.usage, h.tooDeep⟩
  show w'.depth - 1 = w.depth
  rw [h.depth]
  rfl

end Walk.Balanced

/-- No step of a walk forgets a scope, a level or a reference, whatever the syntax comes to. -/
theorem balanced {α : Type} (A : Interpretation α) :
    Simulation A fun w w' _ => w.Balanced w' where
  depth h := h.depth
  nothing := .refl
  append h h' := h.trans h'
  scope _ h := h.pop
  -- What is looked up is reported or not, and a report changes nothing but the usage.
  reference w name access := by
    rw [Walk.reference]
    split
    · exact .refl w
    · exact .report w name access
  chain w names assigned := by
    rw [Walk.memberChain]
    split
    · exact .refl w
    · exact .report w _ _
  hidden w _ := .refl w
  skip _ _ := .refl _
  refuse _ _ _ := ⟨rfl, rfl, GlobalUsage.le_refl _, fun _ => rfl⟩
  enter _ _ h := h.leave

/-! ## When a walk goes too deep -/

theorem tooDeep_report (w : Walk) (name : String) (access : Access) :
    (w.report name access).tooDeep = w.tooDeep := by
  rw [Walk.report]
  split <;> rfl

/-- Whether the state after a visit to syntax of height `h` says that a node stood too deep. -/
structure Walk.Overflows (w w' : Walk) (h : Nat) : Prop where
  depth : w'.depth = w.depth
  tooDeep : w.depth ≤ nestingLimit →
    (w'.tooDeep = true ↔ w.tooDeep = true ∨ nestingLimit < w.depth + h)

/-- A visit that takes no node leaves the depth alone. -/
theorem Walk.Overflows.of_eq {w w' : Walk} (hdepth : w'.depth = w.depth)
    (hdeep : w'.tooDeep = w.tooDeep) : w.Overflows w' 0 := by
  refine ⟨hdepth, fun hw => ?_⟩
  rw [hdeep]
  exact ⟨Or.inl, fun h => h.resolve_right (Nat.not_lt_of_le hw)⟩

/-- A walk overflows exactly where the height and the depth pass the limit together. -/
theorem overflows : Simulation .height Walk.Overflows where
  depth h := h.depth
  nothing _ := .of_eq rfl rfl
  append {w w' w'' a b} h h' := by
    refine ⟨h'.depth.trans h.depth, fun hw => ?_⟩
    have hfirst := h.tooDeep hw
    -- The second part starts at the depth at which the first one started.
    have hsecond := h'.tooDeep (by rw [h.depth]; exact hw)
    have hmax : nestingLimit < w.depth + max a b ↔
        nestingLimit < w.depth + a ∨ nestingLimit < w.depth + b := by omega
    show _ ↔ _ ∨ nestingLimit < w.depth + max a b
    rw [hsecond, hfirst, h.depth, or_assoc, hmax]
  scope _ h := ⟨h.depth, h.tooDeep⟩
  reference w name access := by
    refine .of_eq ((balanced .height).reference w name access).depth ?_
    rw [Walk.reference]
    split
    · rfl
    · exact tooDeep_report w name access
  chain w names assigned := by
    refine .of_eq ((balanced .height).chain w names assigned).depth ?_
    rw [Walk.memberChain]
    split
    · rfl
    · exact tooDeep_report w _ _
  hidden _ _ := .of_eq rfl rfl
  skip _ hdeep := ⟨rfl, fun _ => ⟨fun _ => Or.inl hdeep, fun _ => hdeep⟩⟩
  refuse h _ hlimit := by
    refine ⟨rfl, fun _ => ⟨fun _ => Or.inr ?_, fun _ => rfl⟩⟩
    exact Nat.lt_of_le_of_lt hlimit (Nat.lt_add_of_pos_right (Nat.succ_pos h))
  enter {w w' h} hdeep hlimit hbelow := by
    have hdepth : w'.depth = w.depth + 1 := hbelow.depth
    -- Below the limit, a node moves one level from the height to the depth.
    refine ⟨by simp only [hdepth, Nat.add_sub_cancel], fun _ => ?_⟩
    have hinner : w'.tooDeep = true ↔ w.tooDeep = true ∨ nestingLimit < w.depth + 1 + h :=
      hbelow.tooDeep hlimit
    show w'.tooDeep = true ↔ w.tooDeep = true ∨ nestingLimit < w.depth + (h + 1)
    rw [hinner, Nat.add_assoc, Nat.add_comm 1 h]

/-! ## What a walk records -/

/-- The names in scope are the bound ones. -/
def Walk.Binds (w : Walk) (bound : List String) : Prop :=
  ∀ name, w.isBound name = bound.contains name

theorem Walk.Binds.push {w : Walk} {bound : List String} (h : w.Binds bound)
    (names : List String) : (w.push names).Binds (names ++ bound) := by
  intro name
  rw [Walk.isBound_push, h name, Bool.eq_iff_iff]
  simp

theorem Walk.Binds.of_frames {w w' : Walk} {bound : List String} (h : w.Binds bound)
    (hframes : w'.frames = w.frames) : w'.Binds bound := by
  intro name
  rw [← h name, Walk.isBound, Walk.isBound, hframes]

/-- Unless a node was left out, exactly the references of the visited syntax were recorded. -/
structure Walk.Records (w w' : Walk) (references : List String → List (String × Access)) :
    Prop where
  balanced : w.Balanced w'
  usage : w'.tooDeep = false → ∀ bound, w.Binds bound →
    w'.usage = w.usage.recordAll (references bound)

/-- Under the bound names, a chain refers to what the walk reports for it. -/
theorem Walk.chainReference?_eq {w : Walk} {bound : List String} (h : w.Binds bound)
    (chain : List String) (assigned : Bool) :
    w.chainReference? chain assigned =
      Interpretation.chainReference? bound chain assigned := by
  have hopens : w.opensGlobal = fun name => isGlobalAlias name && !bound.contains name := by
    funext name
    rw [Walk.opensGlobal, h name]
  rw [Walk.chainReference?, Interpretation.chainReference?, Walk.dropAliases_eq, hopens]
  -- The loop answers with a pair, the recursion asks for the rest of the chain alone.
  split
  · next heq =>
    rw [(Prod.mk.inj heq).1]
  · next root rest global heq =>
    obtain ⟨hrest, hglobal⟩ := Prod.mk.inj heq
    rw [hrest, ← hglobal, h root]
    simp

theorem Walk.report_usage (w : Walk) (name : String) (access : Access) :
    (w.report name access).usage = w.usage.recordAll (Interpretation.noteworthy name access) := by
  rw [Walk.report, Interpretation.noteworthy]
  split
  · rfl
  · rfl

theorem records : Simulation .references Walk.Records where
  depth h := h.balanced.depth
  nothing w := ⟨.refl w, fun _ _ _ => rfl⟩
  append {w w' w'' a b} h h' := by
    refine ⟨h.balanced.trans h'.balanced, fun hdeep bound hbound => ?_⟩
    have hdeep' : w'.tooDeep = false := h'.balanced.tooDeep_eq_false hdeep
    -- The first part left the scopes as they were, so the same names are bound in the second.
    rw [h'.usage hdeep bound (hbound.of_frames h.balanced.frames), h.usage hdeep' bound hbound]
    exact (w.usage.recordAll_append (a bound) (b bound)).symm
  scope names h :=
    ⟨h.balanced.pop, fun hdeep bound hbound => h.usage hdeep _ (hbound.push names)⟩
  reference w name access := by
    refine ⟨(balanced .references).reference w name access, fun _ bound hbound => ?_⟩
    show _ = w.usage.recordAll (if _ then [] else _)
    rw [Walk.reference, hbound name]
    by_cases hlocal : name ∈ bound ∨ isGlobalAlias name ∨ name = implicitArguments
    · rw [if_pos hlocal, if_pos (by simpa [or_assoc] using hlocal)]
      rfl
    · rw [if_neg hlocal, if_neg (by simpa [or_assoc] using hlocal)]
      exact w.report_usage name access
  chain w names assigned := by
    refine ⟨(balanced .references).chain w names assigned, fun _ bound hbound => ?_⟩
    show _ = w.usage.recordAll (match Interpretation.chainReference? bound names assigned with
      | none => []
      | some (root, access) => Interpretation.noteworthy root access)
    rw [Walk.memberChain, Walk.chainReference?_eq hbound]
    cases Interpretation.chainReference? bound names assigned with
    | none => rfl
    | some r => exact w.report_usage r.1 r.2
  hidden w _ := ⟨.refl w, fun _ _ _ => rfl⟩
  -- A node that is left out leaves `tooDeep` set, and then nothing is claimed of the usage.
  skip _ hdeep := ⟨.refl _, fun hfalse => absurd hdeep (by rw [hfalse]; decide)⟩
  refuse a hdeep hlimit := ⟨(balanced .references).refuse a hdeep hlimit, fun h => nomatch h⟩
  enter _ _ h := ⟨h.balanced.leave, fun hfalse bound hbound => h.usage hfalse bound hbound⟩

/-! ## Whole programs -/

/-- The walk over a program goes too deep if the program is too high. -/
theorem Program.tooDeep_walk (p : Program) :
    p.walk.tooDeep = true ↔ nestingLimit < p.height := by
  have h := (overflows.program p).tooDeep (Nat.zero_le _)
  rw [h]
  simp [Program.height]

/-- A walk that visits every node records the references of the program. -/
theorem Program.usage_walk (p : Program) (h : p.walk.tooDeep = false) :
    p.walk.usage = .ofList p.references :=
  (records.program p).usage h [] fun _ => rfl

theorem Program.tooDeep_walk_eq_false {p : Program} (h : p.height ≤ nestingLimit) :
    p.walk.tooDeep = false := by
  rw [Bool.eq_false_iff, Ne, p.tooDeep_walk]
  exact Nat.not_lt_of_le h

theorem Program.globals?_eq (p : Program) :
    p.globals? = if p.height ≤ nestingLimit then some (.ofList p.references) else none := by
  rw [Program.globals?]
  -- The walk gives up exactly when the program is nested too deeply, and reports everything when it
  -- does not.
  by_cases h : p.height ≤ nestingLimit
  · have hdeep := Program.tooDeep_walk_eq_false h
    rw [if_pos h]
    simp [hdeep, p.usage_walk hdeep]
  · have hdeep : p.walk.tooDeep = true := p.tooDeep_walk.2 (Nat.lt_of_not_le h)
    rw [if_neg h]
    simp [hdeep]

theorem Program.analyze_eq_ok_iff {p : Program} {usage : GlobalUsage} :
    p.analyze = .ok usage ↔ p.height ≤ nestingLimit ∧ .ofList p.references = usage := by
  rw [Program.analyze, p.globals?_eq]
  by_cases h : p.height ≤ nestingLimit <;> simp [h]

theorem Program.analyze_eq_tooDeep_iff {p : Program} :
    p.analyze = .error .tooDeep ↔ nestingLimit < p.height := by
  rw [Program.analyze, p.globals?_eq, ← Nat.not_le]
  by_cases h : p.height ≤ nestingLimit <;> simp [h]

/-- The analysis of a program answers if at most 512 statements and expressions stand inside each
other, and otherwise names the limit. Its answer is the fold of the program's references: a name is
written if some reference to it is a direct assignment, read if it is only read, and absent if there
is none. It never depends on what a call leaves behind, since every call, from every state, restores
the scopes and the depth, only adds usage and keeps in mind that something stood too deep. -/
theorem Program.analyze_eq (p : Program) :
    p.analyze = (if p.height ≤ 512 then .ok (.ofList p.references) else .error .tooDeep) ∧
    (∀ path, SourceFault.tooDeep.failure path =
      .parseFailure path "nesting too deep (limit 512)") ∧
    (∀ name, (GlobalUsage.ofList p.references).get? name =
      if (name, .readWrite) ∈ p.references then some .readWrite
      else if (name, .read) ∈ p.references then some .read
      else none) ∧
    ∀ (c : Call) (w : Walk), w.Balanced (c.visit w) := by
  refine ⟨?_, fun path => rfl, fun name => ?_, fun c w => (balanced .height).call c w⟩
  · rw [Program.analyze, p.globals?_eq]
    by_cases h : p.height ≤ 512
    · rw [if_pos h, if_pos (show p.height ≤ nestingLimit from h)]
    · rw [if_neg h, if_neg (show ¬p.height ≤ nestingLimit from h)]
  -- Of two accesses to a name, the stronger one is kept.
  · by_cases hwrite : (name, Access.readWrite) ∈ p.references
    · rw [if_pos hwrite, GlobalUsage.get?_ofList_eq_readWrite]
      exact hwrite
    · rw [if_neg hwrite]
      by_cases hread : (name, Access.read) ∈ p.references
      · rw [if_pos hread, GlobalUsage.get?_ofList_eq_read]
        exact ⟨hread, hwrite⟩
      · rw [if_neg hread, GlobalUsage.get?_ofList_eq_none]
        intro a
        cases a with
        | read => exact hread
        | readWrite => exact hwrite

/-- A write is listed as one, reads of the standard library are not, and an operator chain is one
level however long it is. -/
example :
    Program.references ⟨[.expr (.assign (.name "y") (.call (.identifier "parseInt")
      [.item (.binary (.binary (.identifier "a") (.identifier "b")) (.identifier "y"))]))]⟩ =
        [("y", .readWrite), ("a", .read), ("b", .read), ("y", .read)] ∧
    Program.height ⟨[.expr (.binary (.binary (.identifier "a") (.identifier "b"))
      (.identifier "y"))]⟩ = 3 := by
  decide

end DepTriage.JavaScript
