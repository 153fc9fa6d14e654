import DepTriage.JavaScript.Globals

/-! # Member chains

How a walk reads a chain of member accesses such as `window.self.fetch`: which names it drops
from the front, and which global the rest refers to. A chain that starts at the global object means
the same in every scope, since its names are properties; the walk looks them up in the scopes all
the same, so that its answer is right only while no scope binds the names it looks up.

## Key results

- `Walk.dropAliases_eq`: the loop over aliases drops a longest front
- `member_eq_globalProperty_iff`: when a chain is read as the global object's property
-/

namespace DepTriage.JavaScript

namespace Walk

@[simp] theorem isBound_empty (name : String) : ({} : Walk).isBound name = false :=
  rfl

@[simp] theorem isBound_push (w : Walk) (names : List String) (name : String) :
    (w.push names).isBound name = (names.contains name || w.isBound name) := by
  simp [isBound, push]

/-- The names that a chain may drop from its front: they stand for the global object, and no
scope gives them another meaning. -/
def opensGlobal (w : Walk) (name : String) : Bool :=
  isGlobalAlias name && !w.isBound name

/-- Dropping aliases takes the longest front of names that stand for the global object. -/
theorem dropAliases_eq (w : Walk) (chain : List String) (global : Bool) :
    w.dropAliases chain global =
      (chain.dropWhile w.opensGlobal, global || chain.head?.any w.opensGlobal) := by
  -- By induction on the chain; the flag records whether an alias went.
  induction chain generalizing global with
  | nil => simp [dropAliases]
  | cons name rest ih =>
    rw [dropAliases]
    cases h : w.opensGlobal name with
    | true =>
      have hname : (isGlobalAlias name && !w.isBound name) = true := h
      rw [if_pos hname, ih]
      simp [h]
    | false =>
      have hname : ¬(isGlobalAlias name && !w.isBound name) = true := by
        rw [show (isGlobalAlias name && !w.isBound name) = false from h]
        decide
      rw [if_neg hname]
      simp [h]

/-- A chain starts at the global object: under the name that bundled code has for it, or at an
alias that no scope binds. -/
def StartsGlobal (w : Walk) (chain : List String) : Prop :=
  (∃ rest, chain = "__webpack_require__" :: "g" :: rest) ∨
  ∃ first rest, chain = first :: rest ∧ isGlobalAlias first = true ∧ w.isBound first = false

end Walk

/-- The names at the front of a chain that stand for the global object in the outermost scope. -/
def chainAliases (chain : List String) : List String :=
  (dropBundlerGlobal chain).takeWhile isGlobalAlias

/-- No scope binds an alias at the front of the chain, nor the name that follows the bundler's name
for the global object if no alias stands between them. -/
structure Walk.Transparent (w : Walk) (chain : List String) : Prop where
  aliases : ∀ name ∈ chainAliases chain, w.isBound name = false
  target : chainAliases chain = [] → (dropBundlerGlobal chain).head?.any w.isBound = false

/-- The property of the global object that a chain from there reads or writes, which is the first
name that does not lead back to the global object. -/
def globalProperty? (chain : List String) (assigned : Bool) : Option (String × Access) :=
  match (dropBundlerGlobal chain).dropWhile isGlobalAlias with
  | [] => none
  | root :: rest =>
    if root = implicitArguments then none
    else some (root, if assigned = true ∧ rest = [] then .readWrite else .read)

/-! ## Dropping up to a stop -/

section Stops

variable {drops stops : String → Bool} {chain : List String}

/-- If no name that is dropped is a stop, stops make no difference. -/
theorem dropWhile_of_not_stops (h : ∀ name ∈ chain.takeWhile drops, stops name = false) :
    (chain.dropWhile fun name => drops name && !stops name) = chain.dropWhile drops := by
  -- Names that nothing stops are dropped either way.
  induction chain with
  | nil => rfl
  | cons name rest ih =>
    rw [List.dropWhile_cons, List.dropWhile_cons]
    cases hdrops : drops name with
    | false => rfl
    | true =>
      rw [List.takeWhile_cons, if_pos hdrops] at h
      have hname : stops name = false := h name List.mem_cons_self
      have hrest := ih fun other hother => h other (List.mem_cons_of_mem _ hother)
      simpa [hname] using hrest

/-- A stop among the names that are dropped ends the dropping, at itself or at another one before
it. -/
theorem exists_dropWhile_of_stops {name : String} (hname : name ∈ chain.takeWhile drops)
    (hstops : stops name = true) :
    ∃ first rest, (chain.dropWhile fun name => drops name && !stops name) = first :: rest ∧
      drops first = true ∧ stops first = true := by
  induction chain with
  | nil => exact absurd hname List.not_mem_nil
  | cons head rest ih =>
    rw [List.takeWhile_cons] at hname
    split at hname
    · next hdrops =>
      rw [List.dropWhile_cons]
      -- The first name that is both dropped and stopped ends the dropping.
      cases hhead : stops head with
      | true => exact ⟨head, rest, by simp, hdrops, hhead⟩
      | false =>
        rcases List.mem_cons.1 hname with rfl | hname
        · rw [hstops] at hhead
          exact nomatch hhead
        · simpa [hdrops] using ih hname
    · exact absurd hname List.not_mem_nil

end Stops

/-! ## Bound aliases -/

/-- The first name that is left when the aliases are dropped is none of them. -/
private theorem not_alias_of_dropWhile {chain rest : List String} {root : String}
    (h : chain.dropWhile isGlobalAlias = root :: rest) : isGlobalAlias root = false := by
  have hhead := List.head?_dropWhile_not isGlobalAlias chain
  rw [h] at hhead
  exact hhead

private theorem ne_arguments_of_alias {name : String} (h : isGlobalAlias name = true) :
    name ≠ implicitArguments := by
  rintro rfl
  exact absurd h (by decide)

/-- While no alias at the front is bound, only a bound target right after the bundler's name for the
global object is kept back. -/
private theorem chainReference?_of_unbound {w : Walk} {chain : List String} (assigned : Bool)
    (h : ∀ name ∈ chainAliases chain, w.isBound name = false) :
    w.chainReference? chain assigned =
      if chainAliases chain = [] ∧ (dropBundlerGlobal chain).head?.any w.isBound = true then none
      else globalProperty? chain assigned := by
  rw [chainAliases] at h
  -- The scopes stop the dropping at the names that they bind.
  have hdrop : (dropBundlerGlobal chain).dropWhile w.opensGlobal =
      (dropBundlerGlobal chain).dropWhile isGlobalAlias := dropWhile_of_not_stops h
  rw [Walk.chainReference?, Walk.dropAliases_eq, hdrop, globalProperty?, chainAliases]
  cases hrest : dropBundlerGlobal chain with
  | nil => rfl
  | cons head rest =>
    rw [hrest] at h
    cases halias : isGlobalAlias head with
    | true =>
      -- An unbound alias in front makes the rest global whatever is bound.
      rw [List.takeWhile_cons, if_pos halias] at h
      have hhead : w.isBound head = false := h head List.mem_cons_self
      cases hdrop : (head :: rest).dropWhile isGlobalAlias with
      | nil => simp [halias]
      | cons root more => simp [halias, hhead, Walk.opensGlobal]
    | false =>
      cases hhead : w.isBound head with
      | true => simp [halias, hhead, Walk.opensGlobal]
      | false => simp [halias, hhead]

/-- Once an alias at the front is bound, the walk reports an alias, or nothing if the first name is
bound itself. -/
private theorem chainReference?_of_bound {w : Walk} {chain : List String} {name : String}
    (assigned : Bool) (hmem : name ∈ chainAliases chain) (hbound : w.isBound name = true) :
    if (dropBundlerGlobal chain).head?.any w.isBound = true then
      w.chainReference? chain assigned = none
    else ∃ root access, w.chainReference? chain assigned = some (root, access) ∧
      isGlobalAlias root = true := by
  obtain ⟨first, rest, hdrop, hfirst, hfirstBound⟩ :
      ∃ first rest, (dropBundlerGlobal chain).dropWhile w.opensGlobal = first :: rest ∧
        isGlobalAlias first = true ∧ w.isBound first = true :=
    exists_dropWhile_of_stops hmem hbound
  rw [Walk.chainReference?, Walk.dropAliases_eq, hdrop]
  -- The implicit `arguments` is no alias, so it plays no part in what follows.
  have hne : (first == implicitArguments) = false := by
    simpa using ne_arguments_of_alias hfirst
  cases hchain : dropBundlerGlobal chain with
  | nil =>
    rw [chainAliases, hchain] at hmem
    exact absurd hmem List.not_mem_nil
  | cons head tail =>
    -- The chain starts with an alias, as a bound one stands among its aliases.
    have halias : isGlobalAlias head = true := by
      rw [chainAliases, hchain, List.takeWhile_cons] at hmem
      split at hmem
      · assumption
      · exact absurd hmem List.not_mem_nil
    -- A bound head hides the chain; behind an unbound one, the bound alias becomes the root.
    cases hhead : w.isBound head with
    | true => simp [hhead, hfirstBound, Walk.opensGlobal]
    | false => simp [hhead, halias, hne, hfirst, Walk.opensGlobal]

/-! ## Whether the scopes matter -/

private theorem globalProperty?_not_alias {chain : List String} {assigned : Bool} {root : String}
    {access : Access} (h : globalProperty? chain assigned = some (root, access)) :
    isGlobalAlias root = false := by
  rw [globalProperty?] at h
  split at h
  · exact nomatch h
  · next first rest hdrop =>
    -- What is left behind the aliases starts with something else.
    split at h
    · exact nomatch h
    · have hroot : first = root := congrArg Prod.fst (Option.some.inj h)
      rw [← hroot]
      exact not_alias_of_dropWhile hdrop

/-- A chain is read as the property of the global object that it leads to exactly if the scopes are
transparent to it; a chain that leads to no property is also read rightly if its first name is
bound, since nothing is reported then. -/
theorem chainReference?_eq_globalProperty?_iff (w : Walk) (chain : List String)
    (assigned : Bool) :
    w.chainReference? chain assigned = globalProperty? chain assigned ↔
      w.Transparent chain ∨ (globalProperty? chain assigned = none ∧
        ((∀ name ∈ chainAliases chain, w.isBound name = false) ∨
          (dropBundlerGlobal chain).head?.any w.isBound = true)) := by
  by_cases haliases : ∀ name ∈ chainAliases chain, w.isBound name = false
  · rw [chainReference?_of_unbound assigned haliases]
    by_cases htarget : chainAliases chain = [] ∧
        (dropBundlerGlobal chain).head?.any w.isBound = true
    · rw [if_pos htarget]
      constructor
      · intro hnone
        exact Or.inr ⟨hnone.symm, Or.inl haliases⟩
      · rintro (htransparent | ⟨hnone, _⟩)
        · have hfalse := htransparent.target htarget.1
          rw [htarget.2] at hfalse
          exact nomatch hfalse
        · exact hnone.symm
    · rw [if_neg htarget]
      have htransparent : w.Transparent chain :=
        ⟨haliases, fun hnil => Bool.eq_false_iff.2 fun hbound => htarget ⟨hnil, hbound⟩⟩
      exact ⟨fun _ => Or.inl htransparent, fun _ => rfl⟩
  · obtain ⟨name, hname⟩ := Classical.not_forall.1 haliases
    obtain ⟨hmem, hbound⟩ := Classical.not_imp.1 hname
    have hread := chainReference?_of_bound assigned hmem (by simpa using hbound)
    have hblocked : ¬w.Transparent chain := fun htransparent => haliases htransparent.aliases
    by_cases hfirst : (dropBundlerGlobal chain).head?.any w.isBound = true
    · rw [if_pos hfirst] at hread
      rw [hread]
      constructor
      · exact fun hnone => Or.inr ⟨hnone.symm, Or.inr hfirst⟩
      · rintro (htransparent | ⟨hnone, _⟩)
        · exact absurd htransparent hblocked
        · exact hnone.symm
    · rw [if_neg hfirst] at hread
      obtain ⟨root, access, hroot, halias⟩ := hread
      rw [hroot]
      -- The walk reports an alias here, and no chain leads to one.
      have hne : some (root, access) ≠ globalProperty? chain assigned := by
        intro heq
        rw [globalProperty?_not_alias heq.symm] at halias
        exact nomatch halias
      simp [hblocked, haliases, hfirst, hne]

/-- A member access that forms a chain reports what `chainReference?` says, and for a chain from the
global object this is the property it leads to, exactly under the condition of
`chainReference?_eq_globalProperty?_iff`. -/
theorem member_eq_globalProperty_iff {object : Expr} {key : Key} {chain : List String}
    (hchain : object.memberChain? key = some chain) (assigned : Bool) (w : Walk) :
    visitor.member object key assigned w =
      (w.chainReference? chain assigned).elim w (fun r => w.report r.1 r.2) ∧
    (w.chainReference? chain assigned = globalProperty? chain assigned ↔
      w.Transparent chain ∨ (globalProperty? chain assigned = none ∧
        ((∀ name ∈ chainAliases chain, w.isBound name = false) ∨
          (dropBundlerGlobal chain).head?.any w.isBound = true))) := by
  refine ⟨?_, chainReference?_eq_globalProperty?_iff w chain assigned⟩
  rw [Descent.member, hchain]
  show Walk.memberChain chain assigned w = _
  rw [Walk.memberChain]
  cases w.chainReference? chain assigned <;> rfl

/-- `window.fetch` where a scope binds `fetch`: the scope does not matter. -/
theorem member_window_fetch :
    (Expr.identifier "window").memberChain? (.name "fetch") = some ["window", "fetch"] ∧
    (Walk.push {} ["fetch"]).Transparent ["window", "fetch"] ∧
    (Walk.push {} ["fetch"]).chainReference? ["window", "fetch"] false =
      globalProperty? ["window", "fetch"] false := by
  have hopen : (Walk.push {} ["fetch"]).Transparent ["window", "fetch"] := by
    refine ⟨?_, fun h => nomatch h⟩
    -- `window` is the only alias in the chain, and the scope binds `fetch` alone.
    intro name hname
    have hname : name = "window" := by simpa [chainAliases, dropBundlerGlobal, isGlobalAlias,
      globalAliases, List.takeWhile] using hname
    rw [hname, Walk.isBound_push, Walk.isBound_empty]
    decide
  have hchain : (Expr.identifier "window").memberChain? (.name "fetch") =
      some ["window", "fetch"] := rfl
  have hiff := (member_eq_globalProperty_iff hchain false (Walk.push {} ["fetch"])).2
  exact ⟨hchain, hopen, hiff.2 (Or.inl hopen)⟩

/-- A scope hides a property of the global object from the walk if it binds that name behind the
bundler's name for the global object, or if it binds an alias that is not the first. -/
theorem globalProperty?_hidden_by_scope :
    ((Walk.push {} ["foo"]).StartsGlobal ["__webpack_require__", "g", "foo"] ∧
      globalProperty? ["__webpack_require__", "g", "foo"] false = some ("foo", .read) ∧
      (Walk.push {} ["foo"]).chainReference? ["__webpack_require__", "g", "foo"] false = none) ∧
    ((Walk.push {} ["self"]).StartsGlobal ["window", "self", "fetch"] ∧
      globalProperty? ["window", "self", "fetch"] false = some ("fetch", .read) ∧
      (Walk.push {} ["self"]).chainReference? ["window", "self", "fetch"] false =
        some ("self", .read)) := by
  refine ⟨⟨Or.inl ⟨_, rfl⟩, by decide, ?_⟩, ⟨Or.inr ⟨_, _, rfl, by decide, ?_⟩, by decide, ?_⟩⟩
  · simp [Walk.chainReference?, Walk.dropAliases, dropBundlerGlobal]
  · rw [Walk.isBound_push, Walk.isBound_empty]
    decide
  · have hwindow : isGlobalAlias "window" = true := by decide
    simp [Walk.chainReference?, Walk.dropAliases, dropBundlerGlobal, hwindow, implicitArguments]

end DepTriage.JavaScript
