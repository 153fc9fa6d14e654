import DepTriage.Proofs.LockFile.Yarn

/-!
# The packages that specifiers name

A specifier is the name of a package, an `@` and a range, which may be an alias `npm:name@range` of
another package. The name ends at its first `@` that starts no scope. What is read as the name ends
at the last `@` in front of the first colon instead: the two differ if the range holds an `@` in
front of its first colon, as the address `git@host:path` does.

## Key results

- `packageName_bare`, `packageName_protocol`: what is read as the name of any specifier
- `packageName_eq_or_alias`: it ends at the last `@` in front of the first colon, or an alias gives
  it
- `packageName_eq_iff`: when that is the name in front of the range
- `git_address_read_as_name`: an address whose user becomes part of the name
-/

namespace DepTriage.Yarn

open DepTriage.Text

/-- The name of a package. An `@` in it starts a scope. -/
structure IsPackageName (name : List Char) : Prop where
  ne_nil : name ≠ []
  sign : '@' ∉ name.tail
  colon : ':' ∉ name

/-! ## Cutting specifiers -/

theorem splitSpecifier?_eq_none {specifier : List Char} (h : '@' ∉ specifier) :
    splitSpecifier? specifier = none := by
  refine Option.eq_none_iff_forall_ne_some.2 fun ⟨name, range⟩ hcut => h ?_
  rw [(splitSpecifier?_eq_some_iff.1 hcut).1]
  simp

theorem nameOfHead_append {front back : List Char} (hfront : front ≠ []) (hback : '@' ∉ back) :
    nameOfHead (front ++ '@' :: back) = front := by
  rw [nameOfHead, splitSpecifier?_eq_some_iff.2 ⟨rfl, hfront, hback⟩]

/-- Without a colon, the name ends at the last `@`. -/
theorem packageName_bare {front back : List Char} (hfront : front ≠ []) (hback : '@' ∉ back)
    (hcolon : ':' ∉ front ++ back) : packageName (front ++ '@' :: back) = front := by
  have hnone : splitFirst? ':' (front ++ '@' :: back) = none := by
    refine Option.eq_none_iff_forall_ne_some.2 fun ⟨before, after⟩ hsplit => hcolon ?_
    have hmem : ':' ∈ front ++ '@' :: back := by
      rw [(splitFirst?_eq_some_iff.1 hsplit).2]
      simp
    simpa using hmem
  rw [packageName, hnone]
  exact nameOfHead_append hfront hback

/-- With a colon, the name ends at the last `@` in front of the first colon, unless an alias follows
that names another package. -/
theorem packageName_protocol {front protocol : List Char} (hfront : front ≠ [])
    (hprotocol : '@' ∉ protocol) (hcolon : ':' ∉ front ++ protocol) (rest : List Char) :
    packageName (front ++ '@' :: (protocol ++ ':' :: rest)) =
      if protocol = "npm".toList then ((splitSpecifier? rest).map Prod.fst).getD front
      else front := by
  have hsplit : splitFirst? ':' (front ++ '@' :: (protocol ++ ':' :: rest)) =
      some (front ++ '@' :: protocol, rest) :=
    splitFirst?_eq_some_iff.2 ⟨by simpa using hcolon, by simp⟩
  have hname : nameOfHead (front ++ '@' :: protocol) = front := nameOfHead_append hfront hprotocol
  -- The head ends with `@npm` exactly if what follows its last `@` is `npm`.
  have hsuffix : "@npm".toList.isSuffixOf (front ++ '@' :: protocol) = true ↔
      protocol = "npm".toList := by
    rw [List.isSuffixOf_iff_suffix]
    constructor
    · rintro ⟨before, hbefore⟩
      have hcut : splitLast? '@' (front ++ '@' :: protocol) = some (before, "npm".toList) :=
        splitLast?_eq_some_iff.2 ⟨by decide, hbefore.symm⟩
      have hcut' : splitLast? '@' (front ++ '@' :: protocol) = some (front, protocol) :=
        splitLast?_eq_some_iff.2 ⟨hprotocol, rfl⟩
      exact (Prod.mk.inj (Option.some.inj (hcut'.symm.trans hcut))).2
    · rintro rfl
      exact ⟨front, rfl⟩
  rw [packageName, hsplit]
  dsimp only
  by_cases hnpm : protocol = "npm".toList
  · rw [if_pos (hsuffix.2 hnpm), if_pos hnpm, hname]
    cases splitSpecifier? rest <;> rfl
  · rw [if_neg fun h => hnpm (hsuffix.1 h), if_neg hnpm, hname]

/-- What is read as the name ends at the last `@` in front of the first colon, or it is the name
that an alias gives. -/
theorem packageName_eq_or_alias {front back tail : List Char} (hfront : front ≠ [])
    (hback : '@' ∉ back) (hcolon : ':' ∉ front ++ back)
    (htail : tail = [] ∨ ∃ rest, tail = ':' :: rest) :
    packageName (front ++ '@' :: (back ++ tail)) = front ∨
      ∃ version, '@' ∉ version ∧ back ++ tail =
        "npm:".toList ++ (packageName (front ++ '@' :: (back ++ tail)) ++ '@' :: version) := by
  rcases htail with rfl | ⟨rest, rfl⟩
  · rw [List.append_nil]
    exact .inl (packageName_bare hfront hback hcolon)
  · rw [packageName_protocol hfront hback hcolon]
    split
    -- Behind `npm:` stands another specifier, whose name counts where it has one.
    · next hnpm =>
      subst hnpm
      cases hrest : splitSpecifier? rest with
      | none => exact .inl rfl
      | some parts =>
        obtain ⟨hcut, -, hversion⟩ := splitSpecifier?_eq_some_iff.1 hrest
        exact .inr ⟨parts.2, hversion, congrArg ("npm:".toList ++ ·) hcut⟩
    · exact .inl rfl

/-- An alias is read as the package that it names, whatever stands in front of it. -/
theorem packageName_alias {front real version : List Char} (hfront : front ≠ [])
    (hcolon : ':' ∉ front) (hreal : real ≠ []) (hversion : '@' ∉ version) :
    packageName (front ++ '@' :: ("npm".toList ++ ':' :: (real ++ '@' :: version))) = real := by
  rw [packageName_protocol hfront (by decide) (by simp [hcolon]), if_pos rfl,
    splitSpecifier?_eq_some_iff.2 ⟨rfl, hreal, hversion⟩]
  rfl

/-! ## Names and ranges -/

/-- Behind a name, a range without an `@` in front of its first colon is told apart from it, unless
it is an alias. -/
theorem packageName_of_not_mem {name range : List Char} (hname : IsPackageName name)
    (hsign : '@' ∉ beforeFirst ':' range) (halias : ¬"npm:".toList <+: range) :
    packageName (name ++ '@' :: range) = name := by
  have hcolon : ':' ∉ name ++ beforeFirst ':' range := by
    simp [hname.colon, not_mem_beforeFirst]
  obtain ⟨tail, hrange, htail⟩ := exists_eq_beforeFirst_append ':' range
  rcases packageName_eq_or_alias hname.ne_nil hsign hcolon htail with hread | ⟨_, -, hread⟩
  · rwa [← hrange] at hread
  · rw [← hrange] at hread
    exact absurd ⟨_, hread.symm⟩ halias

/-- With an `@` in front of its first colon, a range is told apart from the name only if an alias
follows that names the same package. -/
theorem packageName_of_mem {name range : List Char} (hname : IsPackageName name)
    (hsign : '@' ∈ beforeFirst ':' range) :
    packageName (name ++ '@' :: range) = name ↔
      ∃ front version, range = front ++ "@npm:".toList ++ (name ++ '@' :: version) ∧
        ':' ∉ front ∧ '@' ∉ version := by
  constructor
  · intro hread
    -- Up to the last `@` in front of the colon, the range becomes part of the name.
    obtain ⟨tail, hrange, htail⟩ := exists_eq_beforeFirst_append ':' range
    obtain ⟨front, back, hcut, hback⟩ := exists_eq_append_of_mem hsign
    have hfree : ':' ∉ front ++ '@' :: back := hcut ▸ not_mem_beforeFirst ':' range
    have hcolon : ':' ∉ (name ++ '@' :: front) ++ back := by simpa [hname.colon] using hfree
    have hspecifier : name ++ '@' :: range = name ++ '@' :: front ++ '@' :: (back ++ tail) := by
      rw [hrange, hcut]
      simp
    have hlonger : name ++ '@' :: front ≠ name := by simp
    rw [hspecifier] at hread
    rcases packageName_eq_or_alias (by simp) hback hcolon htail with
      hlong | ⟨version, hversion, halias⟩
    · exact absurd (hlong.symm.trans hread) hlonger
    · rw [hread] at halias
      refine ⟨front, version, ?_, fun h => hfree (by simp [h]), hversion⟩
      rw [hrange, hcut, List.append_assoc, List.cons_append, halias]
      simp
  · rintro ⟨front, version, rfl, hfront, hversion⟩
    have hcolon : ':' ∉ name ++ '@' :: front := by simp [hname.colon, hfront]
    have hread := packageName_alias (by simp) hcolon hname.ne_nil hversion
    simpa using hread

/-- Of a specifier with a name and a range, the name is read as that of the package exactly if the
range holds no `@` in front of its first colon, or if it goes on to an alias of the same package.
With a range of the registry this is always so, and an alias is read as the package that it
names. -/
theorem packageName_eq_iff {name : List Char} (hname : IsPackageName name) (range : List Char) :
    (¬"npm:".toList <+: range →
      (packageName (name ++ '@' :: range) = name ↔
        '@' ∉ beforeFirst ':' range ∨
        ∃ front version, range = front ++ "@npm:".toList ++ (name ++ '@' :: version) ∧
          ':' ∉ front ∧ '@' ∉ version)) ∧
    (∀ version, range = "npm:".toList ++ version → '@' ∉ version →
      packageName (name ++ '@' :: range) = name) ∧
    ∀ real version, IsPackageName real → range = "npm:".toList ++ (real ++ '@' :: version) →
      '@' ∉ version → packageName (name ++ '@' :: range) = real := by
  refine ⟨fun halias => ?_, ?_, ?_⟩
  -- A range without an alias: its part up to the colon decides whether the cut comes too late.
  · by_cases hsign : '@' ∈ beforeFirst ':' range
    · rw [packageName_of_mem hname hsign]
      simp [hsign]
    · simp [packageName_of_not_mem hname hsign halias, hsign]
  · rintro version rfl hversion
    -- An alias without a second name keeps the name in front of it.
    have hread := packageName_protocol hname.ne_nil (show '@' ∉ "npm".toList by decide)
      (by simp [hname.colon]) version
    rw [if_pos rfl, splitSpecifier?_eq_none hversion] at hread
    exact hread
  · rintro real version hreal rfl hversion
    exact packageName_alias hname.ne_nil hname.colon hreal.ne_nil hversion

/-- A package from a git server, one from the registry, and an alias of another one. -/
theorem packageName_of_server_and_registry :
    (IsPackageName "repo".toList ∧ IsPackageName "string-width".toList) ∧
    (¬"npm:".toList <+: "git+ssh://git@host/user/repo.git".toList ∧
      packageName "repo@git+ssh://git@host/user/repo.git".toList = "repo".toList) ∧
    ('@' ∉ "^4.2.0".toList ∧ packageName "repo@npm:^4.2.0".toList = "repo".toList) ∧
    packageName "repo@npm:string-width@^4.2.0".toList = "string-width".toList := by
  have hrepo : IsPackageName "repo".toList := ⟨by decide, by decide, by decide⟩
  have hother : IsPackageName "string-width".toList := ⟨by decide, by decide, by decide⟩
  have hserver : ¬"npm:".toList <+: "git+ssh://git@host/user/repo.git".toList := by decide
  have hversion : '@' ∉ "^4.2.0".toList := by decide
  refine ⟨⟨hrepo, hother⟩, ⟨hserver, ?_⟩, ⟨hversion, ?_⟩, ?_⟩
  · exact ((packageName_eq_iff hrepo "git+ssh://git@host/user/repo.git".toList).1 hserver).2
      (.inl (by decide))
  · exact (packageName_eq_iff hrepo "npm:^4.2.0".toList).2.1 _ rfl hversion
  · exact (packageName_eq_iff hrepo "npm:string-width@^4.2.0".toList).2.2 _ _ hother rfl hversion

/-- The user in the address `git@host:user/repo.git` becomes part of the name, and the lock file
gives a dependency by that name. -/
theorem git_address_read_as_name :
    IsPackageName "repo".toList ∧ ¬"npm:".toList <+: "git@host:user/repo.git".toList ∧
      packageName ("repo".toList ++ '@' :: "git@host:user/repo.git".toList) =
        "repo@git".toList ∧
      (read "\"repo@git@host:user/repo.git\":\n  version \"1.0.0\"\n".toList).toOption.map
        DependencySet.toList = some [⟨"repo@git", "1.0.0"⟩] :=
  ⟨⟨by decide, by decide, by decide⟩, by decide, by decide, by decide +kernel⟩

end DepTriage.Yarn
