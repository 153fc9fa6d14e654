import DepTriage.LockFile.Pnpm
import DepTriage.Proofs.Dependency
import DepTriage.Proofs.Text.Blank
import DepTriage.Proofs.Text.Split

/-!
# The keys of pnpm lock files

The dependencies of a lock file are those that its keys give, each key on its own: it gives the
dependency that it is cut into, or nothing.

## Key results

- `exists_read_eq_ok`, `exists_hasKeys_of_read`: a lock file is read if and only if it has a version
  and each of its keys has one, and then its dependencies are those that the keys give
- `readKey_eq_package_iff`: the dependency that a key gives
- `gives_nothing_iff_of_slash`, `gives_nothing_iff_of_sign`: which keys give none
-/

namespace DepTriage.Pnpm

open DepTriage.Text

variable {content : List Char} {major : Nat} {keys : List String} {set : DependencySet}

/-! ## Lock files -/

/-- `content` is a lock file of the given major version, with `keys` as those of its packages. -/
def HasKeys (content : List Char) (major : Nat) (keys : List String) : Prop :=
  ∃ d, Document.parse? content = some d ∧ d.formatVersion >>= majorVersion? = some major ∧
    ∀ key, key ∈ d.packages ↔ key ∈ keys

/-- A text is one lock file at most. -/
theorem HasKeys.unique {otherMajor : Nat} {otherKeys : List String}
    (h : HasKeys content major keys) (hother : HasKeys content otherMajor otherKeys) :
    major = otherMajor ∧ ∀ key, key ∈ keys ↔ key ∈ otherKeys := by
  obtain ⟨d, hparse, hmajor, hkeys⟩ := h
  obtain ⟨other, hparse', hmajor', hkeys'⟩ := hother
  obtain rfl := Option.some.inj (hparse.symm.trans hparse')
  have heq := Option.some.inj (hmajor.symm.trans hmajor')
  exact ⟨heq, fun key => (hkeys key).symm.trans (hkeys' key)⟩

/-- The dependency that a key stands for. -/
def Gives (major : Nat) (key : String) (k : DependencyKey) : Prop :=
  readKey major key.toList = .package k.name.toList k.version.toList

theorem mem_toList_ofList {keys : List String} {key : String} :
    key ∈ (Std.TreeSet.ofList keys compare).toList ↔ key ∈ keys := by
  simp [Std.TreeSet.mem_toList, Std.TreeSet.mem_ofList]

/-- Keys that have a version add what they stand for. -/
theorem exists_addKeys_eq_ok (h : ∀ key ∈ keys, readKey major key.toList ≠ .noVersion)
    (base : DependencySet) :
    ∃ set, addKeys major keys base = .ok set ∧
      ∀ k, k ∈ set ↔ k ∈ base ∨ ∃ key ∈ keys, Gives major key k := by
  induction keys generalizing base with
  | nil => exact ⟨base, rfl, by simp⟩
  | cons key keys ih =>
    obtain ⟨hkey, hkeys⟩ := List.forall_mem_cons.1 h
    rw [addKeys]
    cases hreading : readKey major key.toList with
    | noVersion => exact absurd hreading hkey
    | elsewhere =>
      obtain ⟨set, hset, hmem⟩ := ih hkeys base
      refine ⟨set, hset, fun k => ?_⟩
      -- A key that gives nothing leaves the set as it is.
      simp [hmem, Gives, hreading]
    | package name version =>
      let given : DependencyKey := ⟨String.ofList name, String.ofList version⟩
      obtain ⟨set, hset, hmem⟩ := ih hkeys (base.insert given)
      -- The key gives this dependency and no other one.
      have hgives : ∀ k, Gives major key k ↔ given = k := by
        rintro ⟨givenName, givenVersion⟩
        simp [Gives, hreading, given, ← String.toList_inj]
      refine ⟨set, hset, fun k => ?_⟩
      simp [hmem, DependencySet.mem_insert, hgives, or_left_comm, or_assoc]

theorem readKey_ne_noVersion_of_addKeys {base : DependencySet}
    (h : addKeys major keys base = .ok set) :
    ∀ key ∈ keys, readKey major key.toList ≠ .noVersion := by
  induction keys generalizing base with
  | nil => exact nofun
  | cons key keys ih =>
    rw [addKeys] at h
    split at h
    · exact nomatch h
    · next hreading =>
      have hkey : readKey major key.toList ≠ .noVersion := by rw [hreading]; exact nofun
      exact List.forall_mem_cons.2 ⟨hkey, ih h⟩
    · next hreading =>
      have hkey : readKey major key.toList ≠ .noVersion := by rw [hreading]; exact nofun
      exact List.forall_mem_cons.2 ⟨hkey, ih h⟩

/-- A lock file is read if all its keys have a version, and pins what they stand for. -/
theorem exists_read_eq_ok (h : HasKeys content major keys)
    (hkeys : ∀ key ∈ keys, readKey major key.toList ≠ .noVersion) :
    ∃ set, read content = .ok set ∧ ∀ k, k ∈ set ↔ ∃ key ∈ keys, Gives major key k := by
  obtain ⟨d, hparse, hmajor, hpackages⟩ := h
  -- The keys are added without repetitions and in order, which makes no difference to what they
  -- give.
  have hversions : ∀ key ∈ (Std.TreeSet.ofList d.packages compare).toList,
      readKey major key.toList ≠ .noVersion :=
    fun key hkey => hkeys key ((hpackages key).1 (mem_toList_ofList.1 hkey))
  obtain ⟨set, hset, hmem⟩ := exists_addKeys_eq_ok hversions {}
  refine ⟨set, ?_, fun k => ?_⟩
  · simp only [read, hparse, Document.dependencies, hmajor, hset]
  · simp [hmem, DependencySet.not_mem_empty, hpackages]

/-- A text that is read is a lock file, and all its keys have a version. -/
theorem exists_hasKeys_of_read (h : read content = .ok set) :
    ∃ major keys, HasKeys content major keys ∧
      (∀ key ∈ keys, readKey major key.toList ≠ .noVersion) ∧
      ∀ k, k ∈ set ↔ ∃ key ∈ keys, Gives major key k := by
  have hread := h
  rw [read] at h
  split at h
  · exact nomatch h
  · next d hparse =>
    rw [Document.dependencies] at h
    split at h
    · exact nomatch h
    · next major hmajor =>
      have hkeys : HasKeys content major d.packages := ⟨d, hparse, hmajor, fun _ => Iff.rfl⟩
      have hversions : ∀ key ∈ d.packages, readKey major key.toList ≠ .noVersion :=
        fun key hkey => readKey_ne_noVersion_of_addKeys h key (mem_toList_ofList.2 hkey)
      -- What was read is the only thing that reading can come to, so that the lemma for the keys
      -- tells of it.
      obtain ⟨other, hother, hmem⟩ := exists_read_eq_ok hkeys hversions
      obtain rfl := Except.ok.inj (hread.symm.trans hother)
      exact ⟨major, d.packages, hkeys, hversions, hmem⟩

/-! ## Cutting keys -/

/-- A key without the slashes at its start, and without what its first parenthesis opens. -/
def bareKey (key : List Char) : List Char :=
  beforeFirst '(' (trimStart (· == '/') key)

/-- What stands behind the slashes is kept up to its first parenthesis. -/
theorem bareKey_append {slashes front : List Char} (hslashes : ∀ c ∈ slashes, c = '/')
    (hfront : ∃ c cs, front = c :: cs ∧ c ≠ '/') (hparenthesis : '(' ∉ front) (back : List Char) :
    bareKey (slashes ++ (front ++ back)) = front ++ beforeFirst '(' back := by
  obtain ⟨c, cs, rfl, hc⟩ := hfront
  have hkey : trimStart (· == '/') (slashes ++ (c :: cs ++ back)) = c :: cs ++ back := by
    rw [trimStart_append_of_all (by simpa using hslashes)]
    exact trimStart_cons_of_not (by simpa using hc) (cs ++ back)
  rw [bareKey, hkey, beforeFirst_append_of_not_mem hparenthesis]

/-- The parts of a key, before it is known whether they are a name and a version. -/
def cut (major : Nat) (bare : List Char) : KeyReading :=
  if major < 6 then splitAtSlash bare else splitAtSign bare

variable {bare key name version : List Char}

/-- Before version 6, a key is cut at its last slash, and at the first underscore behind it. -/
theorem splitAtSlash_eq_package_iff :
    splitAtSlash bare = .package name version ↔
      ∃ last, bare = name ++ '/' :: last ∧ '/' ∉ last ∧ version = beforeFirst '_' last := by
  rw [splitAtSlash]
  cases hsplit : splitLast? '/' bare with
  | none =>
    refine iff_of_false nofun ?_
    rintro ⟨last, hbare, hlast, -⟩
    -- A cut at the last slash would have been found.
    rw [splitLast?_eq_some_iff.2 ⟨hlast, hbare⟩] at hsplit
    exact nomatch hsplit
  | some parts =>
    obtain ⟨front, back⟩ := parts
    constructor
    · intro h
      obtain ⟨rfl, rfl⟩ := KeyReading.package.inj h
      obtain ⟨hback, hbare⟩ := splitLast?_eq_some_iff.1 hsplit
      exact ⟨back, hbare, hback, rfl⟩
    · rintro ⟨last, hbare, hlast, rfl⟩
      rw [splitLast?_eq_some_iff.2 ⟨hlast, hbare⟩] at hsplit
      obtain ⟨rfl, rfl⟩ := Prod.mk.inj (Option.some.inj hsplit)
      rfl

theorem splitAtSlash_ne_elsewhere (bare : List Char) : splitAtSlash bare ≠ .elsewhere := by
  rw [splitAtSlash]
  split <;> exact nofun

/-- From version 6 on, a key is cut at its last `@`, unless this is its first character. -/
theorem splitAtSign_eq_package_iff :
    splitAtSign bare = .package name version ↔
      bare = name ++ '@' :: version ∧ '@' ∉ version ∧ name ≠ [] := by
  have hparts : splitLast? '@' bare = some (name, version) ∧ name ≠ [] ↔
      bare = name ++ '@' :: version ∧ '@' ∉ version ∧ name ≠ [] := by
    rw [splitLast?_eq_some_iff, and_assoc, and_left_comm]
  rw [← hparts, splitAtSign]
  cases splitLast? '@' bare with
  | none => cases bare.contains '/' <;> simp
  | some parts =>
    obtain ⟨front, back⟩ := parts
    cases front with
    | nil =>
      -- Without a name the key is read like one without the sign.
      show (if bare.contains '/' then KeyReading.elsewhere else .noVersion) = _ ↔ _
      refine iff_of_false (by cases bare.contains '/' <;> simp) ?_
      rintro ⟨hsplit, hname⟩
      obtain ⟨rfl, -⟩ := Prod.mk.inj (Option.some.inj hsplit)
      exact hname rfl
    | cons c front =>
      show KeyReading.package (c :: front) back = .package name version ↔ _
      rw [KeyReading.package.injEq, Option.some.injEq, Prod.mk.injEq]
      constructor
      · rintro ⟨rfl, rfl⟩
        exact ⟨⟨rfl, rfl⟩, List.cons_ne_nil _ _⟩
      · exact And.left

/-- A name and a version may not be empty, and with a colon a version is none of the registry. -/
theorem readKey_eq_cut (major : Nat) (key : List Char) :
    readKey major key = match cut major (bareKey key) with
      | .package name version =>
        if name = [] ∨ version = [] then .noVersion
        else if ':' ∈ version then .elsewhere
        else .package name version
      | reading => reading := by
  show (match cut major (bareKey key) with
    | .package name version =>
      if name.isEmpty || version.isEmpty then KeyReading.noVersion
      else if version.contains ':' then .elsewhere
      else .package name version
    | reading => reading) = _
  cases cut major (bareKey key) <;> simp

theorem readKey_eq_package_iff :
    readKey major key = .package name version ↔
      cut major (bareKey key) = .package name version ∧ name ≠ [] ∧ version ≠ [] ∧
        ':' ∉ version := by
  rw [readKey_eq_cut]
  cases cut major (bareKey key) with
  | elsewhere => simp
  | noVersion => simp
  | package front back =>
    rw [KeyReading.package.injEq]
    -- A cut is a package unless a part is empty or the version holds a colon.
    show (if front = [] ∨ back = [] then KeyReading.noVersion
      else if ':' ∈ back then .elsewhere else .package front back) = _ ↔ _
    by_cases hempty : front = [] ∨ back = []
    · rw [if_pos hempty]
      refine iff_of_false nofun ?_
      rintro ⟨⟨rfl, rfl⟩, hname, hversion, -⟩
      exact hempty.elim hname hversion
    · rw [if_neg hempty]
      rw [not_or] at hempty
      by_cases hcolon : ':' ∈ back
      · rw [if_pos hcolon]
        refine iff_of_false nofun ?_
        rintro ⟨⟨rfl, rfl⟩, -, -, hversion⟩
        exact hversion hcolon
      · rw [if_neg hcolon, KeyReading.package.injEq]
        constructor
        · rintro ⟨rfl, rfl⟩
          exact ⟨⟨rfl, rfl⟩, hempty.1, hempty.2, hcolon⟩
        · exact And.left

/-! ## Keys that give nothing -/

variable {key : String}

/-- A key that has a version gives nothing if and only if this version holds a colon. -/
theorem gives_nothing_iff_cut (h : readKey major key.toList ≠ .noVersion) :
    (∀ k, ¬Gives major key k) ↔
      ∀ name version, cut major (bareKey key.toList) = .package name version → ':' ∈ version := by
  constructor
  · intro hnothing name version hcut
    -- Without a colon in its version, the key would give a dependency of its parts.
    refine Classical.byContradiction fun hcolon => ?_
    have hparts : ¬(name = [] ∨ version = []) := by
      intro hempty
      rw [readKey_eq_cut, hcut] at h
      exact h (if_pos hempty)
    rw [not_or] at hparts
    refine hnothing ⟨String.ofList name, String.ofList version⟩ (readKey_eq_package_iff.2 ?_)
    simpa using ⟨hcut, hparts.1, hparts.2, hcolon⟩
  · intro hcolon k hgives
    obtain ⟨hcut, -, -, hversion⟩ := readKey_eq_package_iff.1 hgives
    exact hversion (hcolon _ _ hcut)

/-- Before version 6, a key gives nothing if and only if a colon stands behind its last slash, with
no underscore between them. -/
theorem gives_nothing_iff_of_slash (hmajor : major < 6)
    (h : readKey major key.toList ≠ .noVersion) :
    (∀ k, ¬Gives major key k) ↔ ∃ front version back,
      bareKey key.toList = front ++ '/' :: (version ++ ':' :: back) ∧
        '/' ∉ version ++ back ∧ '_' ∉ version := by
  have hcut : cut major (bareKey key.toList) = splitAtSlash (bareKey key.toList) := if_pos hmajor
  rw [gives_nothing_iff_cut h, hcut]
  constructor
  · intro hcolon
    cases hsplit : splitAtSlash (bareKey key.toList) with
    | elsewhere => exact absurd hsplit (splitAtSlash_ne_elsewhere _)
    | noVersion =>
      rw [readKey_eq_cut, hcut, hsplit] at h
      exact absurd rfl h
    | package name version =>
      -- What stands between the last slash and the next underscore is the version, and it holds the
      -- colon.
      obtain ⟨last, hbare, hlast, rfl⟩ := splitAtSlash_eq_package_iff.1 hsplit
      obtain ⟨front, back, rfl, hfront⟩ := (mem_beforeFirst_iff (by decide)).1 (hcolon _ _ hsplit)
      exact ⟨name, front, back, hbare, by simpa using hlast, hfront⟩
  · rintro ⟨front, version, back, hbare, hslash, hversion⟩ name cutVersion hsplit
    have hlast : '/' ∉ version ++ ':' :: back := by simpa using hslash
    have hcolon : ':' ∈ beforeFirst '_' (version ++ ':' :: back) :=
      (mem_beforeFirst_iff (by decide)).2 ⟨version, back, rfl, hversion⟩
    rw [splitAtSlash_eq_package_iff.2 ⟨_, hbare, hlast, rfl⟩] at hsplit
    obtain ⟨rfl, rfl⟩ := KeyReading.package.inj hsplit
    exact hcolon

/-- From version 6 on, a key gives nothing if and only if it has no `@` behind a name, or a colon
behind its last `@`. -/
theorem gives_nothing_iff_of_sign (hmajor : 6 ≤ major)
    (h : readKey major key.toList ≠ .noVersion) :
    (∀ k, ¬Gives major key k) ↔ ¬∃ front version,
      bareKey key.toList = front ++ '@' :: version ∧ front ≠ [] ∧ '@' ∉ version ∧
        ':' ∉ version := by
  have hcut : cut major (bareKey key.toList) = splitAtSign (bareKey key.toList) :=
    if_neg (Nat.not_lt.2 hmajor)
  rw [gives_nothing_iff_cut h, hcut]
  constructor
  -- A cut with a version that holds no colon would give a dependency.
  · rintro hcolon ⟨front, version, hbare, hfront, hsign, hversion⟩
    exact hversion (hcolon _ _ (splitAtSign_eq_package_iff.2 ⟨hbare, hsign, hfront⟩))
  · intro hnone name version hsplit
    obtain ⟨hbare, hsign, hname⟩ := splitAtSign_eq_package_iff.1 hsplit
    refine Classical.byContradiction fun hversion => ?_
    exact hnone ⟨name, version, hbare, hname, hsign, hversion⟩

end DepTriage.Pnpm
