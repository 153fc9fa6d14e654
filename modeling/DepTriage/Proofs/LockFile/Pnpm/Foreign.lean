import DepTriage.Proofs.LockFile.Pnpm.Written

/-!
# Packages from outside the registry

The key of a package that is resolved through a protocol, such as a local path or a repository,
names the protocol in front of a colon. The colon is looked for in the version that the key is cut
into, so that it is missed where a later mark moves the cut behind it.

## Key results

- `exists_bareKey_of_isForeign`: what is left of the key of such a package
- `foreign_key_gives_nothing_iff`: which of these keys give no dependency
- `foreign_key_gives_dependency`: the path of such a key may be read as a name and a version
-/

namespace DepTriage.Pnpm

open DepTriage.Text

/-- The characters of protocols. -/
def isProtocolChar (c : Char) : Bool :=
  c.isAlphanum || c == '+' || c == '-' || c == '.'

/-- The name of a protocol, such as `file` or `git+ssh`. -/
structure IsProtocol (protocol : List Char) : Prop where
  ne_nil : protocol ≠ []
  char : protocol.all isProtocolChar

/-- The name of a package, in which an `@` only marks a scope. -/
structure IsPackageName (name : List Char) : Prop where
  slash : name.head? ≠ some '/'
  sign : '@' ∉ name.tail
  colon : ':' ∉ name
  parenthesis : '(' ∉ name

/-- The keys of packages that are resolved through a protocol; `rest` is what follows its colon. -/
inductive IsForeign : (key rest : List Char) → Prop where
  | bare {slashes protocol rest : List Char} (hslashes : ∀ c ∈ slashes, c = '/')
      (hprotocol : IsProtocol protocol) :
      IsForeign (slashes ++ (protocol ++ ':' :: rest)) rest
  | named {slashes name protocol rest : List Char} (hslashes : ∀ c ∈ slashes, c = '/')
      (hname : IsPackageName name) (hprotocol : IsProtocol protocol) :
      IsForeign (slashes ++ (name ++ '@' :: (protocol ++ ':' :: rest))) rest

theorem IsProtocol.not_mem {protocol : List Char} (h : IsProtocol protocol) {c : Char}
    (hc : isProtocolChar c = false) : c ∉ protocol := by
  intro hmem
  rw [List.all_eq_true.1 h.char c hmem] at hc
  exact nomatch hc

/-- Nothing in front of the colon is taken away but slashes. -/
theorem exists_bareKey_of_isForeign {key rest : List Char} (h : IsForeign key rest) :
    ∃ front, bareKey key = front ++ ':' :: beforeFirst '(' rest := by
  cases h with
  | @bare slashes protocol rest hslashes hprotocol =>
    -- The mark in front of the protocol survives, since nothing before it is cut off.
    have hslash : '/' ∉ protocol := hprotocol.not_mem (by decide)
    have hparenthesis : '(' ∉ protocol ++ [':'] := by
      simpa using hprotocol.not_mem (by decide)
    have hfront : ∃ c cs, protocol ++ [':'] = c :: cs ∧ c ≠ '/' := by
      cases protocol with
      | nil => exact absurd rfl hprotocol.ne_nil
      | cons c cs => exact ⟨c, cs ++ [':'], rfl, fun hc => hslash (by simp [hc])⟩
    have hkey := bareKey_append hslashes hfront hparenthesis rest
    rw [List.append_assoc, List.append_assoc] at hkey
    exact ⟨protocol, hkey⟩
  | @named slashes name protocol rest hslashes hname hprotocol =>
    have hparenthesis : '(' ∉ name ++ '@' :: (protocol ++ [':']) := by
      simpa using ⟨hname.parenthesis, hprotocol.not_mem (by decide)⟩
    have hfront : ∃ c cs, name ++ '@' :: (protocol ++ [':']) = c :: cs ∧ c ≠ '/' := by
      cases name with
      | nil => exact ⟨'@', protocol ++ [':'], rfl, by decide⟩
      | cons c cs => exact ⟨c, cs ++ '@' :: (protocol ++ [':']), rfl, by simpa using hname.slash⟩
    have hkey := bareKey_append hslashes hfront hparenthesis rest
    refine ⟨name ++ '@' :: protocol, ?_⟩
    simpa using hkey

/-- A cut behind the colon is a cut of what follows it. -/
theorem exists_sign_iff (front rest : List Char) :
    (∃ name version, front ++ ':' :: rest = name ++ '@' :: version ∧ name ≠ [] ∧ '@' ∉ version ∧
        ':' ∉ version) ↔
      ∃ path version, rest = path ++ '@' :: version ∧ '@' ∉ version ∧ ':' ∉ version := by
  constructor
  · rintro ⟨name, version, heq, -, hsign, hcolon⟩
    -- The last `@` stands behind the colon, or in front of it.
    rcases List.append_eq_append_iff.1 heq with ⟨path, hname, hrest⟩ | ⟨path, hname, hrest⟩
    · cases path with
      | nil => exact absurd (List.cons.inj hrest).1 (by decide)
      | cons c path => exact ⟨path, version, (List.cons.inj hrest).2, hsign, hcolon⟩
    · -- The cut would stand in front of the colon, which would be part of the version.
      cases path with
      | nil => exact absurd (List.cons.inj hrest).1 (by decide)
      | cons c path => exact absurd (by simp [(List.cons.inj hrest).2]) hcolon
  · rintro ⟨path, version, rfl, hsign, hcolon⟩
    exact ⟨front ++ ':' :: path, version, by simp, by simp, hsign, hcolon⟩

/-- The dependencies of a lock file are those that its keys give. Before version 6, a key gives none
if and only if a colon stands behind its last slash, with no underscore between them. From then on,
the key of a package from outside the registry gives none if and only if what follows its protocol
has no `@`, or a colon behind the last one, up to its first parenthesis. -/
theorem foreign_key_gives_nothing_iff {content : List Char} {set : DependencySet}
    (h : read content = .ok set) :
    ∃ major keys, HasKeys content major keys ∧
      (∀ k, k ∈ set ↔ ∃ key ∈ keys, Gives major key k) ∧
      (major < 6 → ∀ key ∈ keys, (∀ k, ¬Gives major key k) ↔ ∃ front version back,
        bareKey key.toList = front ++ '/' :: (version ++ ':' :: back) ∧
          '/' ∉ version ++ back ∧ '_' ∉ version) ∧
      (6 ≤ major → ∀ key ∈ keys, ∀ rest, IsForeign key.toList rest →
        ((∀ k, ¬Gives major key k) ↔ ¬∃ path version,
          beforeFirst '(' rest = path ++ '@' :: version ∧ '@' ∉ version ∧ ':' ∉ version)) := by
  obtain ⟨major, keys, hkeys, hversions, hmem⟩ := exists_hasKeys_of_read h
  refine ⟨major, keys, hkeys, hmem, ?_, ?_⟩
  · intro hmajor key hkey
    exact gives_nothing_iff_of_slash hmajor (hversions key hkey)
  · intro hmajor key hkey rest hforeign
    obtain ⟨front, hbare⟩ := exists_bareKey_of_isForeign hforeign
    rw [gives_nothing_iff_of_sign hmajor (hversions key hkey), hbare, exists_sign_iff]

theorem isPackageName_myLib : IsPackageName "my-lib".toList :=
  ⟨by decide, by decide, by decide, by decide⟩

theorem isProtocol_file : IsProtocol "file".toList :=
  ⟨by decide, by decide⟩

/-- Of a package of the registry and one of a local path, the first one is a dependency. -/
theorem local_path_gives_nothing :
    ∃ set, read (written "9.0" ["lodash@4.17.21", "my-lib@file:libs/my-lib"]) = .ok set ∧
      set.toList = [⟨"lodash", "4.17.21"⟩] ∧
      IsForeign "my-lib@file:libs/my-lib".toList "libs/my-lib".toList ∧
      ∀ k, ¬Gives 9 "my-lib@file:libs/my-lib" k := by
  have hversion : majorVersion? (.text "9.0") = some 9 := by decide +kernel
  have hlist : (read (written "9.0" ["lodash@4.17.21", "my-lib@file:libs/my-lib"])).toOption.map
      DependencySet.toList = some [⟨"lodash", "4.17.21"⟩] := by
    rw [read_written hversion]
    decide +kernel
  obtain ⟨set, hset, hkeys⟩ := DependencySet.exists_eq_ok_of_toList hlist
  have hforeign : IsForeign "my-lib@file:libs/my-lib".toList "libs/my-lib".toList := by
    have hkey : "my-lib@file:libs/my-lib".toList = [] ++
        ("my-lib".toList ++ '@' :: ("file".toList ++ ':' :: "libs/my-lib".toList)) := by decide
    rw [hkey]
    exact .named nofun isPackageName_myLib isProtocol_file
  refine ⟨set, hset, hkeys, hforeign, ?_⟩
  -- A key of this generation gives a dependency only if its path holds another mark.
  obtain ⟨major, keys, hhas, -, -, hsign⟩ := foreign_key_gives_nothing_iff hset
  obtain ⟨rfl, hmem⟩ := (hasKeys_written hversion _).unique hhas
  refine (hsign (by decide) _ ((hmem _).1 (by simp)) _ hforeign).2 ?_
  rintro ⟨path, version, hpath, -, -⟩
  have hmark : '@' ∈ beforeFirst '(' "libs/my-lib".toList := by rw [hpath]; simp
  exact absurd hmark (by decide)

/-- The path of a local package may be read as a name and a version: before version 6 at any slash,
from then on at an `@` such as that of a scope. -/
theorem foreign_key_gives_dependency :
    ((read (written "5.4" ["file:libs/my-lib"])).toOption.map DependencySet.toList =
        some [⟨"file:libs", "my-lib"⟩] ∧
      IsForeign "file:libs/my-lib".toList "libs/my-lib".toList) ∧
    ((read (written "9.0" ["my-lib@file:libs/@scope/my-lib"])).toOption.map
        DependencySet.toList = some [⟨"my-lib@file:libs/", "scope/my-lib"⟩] ∧
      IsForeign "my-lib@file:libs/@scope/my-lib".toList "libs/@scope/my-lib".toList) := by
  have hold : majorVersion? (.text "5.4") = some 5 := by decide +kernel
  have hnew : majorVersion? (.text "9.0") = some 9 := by decide +kernel
  refine ⟨⟨?_, ?_⟩, ⟨?_, ?_⟩⟩
  · rw [read_written hold]
    -- The kernel reads the two documents; that the keys are foreign is shown piece by piece.
    decide +kernel
  · have hkey : "file:libs/my-lib".toList =
        [] ++ ("file".toList ++ ':' :: "libs/my-lib".toList) := by decide
    rw [hkey]
    exact .bare nofun isProtocol_file
  · rw [read_written hnew]
    decide +kernel
  · have hkey : "my-lib@file:libs/@scope/my-lib".toList = [] ++
        ("my-lib".toList ++ '@' :: ("file".toList ++ ':' :: "libs/@scope/my-lib".toList)) := by
      decide
    rw [hkey]
    exact .named nofun isPackageName_myLib isProtocol_file

end DepTriage.Pnpm
