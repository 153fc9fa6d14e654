import DepTriage.LockFile.Yarn
import DepTriage.Proofs.Dependency
import DepTriage.Proofs.Text.Split

/-! # The entries of yarn.lock

A lock file is read in one pass, which keeps the entry being read until the next entry key. What is
read is the same as if the entries were first cut out of the lines and then added one by one: each
gives its dependency, or nothing if its key names code inside the repository.

Only the first specifier of a key is looked at, and of that one only what stands after its last
`@`. A local protocol in another specifier, or in front of a path with an `@`, is not seen.

## Key results

- `addEntries_of_read`: reading a lock file adds its entries in order
- `isLocal_iff`: which specifiers are taken for local ones
- `gives_nothing_iff`: which entries of a lock file give no dependency
-/

namespace DepTriage.Yarn

open DepTriage.Text

/-! ## Cutting out entries -/

/-- The first version that is given before the next entry key. -/
def versionBelow : List Line → Option (List Char)
  | [] => none
  | .key _ :: _ => none
  | .field (some version) :: _ => some version
  | .field none :: lines => versionBelow lines
  | .noise :: lines => versionBelow lines
  | .stray _ :: lines => versionBelow lines

/-- The entries of lines, the first of which has the given number: each starts at a key. -/
def entriesFrom : List Line → (number : Nat) → List Entry
  | [], _ => []
  | .key entryKey :: lines, number =>
    ⟨entryKey, number, versionBelow lines⟩ :: entriesFrom lines (number + 1)
  | .field _ :: lines, number => entriesFrom lines (number + 1)
  | .noise :: lines, number => entriesFrom lines (number + 1)
  | .stray _ :: lines, number => entriesFrom lines (number + 1)

/-- The entries of a lock file. -/
def entries (content : List Char) : List Entry :=
  entriesFrom ((lines content).map Line.ofText) 1

/-- Adds the dependencies of entries in order, up to the first one that lacks its version. -/
def addEntries : List Entry → DependencySet → Except Fault DependencySet
  | [], set => .ok set
  | e :: es, set =>
    match e.addTo set with
    | .error fault => .error fault
    | .ok set => addEntries es set

/-- The specifiers that the key of an entry lists. -/
def Entry.specifiers (e : Entry) : List (List Char) :=
  (splitAll ',' e.key).map fun specifier => unquote (trim specifier)

/-- The entry being read, with the version that the lines below give it. -/
def Progress.pending (p : Progress) (lines : List Line) : List Entry :=
  p.entry.toList.map fun e => { e with version := e.version.or (versionBelow lines) }

theorem versionBelow_field (version : Option (List Char)) (lines : List Line) :
    versionBelow (.field version :: lines) = version.or (versionBelow lines) := by
  cases version <;> rfl

/-- The entry being read, and none if there is none, is the last one to be added. -/
theorem addEntries_pending_nil {p : Progress} {set : DependencySet} (h : p.finish = .ok set)
    (es : List Entry) (lines : List Line) (hnone : versionBelow lines = none) :
    addEntries (p.pending lines ++ es) p.set = addEntries es set := by
  obtain ⟨base, entry⟩ := p
  rw [Progress.finish] at h
  cases entry with
  | none =>
    obtain rfl := Except.ok.inj h
    rfl
  | some e =>
    -- No version follows, so that the entry is complete as it is.
    simp only [Progress.pending, Option.toList_some, List.map_cons, List.map_nil, hnone,
      Option.or_none, List.cons_append, List.nil_append, addEntries]
    rw [show Entry.addTo e base = .ok set from h]

/-- What a line does, unless it is a fault: nothing, or it starts an entry and completes the one
before it, or it may give the entry being read its version. -/
theorem Progress.step_cases {p q : Progress} {line : Line} {number : Nat}
    (h : p.step line number = .ok q) :
    (line = .noise ∧ q = p) ∨
    (∃ entryKey set, line = .key entryKey ∧ p.finish = .ok set ∧
      q = ⟨set, some ⟨entryKey, number, none⟩⟩) ∨
    ∃ version e, line = .field version ∧ p.entry = some e ∧
      q = { p with entry := some { e with version := e.version.or version } } := by
  -- One alternative for each kind of line that is not a fault.
  cases line with
  | noise => exact .inl ⟨rfl, (Except.ok.inj h).symm⟩
  | stray text => exact nomatch h
  | key entryKey =>
    rw [step] at h
    cases hfinish : p.finish with
    | error fault =>
      rw [hfinish] at h
      exact nomatch h
    | ok set =>
      rw [hfinish] at h
      exact .inr (.inl ⟨entryKey, set, rfl, rfl, (Except.ok.inj h).symm⟩)
  | field version =>
    rw [step] at h
    cases hentry : p.entry with
    | none =>
      rw [hentry] at h
      exact nomatch h
    | some e =>
      rw [hentry] at h
      exact .inr (.inr ⟨version, e, rfl, rfl, (Except.ok.inj h).symm⟩)

/-- By induction on the lines: the pass adds the entry being read and then those that start in the
lines. -/
theorem addEntries_of_steps {p q : Progress} {lines : List Line} {number : Nat}
    {set : DependencySet} (hsteps : p.steps lines number = .ok q) (hfinish : q.finish = .ok set) :
    addEntries (p.pending lines ++ entriesFrom lines number) p.set = .ok set := by
  -- By induction on the lines, with the entry begun in front of them still open.
  induction lines generalizing p number with
  | nil =>
    obtain rfl := Except.ok.inj hsteps
    rw [addEntries_pending_nil hfinish _ [] rfl]
    rfl
  | cons line lines ih =>
    rw [Progress.steps] at hsteps
    split at hsteps
    · exact nomatch hsteps
    · next r hstep =>
      have hrest := ih hsteps
      obtain ⟨rfl, rfl⟩ | ⟨entryKey, before, rfl, hbefore, rfl⟩ | ⟨version, e, rfl, hentry, rfl⟩ :=
        Progress.step_cases hstep
      · exact hrest
      · -- The key completes the entry before it and starts one without version.
        rw [addEntries_pending_nil hbefore _ _ rfl]
        exact hrest
      · -- Of two versions the first one counts, whichever way they are grouped.
        simp only [Progress.pending, Option.toList_some, List.map_cons, List.map_nil,
          Option.or_assoc] at hrest
        simp only [Progress.pending, hentry, Option.toList_some, List.map_cons, List.map_nil,
          versionBelow_field, entriesFrom]
        exact hrest

/-- Reading a lock file adds its entries in order. -/
theorem addEntries_of_read {content : List Char} {set : DependencySet}
    (h : read content = .ok set) : addEntries (entries content) {} = .ok set := by
  rw [read] at h
  split at h
  · exact nomatch h
  · next p hsteps => exact addEntries_of_steps hsteps h

/-! ## What an entry gives -/

/-- An entry on its own gives a dependency. -/
def Entry.Gives (e : Entry) (k : DependencyKey) : Prop :=
  ∃ set, e.addTo {} = .ok set ∧ k ∈ set

/-- Whether an entry is passed over, by its first specifier. -/
def Entry.IsPassedOver (e : Entry) : Prop :=
  firstSpecifier e.key = metadataEntry ∨ isLocal (firstSpecifier e.key) = true

theorem Entry.addTo_of_isPassedOver {e : Entry} (h : e.IsPassedOver) (set : DependencySet) :
    e.addTo set = .ok set := by
  rw [Entry.addTo]
  exact if_pos h

/-- An entry that is not passed over adds the package that its first specifier names. -/
theorem Entry.addTo_of_not_isPassedOver {e : Entry} (h : ¬e.IsPassedOver)
    {set after : DependencySet} (hadd : e.addTo set = .ok after) :
    ∃ k, after = set.insert k ∧ ∀ other : DependencySet, e.addTo other = .ok (other.insert k) := by
  -- The conditions differ in form only: both are about the first specifier.
  have hspecifier : ¬(firstSpecifier e.key = metadataEntry ∨
      isLocal (firstSpecifier e.key) = true) := h
  simp only [Entry.addTo, if_neg hspecifier] at hadd ⊢
  cases hversion : e.version with
  | none =>
    rw [hversion] at hadd
    exact nomatch hadd
  | some version =>
    rw [hversion] at hadd
    exact ⟨_, (Except.ok.inj hadd).symm, fun _ => rfl⟩

/-- What an entry adds to a set is what it gives on its own. -/
theorem Entry.mem_addTo {e : Entry} {set after : DependencySet} (h : e.addTo set = .ok after)
    (k : DependencyKey) : k ∈ after ↔ k ∈ set ∨ e.Gives k := by
  -- An entry that is passed over gives no key, and every other one gives exactly its own.
  by_cases hskip : e.IsPassedOver
  · obtain rfl := Except.ok.inj ((addTo_of_isPassedOver hskip set).symm.trans h)
    constructor
    · exact Or.inl
    · rintro (hmem | ⟨alone, halone, hmem⟩)
      · exact hmem
      · obtain rfl := Except.ok.inj ((addTo_of_isPassedOver hskip {}).symm.trans halone)
        exact absurd hmem DependencySet.not_mem_empty
  · obtain ⟨key, rfl, hadd⟩ := addTo_of_not_isPassedOver hskip h
    rw [DependencySet.mem_insert]
    constructor
    · rintro (rfl | hmem)
      · exact Or.inr ⟨_, hadd {}, DependencySet.mem_insert.2 (Or.inl rfl)⟩
      · exact Or.inl hmem
    · rintro (hmem | ⟨alone, halone, hmem⟩)
      · exact Or.inr hmem
      · obtain rfl := Except.ok.inj ((hadd {}).symm.trans halone)
        rcases DependencySet.mem_insert.1 hmem with rfl | hmem
        · exact Or.inl rfl
        · exact absurd hmem DependencySet.not_mem_empty

/-- What entries give together is what each of them gives. -/
theorem mem_addEntries {es : List Entry} {base set : DependencySet}
    (h : addEntries es base = .ok set) (k : DependencyKey) :
    k ∈ set ↔ k ∈ base ∨ ∃ e ∈ es, e.Gives k := by
  -- Each entry adds its own key to what the entries before it gave.
  induction es generalizing base with
  | nil =>
    obtain rfl := Except.ok.inj h
    simp
  | cons e es ih =>
    rw [addEntries] at h
    split at h
    · exact nomatch h
    · next after hadd =>
      rw [ih h, Entry.mem_addTo hadd, or_assoc]
      simp

/-- Each of the entries that were added together can be added on its own. -/
theorem exists_addTo_of_addEntries {es : List Entry} {base set : DependencySet}
    (h : addEntries es base = .ok set) {e : Entry} (he : e ∈ es) :
    ∃ before after, e.addTo before = .ok after := by
  -- Every entry of a file that reads was added to some set on the way.
  induction es generalizing base with
  | nil => exact absurd he List.not_mem_nil
  | cons first es ih =>
    rw [addEntries] at h
    split at h
    · exact nomatch h
    · next after hadd =>
      rcases List.mem_cons.1 he with rfl | he
      · exact ⟨base, after, hadd⟩
      · exact ih h he

/-- An entry that can be added gives nothing exactly if it is passed over. -/
theorem Entry.gives_nothing_iff_isPassedOver {e : Entry} {before after : DependencySet}
    (h : e.addTo before = .ok after) : (∀ k, ¬e.Gives k) ↔ e.IsPassedOver := by
  constructor
  · intro hnothing
    -- A key that an entry adds is one that it gives, to the empty set too.
    refine Classical.byContradiction fun hskip => ?_
    obtain ⟨key, _, hadd⟩ := addTo_of_not_isPassedOver hskip h
    exact hnothing key ⟨_, hadd {}, DependencySet.mem_insert.2 (Or.inl rfl)⟩
  · rintro hskip k ⟨alone, halone, hmem⟩
    obtain rfl := Except.ok.inj ((addTo_of_isPassedOver hskip {}).symm.trans halone)
    exact DependencySet.not_mem_empty hmem

/-! ## Local specifiers -/

/-- Behind its last `@`, which is not its first character, a specifier names code inside the
repository. -/
def NamesLocalCode (specifier : List Char) : Prop :=
  ∃ name protocol rest, specifier = name ++ '@' :: (protocol ++ ':' :: rest) ∧ name ≠ [] ∧
    '@' ∉ rest ∧ String.ofList protocol ∈ localProtocols

/-- No local protocol has a mark at which specifiers are cut. -/
theorem not_mem_of_mem_localProtocols {protocol : List Char}
    (h : String.ofList protocol ∈ localProtocols) : '@' ∉ protocol ∧ ':' ∉ protocol := by
  have hplain : ∀ text ∈ localProtocols, '@' ∉ text.toList ∧ ':' ∉ text.toList := by decide
  simpa using hplain _ h

theorem splitSpecifier?_eq_some_iff {specifier name range : List Char} :
    splitSpecifier? specifier = some (name, range) ↔
      specifier = name ++ '@' :: range ∧ name ≠ [] ∧ '@' ∉ range := by
  rw [splitSpecifier?, Option.filter_eq_some_iff, splitLast?_eq_some_iff]
  simp [and_comm, and_left_comm]

theorem isLocal_iff {specifier : List Char} :
    isLocal specifier = true ↔ NamesLocalCode specifier := by
  rw [isLocal]
  constructor
  · intro h
    split at h
    · exact nomatch h
    · next name range hspecifier =>
      split at h
      · exact nomatch h
      · next protocol rest hrange =>
        -- Both cuts are at the first mark that allows them, which is what the parts have to
        -- satisfy.
        obtain ⟨rfl, hname, hmark⟩ := splitSpecifier?_eq_some_iff.1 hspecifier
        obtain ⟨_, rfl⟩ := splitFirst?_eq_some_iff.1 hrange
        refine ⟨name, protocol, rest, rfl, hname, ?_, by simpa using h⟩
        exact fun hrest => hmark (by simp [hrest])
  · rintro ⟨name, protocol, rest, rfl, hname, hrest, hprotocol⟩
    obtain ⟨hat, hcolon⟩ := not_mem_of_mem_localProtocols hprotocol
    have hspecifier : splitSpecifier? (name ++ '@' :: (protocol ++ ':' :: rest)) =
        some (name, protocol ++ ':' :: rest) :=
      splitSpecifier?_eq_some_iff.2 ⟨rfl, hname, by simp [hat, hrest]⟩
    have hrange : splitFirst? ':' (protocol ++ ':' :: rest) = some (protocol, rest) :=
      splitFirst?_eq_some_iff.2 ⟨hcolon, rfl⟩
    simp only [hspecifier, hrange]
    simpa using hprotocol

/-! ## Lock files -/

theorem Entry.head?_specifiers (e : Entry) :
    e.specifiers.head? = some (firstSpecifier e.key) := by
  rw [specifiers, List.head?_map, head?_splitAll]
  rfl

/-- The dependencies of a lock file are those that its entries give. An entry gives none if and only
if its first specifier is `__metadata` or names local code behind its last `@`. -/
theorem gives_nothing_iff {content : List Char} {set : DependencySet}
    (h : read content = .ok set) :
    (∀ k, k ∈ set ↔ ∃ e ∈ entries content, e.Gives k) ∧
    ∀ e ∈ entries content, (∀ k, ¬e.Gives k) ↔
      ∃ first, e.specifiers.head? = some first ∧
        (first = metadataEntry ∨ NamesLocalCode first) := by
  have hadd := addEntries_of_read h
  constructor
  · intro k
    rw [mem_addEntries hadd]
    simp [DependencySet.not_mem_empty]
  · intro e he
    obtain ⟨before, after, hentry⟩ := exists_addTo_of_addEntries hadd he
    rw [Entry.gives_nothing_iff_isPassedOver hentry, e.head?_specifiers]
    simp [Entry.IsPassedOver, isLocal_iff]

/-- A dependency of the registry, and below it one of the workspace. -/
def workspaceLock : List Char :=
  "lodash@^4.0.0:\n  version \"4.17.21\"\n\"app@workspace:.\":\n  version: 0.0.0\n".toList

/-- Of `workspaceLock`, the second entry gives nothing. -/
theorem workspaceLock_gives_nothing :
    ∃ set, read workspaceLock = .ok set ∧ set.toList = [⟨"lodash", "4.17.21"⟩] ∧
      ∃ e ∈ entries workspaceLock, e.specifiers = ["app@workspace:.".toList] ∧
        ∀ k, ¬e.Gives k := by
  have hread : (read workspaceLock).toOption.map DependencySet.toList =
      some [⟨"lodash", "4.17.21"⟩] := by decide +kernel
  obtain ⟨set, hset, hkeys⟩ := DependencySet.exists_eq_ok_of_toList hread
  have hmem : (⟨"\"app@workspace:.\"".toList, 3, some "0.0.0".toList⟩ : Entry) ∈
      entries workspaceLock := by decide +kernel
  have hlocal : NamesLocalCode "app@workspace:.".toList :=
    -- The specifier splits at its last `@`, with the protocol behind it.
    ⟨"app".toList, "workspace".toList, ".".toList, by decide, by decide, by decide, by decide⟩
  exact ⟨set, hset, hkeys, _, hmem, by decide +kernel,
    ((gives_nothing_iff hset).2 _ hmem).2 ⟨_, by decide +kernel, Or.inr hlocal⟩⟩

/-- A local specifier is missed if its path holds an `@`, and also if it is not the first one of its
key: `./x@1.0.0` is read as the range `1.0.0`, and of `a@^1.0.0, a@workspace:packages/a` only the
first part is read. -/
theorem local_specifier_missed :
    ((read "\"a@file:./x@1.0.0\":\n  version: 1.0.0\n".toList).toOption.map DependencySet.toList =
        some [⟨"a", "1.0.0"⟩] ∧
      (entries "\"a@file:./x@1.0.0\":\n  version: 1.0.0\n".toList).map Entry.specifiers =
        [["a".toList ++ '@' :: ("file".toList ++ ':' :: "./x@1.0.0".toList)]]) ∧
    ((read "\"a@^1.0.0, a@workspace:packages/a\":\n  version: 1.0.0\n".toList).toOption.map
        DependencySet.toList = some [⟨"a", "1.0.0"⟩] ∧
      (entries "\"a@^1.0.0, a@workspace:packages/a\":\n  version: 1.0.0\n".toList).map
        Entry.specifiers = [["a@^1.0.0".toList,
          "a".toList ++ '@' :: ("workspace".toList ++ ':' :: "packages/a".toList)]]) := by
  refine ⟨⟨?_, ?_⟩, ⟨?_, ?_⟩⟩ <;> decide +kernel

end DepTriage.Yarn
