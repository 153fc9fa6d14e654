import DepTriage.Proofs.LockFile.Pnpm.Keys
import DepTriage.Proofs.Yaml.Scanning

/-!
# Written pnpm lock files

For every version and every list of package keys there is a lock file that says just this: the texts
stand in double quotes, so that they may hold any characters, and each package is an empty mapping.

## Key results

- `tokens?_written`: the tokens of a written lock file
- `readNode?_writtenTokens`: the node that they stand for
- `parse?_written`: a lock file is read as it was written
-/

namespace DepTriage.Pnpm

open Yaml (Token Node quoted)

/-! ## The text -/

/-- A package as it is written. The key is marked as such, since a key that is not may not be longer
than 1024 characters. -/
def writtenPackage (key : String) : List Char :=
  "\n  ? ".toList ++ (quoted key.toList ++ "\n  : \x7b\x7d".toList)

/-- The text of a lock file. -/
def written (version : String) (keys : List String) : List Char :=
  "lockfileVersion: ".toList ++ (quoted version.toList ++
    ("\npackages:".toList ++ (keys.flatMap writtenPackage ++ ['\n'])))

theorem writtenPackage_eq_append (key : String) :
    writtenPackage key = "\n  ? ".toList ++ (quoted key.toList ++ "\n  : \x7b\x7d".toList) := rfl

theorem written_eq_append (version : String) (keys : List String) :
    written version keys = "lockfileVersion: ".toList ++ (quoted version.toList ++
      ("\npackages:".toList ++ (keys.flatMap writtenPackage ++ ['\n']))) := rfl

theorem isAllowed_of_mem_written {version : String} {keys : List String} {c : Char}
    (h : c ∈ written version keys) : Yaml.isAllowed c = true := by
  -- Quoting escapes what is not allowed, and all other characters are fixed.
  have htext : ∀ text : List Char, ∀ c ∈ quoted text, Yaml.isAllowed c = true :=
    fun _ _ hc => (Yaml.of_mem_quoted hc).1
  have hversion : "lockfileVersion: ".toList.all Yaml.isAllowed = true := by decide
  have hpackages : "\npackages:".toList.all Yaml.isAllowed = true := by decide
  have hmark : "\n  ? ".toList.all Yaml.isAllowed = true := by decide
  have hcolon : "\n  : \x7b\x7d".toList.all Yaml.isAllowed = true := by decide
  simp only [written_eq_append, writtenPackage_eq_append, List.mem_append, List.mem_flatMap,
    List.mem_singleton] at h
  rcases h with h | h | h | ⟨key, -, h | h | h⟩ | rfl
  · exact List.all_eq_true.1 hversion c h
  · exact htext _ c h
  · exact List.all_eq_true.1 hpackages c h
  · exact List.all_eq_true.1 hmark c h
  · exact htext _ c h
  · exact List.all_eq_true.1 hcolon c h
  · decide

theorem le_length_flatMap {α β : Type} {f : α → List β} {n : Nat} (h : ∀ x, n ≤ (f x).length)
    (xs : List α) : n * xs.length ≤ (xs.flatMap f).length := by
  induction xs with
  | nil => simp
  | cons x xs ih =>
    have hx := h x
    rw [List.flatMap_cons, List.length_append, List.length_cons, Nat.mul_succ]
    omega

/-- The text is longer than its tokens are many. -/
theorem lt_length_written (version : String) (keys : List String) :
    5 * keys.length + 5 < (written version keys).length := by
  have hpackages : 5 * keys.length ≤ (keys.flatMap writtenPackage).length := by
    refine le_length_flatMap (fun key => ?_) keys
    simp [writtenPackage_eq_append]
  have hversion : "lockfileVersion: ".toList.length = 17 := by decide
  simp only [written_eq_append, List.length_append, hversion]
  omega

/-! ## The tokens -/

def packageTokens (key : String) : List Token :=
  [.key, .scalar false key, .value, .flowMapping, .flowMappingEnd]

/-- The tokens of the packages: without any, there is no mapping. -/
def packagesTokens : List String → List Token
  | [] => []
  | key :: keys => .blockMapping :: ((key :: keys).flatMap packageTokens ++ [.blockEnd])

def writtenTokens (version : String) (keys : List String) : List Token :=
  .blockMapping :: .key :: .scalar true "lockfileVersion" :: .value :: .scalar false version ::
    .key :: .scalar true "packages" :: .value :: (packagesTokens keys ++ [.blockEnd])

theorem length_lt_length_writtenTokens (version : String) (keys : List String) :
    keys.length + 8 < (writtenTokens version keys).length := by
  -- Each package takes a token at least, and the rest takes eight and more.
  have hpackages : keys.length ≤ (packagesTokens keys).length := by
    cases keys with
    | nil => simp
    | cons key keys =>
      have htoken : ∀ key, 1 ≤ (packageTokens key).length := fun key => by simp [packageTokens]
      have htokens := le_length_flatMap htoken (key :: keys)
      simp only [packagesTokens, List.length_cons, List.length_append] at htokens ⊢
      omega
  simp [writtenTokens]
  omega

section
open Yaml (Candidate placesFrom)
open Yaml.Scanner

variable {bound index line column : Nat} {rest : List Char} {tokens : List Token}
  {candidate : Option Candidate} {keyAllowed : Bool} {result : Option (List Token)}

theorem flatMap_writtenPackage_cons (key : String) (keys : List String) :
    (key :: keys).flatMap writtenPackage ++ ['\n'] =
      '\n' :: ' ' :: ' ' :: '?' :: ' ' :: (quoted key.toList ++
        ("\n  : \x7b\x7d".toList ++ (keys.flatMap writtenPackage ++ ['\n']))) := by
  simp [writtenPackage_eq_append]

/-- What follows the mark of a package are its key and its value. -/
theorem run_afterMark (key : String)
    (hrest : ∀ index line column last, IsSpent last (line + 1) →
      run bound (between (placesFrom rest index line column)
        (.flowMappingEnd :: .flowMapping :: .value :: .scalar false key :: tokens) [2, 0] last
          false) = result) :
    run (bound + 4) (between (placesFrom
      (' ' :: (quoted key.toList ++ ("\n  : \x7b\x7d".toList ++ rest))) index line 3) tokens [2, 0]
        none true) = result := by
  rw [run_space]
  refine run_quoted key.toList isSpent_none (by decide) fun index column last hlast => ?_
  rw [String.ofList_toList]
  show run _ (between (placesFrom ('\n' :: ' ' :: ' ' :: ':' :: ' ' :: '\x7b' :: '\x7d' :: rest)
    index line column) _ _ _ _) = _
  rw [run_newline, run_space, run_space, run_colon rfl hlast, run_space]
  exact run_braces isSpent_none (by decide) fun index column => hrest index (line + 1) column

/-- Packages behind the first one are entries of the mapping that it has opened. -/
theorem run_packages (keys : List String) (hbound : 5 * keys.length < bound)
    (h : IsSpent candidate (line + 1)) :
    run bound (between (placesFrom (keys.flatMap writtenPackage ++ ['\n']) index line column) tokens
        [2, 0] candidate keyAllowed) =
      some (tokens.reverse ++ keys.flatMap packageTokens ++ [.blockEnd, .blockEnd]) := by
  induction keys generalizing bound index line column tokens candidate keyAllowed with
  | nil =>
    -- The text ends, and with it both mappings.
    obtain ⟨bound, rfl⟩ : ∃ more, bound = more + 1 := ⟨bound - 1, by omega⟩
    show run _ (between (placesFrom ['\n'] index line column) _ _ _ _) = _
    rw [run_newline, Yaml.placesFrom_nil, run_nil h]
    simp
  | cons key keys ih =>
    rw [List.length_cons] at hbound
    -- A package takes five steps: its mark, its key, the colon and a pair of braces.
    obtain ⟨bound, rfl⟩ : ∃ more, bound = more + 5 := ⟨bound - 5, by omega⟩
    rw [flatMap_writtenPackage_cons, run_newline, run_space, run_space, run_mark rfl h]
    refine run_afterMark key fun index line column last hlast => ?_
    rw [ih (by omega) hlast]
    simp [packageTokens]

theorem run_firstPackage (keys : List String) (hbound : 5 * keys.length < bound) :
    run bound (between (placesFrom (keys.flatMap writtenPackage ++ ['\n']) index line column) tokens
        [0] none keyAllowed) =
      some (tokens.reverse ++ packagesTokens keys ++ [.blockEnd]) := by
  cases keys with
  | nil =>
    obtain ⟨bound, rfl⟩ : ∃ more, bound = more + 1 := ⟨bound - 1, by omega⟩
    -- Without a package there is nothing to open, and only the outer mapping ends.
    have hend : Yaml.Scanner.IsSpent none line := isSpent_none
    show run _ (between (placesFrom ['\n'] index line column) _ _ _ _) = _
    rw [run_newline, Yaml.placesFrom_nil, run_nil hend]
    simp [packagesTokens]
  | cons key keys =>
    rw [List.length_cons] at hbound
    obtain ⟨bound, rfl⟩ : ∃ more, bound = more + 5 := ⟨bound - 5, by omega⟩
    rw [flatMap_writtenPackage_cons, run_newline, run_space, run_space,
      run_firstMark rfl isSpent_none (by decide)]
    refine run_afterMark key fun index line column last hlast => ?_
    rw [run_packages keys (by omega) hlast]
    simp [packagesTokens, packageTokens]

theorem run_written (version : String) (keys : List String) (hbound : 5 * keys.length + 5 < bound) :
    run bound { rest := Yaml.places (written version keys) } =
      some (writtenTokens version keys) := by
  -- Five steps lead up to the keys: a word, a colon, a text, a word and a colon.
  obtain ⟨bound, rfl⟩ : ∃ more, bound = more + 5 := ⟨bound - 5, by omega⟩
  have hgap : (keys.flatMap writtenPackage ++ ['\n']).head?.all Yaml.isSpace := by
    cases keys <;> rfl
  have hfields : written version keys =
      'l' :: (['o', 'c', 'k', 'f', 'i', 'l', 'e', 'V', 'e', 'r', 's', 'i', 'o', 'n'] ++
        ':' :: ' ' :: (quoted version.toList ++
          '\n' :: 'p' :: (['a', 'c', 'k', 'a', 'g', 'e', 's'] ++
            ':' :: (keys.flatMap writtenPackage ++ ['\n'])))) := by
    simp [written_eq_append]
  rw [hfields]
  show run (bound + 5) (between (placesFrom _ 0 0 0) [] [] none true) = _
  rw [run_word (by decide) rfl isSpent_none rfl, run_firstKeyColon rfl (by decide), run_space]
  refine run_quoted version.toList isSpent_none (by decide) fun index column last hlast => ?_
  rw [run_newline, run_word (by decide) hgap hlast rfl, run_keyColon hgap (by simp) (by simp),
    run_firstPackage keys (by omega), String.ofList_toList]
  rfl

end

theorem tokens?_written (version : String) (keys : List String) :
    Yaml.tokens? (written version keys) = some (writtenTokens version keys) := by
  have hallowed : (written version keys).all Yaml.isAllowed :=
    List.all_eq_true.2 fun _ => isAllowed_of_mem_written
  have hlength := lt_length_written version keys
  rw [Yaml.tokens?, if_pos hallowed]
  exact run_written version keys (by omega)

/-! ## The nodes -/

def packageNode (key : String) : Node × Node :=
  (.scalar none false key, .mapping none [])

def packagesNode : List String → Node
  | [] => .omitted
  | key :: keys => .mapping none ((key :: keys).map packageNode)

def writtenNode (version : String) (keys : List String) : Node :=
  .mapping none
    [(.scalar none true "lockfileVersion", .scalar none false version),
      (.scalar none true "packages", packagesNode keys)]

section
open Yaml (Reader readNode? readBlockNode? readBlockMapping? readFlowMapping?)
open Yaml.Reader

variable {fuel : Nat} {compact : Bool} {r : Reader} {key value : Node} {tokens : List Token}
  {shorthands : List (String × String)} {entries : List (Node × Node)}

theorem readBlockNode?_scalar (plain : Bool) (text : String) :
    readBlockNode? (fuel + 2) true ⟨.scalar plain text :: tokens, shorthands, {}⟩ =
      some (.scalar none plain text, ⟨tokens, shorthands, {}⟩) := by
  simp [readBlockNode?, endsBlockNode, readNode?, takeProperties?, startAnchor, next?, skip,
    finishAnchor]

theorem readBlockNode?_braces :
    readBlockNode? (fuel + 3) true ⟨.flowMapping :: .flowMappingEnd :: tokens, shorthands, {}⟩ =
      some (.mapping none [], ⟨tokens, shorthands, {}⟩) := by
  simp [readBlockNode?, endsBlockNode, readNode?, takeProperties?, startAnchor, next?, skip,
    finishAnchor, readFlowMapping?, isNext]

/-- A block mapping is read entry by entry. -/
theorem readBlockMapping?_entry {keyTokens valueTokens : List Token}
    (hkey : readBlockNode? fuel true ⟨keyTokens, shorthands, {}⟩ =
      some (key, ⟨.value :: valueTokens, shorthands, {}⟩))
    (hvalue : readBlockNode? fuel true ⟨valueTokens, shorthands, {}⟩ =
      some (value, ⟨tokens, shorthands, {}⟩)) :
    readBlockMapping? (fuel + 1) ⟨.key :: keyTokens, shorthands, {}⟩ entries =
      readBlockMapping? fuel ⟨tokens, shorthands, {}⟩ ((key, value) :: entries) := by
  rw [readBlockMapping?]
  simp [next?, skip, isNext, hkey, hvalue]

theorem readBlockMapping?_blockEnd :
    readBlockMapping? (fuel + 1) ⟨.blockEnd :: tokens, shorthands, {}⟩ entries =
      some (entries.reverse, ⟨tokens, shorthands, {}⟩) := by
  simp [readBlockMapping?, next?, skip]

theorem readNode?_blockMapping
    (hentries : readBlockMapping? fuel ⟨tokens, shorthands, {}⟩ [] = some (entries, r)) :
    readNode? (fuel + 1) true compact ⟨.blockMapping :: tokens, shorthands, {}⟩ =
      some (.mapping none entries, r) := by
  simp [readNode?, takeProperties?, startAnchor, next?, skip, finishAnchor, hentries]

theorem readBlockMapping?_packages (keys : List String) (hfuel : keys.length + 4 ≤ fuel) :
    readBlockMapping? fuel ⟨keys.flatMap packageTokens ++ .blockEnd :: tokens, shorthands, {}⟩
        entries =
      some (entries.reverse ++ keys.map packageNode, ⟨tokens, shorthands, {}⟩) := by
  -- By induction on the keys; each entry takes four units of fuel.
  induction keys generalizing fuel entries with
  | nil =>
    obtain ⟨fuel, rfl⟩ : ∃ more, fuel = more + 1 := ⟨fuel - 1, by omega⟩
    rw [List.flatMap_nil, List.nil_append, readBlockMapping?_blockEnd, List.map_nil,
      List.append_nil]
  | cons key keys ih =>
    rw [List.length_cons] at hfuel
    obtain ⟨fuel, rfl⟩ : ∃ more, fuel = more + 4 := ⟨fuel - 4, by omega⟩
    have htokens : (key :: keys).flatMap packageTokens ++ .blockEnd :: tokens =
        .key :: .scalar false key :: .value :: .flowMapping :: .flowMappingEnd ::
          (keys.flatMap packageTokens ++ .blockEnd :: tokens) := rfl
    rw [htokens, readBlockMapping?_entry (readBlockNode?_scalar false key) readBlockNode?_braces,
      ih (by omega)]
    simp [packageNode]

theorem readBlockNode?_packages (keys : List String) (hfuel : keys.length + 6 ≤ fuel) :
    readBlockNode? fuel true ⟨packagesTokens keys ++ .blockEnd :: tokens, shorthands, {}⟩ =
      some (packagesNode keys, ⟨.blockEnd :: tokens, shorthands, {}⟩) := by
  obtain ⟨fuel, rfl⟩ : ∃ more, fuel = more + 2 := ⟨fuel - 2, by omega⟩
  -- Without keys the block holds nothing, and the closing token stands at once.
  cases keys with
  | nil => rfl
  | cons key keys =>
    have hfuel : (key :: keys).length + 4 ≤ fuel := by omega
    have hnode : readNode? (fuel + 1) true true ⟨.blockMapping ::
        ((key :: keys).flatMap packageTokens ++ .blockEnd :: .blockEnd :: tokens), shorthands, {}⟩ =
          _ := readNode?_blockMapping (readBlockMapping?_packages (key :: keys) hfuel)
    simpa [packagesTokens, readBlockNode?, next?, endsBlockNode, packagesNode] using hnode

theorem readNode?_writtenTokens (version : String) (keys : List String)
    (hfuel : keys.length + 9 ≤ fuel) :
    readNode? fuel true compact ⟨writtenTokens version keys, shorthands, {}⟩ =
      some (writtenNode version keys, ⟨[], shorthands, {}⟩) := by
  obtain ⟨fuel, rfl⟩ : ∃ more, fuel = more + 5 := ⟨fuel - 5, by omega⟩
  have hpackages : readBlockNode? (fuel + 2) true
      ⟨packagesTokens keys ++ [.blockEnd], shorthands, {}⟩ = _ :=
    readBlockNode?_packages keys (by omega)
  refine readNode?_blockMapping ?_
  rw [readBlockMapping?_entry (readBlockNode?_scalar true "lockfileVersion")
      (readBlockNode?_scalar false version),
    readBlockMapping?_entry (readBlockNode?_scalar true "packages") hpackages,
    readBlockMapping?_blockEnd]
  rfl

end

/-- A written lock file is one document. -/
theorem yamlParse?_written (version : String) (keys : List String) :
    Yaml.Document.parse? (written version keys) = some ⟨writtenNode version keys, {}⟩ := by
  -- There are more tokens than keys, so the fuel reaches.
  have hlength := length_lt_length_writtenTokens version keys
  have hdirectives : Yaml.readDirectives? (writtenTokens version keys) false [] =
      some ([], writtenTokens version keys) := rfl
  have hcontent : Yaml.readContent? [] (writtenTokens version keys) =
      some (⟨writtenNode version keys, {}⟩, []) := by
    rw [Yaml.readContent?, readNode?_writtenTokens version keys (by omega)]
    rfl
  rw [Yaml.Document.parse?, tokens?_written]
  show Yaml.Document.ofTokens? (writtenTokens version keys) = _
  simp only [Yaml.Document.ofTokens?, hdirectives, Option.bind_eq_bind, Option.bind_some,
    lt_irrefl, ↓reduceIte, hcontent]
  rfl

/-! ## The contents -/

/-- Of a package only its key is kept, since an empty mapping is a value. -/
theorem readKeys?_map_packageNode (d : Yaml.Document) (keys found : List String)
    (jumps : Yaml.Jumps) :
    readKeys? d (keys.map packageNode) found jumps = some (found.reverse ++ keys, jumps) := by
  induction keys generalizing found with
  | nil => simp [readKeys?]
  | cons key keys ih =>
    have hkey : scalarText? d (packageNode key).1 jumps = some (key, jumps) := rfl
    have hvalue : d.value? (Yaml.depthLimit - 2) (packageNode key).2 jumps =
        some (.mapping [], jumps) := rfl
    rw [List.map_cons, readKeys?, hkey]
    simp [hvalue, ih]

theorem readPackages?_packagesNode (d : Yaml.Document) (keys : List String) (jumps : Yaml.Jumps) :
    readPackages? d (packagesNode keys) jumps = some (keys, jumps) := by
  cases keys with
  | nil => rfl
  | cons key keys => exact readKeys?_map_packageNode d (key :: keys) [] jumps

/-- A lock file is read as it was written. -/
theorem parse?_written (version : String) (keys : List String) :
    Document.parse? (written version keys) = some ⟨some (.text version), keys⟩ := by
  rw [Document.parse?, yamlParse?_written]
  simp [Document.ofYaml?, writtenNode, readEntries?, scalarText?, Yaml.Document.follow?,
    readVersion?, isOmitted?, Yaml.Document.value?, Yaml.ownTag?, Yaml.scalarValue?, Yaml.tagWith,
    readPackages?_packagesNode]

theorem hasKeys_written {version : String} {major : Nat}
    (h : majorVersion? (.text version) = some major) (keys : List String) :
    HasKeys (written version keys) major keys :=
  ⟨_, parse?_written version keys, h, fun _ => Iff.rfl⟩

theorem read_written {version : String} {major : Nat}
    (h : majorVersion? (.text version) = some major) (keys : List String) :
    read (written version keys) =
      addKeys major (Std.TreeSet.ofList keys compare).toList {} := by
  simp [read, parse?_written, Document.dependencies, h]

end DepTriage.Pnpm
