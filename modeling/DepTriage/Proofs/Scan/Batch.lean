import DepTriage.Proofs.Dependency
import DepTriage.Proofs.State
import DepTriage.Scan.Batch
import Mathlib.Data.List.Basic

/-! # Scans of many dependencies

A scan of a change asks one registry about dependency after dependency. The registry may keep a
state, so that its answers may depend on what it was asked before; what the scan of a dependency
comes to is then what it comes to when its turn is there. The two batch modes differ only in what
they make of the first failure.

## Key results

- `scanPackage_cases`: a scan of one dependency succeeds, or names the step that failed
- `scanAll_batchMode`: a scan that skips failures lists the outcomes of all dependencies, and one
  that stops at a failure returns the first one
- `scanChange_batch_modes`: the two modes, for a change
-/

namespace DepTriage

/-! ## Outcomes -/

/-- What the scan of one dependency comes to. -/
abbrev Outcome := Except ScanError ScannedDependency

namespace Outcome

def scanned? : Outcome → Option ScannedDependency
  | .ok d => some d
  | .error _ => none

def error? : Outcome → Option ScanError
  | .ok _ => none
  | .error e => some e

/-- The scan of `key` came to data of that dependency, or to an error that names the dependency and
the step of the scan that failed. -/
inductive Names (key : DependencyKey) : Outcome → Prop where
  | scanned (d : ScannedDependency) : d.key = key → Names key (.ok d)
  | failed (step : ScanStep) (source : ScanError) : step ≠ .diff →
      Names key (.error (source.during key step))

/-- A note of the failure of `key` has the step of its scan that failed and the message of the error
in that step. -/
def Noted (key : DependencyKey) (o : Outcome) (note : ScanFailure) : Prop :=
  ∃ (step : ScanStep) (source : ScanError), step ≠ .diff ∧
    o = .error (source.during key step) ∧ note = ⟨key.label, some step, source.message⟩

end Outcome

variable {outcome : DependencyKey → Outcome} {key : DependencyKey} {keys : List DependencyKey}

/-- The error of the first of the keys that failed. -/
def firstError? (outcome : DependencyKey → Outcome) (keys : List DependencyKey) :
    Option ScanError :=
  keys.findSome? fun key => (outcome key).error?

theorem firstError?_congr {f g : DependencyKey → Outcome} (h : ∀ key ∈ keys, f key = g key) :
    firstError? f keys = firstError? g keys := by
  rw [firstError?, firstError?, ← List.head?_filterMap, ← List.head?_filterMap]
  congr 1
  exact List.filterMap_congr fun key hkey => by rw [h key hkey]

theorem firstError?_cons_of_ok {d : ScannedDependency} (keys : List DependencyKey)
    (h : outcome key = .ok d) : firstError? outcome (key :: keys) = firstError? outcome keys := by
  rw [firstError?, List.findSome?_cons, h]
  rfl

theorem firstError?_cons_of_error {e : ScanError} (keys : List DependencyKey)
    (h : outcome key = .error e) : firstError? outcome (key :: keys) = some e := by
  rw [firstError?, List.findSome?_cons, h]
  rfl

/-- In an ascending list, the first error is that of the least key that failed. -/
theorem firstError?_eq_some_iff (hkeys : keys.Pairwise DependencyKey.Precedes) {e : ScanError} :
    firstError? outcome keys = some e ↔
      ∃ key ∈ keys, outcome key = .error e ∧
        ∀ other ∈ keys, other.Precedes key → ∃ d, outcome other = .ok d := by
  have herror : ∀ key e, (outcome key).error? = some e ↔ outcome key = .error e := by
    intro key e
    cases outcome key <;> simp [Outcome.error?]
  have hok : ∀ key, (outcome key).error? = none ↔ ∃ d, outcome key = .ok d := by
    intro key
    cases outcome key <;> simp [Outcome.error?]
  rw [firstError?, List.findSome?_eq_some_iff]
  constructor
  · rintro ⟨before, key, after, rfl, hkey, hbefore⟩
    -- What precedes the key in the order stands before it in the list.
    refine ⟨key, by simp, (herror key e).1 hkey, fun other hother hprecedes => ?_⟩
    have hafter : ∀ late ∈ after, key.Precedes late :=
      (List.pairwise_cons.1 (List.pairwise_append.1 hkeys).2.1).1
    rcases List.mem_append.1 hother with hmem | hmem
    · exact (hok other).1 (hbefore other hmem)
    · rcases List.mem_cons.1 hmem with rfl | hmem
      · exact absurd hprecedes (DependencyKey.Precedes.irrefl other)
      · exact absurd ((hafter other hmem).trans hprecedes) (DependencyKey.Precedes.irrefl key)
  · rintro ⟨key, hmem, hkey, hleast⟩
    obtain ⟨before, after, rfl⟩ := List.append_of_mem hmem
    refine ⟨before, key, after, rfl, (herror key e).2 hkey, fun other hother => ?_⟩
    have hprecedes : other.Precedes key :=
      (List.pairwise_append.1 hkeys).2.2 other hother key List.mem_cons_self
    exact (hok other).2 (hleast other (List.mem_append_left _ hother) hprecedes)

namespace ScanResult

/-- What dependencies came to, as a scan lists it. -/
def collect (outcome : DependencyKey → Outcome) (keys : List DependencyKey) : ScanResult where
  dependencies := keys.filterMap fun key => (outcome key).scanned?
  failures := keys.filterMap fun key => (outcome key).error?.map (·.failure key)

theorem collect_congr {f g : DependencyKey → Outcome} (h : ∀ key ∈ keys, f key = g key) :
    collect f keys = collect g keys := by
  rw [collect, collect]
  congr 1
  · exact List.filterMap_congr fun key hkey => by rw [h key hkey]
  · exact List.filterMap_congr fun key hkey => by rw [h key hkey]

theorem collect_cons_of_ok {d : ScannedDependency} (keys : List DependencyKey)
    (h : outcome key = .ok d) :
    collect outcome (key :: keys) = (collect outcome keys).addDependency d := by
  simp [collect, addDependency, h, Outcome.scanned?, Outcome.error?]

theorem collect_cons_of_error {e : ScanError} (keys : List DependencyKey)
    (h : outcome key = .error e) :
    collect outcome (key :: keys) = (collect outcome keys).addFailures [e.failure key] := by
  simp [collect, addFailures, h, Outcome.scanned?, Outcome.error?]

/-- Nothing is noted exactly if there is no error. -/
theorem failures_collect_eq_nil :
    (collect outcome keys).failures = [] ↔ firstError? outcome keys = none := by
  rw [collect, firstError?, List.findSome?_eq_none_iff, List.filterMap_eq_nil_iff]
  simp only [Option.map_eq_none_iff]

/-- The result lists what each of the keys came to, once and in ascending order: data for those that
were scanned, and notes for those that `failed`. -/
structure Partitions (r : ScanResult) (outcome : DependencyKey → Outcome)
    (keys failed : List DependencyKey) : Prop where
  perm : (r.dependencies.map (·.key) ++ failed).Perm keys
  scanned_ascending : (r.dependencies.map (·.key)).Pairwise DependencyKey.Precedes
  failed_ascending : failed.Pairwise DependencyKey.Precedes
  scanned : ∀ d ∈ r.dependencies, outcome d.key = .ok d
  noted : List.Forall₂ (fun key note => (outcome key).Noted key note) failed r.failures

/-- The data are those of the keys that did not fail. -/
private theorem keys_dependencies_collect (hnames : ∀ key, (outcome key).Names key) :
    (collect outcome keys).dependencies.map (·.key) =
      keys.filter fun key => !(outcome key).error?.isSome := by
  -- An outcome names its key, so what is collected carries the keys in their order.
  induction keys with
  | nil => rfl
  | cons key keys ih =>
    have hkey := hnames key
    cases houtcome : outcome key with
    | ok d =>
      rw [collect_cons_of_ok keys houtcome,
        List.filter_cons_of_pos (by simp [houtcome, Outcome.error?]), ← ih]
      rw [houtcome] at hkey
      cases hkey with
      | scanned _ hd => rw [← hd]; rfl
    | error e =>
      rw [collect_cons_of_error keys houtcome,
        List.filter_cons_of_neg (by simp [houtcome, Outcome.error?]), ← ih]
      rfl

/-- The notes are those of the keys that failed. -/
private theorem noted_collect (hnames : ∀ key, (outcome key).Names key) :
    List.Forall₂ (fun key note => (outcome key).Noted key note)
      (keys.filter fun key => (outcome key).error?.isSome) (collect outcome keys).failures := by
  -- Exactly the failed keys leave a note, and each note is the error of its own key.
  induction keys with
  | nil => exact .nil
  | cons key keys ih =>
    have hkey := hnames key
    cases houtcome : outcome key with
    | ok d =>
      rw [collect_cons_of_ok keys houtcome,
        List.filter_cons_of_neg (by simp [houtcome, Outcome.error?])]
      exact ih
    | error e =>
      rw [collect_cons_of_error keys houtcome,
        List.filter_cons_of_pos (by simp [houtcome, Outcome.error?])]
      rw [houtcome] at hkey
      cases hkey with
      | failed step source hstep => exact .cons ⟨step, source, hstep, houtcome, rfl⟩ ih

theorem collect_partitions (hkeys : keys.Pairwise DependencyKey.Precedes)
    (hnames : ∀ key, (outcome key).Names key) :
    (collect outcome keys).Partitions outcome keys
      (keys.filter fun key => (outcome key).error?.isSome) where
  perm := by
    -- The keys with data and the keys with a note are two complementary filters of all keys.
    rw [keys_dependencies_collect hnames]
    exact List.perm_append_comm.trans (List.filter_append_perm _ keys)
  scanned_ascending := by
    rw [keys_dependencies_collect hnames]
    exact hkeys.filter _
  failed_ascending := hkeys.filter _
  scanned d hd := by
    obtain ⟨key, _, hscanned⟩ := List.mem_filterMap.1 hd
    have hkey := hnames key
    cases houtcome : outcome key with
    | ok d' =>
      rw [houtcome] at hscanned hkey
      obtain rfl : d' = d := Option.some.inj hscanned
      cases hkey with
      | scanned _ hd => rw [hd, houtcome]
    | error e =>
      rw [houtcome] at hscanned
      exact nomatch hscanned
  noted := noted_collect hnames

end ScanResult

/-! ## One dependency -/

section Registry

variable {σ : Type} {registry : PackageRegistry (StateM σ)} {settings : ScanSettings}

/-- A scan of one dependency succeeds with what the registry told about it, or it fails in a step of
its own. -/
theorem scanPackage_cases (key : DependencyKey) (s : σ) :
    (∃ metadata downloads files, (scanPackage registry settings key s).1 =
      .ok (assess settings key metadata downloads files)) ∨
    ∃ (step : ScanStep) (source : ScanError), step ≠ .diff ∧
      (scanPackage registry settings key s).1 = .error (source.during key step) := by
  rw [scanPackage, bind_apply]
  -- One case for each question to the registry, in the order in which they are asked.
  cases (registry.metadata key.name s).1 with
  | error e => exact Or.inr ⟨.fetchMetadata, e, by decide, rfl⟩
  | ok metadata =>
    dsimp only
    cases metadata.tarball? key.version with
    | none => exact Or.inr ⟨.fetchMetadata, _, by decide, rfl⟩
    | some url =>
      dsimp only
      rw [bind_apply]
      generalize registry.downloads key.name settings.downloadPeriod _ = answer
      obtain ⟨answer, s⟩ := answer
      cases answer with
      | error e => exact Or.inr ⟨.fetchStats, e, by decide, rfl⟩
      | ok downloads =>
        dsimp only
        rw [bind_apply]
        generalize registry.tarball url _ = answer
        obtain ⟨answer, s⟩ := answer
        cases answer with
        | error e => exact Or.inr ⟨.fetchArchive, e, by decide, rfl⟩
        | ok archive =>
          dsimp only
          cases sourceFiles settings archive with
          | error e => exact Or.inr ⟨.extract, e, by decide, rfl⟩
          | ok files => exact Or.inl ⟨metadata, downloads, files, rfl⟩

/-- Whatever a scan comes to names its dependency. -/
theorem scanPackage_names (key : DependencyKey) (s : σ) :
    Outcome.Names key (scanPackage registry settings key s).1 := by
  rcases scanPackage_cases key s with ⟨metadata, downloads, files, hok⟩ | ⟨step, e, hstep, herror⟩
  · rw [hok]
    exact .scanned _ rfl
  · rw [herror]
    exact .failed step e hstep

/-- How a batch goes on does not matter to the scan of one dependency. -/
theorem scanPackage_batchMode (mode : BatchMode) (key : DependencyKey) :
    scanPackage registry { settings with batchMode := mode } key =
      scanPackage registry settings key := rfl

/-- The answers of the registry do not depend on what it was asked before. -/
structure PackageRegistry.Stateless (registry : PackageRegistry (StateM σ)) : Prop where
  metadata : ∀ name s t, (registry.metadata name s).1 = (registry.metadata name t).1
  downloads : ∀ name period s t,
    (registry.downloads name period s).1 = (registry.downloads name period t).1
  tarball : ∀ url s t, (registry.tarball url s).1 = (registry.tarball url t).1

/-- With such a registry, a scan comes to the same whenever it is its turn. -/
theorem scanPackage_stateless (h : registry.Stateless) (key : DependencyKey) (s t : σ) :
    (scanPackage registry settings key s).1 = (scanPackage registry settings key t).1 := by
  -- The two scans get the same answers, though their states differ after each of them.
  rw [scanPackage, bind_apply, bind_apply, h.metadata key.name s t]
  generalize (registry.metadata key.name s).2 = s₁
  cases (registry.metadata key.name t).1 with
  | error e => rfl
  | ok metadata =>
    generalize (registry.metadata key.name t).2 = t₁
    dsimp only
    cases metadata.tarball? key.version with
    | none => rfl
    | some url =>
      dsimp only
      rw [bind_apply, bind_apply, h.downloads key.name settings.downloadPeriod s₁ t₁]
      generalize (registry.downloads key.name settings.downloadPeriod s₁).2 = s₂
      cases (registry.downloads key.name settings.downloadPeriod t₁).1 with
      | error e => rfl
      | ok downloads =>
        generalize (registry.downloads key.name settings.downloadPeriod t₁).2 = t₂
        dsimp only
        rw [bind_apply, bind_apply, h.tarball url s₂ t₂]
        cases (registry.tarball url t₂).1 with
        | error e => rfl
        | ok archive =>
          dsimp only
          cases sourceFiles settings archive <;> rfl

/-! ## One dependency after the other -/

variable (registry settings) in
/-- The state in which the scan of `key` begins, when those of the keys before it are done. -/
def arrival (keys : List DependencyKey) (s : σ) (key : DependencyKey) : σ :=
  (keys.takeWhile (· != key)).foldl (fun s k => (scanPackage registry settings k s).2) s

/-- The first scan begins at once. -/
theorem arrival_cons_self (key : DependencyKey) (keys : List DependencyKey) (s : σ) :
    arrival registry settings (key :: keys) s key = s := by
  rw [arrival, List.takeWhile_cons_of_neg (by simp)]
  rfl

/-- The other scans begin where the first one ended. -/
theorem arrival_cons (hkey : key ∉ keys) (s : σ) :
    ∀ other ∈ keys, arrival registry settings (key :: keys) s other =
      arrival registry settings keys (scanPackage registry settings key s).2 other := by
  intro other hother
  have hne : key ≠ other := by
    rintro rfl
    exact hkey hother
  rw [arrival, List.takeWhile_cons_of_pos (by simpa using hne)]
  rfl

variable (registry settings) in
/-- What the scan of `key` comes to, when those of the keys before it are done. -/
def outcomeAt (keys : List DependencyKey) (s : σ) (key : DependencyKey) : Outcome :=
  (scanPackage registry settings key (arrival registry settings keys s key)).1

theorem outcomeAt_cons_self (key : DependencyKey) (keys : List DependencyKey) (s : σ) :
    outcomeAt registry settings (key :: keys) s key = (scanPackage registry settings key s).1 := by
  rw [outcomeAt, arrival_cons_self]

theorem outcomeAt_cons (hkey : key ∉ keys) (s : σ) :
    ∀ other ∈ keys, outcomeAt registry settings (key :: keys) s other =
      outcomeAt registry settings keys (scanPackage registry settings key s).2 other := by
  intro other hother
  rw [outcomeAt, outcomeAt, arrival_cons hkey s other hother]

/-- What a batch makes of its first dependency. -/
theorem scanAll_cons (mode : BatchMode) (key : DependencyKey) (keys : List DependencyKey) (s : σ) :
    (scanAll registry { settings with batchMode := mode } (key :: keys) s).1 =
      match (scanPackage registry settings key s).1, mode with
      | .ok d, _ =>
        (scanAll registry { settings with batchMode := mode } keys
          (scanPackage registry settings key s).2).1.map (·.addDependency d)
      | .error e, .failFast => .error e
      | .error e, .skipFailed =>
        (scanAll registry { settings with batchMode := mode } keys
          (scanPackage registry settings key s).2).1.map (·.addFailures [e.failure key]) := by
  rw [scanAll, bind_apply, scanPackage_batchMode]
  cases (scanPackage registry settings key s).1 with
  | ok d => rfl
  | error e => cases mode <;> rfl

/-- What a batch comes to in a mode: the first failure, if there is one and the batch stops there,
or else a list of what every dependency came to. -/
theorem scanAll_batchMode (mode : BatchMode) (hkeys : keys.Nodup) (s : σ) :
    (scanAll registry { settings with batchMode := mode } keys s).1 =
      match mode, firstError? (outcomeAt registry settings keys s) keys with
      | .failFast, some e => .error e
      | _, _ => .ok (.collect (outcomeAt registry settings keys s) keys) := by
  induction keys generalizing s with
  | nil => cases mode <;> rfl
  | cons key keys ih =>
    obtain ⟨hkey, hkeys⟩ := List.nodup_cons.1 hkeys
    -- Since `key` does not come again, the rest of the batch has the outcomes of the whole one.
    rw [scanAll_cons, ih hkeys, ← ScanResult.collect_congr (outcomeAt_cons hkey s),
      ← firstError?_congr (outcomeAt_cons hkey s), ← outcomeAt_cons_self key keys s]
    cases houtcome : outcomeAt registry settings (key :: keys) s key with
    | ok d =>
      rw [firstError?_cons_of_ok keys houtcome, ScanResult.collect_cons_of_ok keys houtcome]
      cases mode <;>
        cases firstError? (outcomeAt registry settings (key :: keys) s) keys <;> rfl
    | error e =>
      rw [firstError?_cons_of_error keys houtcome, ScanResult.collect_cons_of_error keys houtcome]
      cases mode <;> rfl

/-- What a batch comes to in its own mode. -/
theorem scanAll_eq (hkeys : keys.Nodup) (s : σ) :
    (scanAll registry settings keys s).1 =
      match settings.batchMode, firstError? (outcomeAt registry settings keys s) keys with
      | .failFast, some e => .error e
      | _, _ => .ok (.collect (outcomeAt registry settings keys s) keys) :=
  scanAll_batchMode settings.batchMode hkeys s

/-- Only a batch that stops at failures returns an error, which is that of the least dependency that
fails. -/
theorem scanAll_eq_error_iff (hkeys : keys.Pairwise DependencyKey.Precedes) (s : σ)
    {e : ScanError} :
    (scanAll registry settings keys s).1 = .error e ↔ settings.batchMode = .failFast ∧
      ∃ key ∈ keys, outcomeAt registry settings keys s key = .error e ∧
        ∀ other ∈ keys, other.Precedes key →
          ∃ d, outcomeAt registry settings keys s other = .ok d := by
  rw [scanAll_eq (hkeys.imp DependencyKey.Precedes.ne), ← firstError?_eq_some_iff hkeys]
  cases settings.batchMode with
  | failFast => cases firstError? (outcomeAt registry settings keys s) keys <;> simp
  | skipFailed => simp

/-- A batch that answers lists what every dependency came to. -/
theorem eq_collect_of_scanAll (hkeys : keys.Nodup) {s : σ} {r : ScanResult}
    (h : (scanAll registry settings keys s).1 = .ok r) :
    r = .collect (outcomeAt registry settings keys s) keys := by
  rw [scanAll_eq hkeys] at h
  split at h
  · exact nomatch h
  · exact (Except.ok.inj h).symm

/-! ## Changes -/

theorem DependencySet.mem_scanned {change : DependencySet} {ignore : IgnoreList} :
    key ∈ change.scanned ignore ↔ key ∈ change ∧ ignore.covers key.name = false := by
  rw [scanned, List.mem_filter, mem_toList]
  simp

theorem DependencySet.ascending_scanned (change : DependencySet) (ignore : IgnoreList) :
    (change.scanned ignore).Pairwise DependencyKey.Precedes :=
  change.ascending_toList.filter _

/-- The batch modes, for a change that is scanned from the state `s` of the registry. A batch that
skips failures always answers, and its answer parts the dependencies that are not ignored into those
with data and those with a note. A batch that stops at failures answers the same if there is no
failure, and otherwise returns the error of the least dependency that fails. What a dependency comes
to depends on the others only as far as the registry's answers do. -/
theorem scanChange_batch_modes (registry : PackageRegistry (StateM σ)) (settings : ScanSettings)
    (change : DependencySet) (s : σ) :
    let keys := change.scanned settings.ignore
    let outcome := outcomeAt registry settings keys s
    let skipping := (scanChange registry { settings with batchMode := .skipFailed } change s).1
    let stopping := (scanChange registry { settings with batchMode := .failFast } change s).1
    (∀ key, key ∈ keys ↔ key ∈ change ∧ settings.ignore.covers key.name = false) ∧
    keys.Nodup ∧
    (∃ r failed, skipping = .ok r ∧ r.Partitions outcome keys failed) ∧
    (∀ r, stopping = .ok r ↔ skipping = .ok r ∧ r.failures = []) ∧
    (∀ e, stopping = .error e ↔ ∃ key ∈ keys, outcome key = .error e ∧
      ∀ other ∈ keys, other.Precedes key → ∃ d, outcome other = .ok d) ∧
    (registry.Stateless → ∀ key t, outcome key = (scanPackage registry settings key t).1) := by
  intro keys outcome skipping stopping
  have hascending : keys.Pairwise DependencyKey.Precedes :=
    change.ascending_scanned settings.ignore
  have hnodup : keys.Nodup := hascending.imp DependencyKey.Precedes.ne
  have hskipping : skipping = .ok (.collect outcome keys) := scanAll_batchMode .skipFailed hnodup s
  have hstopping : stopping = match firstError? outcome keys with
      | none => .ok (.collect outcome keys)
      | some e => .error e := by
    refine (scanAll_batchMode .failFast hnodup s).trans ?_
    cases firstError? outcome keys <;> rfl
  have hnames : ∀ key, (outcome key).Names key := fun key => scanPackage_names key _
  -- Both modes are now said in terms of the outcomes, where they can be compared.
  refine ⟨fun key => DependencySet.mem_scanned, hnodup,
    ⟨_, _, hskipping, ScanResult.collect_partitions hascending hnames⟩, fun r => ?_, fun e => ?_,
    fun hstateless key t => scanPackage_stateless hstateless key _ t⟩
  · rw [hskipping, hstopping]
    cases herror : firstError? outcome keys with
    | none =>
      have hnone := ScanResult.failures_collect_eq_nil.2 herror
      constructor
      · intro h
        refine ⟨h, ?_⟩
        rw [← Except.ok.inj h]
        exact hnone
      · exact And.left
    | some e =>
      constructor
      · exact nofun
      · rintro ⟨h, hnil⟩
        rw [← Except.ok.inj h, ScanResult.failures_collect_eq_nil, herror] at hnil
        exact nomatch hnil
  · rw [← firstError?_eq_some_iff hascending, hstopping]
    cases firstError? outcome keys <;> simp

end Registry

/-- A registry that has no package. -/
def PackageRegistry.empty : PackageRegistry (StateM Unit) where
  metadata name := return .error (.notFound name)
  downloads name _ := return .error (.notFound name)
  tarball url := return .error (.notFound url)

/-- A registry that has no package tells so of each one alone. -/
theorem scanChange_without_packages :
    let registry : PackageRegistry (StateM Unit) :=
      { metadata := fun name => return .error (.notFound name)
        downloads := fun name _ => return .error (.notFound name)
        tarball := fun url => return .error (.notFound url) }
    let keys := (DependencySet.ofList [⟨"a", "1"⟩, ⟨"b", "2"⟩]).scanned {}
    registry.Stateless ∧
    outcomeAt registry default keys () ⟨"b", "2"⟩ =
      .error ((ScanError.notFound "b").during ⟨"b", "2"⟩ .fetchMetadata) := by
  intro registry keys
  have hstateless : registry.Stateless :=
    ⟨fun _ _ _ => rfl, fun _ _ _ _ => rfl, fun _ _ _ => rfl⟩
  have halone := (scanChange_batch_modes registry default
    (.ofList [⟨"a", "1"⟩, ⟨"b", "2"⟩]) ()).2.2.2.2.2 hstateless ⟨"b", "2"⟩ ()
  exact ⟨hstateless, halone⟩

end DepTriage
