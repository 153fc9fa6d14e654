import DepTriage.Proofs.Scan.Batch

/-!
# What scans ask

A registry that logs its calls tells what a scan asked, and in which order. The log of a scan of one
dependency is a first part of three questions, cut off where the scan failed; the log of a batch is
made up of those of the dependencies whose turn came.

## Key results

- `Logs.bind`: the log of two computations, one after the other
- `packageCalls_traced`: how far a scan of one dependency got, by what it came to
- `scanAll_logs`: the log of a batch
- `scanChange_calls`: the log of the scan of a change
-/

namespace DepTriage

/-! ## Logged computations -/

section Logs

variable {σ κ α β : Type}

/-- A logged computation and the next one share the log and the state. -/
theorem logged_bind_apply (x : StateT (List κ) (StateM σ) α)
    (f : α → StateT (List κ) (StateM σ) β) (log : List κ) (s : σ) :
    (x >>= f) log s = f (x log s).1.1 (x log s).1.2 (x log s).2 := rfl

/-- The logged computation `x` does what `y` does, and adds `calls` at the end of the log. Which
calls these are may depend on the state in which it begins, but not on the log. -/
def Logs (x : StateT (List κ) (StateM σ) α) (y : StateM σ α) (calls : σ → List κ) : Prop :=
  ∀ log s, x log s = (((y s).1, log ++ calls s), (y s).2)

namespace Logs

variable {x : StateT (List κ) (StateM σ) α} {y : StateM σ α} {calls : σ → List κ}

theorem of_pure (a : α) : Logs (pure a : StateT (List κ) (StateM σ) α) (pure a) fun _ => [] := by
  intro log s
  show ((a, log), s) = ((a, log ++ []), s)
  rw [List.append_nil]

theorem of_call (call : κ) (question : StateM σ α) :
    Logs (loggedCall call question) question fun _ => [call] :=
  fun _ _ => rfl

/-- What is done next finds the answer, with the calls at the end of the log. -/
theorem bind_apply (hx : Logs x y calls) (f : α → StateT (List κ) (StateM σ) β) (log : List κ)
    (s : σ) : (x >>= f) log s = f (y s).1 (log ++ calls s) (y s).2 := by
  rw [logged_bind_apply, hx log s]

/-- What is done next adds its calls behind those made so far. -/
theorem bind {f : α → StateT (List κ) (StateM σ) β} {g : α → StateM σ β}
    {next : α → σ → List κ} (hx : Logs x y calls) (hf : ∀ a, Logs (f a) (g a) (next a)) :
    Logs (x >>= f) (y >>= g) fun s => calls s ++ next (y s).1 (y s).2 := by
  intro log s
  rw [hx.bind_apply, hf, List.append_assoc]
  rfl

/-- Whatever the log of what is done next is, the two have a log together. -/
theorem exists_bind {f : α → StateT (List κ) (StateM σ) β} {g : α → StateM σ β}
    (hx : ∃ calls, Logs x y calls) (hf : ∀ a, ∃ next, Logs (f a) (g a) next) :
    ∃ calls, Logs (x >>= f) (y >>= g) calls := by
  obtain ⟨calls, hx⟩ := hx
  choose next hnext using hf
  exact ⟨_, hx.bind hnext⟩

/-- What is made of the answer in the end adds no call. -/
theorem bind_pure (f : α → β) (hx : Logs x y calls) :
    Logs (x >>= fun a => pure (f a)) (y >>= fun a => pure (f a)) calls := by
  intro log s
  rw [hx.bind_apply]
  rfl

/-- What comes of the logged computation comes of the other one. -/
theorem eq_of_logged {a : α} {log log₁ : List κ} {s s₁ : σ} (hx : Logs x y calls)
    (h : x log s = ((a, log₁), s₁)) : y s = (a, s₁) := by
  rw [hx] at h
  exact Prod.ext (congrArg (·.1.1) h) (congrArg (·.2) h)

theorem congr {others : σ → List κ} (hx : Logs x y calls) (h : ∀ s, calls s = others s) :
    Logs x y others := by
  intro log s
  rw [hx log s, h s]

end Logs

end Logs

/-! ## One dependency -/

/-- The questions that a scan of `key` asks, one after the other, if its archive stands at `url` and
nothing fails. -/
def questions (settings : ScanSettings) (key : DependencyKey) (url : String) : List SourceCall :=
  [.metadata key.name, .downloads key.name settings.downloadPeriod, .tarball url]

namespace Outcome

/-- The scan came to an error in this step. -/
def FailedIn (o : Outcome) (step : ScanStep) : Prop :=
  ∃ e, o = .error e ∧ e.step? = some step

@[simp]
theorem failedIn_ok {d : ScannedDependency} {step : ScanStep} : ¬FailedIn (.ok d) step :=
  nofun

@[simp]
theorem failedIn_during {source : ScanError} {key : DependencyKey} {step other : ScanStep} :
    FailedIn (.error (source.during key step)) other ↔ step = other := by
  simp [FailedIn, ScanError.during, ScanError.step?]

end Outcome

section Registry

variable {σ : Type} {registry : PackageRegistry (StateM σ)} {settings : ScanSettings}
  {key : DependencyKey} {keys : List DependencyKey} {s : σ}

/-- The document that the registry gives of the package in the state `s` has an archive for the very
version, and `url` is where it stands. -/
def PackageRegistry.Lists (registry : PackageRegistry (StateM σ)) (key : DependencyKey) (s : σ)
    (url : String) : Prop :=
  ∃ (metadata : PackageMetadata) (info : VersionInfo),
    (registry.metadata key.name s).1 = .ok metadata ∧
    metadata.versions[key.version]? = some info ∧ info.distribution.tarball = url

/-- How far the scan of `key` got, which found the registry in the state `s` and came to `o`. -/
structure Traced (registry : PackageRegistry (StateM σ)) (settings : ScanSettings)
    (key : DependencyKey) (s : σ) (o : Outcome) (calls : List SourceCall) : Prop where
  ne_nil : calls ≠ []
  first_questions : ∃ url, calls <+: questions settings key url ∧
    (1 < calls.length → registry.Lists key s url)
  ended_at_metadata : calls.length = 1 ↔ o.FailedIn .fetchMetadata
  ended_at_downloads : calls.length = 2 ↔ o.FailedIn .fetchStats
  complete : calls.length = 3 ↔
    o.FailedIn .fetchArchive ∨ o.FailedIn .extract ∨ ∃ d, o = .ok d

/-- How many questions have been asked when a step is taken. -/
private def ScanStep.asked : ScanStep → Nat
  | .diff => 0
  | .fetchMetadata => 1
  | .fetchStats => 2
  | .fetchArchive | .extract => 3

private theorem traced_of_error (url : String) {source : ScanError} {step : ScanStep}
    (hstep : step ≠ .diff) (hurl : 1 < step.asked → registry.Lists key s url) :
    Traced registry settings key s (.error (source.during key step))
      ((questions settings key url).take step.asked) where
  ne_nil := by cases step <;> simp_all [ScanStep.asked, questions]
  first_questions :=
    ⟨url, List.take_prefix _ _, fun h => hurl (by rw [List.length_take] at h; omega)⟩
  ended_at_metadata := by cases step <;> simp_all [ScanStep.asked, questions]
  ended_at_downloads := by cases step <;> simp_all [ScanStep.asked, questions]
  complete := by cases step <;> simp_all [ScanStep.asked, questions]

private theorem traced_of_ok {url : String} {d : ScannedDependency}
    (hurl : registry.Lists key s url) :
    Traced registry settings key s (.ok d) (questions settings key url) where
  ne_nil := nofun
  first_questions := ⟨url, List.prefix_rfl, fun _ => hurl⟩
  ended_at_metadata := by simp [questions]
  ended_at_downloads := by simp [questions]
  complete := by simp [questions]

/-- A question that is logged, and what is done with its answer. -/
private theorem loggedCall_bind_apply {α β : Type} (call : SourceCall) (question : StateM σ α)
    (f : α → StateT (List SourceCall) (StateM σ) β) (log : List SourceCall) (s : σ) :
    (loggedCall call question >>= f) log s =
      f (question s).1 (log ++ [call]) (question s).2 :=
  (Logs.of_call call question).bind_apply f log s

/-- A scan of one dependency does the same with a log as without one, and the log tells how far it
got. -/
private theorem exists_traced (registry : PackageRegistry (StateM σ)) (settings : ScanSettings)
    (key : DependencyKey) (s : σ) :
    ∃ calls, Traced registry settings key s (scanPackage registry settings key s).1 calls ∧
      ∀ log, scanPackage registry.logged settings key log s =
        (((scanPackage registry settings key s).1, log ++ calls),
          (scanPackage registry settings key s).2) := by
  simp only [scanPackage, PackageRegistry.logged, bind_apply, loggedCall_bind_apply]
  -- One case for each question to the registry, in the order in which they are asked.
  cases hmetadata : (registry.metadata key.name s).1 with
  | error e => exact ⟨_, traced_of_error "" (by decide) (absurd · (by decide)), fun log => rfl⟩
  | ok metadata =>
    dsimp only
    cases hurl : metadata.tarball? key.version with
    | none => exact ⟨_, traced_of_error "" (by decide) (absurd · (by decide)), fun log => rfl⟩
    | some url =>
      have hlists : registry.Lists key s url := by
        obtain ⟨info, hinfo, htarball⟩ := Option.map_eq_some_iff.1 hurl
        exact ⟨metadata, info, hmetadata, hinfo, htarball⟩
      simp only [bind_apply, loggedCall_bind_apply, List.append_assoc]
      generalize registry.downloads key.name settings.downloadPeriod _ = answer
      obtain ⟨answer, s⟩ := answer
      cases answer with
      | error e => exact ⟨_, traced_of_error url (by decide) fun _ => hlists, fun log => rfl⟩
      | ok downloads =>
        simp only [bind_apply, loggedCall_bind_apply, List.append_assoc]
        generalize registry.tarball url _ = answer
        obtain ⟨answer, s⟩ := answer
        cases answer with
        | error e => exact ⟨_, traced_of_error url (by decide) fun _ => hlists, fun log => rfl⟩
        | ok archive =>
          dsimp only
          cases sourceFiles settings archive with
          | error e => exact ⟨_, traced_of_error url (by decide) fun _ => hlists, fun log => rfl⟩
          | ok files => exact ⟨_, traced_of_ok hlists, fun log => rfl⟩

variable (registry settings) in
/-- The calls of a scan of `key` that finds the registry in the state `s`. -/
def packageCalls (key : DependencyKey) (s : σ) : List SourceCall :=
  (scanPackage registry.logged settings key [] s).1.2

theorem packageCalls_traced (key : DependencyKey) (s : σ) :
    Traced registry settings key s (scanPackage registry settings key s).1
      (packageCalls registry settings key s) := by
  obtain ⟨calls, htraced, hlogged⟩ := exists_traced registry settings key s
  rw [packageCalls, hlogged]
  exact htraced

theorem scanPackage_logs (key : DependencyKey) :
    Logs (scanPackage registry.logged settings key) (scanPackage registry settings key)
      (packageCalls registry settings key) := by
  intro log s
  obtain ⟨calls, -, hlogged⟩ := exists_traced registry settings key s
  rw [packageCalls, hlogged, hlogged]
  rfl

/-! ## Batches -/

/-- Whether a batch ends with this outcome. -/
def Outcome.stops : Outcome → BatchMode → Bool
  | .error _, .failFast => true
  | _, _ => false

/-- The dependencies whose turn comes: all of them, or those up to the first failure. -/
def reached (mode : BatchMode) (outcome : DependencyKey → Outcome) :
    List DependencyKey → List DependencyKey
  | [] => []
  | key :: keys => key :: if (outcome key).stops mode then [] else reached mode outcome keys

theorem reached_congr {mode : BatchMode} {f g : DependencyKey → Outcome}
    (h : ∀ key ∈ keys, f key = g key) : reached mode f keys = reached mode g keys := by
  induction keys with
  | nil => rfl
  | cons key keys ih =>
    rw [reached, reached, h key List.mem_cons_self, ih fun k hk => h k (List.mem_cons_of_mem _ hk)]

theorem reached_skipFailed (outcome : DependencyKey → Outcome) (keys : List DependencyKey) :
    reached .skipFailed outcome keys = keys := by
  have hstops : ∀ o : Outcome, o.stops .skipFailed = false := fun o => by cases o <;> rfl
  induction keys with
  | nil => rfl
  | cons key keys ih => rw [reached, hstops, ih]; rfl

/-- The dependencies `reached` are all of `keys` if none of them fails, and otherwise those up to
the first that fails. -/
def EndsAtFailure (outcome : DependencyKey → Outcome) (keys reached : List DependencyKey) : Prop :=
  (reached = keys ∧ ∀ key ∈ keys, ∃ d, outcome key = .ok d) ∨
  ∃ before key after, keys = before ++ key :: after ∧ reached = before ++ [key] ∧
    (∀ other ∈ before, ∃ d, outcome other = .ok d) ∧ ∃ e, outcome key = .error e

theorem reached_failFast (outcome : DependencyKey → Outcome) (keys : List DependencyKey) :
    EndsAtFailure outcome keys (reached .failFast outcome keys) := by
  -- By induction on the keys, cut at the first failure.
  induction keys with
  | nil => exact Or.inl ⟨rfl, nofun⟩
  | cons key keys ih =>
    rw [reached]
    cases houtcome : outcome key with
    | error e => exact Or.inr ⟨[], key, keys, rfl, rfl, nofun, e, houtcome⟩
    | ok d =>
      show EndsAtFailure outcome (key :: keys) (key :: reached .failFast outcome keys)
      -- What ends the rest ends the whole, one key later.
      rcases ih with ⟨hreached, hall⟩ | ⟨before, failed, after, hkeys, hreached, hbefore, hfailed⟩
      · rw [hreached]
        exact Or.inl ⟨rfl, List.forall_mem_cons.2 ⟨⟨d, houtcome⟩, hall⟩⟩
      · rw [hreached]
        refine Or.inr ⟨key :: before, failed, after, by rw [hkeys]; rfl, rfl, ?_, hfailed⟩
        exact List.forall_mem_cons.2 ⟨⟨d, houtcome⟩, hbefore⟩

theorem reached_subset (mode : BatchMode) (outcome : DependencyKey → Outcome)
    (keys : List DependencyKey) : reached mode outcome keys ⊆ keys := by
  induction keys with
  | nil => exact List.Subset.refl []
  | cons key keys ih =>
    rw [reached]
    refine List.cons_subset_cons key ?_
    split
    · exact List.nil_subset keys
    · exact ih

variable (registry settings) in
/-- The calls of the scan of `key`, when those of the keys before it are done. -/
def callsAt (keys : List DependencyKey) (s : σ) (key : DependencyKey) : List SourceCall :=
  packageCalls registry settings key (arrival registry settings keys s key)

/-- A batch asks what the scans of the dependencies ask whose turn comes, one after the other. -/
theorem scanAll_logs (hkeys : keys.Nodup) :
    Logs (scanAll registry.logged settings keys) (scanAll registry settings keys) fun s =>
      (reached settings.batchMode (outcomeAt registry settings keys s) keys).flatMap
        (callsAt registry settings keys s) := by
  induction keys with
  | nil => exact .of_pure _
  | cons key keys ih =>
    obtain ⟨hkey, hkeys⟩ := List.nodup_cons.1 hkeys
    have ih := ih hkeys
    -- What is asked after `key` depends on what its scan came to.
    let next : Outcome → σ → List SourceCall := fun o s =>
      if o.stops settings.batchMode then []
      else (reached settings.batchMode (outcomeAt registry settings keys s) keys).flatMap
        (callsAt registry settings keys s)
    refine ((scanPackage_logs key).bind fun o => (?_ : Logs _ _ (next o))).congr fun s => ?_
    · dsimp only [next]
      cases o with
      | ok d => exact ih.bind_pure _
      | error e =>
        cases hmode : settings.batchMode with
        | failFast => exact .of_pure _
        | skipFailed =>
          rw [hmode] at ih
          exact ih.bind_pure _
    · dsimp only [next]
      rw [reached, List.flatMap_cons, outcomeAt_cons_self, callsAt, arrival_cons_self]
      split
      · rfl
      · rw [reached_congr (outcomeAt_cons hkey s)]
        congr 1
        refine List.flatMap_congr fun other hother => ?_
        rw [callsAt, callsAt, arrival_cons hkey s other (reached_subset _ _ _ hother)]

/-! ## Changes -/

theorem scanChange_logs (change : DependencySet) :
    let keys := change.scanned settings.ignore
    Logs (scanChange registry.logged settings change) (scanChange registry settings change) fun s =>
      (reached settings.batchMode (outcomeAt registry settings keys s) keys).flatMap
        (callsAt registry settings keys s) :=
  scanAll_logs ((change.ascending_scanned settings.ignore).imp DependencyKey.Precedes.ne)

/-- The package that a call is about, if it names one. -/
def SourceCall.package? : SourceCall → Option String
  | .metadata name | .downloads name _ => some name
  | _ => none

theorem Traced.call_cases {o : Outcome} {calls : List SourceCall}
    (h : Traced registry settings key s o calls) {call : SourceCall} (hcall : call ∈ calls) :
    call = .metadata key.name ∨ call = .downloads key.name settings.downloadPeriod ∨
      ∃ url, call = .tarball url := by
  obtain ⟨url, hfirst, -⟩ := h.first_questions
  have hmem := hfirst.subset hcall
  simp only [questions, List.mem_cons, List.not_mem_nil, or_false] at hmem
  exact hmem.imp_right fun hrest => hrest.imp_right fun htarball => ⟨url, htarball⟩

/-- The calls of a scan name no other package. -/
theorem Traced.package?_eq {o : Outcome} {calls : List SourceCall}
    (h : Traced registry settings key s o calls) {call : SourceCall} (hcall : call ∈ calls)
    {name : String} (hname : call.package? = some name) : name = key.name := by
  rcases h.call_cases hcall with rfl | rfl | ⟨url, rfl⟩
  · exact (Option.some.inj hname).symm
  · exact (Option.some.inj hname).symm
  · exact nomatch hname

/-- The calls of the scan of a change, and what they have to do with what it comes to. The
dependencies that are not ignored are asked for one after the other in ascending order, and the
calls for each of them tell how far its scan got. All of them are asked for if failures are skipped,
and otherwise those up to the first failure. No call names a package that is ignored, and the log
changes nothing else. -/
theorem scanChange_calls (registry : PackageRegistry (StateM σ)) (settings : ScanSettings)
    (change : DependencySet) (s : σ) :
    let keys := change.scanned settings.ignore
    let outcome := outcomeAt registry settings keys s
    let run := scanChange registry.logged settings change [] s
    keys.Pairwise DependencyKey.Precedes ∧
    (∀ key, key ∈ keys ↔ key ∈ change ∧ settings.ignore.covers key.name = false) ∧
    (∃ (asked : List DependencyKey) (calls : DependencyKey → List SourceCall),
      run.1.2 = asked.flatMap calls ∧
      (settings.batchMode = .skipFailed → asked = keys) ∧
      (settings.batchMode = .failFast → EndsAtFailure outcome keys asked) ∧
      ∀ key ∈ asked, Traced registry settings key (arrival registry settings keys s key)
        (outcome key) (calls key)) ∧
    (∀ call ∈ run.1.2, ∀ name, call.package? = some name →
      settings.ignore.covers name = false) ∧
    (run.1.1, run.2) = scanChange registry settings change s := by
  intro keys outcome run
  have hmem : ∀ key, key ∈ keys ↔ key ∈ change ∧ settings.ignore.covers key.name = false :=
    fun key => DependencySet.mem_scanned
  let asked := reached settings.batchMode outcome keys
  have hasked : asked ⊆ keys := reached_subset _ _ _
  have hrun : run =
      (((scanChange registry settings change s).1,
        asked.flatMap (callsAt registry settings keys s)),
        (scanChange registry settings change s).2) :=
    scanChange_logs change [] s
  have htraced : ∀ key, Traced registry settings key (arrival registry settings keys s key)
      (outcome key) (callsAt registry settings keys s key) := fun key => packageCalls_traced key _
  refine ⟨change.ascending_scanned _, hmem, ⟨asked, callsAt registry settings keys s, ?_, ?_, ?_,
    fun key _ => htraced key⟩, ?_, ?_⟩
  · rw [hrun]
  · intro hmode
    show reached settings.batchMode outcome keys = keys
    rw [hmode, reached_skipFailed]
  · intro hmode
    show EndsAtFailure outcome keys (reached settings.batchMode outcome keys)
    rw [hmode]
    exact reached_failFast outcome keys
  · rw [hrun]
    -- Whatever package a call is about, it is one of those that are scanned.
    intro call hcall name hname
    obtain ⟨key, hkey, hcall⟩ := List.mem_flatMap.1 hcall
    rw [(htraced key).package?_eq hcall hname]
    exact ((hmem key).1 (hasked hkey)).2
  · rw [hrun]
    rfl

end Registry

/-- A registry that has no package is asked once for each dependency, if failures are skipped. -/
theorem scanChange_calls_without_packages :
    let registry := PackageRegistry.empty
    let settings : ScanSettings :=
      { (default : ScanSettings) with batchMode := .skipFailed, ignore := ⟨["b"]⟩ }
    let change := DependencySet.ofList [⟨"a", "1"⟩, ⟨"b", "2"⟩, ⟨"c", "3"⟩]
    settings.batchMode = .skipFailed ∧
    (scanChange registry.logged settings change [] ()).1.2 = [.metadata "a", .metadata "c"] := by
  intro registry settings change
  have hkeys : change.scanned settings.ignore = [⟨"a", "1"⟩, ⟨"c", "3"⟩] := by decide +kernel
  obtain ⟨-, -, ⟨asked, calls, hlog, hasked, -, htraced⟩, -, -⟩ :=
    scanChange_calls registry settings change ()
  -- Every scan ends at its first question.
  have halone : ∀ key ∈ asked, calls key = [.metadata key.name] := by
    intro key hkey
    have hlength := (htraced key hkey).ended_at_metadata.2 ⟨_, rfl, rfl⟩
    obtain ⟨url, hfirst, -⟩ := (htraced key hkey).first_questions
    rw [List.prefix_iff_eq_take.1 hfirst, hlength]
    rfl
  refine ⟨rfl, ?_⟩
  rw [hasked rfl, hkeys] at halone
  rw [hlog, hasked rfl, hkeys, List.flatMap_cons, List.flatMap_cons, List.flatMap_nil,
    halone _ (by simp), halone _ (by simp)]
  rfl

end DepTriage
