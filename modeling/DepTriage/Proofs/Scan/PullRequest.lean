import DepTriage.Proofs.LockFile.Revisions
import DepTriage.Scan.PullRequest

/-!
# Scans of pull requests

A scan of a pull request asks the code host for all that it needs, and only then the registry. The
first question that the code host does not answer ends it.

## Key results

- `scanLockFiles_logs`: a scan of lock files asks the registry and nobody else
- `lockFilesOf_filterMap`: the lock files among changed files, told by status, name and base
- `pullRequestLockFiles_of_answered`: the lock files of a pull request, and what is asked for them
- `pullRequestLockFiles_of_fails`: what has been asked when a text cannot be read
- `scanPullRequest_course`: how a scan of a pull request goes
-/

namespace DepTriage

variable {σ : Type}

/-! ## Questions to the registry -/

/-- The call asks a registry, and not a code host. -/
def SourceCall.AsksRegistry : SourceCall → Prop
  | .metadata _ | .downloads _ _ | .tarball _ => True
  | .pullRequest _ | .changedFiles _ | .fileContent _ _ _ => False

theorem Traced.asksRegistry {registry : PackageRegistry (StateM σ)} {settings : ScanSettings}
    {key : DependencyKey} {s : σ} {o : Outcome} {calls : List SourceCall}
    (h : Traced registry settings key s o calls) : ∀ call ∈ calls, call.AsksRegistry := by
  intro call hcall
  rcases h.call_cases hcall with rfl | rfl | ⟨url, rfl⟩ <;> trivial

/-- A scan of lock files asks the registry and nobody else, and the log changes nothing else. -/
theorem scanLockFiles_logs (registry : PackageRegistry (StateM σ)) (settings : ScanSettings)
    (files : List LockFileChange) :
    ∃ calls : σ → List SourceCall, (∀ s, ∀ call ∈ calls s, call.AsksRegistry) ∧
      Logs (scanLockFiles registry.logged settings files) (scanLockFiles registry settings files)
        calls := by
  rw [scanLockFiles, scanLockFiles]
  cases introducedBy files with
  | error e => exact ⟨fun _ => [], by simp, .of_pure _⟩
  | ok introduced =>
    refine ⟨_, fun s call hcall => ?_, (scanChange_logs introduced.change).bind_pure _⟩
    obtain ⟨key, -, hcall⟩ := List.mem_flatMap.1 hcall
    exact (packageCalls_traced key _).asksRegistry call hcall

/-! ## Questions to the code host -/

namespace CodeHost

variable {host : CodeHost (StateM σ)} {repository : Repository} {path revision text : String}
  {e : ScanError} {s s₁ : σ}

theorem requireContent_logs (host : CodeHost (StateM σ)) (repository : Repository)
    (path revision : String) :
    Logs (host.logged.requireContent repository path revision)
      (host.requireContent repository path revision)
      fun _ => [.fileContent repository path revision] := by
  refine ((Logs.of_call _ _).bind fun answer => (?_ : Logs _ _ fun _ => [])).congr fun s => rfl
  match answer with
  | .error _ | .ok none | .ok (some _) => exact .of_pure _

/-- A text that is required is missing if the code host fails, or if it has no such file. -/
theorem requireContent_eq_error
    (h : host.requireContent repository path revision s = (.error e, s₁)) :
    host.fileContent repository path revision s = (.error e, s₁) ∨
    host.fileContent repository path revision s = (.ok none, s₁) ∧
      e = .notFound s!"{repository.label}/{path} at {revision}" := by
  -- The request fails with the host's error or, on an answer without text, with its own.
  rw [requireContent, bind_apply] at h
  cases hanswer : host.fileContent repository path revision s with | mk answer s₂ =>
  rw [hanswer] at h
  match answer with
  | .error _ =>
    cases h
    exact Or.inl rfl
  | .ok none =>
    cases h
    exact Or.inr ⟨rfl, rfl⟩
  | .ok (some _) => cases h

theorem fileContent_of_requireContent
    (h : host.requireContent repository path revision s = (.ok text, s₁)) :
    host.fileContent repository path revision s = (.ok (some text), s₁) := by
  -- Only an answer with a text gets through.
  rw [requireContent, bind_apply] at h
  cases hanswer : host.fileContent repository path revision s with | mk answer s₂ =>
  rw [hanswer] at h
  match answer with
  | .error _ | .ok none => cases h
  | .ok (some _) =>
    cases h
    rfl

theorem requireContent_of_ok
    (h : host.fileContent repository path revision s = (.ok (some text), s₁)) :
    host.requireContent repository path revision s = (.ok text, s₁) := by
  rw [requireContent, bind_apply, h]
  rfl

end CodeHost

/-! ## Scans -/

/-- Where the base revision of a lock file stands, if it has one: a file that was added has none,
one that was renamed or copied only in a file of the same format, and any other has it in its own
place. -/
inductive BaseStands (f : ChangedFile) (format : LockFormat) : Option String → Prop
  | added (hstatus : f.status = .added) : BaseStands f format none
  | moved {path : String} (hstatus : f.status = .renamed ∨ f.status = .copied)
      (hprevious : f.previous = some path) (hformat : LockFormat.ofPath? path = some format) :
      BaseStands f format (some path)
  | unrelated (hstatus : f.status = .renamed ∨ f.status = .copied)
      (hprevious : ∀ path, f.previous = some path → LockFormat.ofPath? path ≠ some format) :
      BaseStands f format none
  | kept (hstatus : f.status = .modified ∨ f.status = .changed ∨ f.status = .unchanged) :
      BaseStands f format (some f.path)

/-- The lock files among changed files, in their order: those that are not removed and have the name
of a lock file. -/
inductive LockFilesOf : List ChangedFile → List LockFilePlace → Prop
  | nil : LockFilesOf [] []
  | removed {f : ChangedFile} {files : List ChangedFile} {places : List LockFilePlace}
      (hstatus : f.status = .removed) (rest : LockFilesOf files places) :
      LockFilesOf (f :: files) places
  | other {f : ChangedFile} {files : List ChangedFile} {places : List LockFilePlace}
      (hformat : LockFormat.ofPath? f.path = none) (rest : LockFilesOf files places) :
      LockFilesOf (f :: files) places
  | lockFile {f : ChangedFile} {files : List ChangedFile} {places : List LockFilePlace}
      {format : LockFormat} {base : Option String} (hstatus : f.status ≠ .removed)
      (hformat : LockFormat.ofPath? f.path = some format) (hbase : BaseStands f format base)
      (rest : LockFilesOf files places) :
      LockFilesOf (f :: files) (⟨f.path, format, base⟩ :: places)

theorem baseStands_basePath? {f : ChangedFile} (h : f.status ≠ .removed) (format : LockFormat) :
    BaseStands f format (f.basePath? format) := by
  -- A renamed or copied file is read at its earlier path, if that has the same format.
  have hmoved (hstatus : f.status = .renamed ∨ f.status = .copied) : BaseStands f format
      (f.previous.filter fun path => LockFormat.ofPath? path == some format) := by
    cases hprevious : f.previous with
    | none => exact .unrelated hstatus (by simp [hprevious])
    | some path =>
      by_cases hformat : LockFormat.ofPath? path = some format
      · rw [Option.filter_some, if_pos (beq_iff_eq.2 hformat)]
        exact .moved hstatus hprevious hformat
      · rw [Option.filter_some, if_neg (mt beq_iff_eq.1 hformat)]
        refine .unrelated hstatus fun other hother => ?_
        rw [hprevious] at hother
        exact Option.some.inj hother ▸ hformat
  rw [ChangedFile.basePath?]
  -- Which base stands is a matter of the status alone.
  cases hstatus : f.status with
  | added => exact .added hstatus
  | removed => exact absurd hstatus h
  | modified => exact .kept (.inl hstatus)
  | renamed => exact hmoved (.inl hstatus)
  | copied => exact hmoved (.inr hstatus)
  | changed => exact .kept (.inr (.inl hstatus))
  | unchanged => exact .kept (.inr (.inr hstatus))

/-- The lock files that a scan selects are those among the changed files. -/
theorem lockFilesOf_filterMap (files : List ChangedFile) :
    LockFilesOf files (files.filterMap ChangedFile.lockFile?) := by
  -- One constructor of the relation for each way the selection treats a file.
  induction files with
  | nil => exact .nil
  | cons f files ih =>
    rw [List.filterMap_cons, ChangedFile.lockFile?]
    by_cases hstatus : f.status = .removed
    · rw [if_pos hstatus]
      exact .removed hstatus ih
    · rw [if_neg hstatus]
      cases hformat : LockFormat.ofPath? f.path with
      | none => exact .other hformat ih
      | some format => exact .lockFile hstatus hformat (baseStands_basePath? hstatus format) ih

/-- The texts that are read for the lock files among changed files. -/
def lockFileReads (files : List ChangedFile) : List (Side × String) :=
  (files.filterMap ChangedFile.lockFile?).flatMap LockFilePlace.reads

section Host

variable {registry : PackageRegistry (StateM σ)} {host : CodeHost (StateM σ)}
  {settings : ScanSettings} {id : PullRequestId} {pull : PullRequest} {files : List ChangedFile}
  {s s₁ s₂ : σ}

namespace CodeHost

/-- The code host answers with the pull request and the files it changes, beginning in the first
state and ending in the last. -/
def Lists (host : CodeHost (StateM σ)) (id : PullRequestId) (s : σ) (pull : PullRequest)
    (files : List ChangedFile) (s₂ : σ) : Prop :=
  ∃ s₁, host.pullRequest id s = (.ok pull, s₁) ∧ host.changedFiles id s₁ = (.ok files, s₂)

/-- Reads a file at one of the two revisions of a pull request. -/
def readAt (host : CodeHost (StateM σ)) (id : PullRequestId) (pull : PullRequest) (side : Side)
    (path : String) : StateM σ (Except ScanError String) :=
  host.requireContent id.repository path (side.revision pull.base pull.head)

end CodeHost

/-- The question that reads a file at one of the two revisions of a pull request. -/
def readCall (id : PullRequestId) (pull : PullRequest) : Side × String → SourceCall
  | (side, path) => .fileContent id.repository path (side.revision pull.base pull.head)

/-- The questions that come first in a scan of a pull request. -/
def openingCalls (id : PullRequestId) : List SourceCall :=
  [.pullRequest id, .changedFiles id]

theorem pullRequestLockFiles_of_unknown {e : ScanError}
    (hpull : host.pullRequest id s = (.error e, s₁)) :
    pullRequestLockFiles host.logged id [] s = ((.error e, [.pullRequest id]), s₁) := by
  rw [pullRequestLockFiles, CodeHost.logged, (Logs.of_call _ _).bind_apply, hpull]
  rfl

theorem pullRequestLockFiles_of_unlisted {e : ScanError}
    (hpull : host.pullRequest id s = (.ok pull, s₁))
    (hfiles : host.changedFiles id s₁ = (.error e, s₂)) :
    pullRequestLockFiles host.logged id [] s = ((.error e, openingCalls id), s₂) := by
  rw [pullRequestLockFiles, CodeHost.logged, (Logs.of_call _ _).bind_apply, hpull]
  dsimp only
  rw [(Logs.of_call _ _).bind_apply, hfiles]
  rfl

/-- Once the files are listed, the lock files among them are read. -/
theorem pullRequestLockFiles_of_lists (h : host.Lists id s pull files s₂) :
    pullRequestLockFiles host.logged id [] s =
      readLockFiles (fun side path => host.logged.requireContent id.repository path
        (side.revision pull.base pull.head)) (files.filterMap ChangedFile.lockFile?)
        (openingCalls id) s₂ := by
  obtain ⟨s₁, hpull, hfiles⟩ := h
  rw [pullRequestLockFiles, CodeHost.logged, (Logs.of_call _ _).bind_apply, hpull]
  dsimp only
  rw [(Logs.of_call _ _).bind_apply, hfiles]
  rfl

theorem readAt_logs (host : CodeHost (StateM σ)) (id : PullRequestId) (pull : PullRequest)
    (side : Side) (path : String) :
    Logs (host.logged.requireContent id.repository path (side.revision pull.base pull.head))
      (host.readAt id pull side path) fun _ => [readCall id pull (side, path)] :=
  CodeHost.requireContent_logs _ _ _ _

/-- What is read is put together once all of it is there. -/
theorem pullRequestLockFiles_of_answered {texts : List String} {s₃ : σ}
    (hlists : host.Lists id s pull files s₂)
    (hread : Answered (host.readAt id pull) (lockFileReads files) s₂ texts s₃) :
    pullRequestLockFiles host.logged id [] s =
      ((.ok (changesWith (files.filterMap ChangedFile.lockFile?) texts),
        openingCalls id ++ (lockFileReads files).map (readCall id pull)), s₃) := by
  rw [pullRequestLockFiles_of_lists hlists, hread.readLockFiles_logged (readAt_logs host id pull)]
  rfl

theorem pullRequestLockFiles_of_fails {before after : List (Side × String)} {side : Side}
    {path : String} {texts : List String} {e : ScanError} {s₃ s₄ : σ}
    (hlists : host.Lists id s pull files s₂)
    (hreads : lockFileReads files = before ++ (side, path) :: after)
    (hbefore : Answered (host.readAt id pull) before s₂ texts s₃)
    (hfails : host.readAt id pull side path s₃ = (.error e, s₄)) :
    pullRequestLockFiles host.logged id [] s =
      ((.error e, openingCalls id ++ (before ++ [(side, path)]).map (readCall id pull)), s₄) := by
  rw [pullRequestLockFiles_of_lists hlists,
    hbefore.readLockFiles_logged_of_error hreads hfails (readAt_logs host id pull)]

variable (host id pull) in
/-- The code host answers reads with texts one after the other, beginning in the first state and
ending in the last. -/
inductive Served : List (Side × String) → σ → List String → σ → Prop
  | nil (s : σ) : Served [] s [] s
  | cons {side : Side} {path text : String} {reads : List (Side × String)} {texts : List String}
      {s s₁ s₂ : σ}
      (first : host.fileContent id.repository path (side.revision pull.base pull.head) s =
        (.ok (some text), s₁))
      (rest : Served reads s₁ texts s₂) : Served ((side, path) :: reads) s (text :: texts) s₂

theorem served_of_answered {reads : List (Side × String)} {texts : List String}
    (h : Answered (host.readAt id pull) reads s texts s₁) :
    Served host id pull reads s texts s₁ := by
  induction h with
  | nil s => exact .nil s
  | cons first _ ih => exact .cons (CodeHost.fileContent_of_requireContent first) ih

variable (registry host settings id s) in
/-- How a scan of a pull request goes that begins in the state `s`: its answer, the questions it
asks, and the state it leaves. -/
inductive PullRequestScan : (Except ScanError ScanResult × List SourceCall) × σ → Prop
  /-- The pull request is not found. -/
  | unknown {e : ScanError} {s₁ : σ} (hpull : host.pullRequest id s = (.error e, s₁)) :
    PullRequestScan ((.error e, [.pullRequest id]), s₁)
  /-- The files that it changes are not listed. -/
  | unlisted {pull : PullRequest} {e : ScanError} {s₁ s₂ : σ}
      (hpull : host.pullRequest id s = (.ok pull, s₁))
      (hfiles : host.changedFiles id s₁ = (.error e, s₂)) :
    PullRequestScan ((.error e, openingCalls id), s₂)
  /-- A text cannot be read, after others have been. -/
  | unreadable {pull : PullRequest} {files : List ChangedFile} {places : List LockFilePlace}
      {texts : List String} {side : Side} {path : String} {before after : List (Side × String)}
      {e : ScanError} {s₂ s₃ s₄ : σ} (hlists : host.Lists id s pull files s₂)
      (hplaces : LockFilesOf files places)
      (hreads : places.flatMap LockFilePlace.reads = before ++ (side, path) :: after)
      (hbefore : Served host id pull before s₂ texts s₃)
      (hfile : host.fileContent id.repository path (side.revision pull.base pull.head) s₃ =
        (.error e, s₄)) :
    PullRequestScan
      ((.error e, openingCalls id ++ (before ++ [(side, path)]).map (readCall id pull)), s₄)
  /-- A file is not there, after others have been read. -/
  | missing {pull : PullRequest} {files : List ChangedFile} {places : List LockFilePlace}
      {texts : List String} {side : Side} {path : String} {before after : List (Side × String)}
      {s₂ s₃ s₄ : σ} (hlists : host.Lists id s pull files s₂)
      (hplaces : LockFilesOf files places)
      (hreads : places.flatMap LockFilePlace.reads = before ++ (side, path) :: after)
      (hbefore : Served host id pull before s₂ texts s₃)
      (hfile : host.fileContent id.repository path (side.revision pull.base pull.head) s₃ =
        (.ok none, s₄)) :
    PullRequestScan
      ((.error (.notFound
          s!"{id.repository.label}/{path} at {side.revision pull.base pull.head}"),
        openingCalls id ++ (before ++ [(side, path)]).map (readCall id pull)), s₄)
  /-- All is read, and then the lock files are scanned. -/
  | complete {pull : PullRequest} {files : List ChangedFile} {places : List LockFilePlace}
      {texts : List String} {answer : Except ScanError ScanResult} {asked : List SourceCall}
      {s₂ s₃ s₄ : σ} (hlists : host.Lists id s pull files s₂)
      (hplaces : LockFilesOf files places)
      (hread : Served host id pull (places.flatMap LockFilePlace.reads) s₂ texts s₃)
      (hscan : scanLockFiles registry settings (changesWith places texts) s₃ = (answer, s₄))
      (hasked : ∀ call ∈ asked, call.AsksRegistry) :
    PullRequestScan
      ((answer, openingCalls id ++ (places.flatMap LockFilePlace.reads).map (readCall id pull)
        ++ asked), s₄)

theorem scanPullRequest_of_error {log : List SourceCall} {e : ScanError}
    (h : pullRequestLockFiles host.logged id [] s = ((.error e, log), s₁)) :
    scanPullRequest registry.logged host.logged settings id [] s = ((.error e, log), s₁) := by
  rw [scanPullRequest, logged_bind_apply, h]
  rfl

theorem scanPullRequest_of_ok {log : List SourceCall} {changes : List LockFileChange}
    (h : pullRequestLockFiles host.logged id [] s = ((.ok changes, log), s₁)) :
    scanPullRequest registry.logged host.logged settings id [] s =
      scanLockFiles registry.logged settings changes log s₁ := by
  rw [scanPullRequest, logged_bind_apply, h]

/-- The log changes nothing about the lock files of a pull request. -/
theorem exists_pullRequestLockFiles_logs (host : CodeHost (StateM σ)) (id : PullRequestId) :
    ∃ calls, Logs (pullRequestLockFiles host.logged id) (pullRequestLockFiles host id) calls := by
  -- The calls before the reads are made in sequence, each failure ending the run.
  refine Logs.exists_bind ⟨_, .of_call _ _⟩ fun pull => ?_
  cases pull with
  | error e => exact ⟨_, .of_pure _⟩
  | ok pull =>
    refine Logs.exists_bind ⟨_, .of_call _ _⟩ fun files => ?_
    cases files with
    | error e => exact ⟨_, .of_pure _⟩
    | ok files =>
      exact exists_readLockFiles_logs (fun side path => ⟨_, readAt_logs host id pull side path⟩) _

/-- The log changes nothing about the scan. -/
theorem exists_scanPullRequest_logs (registry : PackageRegistry (StateM σ))
    (host : CodeHost (StateM σ)) (settings : ScanSettings) (id : PullRequestId) :
    ∃ calls, Logs (scanPullRequest registry.logged host.logged settings id)
      (scanPullRequest registry host settings id) calls := by
  refine Logs.exists_bind (exists_pullRequestLockFiles_logs host id) fun changes => ?_
  cases changes with
  | error e => exact ⟨_, .of_pure _⟩
  | ok changes =>
    obtain ⟨calls, -, hscan⟩ := scanLockFiles_logs registry settings changes
    exact ⟨calls, hscan⟩

/-- A scan of a pull request reads all its inputs before it asks the registry, and the first of them
that cannot be read ends it. The log changes nothing about the scan. -/
theorem scanPullRequest_course (registry : PackageRegistry (StateM σ)) (host : CodeHost (StateM σ))
    (settings : ScanSettings) (id : PullRequestId) (s : σ) :
    let run := scanPullRequest registry.logged host.logged settings id [] s
    PullRequestScan registry host settings id s run ∧
      (run.1.1, run.2) = scanPullRequest registry host settings id s := by
  obtain ⟨calls, hlogged⟩ := exists_scanPullRequest_logs registry host settings id
  refine ⟨?_, by rw [hlogged]; rfl⟩
  -- One case for each question to the code host, in the order in which they are asked.
  cases hpull : host.pullRequest id s with | mk answer s₁ =>
  cases answer with
  | error e =>
    rw [scanPullRequest_of_error (pullRequestLockFiles_of_unknown hpull)]
    exact .unknown hpull
  | ok pull =>
    cases hfiles : host.changedFiles id s₁ with | mk answer s₂ =>
    cases answer with
    | error e =>
      rw [scanPullRequest_of_error (pullRequestLockFiles_of_unlisted hpull hfiles)]
      exact .unlisted hpull hfiles
    | ok files =>
      have hlists : host.Lists id s pull files s₂ := ⟨s₁, hpull, hfiles⟩
      have hplaces := lockFilesOf_filterMap files
      rcases exists_answered_or_fails (host.readAt id pull) (lockFileReads files) s₂ with
        ⟨texts, s₃, hread⟩ | ⟨before, side, path, after, texts, s₃, e, s₄, hreads, hbefore, hfails⟩
      · obtain ⟨asked, hregistry, hlogs⟩ := scanLockFiles_logs registry settings
          (changesWith (files.filterMap ChangedFile.lockFile?) texts)
        rw [scanPullRequest_of_ok (pullRequestLockFiles_of_answered hlists hread), hlogs]
        exact .complete hlists hplaces (served_of_answered hread) rfl (hregistry s₃)
      · rw [scanPullRequest_of_error (pullRequestLockFiles_of_fails hlists hreads hbefore hfails)]
        have hbefore := served_of_answered hbefore
        -- There is no text because the code host failed, or because it has no such file.
        rcases CodeHost.requireContent_eq_error hfails with hfile | ⟨hfile, rfl⟩
        · exact .unreadable hlists hplaces hreads hbefore hfile
        · exact .missing hlists hplaces hreads hbefore hfile

end Host

/-- Of a lock file that is new, one that has moved and one that is gone, beside a file of no use,
the new one is read at the head and the one that has moved on both sides. Its base revision is
missing, which ends the scan; once it is there, the scan goes on to the registry. -/
theorem scanPullRequest_course_of_rename :
    let files : List ChangedFile := [⟨"README.md", .modified, none⟩, ⟨"yarn.lock", .added, none⟩,
      ⟨"old/pnpm-lock.yaml", .removed, none⟩, ⟨"app/yarn.lock", .renamed, some "web/yarn.lock"⟩]
    let text := "lodash@4:\n  version 4.17.21\n"
    let host (base : Option String) : CodeHost (StateM Unit) :=
      { pullRequest := fun _ => return .ok ⟨1, "head", "base"⟩
        changedFiles := fun _ => return .ok files
        fileContent := fun _ _ revision =>
          return .ok (if revision = "base" then base else some text) }
    let id : PullRequestId := ⟨⟨"a", "b"⟩, 1⟩
    let run (base : Option String) :=
      scanPullRequest PackageRegistry.empty.logged (host base).logged default id [] ()
    let reads : List SourceCall := [.pullRequest id, .changedFiles id,
      .fileContent id.repository "yarn.lock" "head",
      .fileContent id.repository "app/yarn.lock" "head",
      .fileContent id.repository "web/yarn.lock" "base"]
    PullRequestScan PackageRegistry.empty (host none) default id () (run none) ∧
      run none = ((.error (.notFound "a/b/web/yarn.lock at base"), reads), ()) ∧
      PullRequestScan PackageRegistry.empty (host (some text)) default id () (run (some text)) ∧
      (run (some text)).1.2 = reads ++ [.metadata "lodash"] := by
  intro files text host id run reads
  refine ⟨(scanPullRequest_course PackageRegistry.empty (host none) default id ()).1, ?_,
    (scanPullRequest_course PackageRegistry.empty (host (some text)) default id ()).1, ?_⟩
  · rfl
  · decide +kernel

end DepTriage
