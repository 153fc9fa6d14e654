import DepTriage.Proofs.Git.Checkout
import DepTriage.Proofs.LockFile.Change
import DepTriage.Proofs.Scan.PullRequest

/-!
# Pull requests and checkouts

The lock files of a pull request are the same whether a code host or a checkout tells of them, as
long as both list the same files and have the same contents.

## Key results

- `SameChange.scanPullRequest_agrees`: a scan through the code host scans what the checkout has
-/

namespace DepTriage

variable {σ τ : Type} {host : CodeHost (StateM σ)} {id : PullRequestId} {pull : PullRequest}
  {s : σ} {checkout : Checkout (StateM τ)} {base head : String} {t : τ} {files : List ChangedFile}
  {content : Side → String → String}

variable (host id pull s checkout base head t files content) in
/-- A code host in the state `s` and a checkout in the state `t` have the same change: they list the
same files in the same order, and they have the same contents for all that is read. -/
structure SameChange : Prop where
  lists : ∃ s₁, host.Lists id s pull files s₁
  prints : ∃ records parts t₁, List.Forall₂ Git.NameStatus.TellsOf records files ∧
    List.Forall₂ Git.NameStatus.Written records parts ∧
    checkout.Prints (Checkout.listingArguments base head) t
      (String.ofList (Git.terminated parts.flatten)) t₁
  /-- The code host has the contents. -/
  serves : ∀ place ∈ lockFileReads files, ∀ s₁,
    (host.fileContent id.repository place.2 (place.1.revision pull.base pull.head) s₁).1 =
      .ok (some (content place.1 place.2))
  /-- The checkout has the contents. -/
  shows : ∀ place ∈ lockFileReads files, ∀ t₁, ∃ t₂,
    checkout.Prints (Checkout.readArguments base head place) t₁ (content place.1 place.2) t₂

/-- The changes of the lock files among changed files, if files have these contents. -/
def lockFileChanges (files : List ChangedFile) (content : Side → (path : String) → String) :
    List LockFileChange :=
  (files.filterMap ChangedFile.lockFile?).map (LockFilePlace.change content)

/-- A lock file that is renamed is compared with the one that it was. -/
theorem mem_lockFileChanges_of_renamed {file : ChangedFile} {source : String} {format : LockFormat}
    (hfile : file ∈ files) (hstatus : file.status = .renamed)
    (hsource : file.previous = some source) (hformat : LockFormat.ofPath? file.path = some format)
    (hbefore : LockFormat.ofPath? source = some format) (content : Side → String → String) :
    ⟨file.path, format, some (content .base source), content .head file.path⟩ ∈
      lockFileChanges files content := by
  refine List.mem_map.2 ⟨⟨file.path, format, some source⟩, List.mem_filterMap.2 ⟨file, hfile, ?_⟩,
    rfl⟩
  rw [ChangedFile.lockFile?, hstatus, if_neg (by decide), hformat, Option.map_some,
    ChangedFile.basePath?, hstatus, hsource]
  simp [hbefore]

namespace SameChange

/-- The code host is asked for the pull request, for its files, and then for the contents. -/
theorem pullRequestLockFiles_eq
    (h : SameChange host id pull s checkout base head t files content) :
    ∃ s₁, pullRequestLockFiles host.logged id [] s = ((.ok (lockFileChanges files content),
      openingCalls id ++ (lockFileReads files).map (readCall id pull)), s₁) := by
  obtain ⟨s₁, hlists⟩ := h.lists
  -- Every place that is read has a content on the host, so no reading fails.
  have hanswers : ∀ place ∈ lockFileReads files, ∀ s,
      (host.readAt id pull place.1 place.2 s).1 = .ok (content place.1 place.2) := by
    intro place hplace s
    rw [CodeHost.readAt, CodeHost.requireContent_of_ok (Prod.ext (h.serves place hplace s) rfl)]
  obtain ⟨s₂, hread⟩ := exists_answered hanswers s₁
  refine ⟨s₂, ?_⟩
  rw [pullRequestLockFiles_of_answered hlists hread, lockFileReads, changesWith_map]
  rfl

/-- The checkout is asked for the listing, and then for the contents. -/
theorem lockFiles_eq (h : SameChange host id pull s checkout base head t files content) :
    ∃ t₁, checkout.logged.lockFiles base head [] t = ((.ok (lockFileChanges files content),
      Checkout.listingArguments base head ::
        (lockFileReads files).map (Checkout.readArguments base head)), t₁) := by
  obtain ⟨records, parts, t₁, htells, hwritten, hprints⟩ := h.prints
  -- The records and the changed files are the same lock files, so that the reads are the same.
  have hplaces := Git.NameStatus.filterMap_lockFile?_eq htells
  have hanswers : ∀ place ∈ lockFileReads files, ∀ t,
      (checkout.readAt base head place.1 place.2 t).1 = .ok (content place.1 place.2) := by
    intro place hplace t
    obtain ⟨t₁, hshows⟩ := h.shows place hplace t
    rw [Checkout.readAt, hshows.text_eq]
  obtain ⟨t₂, hread⟩ := exists_answered hanswers t₁
  rw [lockFileReads, ← hplaces] at hread
  refine ⟨t₂, ?_⟩
  rw [Checkout.lockFiles_of_answered (Checkout.records_of_prints hwritten hprints []) hread,
    hplaces, changesWith_map]
  rfl

/-- If a code host and a checkout have the same change, they make the same lock files of it, after
they have read the same places in the same order, and these are what a scan through the code host
scans. A lock file that is only renamed introduces nothing. -/
theorem scanPullRequest_agrees (registry : PackageRegistry (StateM σ)) (settings : ScanSettings)
    (h : SameChange host id pull s checkout base head t files content) :
    let changes := lockFileChanges files content
    let reads := lockFileReads files
    (∃ s₁ asked, pullRequestLockFiles host id s = (.ok changes, s₁) ∧
      scanPullRequest registry host settings id s = scanLockFiles registry settings changes s₁ ∧
      (scanPullRequest registry.logged host.logged settings id [] s).1.2 =
        openingCalls id ++ reads.map (readCall id pull) ++ asked ∧
      ∀ call ∈ asked, call.AsksRegistry) ∧
    (∃ t₁, checkout.lockFiles base head t = (.ok changes, t₁) ∧
      (checkout.logged.lockFiles base head [] t).1.2 =
        Checkout.listingArguments base head :: reads.map (Checkout.readArguments base head)) ∧
    ∀ file ∈ files, ∀ source format pinned, file.status = .renamed →
      file.previous = some source → LockFormat.ofPath? file.path = some format →
      LockFormat.ofPath? source = some format →
      content .base source = content .head file.path →
      format.read (content .head file.path) = .ok pinned →
      let change : LockFileChange :=
        ⟨file.path, format, some (content .base source), content .head file.path⟩
      change ∈ changes ∧
        ∃ introduced, change.introduced = .ok introduced ∧ introduced.toList = [] := by
  intro changes reads
  refine ⟨?_, ?_, ?_⟩
  -- Logging alters neither answers nor states, so that the plain run sees the same changes.
  · obtain ⟨s₁, hlogged⟩ := h.pullRequestLockFiles_eq
    obtain ⟨calls, hlogs⟩ := exists_pullRequestLockFiles_logs host id
    have hplain := hlogs.eq_of_logged hlogged
    obtain ⟨asked, hregistry, hscan⟩ := scanLockFiles_logs registry settings changes
    refine ⟨s₁, asked s₁, hplain, ?_, ?_, hregistry s₁⟩
    · rw [scanPullRequest, bind_apply, hplain]
    · rw [scanPullRequest_of_ok hlogged, hscan]
  · obtain ⟨t₁, hlogged⟩ := h.lockFiles_eq
    obtain ⟨calls, hlogs⟩ := checkout.exists_lockFiles_logs base head
    exact ⟨t₁, hlogs.eq_of_logged hlogged, by rw [hlogged]⟩
  -- A file that only moved has the same content on both sides and introduces nothing.
  · intro file hfile source format pinned hstatus hsource hformat hbefore hsame hread
    have hmem := mem_lockFileChanges_of_renamed hfile hstatus hsource hformat hbefore content
    rw [hsame] at hmem ⊢
    exact ⟨hmem, LockFileChange.introduced_of_eq hread⟩

end SameChange

/-- A lock file that moves, beside one that is new and one that is gone. -/
theorem scanPullRequest_agrees_on_rename :
    let text := "lodash@4:\n  version 4.17.21\n"
    let files : List ChangedFile := [⟨"app/yarn.lock", .renamed, some "web/yarn.lock"⟩,
      ⟨"yarn.lock", .added, none⟩, ⟨"old/pnpm-lock.yaml", .removed, none⟩]
    let parts := [[['R', '9', '8'], "web/yarn.lock".toList, "app/yarn.lock".toList],
      [['A'], "yarn.lock".toList], [['D'], "old/pnpm-lock.yaml".toList]]
    let host : CodeHost (StateM Unit) :=
      { pullRequest := fun _ => return .ok ⟨1, "head", "base"⟩
        changedFiles := fun _ => return .ok files
        fileContent := fun _ _ _ => return .ok (some text) }
    let checkout : Checkout (StateM Unit) :=
      { git := fun _ arguments =>
          return .ok ⟨0, (if arguments.head? = some "diff"
            then String.ofList (Git.terminated parts.flatten) else text).toUTF8, .empty⟩ }
    let registry := PackageRegistry.empty
    let changes : List LockFileChange :=
      [⟨"app/yarn.lock", .yarn, some text, text⟩, ⟨"yarn.lock", .yarn, none, text⟩]
    (checkout.lockFiles "base" "head" ()).1 = .ok changes ∧
      (checkout.logged.lockFiles "base" "head" [] ()).1.2 =
        [Checkout.listingArguments "base" "head", ["show", "head:app/yarn.lock"],
          ["show", "base:web/yarn.lock"], ["show", "head:yarn.lock"]] ∧
      (scanPullRequest registry host default ⟨⟨"a", "b"⟩, 1⟩ ()).1 =
        (scanLockFiles registry default changes ()).1 ∧
      let moved : LockFileChange := ⟨"app/yarn.lock", .yarn, some text, text⟩
      ∃ introduced, moved.introduced = .ok introduced ∧ introduced.toList = [] := by
  intro text files parts host checkout registry changes
  have hwritten : List.Forall₂ Git.NameStatus.Written
      [⟨'R', "app/yarn.lock", some "web/yarn.lock"⟩, ⟨'A', "yarn.lock", none⟩,
        ⟨'D', "old/pnpm-lock.yaml", none⟩] parts :=
    .cons (.two rfl (by decide) (by decide) (by decide))
      (.cons (.one rfl (by decide) (by decide)) (.cons (.one rfl (by decide) (by decide)) .nil))
  -- The checkout lists the three changes in its own words.
  have hsame : SameChange host ⟨⟨"a", "b"⟩, 1⟩ ⟨1, "head", "base"⟩ () checkout "base" "head" ()
      files fun _ _ => text := by
    refine ⟨⟨(), (), rfl, rfl⟩, ⟨_, parts, (), ?_, hwritten, .empty, rfl⟩, fun _ _ _ => rfl,
      fun _ _ _ => ⟨(), .empty, rfl⟩⟩
    exact .cons .renamed (.cons .added (.cons .removed .nil))
  -- The removed file is left out on both sides.
  have hchanges : lockFileChanges files (fun _ _ => text) = changes := by decide +kernel
  have hreads : lockFileReads files =
      [(.head, "app/yarn.lock"), (.base, "web/yarn.lock"), (.head, "yarn.lock")] := by
    decide +kernel
  obtain ⟨pinned, hread⟩ : ∃ pinned, LockFormat.yarn.read text = .ok pinned :=
    (show (⟨"yarn.lock", .yarn, none, text⟩ : LockFileChange).IsReadable by decide +kernel).1
  obtain ⟨⟨s₁, asked, -, hscan, -⟩, ⟨t₁, hlockFiles, hlog⟩, hrenamed⟩ :=
    hsame.scanPullRequest_agrees registry default
  have hmoved := hrenamed _ List.mem_cons_self "web/yarn.lock" .yarn pinned rfl rfl
    (by decide +kernel) (by decide +kernel) rfl hread
  rw [hchanges] at hscan hlockFiles
  rw [hreads] at hlog
  exact ⟨congrArg Prod.fst hlockFiles, hlog, congrArg Prod.fst hscan, hmoved.2⟩

end DepTriage
