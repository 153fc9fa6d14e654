import DepTriage.GitHub.Host
import DepTriage.Proofs.Http.Server
import DepTriage.Proofs.Report.Saved
import Mathlib.Data.List.TakeDrop

/-!
# Pages of changed files

The files that a pull request changes are listed page by page, and a page is asked for again while
it fails for a passing reason. The first page that is not full ends the listing, and so does one
that fails for good.

## Key results

- `exists_tries`: how often each page is asked for, and what comes of it
- `pagesFrom_eq`: the pages up to the one that ends the listing, joined in their order
- `changedFiles_joins_pages`: a whole listing; if each page is a slice of a list, it is that list
- `changedFiles_capped_iff`: what a host with a greatest page size leaves of a list
-/

namespace DepTriage

open Http

/-! ## Changed files as documents -/

theorem FileStatus.ofLabel?_label (s : FileStatus) : FileStatus.ofLabel? s.label = some s := by
  cases s <;> rfl

namespace ChangedFile

theorem isPlain_toJson (f : ChangedFile) : f.toJson.IsPlain := by
  refine .object ?_
  cases f.previous <;> simp [Json.IsPlain.string]

theorem ofJson?_toJson (f : ChangedFile) : ChangedFile.ofJson? f.toJson = some f := by
  obtain ⟨path, status, previous⟩ := f
  cases previous <;> simp [ofJson?, toJson, Json.record?, Json.field?, Json.required?, Json.string?,
    Json.variant?, Json.withDefault?, Json.optional?, FileStatus.ofLabel?_label]

end ChangedFile

namespace GitHubClient

/-! ## Attempts at a page -/

section Attempts

variable (client : GitHubClient (StateM (List Event))) (id : PullRequestId)

/-- Where a page is. -/
def pageUrl (number : Nat) : String :=
  s!"{client.repositoryUrl id.repository}/pulls/{id.number}/files"
    ++ s!"?per_page={client.pageSize}&page={number}"

/-- One attempt at a page. -/
def pageOnce (number : Nat) : StateM (List Event) (Except ScanError (List ChangedFile)) :=
  client.document s!"changed files of {id.label} (page {number})" (client.pageUrl id number)
    (Json.list? ChangedFile.ofJson?)

/-- What so many attempts at a page add to a log. -/
def attempts (number count : Nat) : List Event :=
  (List.replicate count (asked (client.pageUrl id number) (client.headers documentType))).flatten

/-- The outcome of an attempt at a page that is turned to after a log. The first attempt has the
number 1. -/
def attemptAt (log : List Event) (number attempt : Nat) : Except ScanError (List ChangedFile) :=
  (client.pageOnce id number (log ++ client.attempts id number (attempt - 1))).1

/-- The log when a page is turned to, if `tries` tells how often each page is asked for. -/
def logBefore (log : List Event) (tries : Nat → Nat) (number : Nat) : List Event :=
  log ++ (List.range' 1 (number - 1)).flatMap fun p => client.attempts id p (tries p)

/-- What comes of a page, if `tries` tells how often each page is asked for. -/
def pageOutcome (log : List Event) (tries : Nat → Nat) (number : Nat) :
    Except ScanError (List ChangedFile) :=
  client.attemptAt id (client.logBefore id log tries number) number (tries number)

/-- Each page is asked for as often as `tries` tells, when those before it have been turned to. -/
def TriesPages (log : List Event) (tries : Nat → Nat) : Prop :=
  ∀ p, 0 < p →
    client.retryPolicy.EndsAt (client.attemptAt id (client.logBefore id log tries p) p) (tries p) ∧
    client.page id p (client.logBefore id log tries p) =
      (client.pageOutcome id log tries p, client.logBefore id log tries (p + 1))

variable {client id} {server : Server}

/-- A page is asked for until an attempt ends its run. -/
theorem exists_page_eq (hserver : client.http = server.transport) (number : Nat)
    (log : List Event) :
    ∃ k, client.retryPolicy.EndsAt (client.attemptAt id log number) k ∧
      client.page id number log =
        (client.attemptAt id log number k, log ++ client.attempts id number k) := by
  have honce : Adds (client.pageOnce id number)
      (asked (client.pageUrl id number) (client.headers documentType)) :=
    document_adds hserver _ _ _
  obtain ⟨k, hends, hrun⟩ := exists_run_transport server client.retryPolicy honce log
  have hpos := hends.pos
  have hindex : k - 1 + 1 = k := by omega
  -- Pages are retried at once, so only their requests are logged.
  have himmediate : client.retryPolicy.backoff = .immediate := rfl
  simp only [tries_of_immediate himmediate] at hends hrun
  refine ⟨k, hends, ?_⟩
  rw [page, hserver]
  refine hrun.trans (Prod.ext rfl ?_)
  rw [← List.flatten_concat, ← List.replicate_succ', hindex]
  rfl

variable (client id) in
/-- The log after so many pages. -/
def logAfterPages (log : List Event) : (made : Nat) → List Event
  | 0 => log
  | made + 1 => (client.page id (made + 1) (logAfterPages log made)).2

theorem logBefore_one (log : List Event) (tries : Nat → Nat) :
    client.logBefore id log tries 1 = log :=
  List.append_nil log

theorem logBefore_succ (log : List Event) (tries : Nat → Nat) (made : Nat) :
    client.logBefore id log tries (made + 2) =
      client.logBefore id log tries (made + 1) ++
        client.attempts id (made + 1) (tries (made + 1)) := by
  have hrange : List.range' 1 (made + 1) = List.range' 1 made ++ [made + 1] := by
    rw [List.range'_1_concat, Nat.add_comm 1 made]
  show log ++ (List.range' 1 (made + 1)).flatMap _ = log ++ (List.range' 1 made).flatMap _ ++ _
  rw [hrange, List.flatMap_append, List.flatMap_singleton, List.append_assoc]

variable (id) in
/-- **Each page is asked for until an attempt ends its run, and only then the next one.** -/
theorem exists_tries (hserver : client.http = server.transport) (log : List Event) :
    ∃ tries : Nat → Nat, client.TriesPages id log tries := by
  choose tries hends hpage using fun p : Nat =>
    exists_page_eq hserver p (client.logAfterPages id log (p - 1))
  -- What each page is asked for adds up to the log that the pages leave behind.
  have hlog (made : Nat) :
      client.logBefore id log tries (made + 1) = client.logAfterPages id log made := by
    induction made with
    | zero => exact logBefore_one log tries
    | succ made ih =>
      rw [logBefore_succ, ih, logAfterPages]
      exact (congrArg Prod.snd (hpage (made + 1))).symm
  refine ⟨tries, fun p hp => ?_⟩
  obtain ⟨made, rfl⟩ : ∃ made, p = made + 1 := ⟨p - 1, by omega⟩
  rw [pageOutcome, logBefore_succ, hlog]
  exact ⟨hends (made + 1), hpage (made + 1)⟩

end Attempts

/-! ## Listings -/

section Listings

variable {client : GitHubClient (StateM (List Event))} {id : PullRequestId} {log : List Event}
  {tries : Nat → Nat}

/-- A page that is not the last one: it is there, and it holds as many files as there is room
for. -/
def IsFull (size : Nat) (outcome : Except ScanError (List ChangedFile)) : Prop :=
  ∃ files, outcome = .ok files ∧ size ≤ files.length

/-- The pages from the one behind `made` others on, up to the first that is not full. -/
theorem pagesFrom_eq (htries : client.TriesPages id log tries)
    {files : Nat → List ChangedFile} {last : Nat}
    (hlast : ¬IsFull client.pageSize (client.pageOutcome id log tries last)) {bound made : Nat}
    (hmade : made < last) (hbound : last ≤ made + bound)
    (hfull : ∀ p, made < p → p < last →
      client.pageOutcome id log tries p = .ok (files p) ∧ client.pageSize ≤ (files p).length) :
    client.pagesFrom id bound (made + 1) (client.logBefore id log tries (made + 1)) =
      ((client.pageOutcome id log tries last).map fun rest =>
          (List.range' (made + 1) (last - (made + 1))).flatMap files ++ rest,
        client.logBefore id log tries (last + 1)) := by
  -- By induction on the pages that may still be turned to.
  induction bound generalizing made with
  | zero => omega
  | succ bound ih =>
    rw [pagesFrom, bind_apply, (htries (made + 1) (by omega)).2]
    dsimp only
    by_cases hnext : made + 1 = last
    · rw [hnext, Nat.sub_self]
      cases hrest : client.pageOutcome id log tries last with
      | error e => rfl
      | ok rest =>
        have hshort : rest.length < client.pageSize := by
          by_contra hge
          exact hlast ⟨rest, hrest, by omega⟩
        dsimp only
        rw [if_pos hshort]
        rfl
    · -- The files of a full page stand in front of those on the pages behind it.
      obtain ⟨hfiles, hsize⟩ := hfull (made + 1) (by omega) (by omega)
      have hrange : List.range' (made + 1) (last - (made + 1)) =
          (made + 1) :: List.range' (made + 1 + 1) (last - (made + 1 + 1)) := by
        have hcount : last - (made + 1) = last - (made + 1 + 1) + 1 := by omega
        rw [hcount, List.range'_succ]
      rw [hfiles]
      dsimp only
      rw [if_neg (by omega), bind_apply,
        ih (by omega) (by omega) fun p hp => hfull p (by omega), hrange, List.flatMap_cons]
      cases client.pageOutcome id log tries last with
      | error e => rfl
      | ok rest => exact Prod.ext (congrArg Except.ok (List.append_assoc ..).symm) rfl

/-- A listing ends with the first page that is not full, if it has a number. -/
theorem changedFiles_eq (htries : client.TriesPages id log tries)
    {files : Nat → List ChangedFile} {last : Nat} (hpos : 0 < last) (hle : last ≤ lastPage)
    (hlast : ¬IsFull client.pageSize (client.pageOutcome id log tries last))
    (hfull : ∀ p, 0 < p → p < last →
      client.pageOutcome id log tries p = .ok (files p) ∧ client.pageSize ≤ (files p).length) :
    client.changedFiles id log =
      ((client.pageOutcome id log tries last).map
          ((List.range' 1 (last - 1)).flatMap files ++ ·),
        client.logBefore id log tries (last + 1)) := by
  have hpages := pagesFrom_eq htries hlast hpos (by omega : last ≤ 0 + lastPage) hfull
  rw [logBefore_one] at hpages
  exact hpages

end Listings

/-! ## Slices -/

section Slices

/-- The part of a list that stands on a page, if each page has room for `size` files. -/
def slice (size : Nat) (files : List ChangedFile) (number : Nat) : List ChangedFile :=
  (files.drop ((number - 1) * size)).take size

theorem length_slice (size : Nat) (files : List ChangedFile) (made : Nat) :
    (slice size files (made + 1)).length = min size (files.length - made * size) := by
  rw [slice, List.length_take, List.length_drop, Nat.add_sub_cancel]

/-- The first pages hold the first part of the list. -/
theorem flatMap_slice (size : Nat) (files : List ChangedFile) (made : Nat) :
    (List.range' 1 made).flatMap (slice size files) = files.take (made * size) := by
  induction made with
  | zero => rw [Nat.zero_mul, List.take_zero]; rfl
  | succ made ih =>
    rw [List.range'_1_concat, List.flatMap_append, List.flatMap_singleton, ih, slice,
      Nat.add_comm 1, Nat.add_sub_cancel, Nat.succ_mul, List.take_add]

/-- All pages up to the first that is not full hold the whole list. -/
theorem flatMap_slice_append (size : Nat) (files : List ChangedFile) {made : Nat}
    (h : files.length ≤ (made + 1) * size) :
    (List.range' 1 made).flatMap (slice size files) ++ slice size files (made + 1) = files := by
  rw [flatMap_slice, slice, Nat.add_sub_cancel, ← List.take_add, ← Nat.succ_mul]
  exact List.take_of_length_le h

variable {client : GitHubClient (StateM (List Event))} {server : Server} {id : PullRequestId}
  {size : Nat} {files : List ChangedFile} {log : List Event} {tries : Nat → Nat}

/-- Each page, up to the first that has room left, is the slice of its number. An attempt at it may
fail for a passing reason, but so many do not that no retry is left. -/
def ServesSlices (client : GitHubClient (StateM (List Event))) (id : PullRequestId) (size : Nat)
    (files : List ChangedFile) : Prop :=
  ∀ log p, 0 < p → p ≤ files.length / size + 1 →
    ∃ k, 0 < k ∧ k ≤ max client.settings.maxRetries 1 ∧
      (∀ i, 0 < i → i < k → ∃ what message,
        client.attemptAt id log p i = .error (.transient what message)) ∧
      client.attemptAt id log p k = .ok (slice size files p)

/-- However often a page fails at first, in the end its slice is there. -/
theorem ServesSlices.pageOutcome_eq (h : client.ServesSlices id size files)
    (htries : client.TriesPages id log tries) {p : Nat} (hp : 0 < p)
    (hle : p ≤ files.length / size + 1) :
    client.pageOutcome id log tries p = .ok (slice size files p) := by
  have hends := (htries p hp).1
  rw [pageOutcome]
  generalize client.logBefore id log tries p = log at hends ⊢
  obtain ⟨first, hpos, hbudget, hfails, hserved⟩ := h log p hp hle
  have hattempts : max client.retryPolicy.maxAttempts 1 = max client.settings.maxRetries 1 := by
    show max (max client.settings.maxRetries 1) 1 = _
    omega
  -- The run ends with the first attempt that is answered, since all before it are tried again.
  have hfirst : client.retryPolicy.EndsAt (client.attemptAt id log p) first := by
    refine ⟨.inr ⟨hpos, ?_⟩, ?_⟩
    · rw [hserved]
      exact nofun
    · rintro i (rfl | ⟨hi, hfinal⟩)
      · omega
      · by_contra hlt
        obtain ⟨what, message, he⟩ := hfails i hi (by omega)
        rw [he] at hfinal
        exact absurd (hfinal _ rfl) (by simp [ScanError.isRetryable])
  rw [hends.unique hfirst, hserved]

/-- A list that is served in full pages is listed whole. -/
theorem changedFiles_of_full_slices (htries : client.TriesPages id log tries)
    (hserves : client.ServesSlices id client.pageSize files)
    (hcount : files.length / client.pageSize < lastPage) :
    client.changedFiles id log =
      (.ok files, client.logBefore id log tries (files.length / client.pageSize + 2)) := by
  have hpos : 0 < client.pageSize := by
    show 0 < max client.settings.perPage 1
    omega
  have hdiv := Nat.div_add_mod files.length client.pageSize
  have hmod := Nat.mod_lt files.length hpos
  have hserved (p : Nat) (hp : 0 < p) (hle : p ≤ files.length / client.pageSize + 1) :=
    hserves.pageOutcome_eq htries hp hle
  generalize files.length / client.pageSize = made at *
  -- What the full pages leave over is on the page behind them, which has room for more.
  have hlast : ¬IsFull client.pageSize (client.pageOutcome id log tries (made + 1)) := by
    rw [hserved (made + 1) (by omega) (by omega)]
    rintro ⟨rest, hrest, hsize⟩
    cases hrest
    rw [length_slice, Nat.mul_comm made] at hsize
    omega
  have hfull (p : Nat) (hp : 0 < p) (hlt : p < made + 1) :
      client.pageOutcome id log tries p = .ok (slice client.pageSize files p) ∧
      client.pageSize ≤ (slice client.pageSize files p).length := by
    refine ⟨hserved p hp (by omega), ?_⟩
    obtain ⟨before, rfl⟩ : ∃ before, p = before + 1 := ⟨p - 1, by omega⟩
    have hroom : (before + 1) * client.pageSize ≤ made * client.pageSize :=
      Nat.mul_le_mul_right _ (by omega)
    rw [Nat.succ_mul, Nat.mul_comm made] at hroom
    rw [length_slice]
    omega
  rw [changedFiles_eq htries (by omega) (by omega) hlast hfull,
    hserved (made + 1) (by omega) (by omega)]
  have hle : files.length ≤ (made + 1) * client.pageSize := by
    rw [Nat.succ_mul, Nat.mul_comm made]
    omega
  exact Prod.ext (congrArg Except.ok (flatMap_slice_append client.pageSize files hle)) rfl

/-- If pages hold less than they are asked to, the first one ends the listing. -/
theorem changedFiles_of_short_slices (htries : client.TriesPages id log tries)
    (hserves : client.ServesSlices id size files) (hsize : size < client.pageSize) :
    (client.changedFiles id log).1 = .ok (files.take size) := by
  have hserved := hserves.pageOutcome_eq htries Nat.one_pos (Nat.le_add_left 1 _)
  have hlast : ¬IsFull client.pageSize (client.pageOutcome id log tries 1) := by
    rw [hserved]
    rintro ⟨rest, hrest, hfull⟩
    cases hrest
    rw [length_slice] at hfull
    omega
  -- No page stands before the first one.
  have hfull (p : Nat) (hp : 0 < p) (hlt : p < 1) :
      client.pageOutcome id log tries p = .ok [] ∧
      client.pageSize ≤ ([] : List ChangedFile).length := by
    omega
  rw [changedFiles_eq htries Nat.one_pos (by decide) hlast hfull, hserved]
  show Except.ok (slice size files 1) = _
  rw [slice, Nat.sub_self, Nat.zero_mul, List.drop_zero]

end Slices

/-! ## A server of a list -/

section ListServer

/-- The number of a page, if it has one digit, with which its address ends. -/
def pageNumber (url : Url) : Nat :=
  ((url.query.getD []).getLastD '0').toNat - '0'.toNat

/-- A server of a list in slices. It is busy unless a request has just been made before. -/
def listServer (size : Nat) (files : List ChangedFile) : Server where
  answer log request :=
    .ok <| if log.getLast? = some (.request request) then
      .ofJson (.array ((slice size files (pageNumber request.url)).map ChangedFile.toJson))
    else ⟨503, none⟩

/-- So many files, each with a number. -/
def numberedFiles (count : Nat) : List ChangedFile :=
  (List.range count).map fun n => ⟨s!"src/{n}.js", .modified, none⟩

theorem length_numberedFiles (count : Nat) : (numberedFiles count).length = count := by
  rw [numberedFiles, List.length_map, List.length_range]

def webPull : PullRequestId :=
  ⟨⟨"acme", "web"⟩, 7⟩

/-- Who asks a server of so many files, with room for `size` of them on a page, for pages of
`perPage`. -/
def listClient (size count perPage : Nat) : GitHubClient (StateM (List Event)) :=
  (listServer size (numberedFiles count)).client { apiUrl := "http://api.test", perPage } none
    ContentStrategy.all

variable {size : Nat} {files : List ChangedFile} {client : GitHubClient (StateM (List Event))}
  {id : PullRequestId} {p : Nat} {request : Request} {log : List Event}

/-- Whoever asks a second time gets the slice. -/
theorem pageOnce_of_asked (hserver : client.http = (listServer size files).transport)
    (hrequest : request? (client.pageUrl id p) (client.headers documentType) = some request)
    (hnumber : pageNumber request.url = p) (hasked : log.getLast? = some (.request request)) :
    (client.pageOnce id p log).1 = .ok (slice size files p) := by
  have hanswer : (listServer size files).answer log request =
      .ok (.ofJson (.array ((slice size files p).map ChangedFile.toJson))) := by
    dsimp only [listServer]
    rw [if_pos hasked, hnumber]
  rw [pageOnce, document, hserver]
  exact Server.fetchDocument_of_document hrequest hanswer
    (isPlain_array_map fun f _ => f.isPlain_toJson) (list?_map fun f _ => f.ofJson?_toJson)

theorem pageOnce_of_busy (hserver : client.http = (listServer size files).transport)
    (hrequest : request? (client.pageUrl id p) (client.headers documentType) = some request)
    (hbusy : log.getLast? ≠ some (.request request)) :
    ∃ what message, (client.pageOnce id p log).1 = .error (.transient what message) := by
  have hanswer : (listServer size files).answer log request = .ok ⟨503, none⟩ := by
    dsimp only [listServer]
    rw [if_neg hbusy]
  rw [pageOnce, document, hserver]
  exact ⟨_, _, Server.fetchDocument_of_error
    (Server.fetch_of_refusal hrequest hanswer (by decide))⟩

/-- With one retry, both slices of a list that fills one page at most are there. -/
theorem servesSlices_of_listServer (hserver : client.http = (listServer size files).transport)
    (hretries : 2 ≤ client.settings.maxRetries) (hcount : files.length / size ≤ 1)
    (hfirst : (request? (client.pageUrl id 1) (client.headers documentType)).map
      (pageNumber ·.url) = some 1)
    (hsecond : (request? (client.pageUrl id 2) (client.headers documentType)).map
      (pageNumber ·.url) = some 2) :
    client.ServesSlices id size files := by
  intro log p hp hle
  obtain ⟨request, hrequest, hnumber⟩ : ∃ request,
      request? (client.pageUrl id p) (client.headers documentType) = some request ∧
      pageNumber request.url = p := by
    obtain rfl | rfl : p = 1 ∨ p = 2 := by omega
    · exact Option.map_eq_some_iff.1 hfirst
    · exact Option.map_eq_some_iff.1 hsecond
  have hattempts (count : Nat) :
      client.attempts id p count = List.replicate count (.request request) := by
    rw [attempts, asked, hrequest]
    exact List.flatten_replicate_singleton
  -- A request that the server has not just seen is refused, and the second attempt gets through.
  by_cases hasked : log.getLast? = some (.request request)
  · refine ⟨1, Nat.one_pos, by omega, fun i hi hlt => by omega, ?_⟩
    rw [attemptAt, hattempts]
    refine pageOnce_of_asked hserver hrequest hnumber ?_
    rw [Nat.sub_self, List.replicate_zero, List.append_nil, hasked]
  · refine ⟨2, Nat.two_pos, by omega, fun i hi hlt => ?_, ?_⟩
    · obtain rfl : i = 1 := by omega
      rw [attemptAt, hattempts, Nat.sub_self, List.replicate_zero, List.append_nil]
      exact pageOnce_of_busy hserver hrequest hasked
    · rw [attemptAt, hattempts]
      exact pageOnce_of_asked hserver hrequest hnumber List.getLast?_concat

end ListServer

/-! ## Whole listings -/

/-- **A host whose pages have room for 100 files at most tells of all files exactly if no more are
asked for at a time, or if one page has room for all of them.** If more are asked for, the first
page does not look full, and the listing ends with it. -/
theorem changedFiles_capped_iff (server : Server) (settings : GitHubSettings)
    (token : Option String) (strategies : List ContentStrategy) (id : PullRequestId)
    (files : List ChangedFile) (log : List Event)
    (hserves : (server.client settings token strategies).ServesSlices id
      (min (max settings.perPage 1) 100) files)
    (hcount : files.length / min (max settings.perPage 1) 100 < lastPage) :
    let listing := ((server.client settings token strategies).host.changedFiles id log).1
    (listing = .ok files ↔ settings.perPage ≤ 100 ∨ files.length ≤ 100) ∧
    (100 < settings.perPage → listing = .ok (files.take 100)) := by
  intro listing
  obtain ⟨tries, htries⟩ := exists_tries id (server.client_http settings token strategies) log
  -- Up to 100 files a page, the host gives as many as it is asked for.
  by_cases hper : settings.perPage ≤ 100
  · have hsize : min (max settings.perPage 1) 100 =
        (server.client settings token strategies).pageSize := by
      show _ = max settings.perPage 1
      omega
    rw [hsize] at hserves hcount
    have hlist := changedFiles_of_full_slices htries hserves hcount
    exact ⟨iff_of_true (congrArg Prod.fst hlist) (.inl hper), fun hgt => by omega⟩
  · have hsize : min (max settings.perPage 1) 100 = 100 := by omega
    rw [hsize] at hserves
    have hshort : 100 < (server.client settings token strategies).pageSize := by
      show 100 < max settings.perPage 1
      omega
    have hlist : listing = .ok (files.take 100) :=
      changedFiles_of_short_slices htries hserves hshort
    refine ⟨?_, fun _ => hlist⟩
    rw [hlist, Except.ok.injEq, List.take_eq_self_iff]
    exact (or_iff_right hper).symm

/-- With pages of 100 files, 101 files are all there. -/
theorem changedFiles_of_hundred_a_page :
    (listClient 100 101 100).ServesSlices webPull (min (max 100 1) 100) (numberedFiles 101) ∧
    (numberedFiles 101).length / min (max 100 1) 100 < lastPage ∧
    ((listClient 100 101 100).host.changedFiles webPull []).1 = .ok (numberedFiles 101) := by
  have hserves : (listClient 100 101 100).ServesSlices webPull 100 (numberedFiles 101) :=
    servesSlices_of_listServer rfl (by decide) (by rw [length_numberedFiles]) (by decide)
      (by decide)
  have hcount : (numberedFiles 101).length / 100 < lastPage := by
    rw [length_numberedFiles]
    decide
  exact ⟨hserves, hcount, (changedFiles_capped_iff (listServer 100 (numberedFiles 101))
    { apiUrl := "http://api.test", perPage := 100 } none ContentStrategy.all webPull
    (numberedFiles 101) [] hserves hcount).1.2 (.inl (by decide))⟩

/-- If pages of 101 files are asked for, the last one of 101 files is missing. -/
theorem changedFiles_misses_last :
    (listClient 100 101 101).ServesSlices webPull (min (max 101 1) 100) (numberedFiles 101) ∧
    ((listClient 100 101 101).host.changedFiles webPull []).1 = .ok (numberedFiles 100) ∧
    ((listClient 100 101 101).host.changedFiles webPull []).1 ≠ .ok (numberedFiles 101) := by
  have hserves : (listClient 100 101 101).ServesSlices webPull 100 (numberedFiles 101) :=
    servesSlices_of_listServer rfl (by decide) (by rw [length_numberedFiles]) (by decide)
      (by decide)
  obtain ⟨tries, htries⟩ := exists_tries webPull
    ((listServer 100 (numberedFiles 101)).client_http _ none ContentStrategy.all) []
  have hlist : ((listClient 100 101 101).host.changedFiles webPull []).1 =
      .ok ((numberedFiles 101).take 100) :=
    changedFiles_of_short_slices htries hserves (by decide)
  have htake : (numberedFiles 101).take 100 = numberedFiles 100 := by
    rw [numberedFiles, ← List.map_take, List.take_range]
    rfl
  rw [htake] at hlist
  refine ⟨hserves, hlist, ?_⟩
  rw [hlist]
  intro heq
  -- The two lists already differ in their lengths.
  have hlength := congrArg List.length (Except.ok.inj heq)
  rw [length_numberedFiles, length_numberedFiles] at hlength
  omega

end GitHubClient

end DepTriage
