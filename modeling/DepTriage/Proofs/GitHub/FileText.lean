import DepTriage.Proofs.GitHub.Objects

/-!
# Texts by several strategies

Strategies for the text of a file are tried one after the other. Whatever a server answers, the
first one that finds a text ends the search, and a strategy that fails counts like one that finds
nothing.

## Key results

- `contentByAny_cases`: how far a search gets, and what it has sent by then
- `contentBy_gitData`, `exists_contentBy_contentsApi`, `contentBy_rawMirror`: what each strategy
  makes of the answers of a server, and what it sends
- `fileContent_first_found`: the search of a code host, with what each of its strategies sends
-/

namespace DepTriage

open Http GitHub

namespace GitHubClient

/-! ## Searches -/

section Searches

variable (client : GitHubClient (StateM (List Event))) (r : Repository) (path revision : String)

/-- A strategy that is tried after a log finds no such file, or fails with some error. -/
def Misses (strategy : ContentStrategy) (log : List Event) : Prop :=
  (client.contentBy strategy r path revision log).1 = .ok none ∨
    ∃ e, (client.contentBy strategy r path revision log).1 = .error e

/-- The log after some strategies have been tried, one after the other. -/
def logAfter (strategies : List ContentStrategy) (log : List Event) : List Event :=
  strategies.foldl (fun log strategy => (client.contentBy strategy r path revision log).2) log

/-- The strategies, tried one after the other, all miss. -/
def AllMiss : List ContentStrategy → (log : List Event) → Prop
  | [], _ => True
  | strategy :: strategies, log =>
    client.Misses r path revision strategy log ∧
      AllMiss strategies (client.contentBy strategy r path revision log).2

variable {client r path revision}

theorem contentByAny_of_found {strategy : ContentStrategy} {strategies : List ContentStrategy}
    {log : List Event} {text : String}
    (h : (client.contentBy strategy r path revision log).1 = .ok (some text)) :
    client.contentByAny r path revision (strategy :: strategies) log =
      (some text, (client.contentBy strategy r path revision log).2) := by
  rw [contentByAny, bind_apply, h]
  rfl

theorem contentByAny_of_misses {strategy : ContentStrategy} {strategies : List ContentStrategy}
    {log : List Event} (h : client.Misses r path revision strategy log) :
    client.contentByAny r path revision (strategy :: strategies) log =
      client.contentByAny r path revision strategies
        (client.contentBy strategy r path revision log).2 := by
  rw [contentByAny, bind_apply]
  rcases h with h | ⟨e, h⟩
  · rw [h]
  · rw [h]

/-- A strategy finds a text, or it misses. -/
theorem found_or_misses (strategy : ContentStrategy) (log : List Event) :
    (∃ text, (client.contentBy strategy r path revision log).1 = .ok (some text)) ∨
      client.Misses r path revision strategy log := by
  unfold Misses
  match (client.contentBy strategy r path revision log).1 with
  | .ok (some text) => exact .inl ⟨text, rfl⟩
  | .ok none => exact .inr (.inl rfl)
  | .error e => exact .inr (.inr ⟨e, rfl⟩)

variable (client r path revision) in
/-- A search ends with the first strategy that finds a text, or it has tried all. -/
theorem contentByAny_cases (strategies : List ContentStrategy) (log : List Event) :
    (∃ before strategy after text, strategies = before ++ strategy :: after ∧
      client.AllMiss r path revision before log ∧
      (client.contentBy strategy r path revision
        (client.logAfter r path revision before log)).1 = .ok (some text) ∧
      client.contentByAny r path revision strategies log =
        (some text, client.logAfter r path revision (before ++ [strategy]) log)) ∨
    client.AllMiss r path revision strategies log ∧
      client.contentByAny r path revision strategies log =
        (none, client.logAfter r path revision strategies log) := by
  -- The first strategy either finds the text, which ends the search, or misses and leaves its log
  -- to the rest.
  induction strategies generalizing log with
  | nil => exact .inr ⟨trivial, rfl⟩
  | cons first strategies ih =>
    have hfirst : _ ∨ client.Misses r path revision first log := found_or_misses first log
    rcases hfirst with ⟨text, hfound⟩ | hmisses
    · exact .inl ⟨[], first, strategies, text, rfl, trivial, hfound, contentByAny_of_found hfound⟩
    · rw [contentByAny_of_misses hmisses]
      rcases ih (client.contentBy first r path revision log).2 with
        ⟨before, strategy, after, text, rfl, hbefore, hfound, hsearch⟩ | ⟨hall, hsearch⟩
      · exact .inl ⟨first :: before, strategy, after, text, rfl, ⟨hmisses, hbefore⟩, hfound,
          hsearch⟩
      · exact .inr ⟨⟨hmisses, hall⟩, hsearch⟩

/-- A search comes to nothing just when all its strategies miss. -/
theorem contentByAny_eq_none_iff (strategies : List ContentStrategy) (log : List Event) :
    (client.contentByAny r path revision strategies log).1 = none ↔
      client.AllMiss r path revision strategies log := by
  induction strategies generalizing log with
  | nil => exact iff_of_true rfl trivial
  | cons first strategies ih =>
    constructor
    -- A search that found nothing had its first strategy miss.
    · intro hnone
      rcases found_or_misses first log with ⟨text, hfound⟩ | hmisses
      · rw [contentByAny_of_found hfound] at hnone
        exact nomatch hnone
      · rw [contentByAny_of_misses hmisses] at hnone
        exact ⟨hmisses, (ih _).1 hnone⟩
    · rintro ⟨hmisses, hall⟩
      rw [contentByAny_of_misses hmisses]
      exact (ih _).2 hall

end Searches

/-! ## Strategies -/

section Strategies

variable {client : GitHubClient (StateM (List Event))} {server : Server} {r : Repository}
  {path revision : String}

/-- What a strategy makes of the outcome of its requests: a file that is not found is no failure. -/
def absentIfNotFound (outcome : Except ScanError (Option String)) :
    Except ScanError (Option String) :=
  match outcome with
  | .error e => if e.isNotFound then .ok none else .error e
  | .ok text => .ok text

theorem absentIfNotFound_bind {operation : StateM (List Event) (Except ScanError (Option String))}
    (log : List Event) :
    (operation >>= fun result => match result with
      | .ok text => pure (.ok text)
      | .error e => pure (if e.isNotFound then .ok none else .error e)) log =
      (absentIfNotFound (operation log).1, (operation log).2) := by
  rw [bind_apply]
  cases (operation log).1 <;> rfl

/-- Through the objects of the repository, the outcome of the walk is that of the strategy. -/
theorem contentBy_gitData (log : List Event) :
    client.contentBy .gitData r path revision log =
      (absentIfNotFound (client.viaGitData r path revision log).1,
        (client.viaGitData r path revision log).2) :=
  absentIfNotFound_bind log

theorem contentBy_contentsApi (log : List Event) :
    client.contentBy .contentsApi r path revision log =
      (absentIfNotFound ((client.viaContents r path revision log).1.map some),
        (client.viaContents r path revision log).2) :=
  absentIfNotFound_bind log

/-- Where the interface for contents has a file. -/
def contentsUrl (client : GitHubClient (StateM (List Event))) (r : Repository)
    (path revision : String) : String :=
  s!"{client.repositoryUrl r}/contents/{path}?ref={revision}"

/-- What one request to the interface for contents adds to a log. -/
def contentsAsked (client : GitHubClient (StateM (List Event))) (r : Repository)
    (path revision : String) : List Event :=
  asked (client.contentsUrl r path revision) (client.headers rawType)

/-- What happens in so many attempts to ask the interface for contents: the waits between them, and
the same request each time. -/
def contentsEvents (client : GitHubClient (StateM (List Event))) (r : Repository)
    (path revision : String) (attempts : Nat) : List Event :=
  tries client.contentsPolicy (client.contentsAsked r path revision) (attempts - 1)
    ++ client.contentsAsked r path revision

/-- The text that the interface for contents answers to an attempt; the attempts before it have been
made since the log. -/
def contentsAttempt (client : GitHubClient (StateM (List Event))) (server : Server)
    (r : Repository) (path revision : String) (log : List Event) (attempt : Nat) :
    Except ScanError String :=
  server.textAt s!"{r.label}/{path}@{revision}" (client.contentsUrl r path revision)
    (client.headers rawType)
    (log ++ tries client.contentsPolicy (client.contentsAsked r path revision) (attempt - 1))

/-- Where the mirror has a file. -/
def mirrorUrl (client : GitHubClient (StateM (List Event))) (r : Repository)
    (path revision : String) : String :=
  s!"{baseUrl client.settings.rawUrl}/{r.owner}/{r.name}/{revision}/{path}"

/-- The interface for contents is asked for the same again and again, as often as its policy allows
at most, and the last answer is the outcome. -/
theorem exists_contentBy_contentsApi (hserver : client.http = server.transport)
    (log : List Event) :
    ∃ k, client.contentsPolicy.EndsAt
        (client.contentsAttempt server r path revision log) k ∧
      0 < k ∧ k ≤ max client.settings.maxRetries 1 ∧
      client.contentBy .contentsApi r path revision log =
        (absentIfNotFound ((client.contentsAttempt server r path revision log k).map some),
          log ++ client.contentsEvents r path revision k) ∧
      requestsOf (client.contentsEvents r path revision k) =
        (List.replicate k (request? (client.contentsUrl r path revision)
          (client.headers rawType)).toList).flatten := by
  -- The policy counts the attempts; all of them ask the same address.
  have honce := text_adds hserver s!"{r.label}/{path}@{revision}"
    (client.contentsUrl r path revision) rawType
  obtain ⟨k, hends, hrun⟩ := exists_run_transport server client.contentsPolicy honce log
  simp only [text_apply hserver] at hends hrun
  have hpos := hends.pos
  have hindex : k - 1 + 1 = k := by omega
  have hattempts : k ≤ max (max client.settings.maxRetries 1) 1 := hends.le
  refine ⟨k, hends, hpos, by omega, ?_, ?_⟩
  · rw [contentBy_contentsApi, viaContents, hserver]
    -- `EndsAt` bounds by the larger of the limit and one, and the limit here is at least one
    -- already.
    exact congrArg (fun run => (absentIfNotFound (run.1.map some), run.2)) hrun
  · rw [contentsEvents, contentsAsked, requestsOf_append, requestsOf_tries, ← List.flatten_concat,
      ← List.replicate_succ', hindex, requestsOf_asked]

/-- The mirror is asked once, and its answer is the outcome. -/
theorem contentBy_rawMirror (hserver : client.http = server.transport) (log : List Event) :
    client.contentBy .rawMirror r path revision log =
      (absentIfNotFound ((server.textAt s!"raw {r.label}/{path}@{revision}"
          (client.mirrorUrl r path revision) (client.headers "*/*") log).map some),
        log ++ asked (client.mirrorUrl r path revision) (client.headers "*/*")) := by
  have hmirror : client.contentBy .rawMirror r path revision log =
      (absentIfNotFound ((client.viaMirror r path revision log).1.map some),
        (client.viaMirror r path revision log).2) := absentIfNotFound_bind log
  rw [hmirror, viaMirror, text_apply hserver]
  rfl

end Strategies

/-- **A search for a text tries strategies in their order.** Whatever a server answers, a host of
code returns the text of the first strategy that finds one; those before it have been tried once
each, and those behind it have sent nothing. It returns none if and only if each strategy fails or
finds nothing, and it never fails.

What a strategy finds is what the server answers it, and an answer that a file is not found is no
failure. The walk through the objects of a repository comes to the text at the path, if the server
tells of a repository; a request for an object that fails is the last one. The interface for
contents is sent the same request as often as retries are allowed at most, and the answer to the
last one is the outcome. The mirror is sent one request. -/
theorem fileContent_first_found (server : Server) (settings : GitHubSettings)
    (token : Option String) (strategies : List ContentStrategy) (r : Repository)
    (path revision : String) (log : List Event) :
    let client := server.client settings token strategies
    ((∃ before strategy after text, strategies = before ++ strategy :: after ∧
        client.AllMiss r path revision before log ∧
        (client.contentBy strategy r path revision
          (client.logAfter r path revision before log)).1 = .ok (some text) ∧
        client.host.fileContent r path revision log =
          (.ok (some text), client.logAfter r path revision (before ++ [strategy]) log)) ∨
      client.AllMiss r path revision strategies log ∧
        client.host.fileContent r path revision log =
          (.ok none, client.logAfter r path revision strategies log)) ∧
    ((client.host.fileContent r path revision log).1 = .ok none ↔
      client.AllMiss r path revision strategies log) ∧
    (∀ log, ∃ requests : List ObjectRequest,
      client.contentBy .gitData r path revision log =
        (absentIfNotFound (client.viaGitData r path revision log).1,
          log ++ requests.flatMap (client.objectEvents r)) ∧
      client.Answered r requests.dropLast log ∧
      ∀ hash entries, Serves client r revision hash entries →
        client.viaGitData r path revision log =
          client.performed r (textAt? (.tree entries) (components path))
            (walkRequests hash revision entries (components path)) log) ∧
    (∀ log, ∃ k,
      client.contentsPolicy.EndsAt (client.contentsAttempt server r path revision log) k ∧
      0 < k ∧ k ≤ max settings.maxRetries 1 ∧
      client.contentBy .contentsApi r path revision log =
        (absentIfNotFound ((client.contentsAttempt server r path revision log k).map some),
          log ++ client.contentsEvents r path revision k) ∧
      requestsOf (client.contentsEvents r path revision k) =
        (List.replicate k (request? (client.contentsUrl r path revision)
          (client.headers rawType)).toList).flatten) ∧
    ∀ log, client.contentBy .rawMirror r path revision log =
      (absentIfNotFound ((server.textAt s!"raw {r.label}/{path}@{revision}"
          (client.mirrorUrl r path revision) (client.headers "*/*") log).map some),
        log ++ asked (client.mirrorUrl r path revision) (client.headers "*/*")) := by
  intro client
  have hserver : client.http = server.transport := server.client_http settings token strategies
  have hhost : client.host.fileContent r path revision log =
      (.ok (client.contentByAny r path revision strategies log).1,
        (client.contentByAny r path revision strategies log).2) := rfl
  refine ⟨?_, ?_, fun log => ?_, exists_contentBy_contentsApi hserver,
    contentBy_rawMirror hserver⟩
  -- The search settles the two outcomes; what each strategy answers is said on its own below.
  · rw [hhost]
    rcases client.contentByAny_cases r path revision strategies log with
      ⟨before, strategy, after, text, hstrategies, hbefore, hfound, hsearch⟩ | ⟨hall, hsearch⟩
    · exact .inl ⟨before, strategy, after, text, hstrategies, hbefore, hfound, by rw [hsearch]⟩
    · exact .inr ⟨hall, by rw [hsearch]⟩
  · rw [hhost, Except.ok.injEq]
    exact contentByAny_eq_none_iff strategies log
  · obtain ⟨requests, hlog, hanswered⟩ := exists_viaGitData_log hserver path revision log
    refine ⟨requests, ?_, hanswered, fun hash entries hserves =>
      viaGitData_eq hserver hserves path log⟩
    rw [contentBy_gitData, hlog]

/-- A server that does not know the revision, is out of order where it has contents, and has the
file on its mirror. -/
def mirrorServer : Server where
  answer _ request :=
    .ok <| match request.url.target with
    | "/acme/web/head/yarn.lock" => ⟨200, some "# yarn lockfile v1".toUTF8⟩
    | "/repos/acme/web/contents/yarn.lock?ref=head" => ⟨503, none⟩
    | _ => ⟨404, none⟩

def mirrorClient : GitHubClient (StateM (List Event)) :=
  mirrorServer.client
    { apiUrl := "http://api.test", rawUrl := "http://raw.test", maxRetries := 2 } none
    ContentStrategy.all

theorem mirrorClient_http : mirrorClient.http = mirrorServer.transport :=
  rfl

theorem mirrorClient_commitTree (log : List Event) :
    (mirrorClient.commitTree ⟨"acme", "web"⟩ "head" log).1 = .error (.notFound "commit head") := by
  refine Server.fetchDocument_of_error ?_
  rw [Server.fetch_of_refusal (by rfl) rfl (by decide)]
  rfl

theorem mirrorClient_gitData (log : List Event) :
    mirrorClient.contentBy .gitData ⟨"acme", "web"⟩ "yarn.lock" "head" log =
      (.ok none, log ++ mirrorClient.objectEvents ⟨"acme", "web"⟩ (.commit "head")) := by
  rw [contentBy_gitData, viaGitData_apply mirrorClient_http, mirrorClient_commitTree]
  rfl

/-- No attempt is answered by the interface for contents. -/
theorem mirrorClient_contentsAttempt (log : List Event) (attempt : Nat) :
    mirrorClient.contentsAttempt mirrorServer ⟨"acme", "web"⟩ "yarn.lock" "head" log attempt =
      .error (.transient "acme/web/yarn.lock@head" "HTTP 503") := by
  rw [contentsAttempt, Server.textAt_of_request _ _ _ _ (by rfl)]
  rfl

/-- In two attempts, the client waits once. -/
theorem mirrorClient_contentsEvents :
    mirrorClient.contentsEvents ⟨"acme", "web"⟩ "yarn.lock" "head" 2 =
      mirrorClient.contentsAsked ⟨"acme", "web"⟩ "yarn.lock" "head" ++ [.wait 200] ++
        mirrorClient.contentsAsked ⟨"acme", "web"⟩ "yarn.lock" "head" := by
  rw [contentsEvents, show 2 - 1 = 0 + 1 from rfl, tries_succ]
  rfl

theorem mirrorClient_mirror (what : String) (log : List Event) :
    mirrorServer.textAt what (mirrorClient.mirrorUrl ⟨"acme", "web"⟩ "yarn.lock" "head")
        (mirrorClient.headers "*/*") log = .ok "# yarn lockfile v1" := by
  rw [Server.textAt_of_request _ _ _ _ (by rfl)]
  exact congrArg Except.ok decodeMarked_lockFile

/-- The walk ends with its first request, the interface for contents is asked twice, and the text is
the one that the mirror has. -/
theorem fileContent_of_mirror :
    ∃ commit contents mirror,
      request? "http://api.test/repos/acme/web/git/commits/head"
        (mirrorClient.headers documentType) = some commit ∧
      request? "http://api.test/repos/acme/web/contents/yarn.lock?ref=head"
        (mirrorClient.headers rawType) = some contents ∧
      request? "http://raw.test/acme/web/head/yarn.lock" (mirrorClient.headers "*/*") =
        some mirror ∧
      mirrorClient.host.fileContent ⟨"acme", "web"⟩ "yarn.lock" "head" [] =
        (.ok (some "# yarn lockfile v1"),
          [.request commit, .request contents, .wait 200, .request contents, .request mirror]) := by
  obtain ⟨commit, hcommit⟩ : ∃ commit, request? "http://api.test/repos/acme/web/git/commits/head"
      (mirrorClient.headers documentType) = some commit := ⟨_, rfl⟩
  obtain ⟨contents, hcontent⟩ : ∃ contents,
      request? "http://api.test/repos/acme/web/contents/yarn.lock?ref=head"
        (mirrorClient.headers rawType) = some contents := ⟨_, rfl⟩
  obtain ⟨mirror, hmirror⟩ : ∃ mirror, request? "http://raw.test/acme/web/head/yarn.lock"
      (mirrorClient.headers "*/*") = some mirror := ⟨_, rfl⟩
  refine ⟨commit, contents, mirror, hcommit, hcontent, hmirror, ?_⟩
  have hcommitUrl : toString (mirrorClient.repositoryUrl ⟨"acme", "web"⟩) ++
      toString "/git/commits/" ++ toString "head" =
        "http://api.test/repos/acme/web/git/commits/head" := by
    decide +kernel
  have hcontentUrl : mirrorClient.contentsUrl ⟨"acme", "web"⟩ "yarn.lock" "head" =
      "http://api.test/repos/acme/web/contents/yarn.lock?ref=head" := by
    decide +kernel
  have hmirrorUrl : mirrorClient.mirrorUrl ⟨"acme", "web"⟩ "yarn.lock" "head" =
      "http://raw.test/acme/web/head/yarn.lock" := by
    decide +kernel
  obtain ⟨-, -, -, hinterface, hraw⟩ := fileContent_first_found mirrorServer mirrorClient.settings
    none ContentStrategy.all ⟨"acme", "web"⟩ "yarn.lock" "head" []
  have hclient : mirrorServer.client mirrorClient.settings none ContentStrategy.all =
      mirrorClient := rfl
  rw [hclient] at hinterface hraw
  have hgit := mirrorClient_gitData []
  rw [objectEvents, hcommitUrl, asked_of_request hcommit, List.nil_append] at hgit
  obtain ⟨k, hends, -, -, hsent, -⟩ := hinterface [.request commit]
  -- Both attempts that are allowed are made, since none of them ends the run before.
  obtain rfl : k = 2 := by
    rcases hends.1 with hlast | ⟨-, hfinal⟩
    · exact hlast
    · rw [mirrorClient_contentsAttempt] at hfinal
      exact nomatch hfinal _ rfl
  rw [mirrorClient_contentsAttempt, mirrorClient_contentsEvents, contentsAsked, hcontentUrl,
    asked_of_request hcontent] at hsent
  have hfound := hraw ([.request commit] ++
    ([.request contents] ++ [.wait 200] ++ [.request contents]))
  rw [mirrorClient_mirror, hmirrorUrl, asked_of_request hmirror] at hfound
  have hsearch : mirrorClient.contentByAny ⟨"acme", "web"⟩ "yarn.lock" "head"
      ContentStrategy.all [] = (some "# yarn lockfile v1", [.request commit, .request contents,
        .wait 200, .request contents, .request mirror]) := by
    rw [ContentStrategy.all, contentByAny_of_misses (.inl (congrArg Prod.fst hgit)), hgit,
      contentByAny_of_misses (.inr ⟨_, congrArg Prod.fst hsent⟩), hsent,
      contentByAny_of_found (congrArg Prod.fst hfound), hfound]
    rfl
  exact congrArg (fun search => (Except.ok search.1, search.2)) hsearch

end GitHubClient

end DepTriage
