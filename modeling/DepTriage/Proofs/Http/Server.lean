import DepTriage.GitHub.Request
import DepTriage.Json.Printer
import DepTriage.Proofs.Json.RoundTrip
import DepTriage.Proofs.Retry
import DepTriage.Proofs.Text.Utf8

/-!
# Exchanges with a server

A server answers requests as it likes: it may go by everything that has happened before, so that it
may fail at one time and answer at another. The log of an exchange tells what a client sent and how
long it waited.

## Key results

- `fetch_of_request`: the one request that is sent, and what is made of its answer
- `fetch_adds`: what is fetched is asked for once, if there can be a request for it
- `exists_run_transport`: an operation that is tried again asks for the same, as often as it is
  tried
- `requestsOf_tries`: each of these attempts sends the same requests
-/

namespace DepTriage

namespace Http

/-- What happens between a client and a server. -/
inductive Event where
  | request (sent : Request)
  | wait (milliseconds : Nat)
deriving DecidableEq, Repr

/-- A server, which knows all that happened before a request. -/
structure Server where
  answer : (log : List Event) → Request → Except String Response

/-- A success whose body is a document. -/
def Response.ofJson (j : Json) : Response :=
  ⟨200, some j.toText.toUTF8⟩

/-- The transport to a server, with a log of what happens. -/
def Server.transport (server : Server) : Transport (StateM (List Event)) where
  send request := fun log => (server.answer log request, log ++ [.request request])
  wait length := fun log => ((), log ++ [.wait length])

/-- The requests of a log. -/
def requestsOf (log : List Event) : List Request :=
  log.filterMap fun
    | .request sent => some sent
    | .wait _ => none

/-- What asks for the resource at an address: one request, if there can be one. -/
def asked (url : String) (headers : List (String × String)) : List Event :=
  (request? url headers).toList.map .request

theorem asked_of_request {url : String} {headers : List (String × String)} {request : Request}
    (h : request? url headers = some request) : asked url headers = [.request request] := by
  rw [asked, h]
  rfl

theorem requestsOf_append (log others : List Event) :
    requestsOf (log ++ others) = requestsOf log ++ requestsOf others :=
  List.filterMap_append

theorem requestsOf_asked (url : String) (headers : List (String × String)) :
    requestsOf (asked url headers) = (request? url headers).toList := by
  rw [asked, requestsOf]
  cases request? url headers <;> rfl

/-! ## Requests -/

/-- What is made of the answer to a request: the body of a success, or an error that is called
`what`. -/
def outcomeOf (what : String) : Except String Response → Except ScanError ByteArray
  | .error message => .error (.transient what message)
  | .ok response =>
    if response.isSuccess then
      match response.body with
      | none => .error (.invalidResponse what "<decode error>")
      | some body => .ok body
    else .error (.ofStatus what response.status)

namespace Server

variable (server : Server) (what url : String) (headers : List (String × String))

/-- The text that a server answers to a request after a log, decoded. -/
def textAt (log : List Event) : Except ScanError String :=
  match request? url headers with
  | none => .error (.transient what "<transport error>")
  | some request =>
    (outcomeOf what (server.answer log request)).map fun body => Text.decodeMarked body.toList

theorem textAt_of_request {request : Request} (hrequest : request? url headers = some request)
    (log : List Event) :
    server.textAt what url headers log =
      (outcomeOf what (server.answer log request)).map fun body =>
        Text.decodeMarked body.toList := by
  rw [textAt, hrequest]

/-- Where there can be a request, one is sent, and its answer tells the outcome. -/
theorem fetch_of_request {request : Request} (hrequest : request? url headers = some request)
    (log : List Event) :
    server.transport.fetch what url headers log =
      (outcomeOf what (server.answer log request), log ++ [.request request]) := by
  rw [Transport.fetch, hrequest]
  dsimp only
  rw [bind_apply]
  dsimp only [transport]
  -- Each answer is made into an outcome, and nothing else happens.
  cases server.answer log request with
  | error message => rfl
  | ok response =>
    rw [outcomeOf]
    dsimp only
    split
    · cases response.body <;> rfl
    · rfl

theorem fetch_adds : Adds (server.transport.fetch what url headers) (asked url headers) := by
  intro log
  rw [asked]
  -- An address that is no request is not asked for: nothing is logged, and nothing is answered by
  -- the server.
  cases hrequest : request? url headers with
  | none =>
    rw [Transport.fetch, hrequest]
    exact (List.append_nil log).symm
  | some request =>
    rw [server.fetch_of_request what url headers hrequest]
    rfl

theorem fetchDocument_adds {α : Type} (read : Json → Option α) :
    Adds (server.transport.fetchDocument what url headers read) (asked url headers) := by
  intro log
  rw [Transport.fetchDocument, bind_apply]
  -- Reading the document asks nothing more, whatever the answer.
  rw [← server.fetch_adds what url headers log]
  cases (server.transport.fetch what url headers log).1 with
  | error e => rfl
  | ok bytes =>
    dsimp only
    cases Json.ofBytes? bytes >>= read <;> rfl

section Answers

variable {server what url headers} {request : Request} {log : List Event} {status : Nat}

/-- What a server sends whole and with success is fetched. -/
theorem fetch_of_success {body : ByteArray} (hrequest : request? url headers = some request)
    (hanswer : server.answer log request = .ok ⟨status, some body⟩)
    (hstatus : 200 ≤ status ∧ status < 300) :
    (server.transport.fetch what url headers log).1 = .ok body := by
  have hsuccess : Response.isSuccess ⟨status, some body⟩ = true := by
    simp [Response.isSuccess, hstatus]
  rw [fetch_of_request server what url headers hrequest, hanswer]
  exact if_pos hsuccess

/-- A status other than success is an error. -/
theorem fetch_of_refusal {body : Option ByteArray} (hrequest : request? url headers = some request)
    (hanswer : server.answer log request = .ok ⟨status, body⟩)
    (hstatus : ¬(200 ≤ status ∧ status < 300)) :
    (server.transport.fetch what url headers log).1 = .error (.ofStatus what status) := by
  have hrefused : ¬Response.isSuccess ⟨status, body⟩ = true := by
    simpa [Response.isSuccess] using hstatus
  rw [fetch_of_request server what url headers hrequest, hanswer]
  exact if_neg hrefused

variable {α : Type} {read : Json → Option α}

/-- A document that a server sends is read. -/
theorem fetchDocument_of_document {j : Json} {a : α}
    (hrequest : request? url headers = some request)
    (hanswer : server.answer log request = .ok (.ofJson j)) (hplain : j.IsPlain)
    (hread : read j = some a) :
    (server.transport.fetchDocument what url headers read log).1 = .ok a := by
  -- The server's bytes are a printed document, which the reader takes back.
  have hfetch : (server.transport.fetch what url headers log).1 = .ok j.toText.toUTF8 :=
    fetch_of_success hrequest hanswer (by decide)
  have hbytes : Json.ofBytes? j.toText.toUTF8 = some j := by
    rw [Json.ofBytes?, Text.decodeOnto_toUTF8, Json.parse?_toText hplain]
  rw [Transport.fetchDocument, bind_apply, hfetch]
  dsimp only
  rw [hbytes, Option.bind_eq_bind, Option.bind_some, hread]
  rfl

theorem fetchDocument_of_error {e : ScanError}
    (hfetch : (server.transport.fetch what url headers log).1 = .error e) :
    (server.transport.fetchDocument what url headers read log).1 = .error e := by
  rw [Transport.fetchDocument, bind_apply, hfetch]
  rfl

end Answers

end Server

/-! ## Retries -/

/-- What one step of a run adds to a log, if each attempt adds `once`. -/
def stepEvents (once : List Event) : RetryPolicy.Event → List Event
  | .attempt => once
  | .wait length => [.wait length]

/-- What happens before an attempt that follows `made` others, if each of them adds `once`. -/
def tries (policy : RetryPolicy) (once : List Event) (made : Nat) : List Event :=
  (policy.leadUp made).flatMap (stepEvents once)

section Retries

variable {α : Type} (server : Server) (policy : RetryPolicy)
  {operation : StateM (List Event) (Except ScanError α)} {once : List Event}

theorem tries_succ (once : List Event) (made : Nat) :
    tries policy once (made + 1) =
      tries policy once made ++ (once ++ (policy.pause (made + 1)).flatMap (stepEvents once)) := by
  rw [tries, RetryPolicy.leadUp, List.flatMap_append, List.flatMap_cons]
  rfl

theorem stateAfter_transport (honce : Adds operation once) (log : List Event) (made : Nat) :
    policy.stateAfter server.transport.wait operation log made = log ++ tries policy once made := by
  -- Each attempt adds one try; a pause stands before every attempt but the first.
  induction made with
  | zero => exact (List.append_nil log).symm
  | succ made ih =>
    rw [RetryPolicy.stateAfter, ih, honce, RetryPolicy.paused, tries_succ, RetryPolicy.pause]
    -- A pause of no length is not waited for, so it leaves no event.
    by_cases hdelay : policy.delay (made + 1) = 0
    · rw [if_pos hdelay, if_pos hdelay, List.flatMap_nil, List.append_nil, List.append_assoc]
    · rw [if_neg hdelay, if_neg hdelay, List.flatMap_singleton]
      simp only [Server.transport, stepEvents, List.append_assoc]

/-- A run asks for the same in each of its attempts, up to the one with which it ends. -/
theorem exists_run_transport (honce : Adds operation once) (log : List Event) :
    ∃ k, policy.EndsAt (fun i => (operation (log ++ tries policy once (i - 1))).1) k ∧
      policy.run server.transport.wait operation log =
        ((operation (log ++ tries policy once (k - 1))).1,
          log ++ (tries policy once (k - 1) ++ once)) := by
  obtain ⟨k, hends, hrun⟩ := policy.exists_run_eq_attempt server.transport.wait operation log
  simp only [stateAfter_transport server policy honce] at hends hrun
  refine ⟨k, hends, hrun.trans (Prod.ext rfl ?_)⟩
  rw [honce, List.append_assoc]

/-- Waits send nothing. -/
theorem requestsOf_tries (once : List Event) (made : Nat) :
    requestsOf (tries policy once made) = (List.replicate made (requestsOf once)).flatten := by
  induction made with
  | zero => rfl
  | succ made ih =>
    -- Pauses are events, but no requests.
    have hpause : requestsOf ((policy.pause (made + 1)).flatMap (stepEvents once)) = [] := by
      rw [RetryPolicy.pause]
      split <;> rfl
    rw [tries_succ, requestsOf_append, requestsOf_append, ih, hpause, List.append_nil,
      List.replicate_succ', List.flatten_concat]

/-- Without waits, attempts follow each other at once. -/
theorem tries_of_immediate {policy : RetryPolicy} (h : policy.backoff = .immediate)
    (once : List Event) (made : Nat) :
    tries policy once made = (List.replicate made once).flatten := by
  induction made with
  | zero => rfl
  | succ made ih =>
    have hpause : policy.pause (made + 1) = [] := by
      rw [RetryPolicy.pause, RetryPolicy.delay, h, if_pos rfl]
    rw [tries_succ, ih, hpause, List.flatMap_nil, List.append_nil, List.replicate_succ',
      List.flatten_concat]

end Retries

end Http

/-! ## Clients of GitHub -/

open Http

/-- A client of GitHub whose requests go to a server. -/
def Http.Server.client (server : Server) (settings : GitHubSettings) (token : Option String)
    (strategies : List ContentStrategy) : GitHubClient (StateM (List Event)) where
  http := server.transport
  settings
  token
  strategies

theorem Http.Server.client_http (server : Server) (settings : GitHubSettings)
    (token : Option String) (strategies : List ContentStrategy) :
    (server.client settings token strategies).http = server.transport :=
  rfl

namespace GitHubClient

variable {client : GitHubClient (StateM (List Event))} {server : Server}

theorem document_adds (hserver : client.http = server.transport) {α : Type} (what url : String)
    (read : Json → Option α) :
    Adds (client.document what url read) (asked url (client.headers documentType)) := by
  rw [document, hserver]
  exact server.fetchDocument_adds what url _ read

theorem text_adds (hserver : client.http = server.transport) (what url accept : String) :
    Adds (client.text what url accept) (asked url (client.headers accept)) := by
  rw [text, hserver]
  exact (server.fetch_adds what url _).bind_pure _

/-- A text is what the server answers to the one request for it. -/
theorem text_apply (hserver : client.http = server.transport) (what url accept : String)
    (log : List Event) :
    client.text what url accept log =
      (server.textAt what url (client.headers accept) log,
        log ++ asked url (client.headers accept)) := by
  refine Prod.ext ?_ (text_adds hserver what url accept log)
  -- Whether the address is a request decides both the answer and the log.
  rw [text, hserver, bind_apply]
  cases hrequest : request? url (client.headers accept) with
  | none =>
    rw [Transport.fetch, Server.textAt, hrequest]
    rfl
  | some request =>
    rw [server.fetch_of_request what url _ hrequest, server.textAt_of_request what url _ hrequest]
    rfl

/-- A text is what is fetched, decoded. -/
theorem text_apply_fst (hserver : client.http = server.transport) (what url accept : String)
    (log : List Event) :
    (client.text what url accept log).1 =
      (server.transport.fetch what url (client.headers accept) log).1.map fun bytes =>
        Text.decodeMarked bytes.toList := by
  rw [text, hserver]
  rfl

end GitHubClient

end DepTriage
