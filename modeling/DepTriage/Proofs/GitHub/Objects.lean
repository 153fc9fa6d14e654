import DepTriage.GitHub.Host
import DepTriage.Proofs.Http.Server
import Mathlib.Data.List.Infix

/-!
# Paths through the objects of a repository

The text of a file is found by its path: from a commit to its tree, and down the trees to a blob.
Whatever a server answers, the requests stop with the first one that fails. If its answers agree
with a repository, then the walk looks up the path in it.

## Key results

- `exists_viaGitData_log`: all requests but the last one are answered
- `follow_eq`: the walk from a tree of the repository on, with the requests it takes
- `viaGitData_looks_up`: the whole walk
-/

namespace DepTriage

open Http

namespace GitHub

/-! ## Objects -/

/-- An object of a repository. Trees hold others under names. -/
inductive GitObject where
  | blob (content : ByteArray)
  | tree (entries : List (String × GitObject))
  /-- What is neither, such as a commit of another repository. -/
  | other (kind : { kind : String // kind ≠ "blob" ∧ kind ≠ "tree" })

namespace GitObject

def kind : GitObject → String
  | blob _ => "blob"
  | tree _ => "tree"
  | other kind => kind

/-- A path leads through the entries of trees from one object to another. -/
inductive Leads : GitObject → List String → GitObject → Prop where
  | here (o : GitObject) : Leads o [] o
  | down {entries : List (String × GitObject)} {name : String} {child target : GitObject}
      {path : List String} (hchild : (name, child) ∈ entries) (hrest : Leads child path target) :
      Leads (tree entries) (name :: path) target

/-- No tree below the object holds two entries of one name. -/
def NamesDistinct (root : GitObject) : Prop :=
  ∀ path entries, root.Leads path (tree entries) → (entries.map Prod.fst).Nodup

/-- The object at a path. -/
def at? : GitObject → List String → Option GitObject
  | o, [] => some o
  | tree entries, name :: path => (entries.lookup name).bind (at? · path)
  | _, _ :: _ => none

def isTree : GitObject → Bool
  | tree _ => true
  | _ => false

def content? : GitObject → Option ByteArray
  | blob content => some content
  | _ => none

/-- The trees that are opened on the way along a path: those to which a shorter path leads. -/
def treesAlong (root : GitObject) (path : List String) : List GitObject :=
  path.inits.dropLast.filterMap fun front => (root.at? front).filter isTree

/-- The content of the blob at a path. -/
def contentAt? (root : GitObject) (path : List String) : Option ByteArray :=
  (root.at? path).bind content?

theorem NamesDistinct.child {entries : List (String × GitObject)} {name : String}
    {child : GitObject} (h : (tree entries).NamesDistinct) (hchild : (name, child) ∈ entries) :
    child.NamesDistinct :=
  fun path entries hleads => h (name :: path) entries (.down hchild hleads)

/-- Among entries of distinct names, one is found by its name. -/
theorem lookup_eq_some_iff {entries : List (String × GitObject)}
    (h : (entries.map Prod.fst).Nodup) (name : String) (child : GitObject) :
    entries.lookup name = some child ↔ (name, child) ∈ entries := by
  induction entries with
  | nil => simp
  | cons entry entries ih =>
    obtain ⟨first, o⟩ := entry
    obtain ⟨habsent, hrest⟩ := List.nodup_cons.1 h
    rw [List.lookup_cons, List.mem_cons]
    by_cases hname : name = first
    · subst hname
      -- No later entry has the name of the first one.
      have hlater : (name, child) ∉ entries := fun hmem =>
        habsent (List.mem_map.2 ⟨_, hmem, rfl⟩)
      simp [hlater, eq_comm]
    · have hbeq : (name == first) = false := beq_false_of_ne hname
      rw [hbeq, ih hrest]
      simp [hname]

/-- If names are distinct, what stands at a path is what the path leads to. -/
theorem at?_eq_some_iff {root : GitObject} (h : root.NamesDistinct) (path : List String)
    (target : GitObject) : root.at? path = some target ↔ root.Leads path target := by
  induction path generalizing root with
  | nil =>
    rw [at?, Option.some_inj]
    constructor
    · rintro rfl
      exact .here root
    · rintro ⟨⟩
      rfl
  | cons name path ih =>
    cases root with
    | blob content => exact iff_of_false nofun nofun
    | other kind => exact iff_of_false nofun nofun
    | tree entries =>
      -- Among distinct names the first entry of a name is the only one.
      have hnodup : (entries.map Prod.fst).Nodup := h [] entries (.here _)
      rw [at?, Option.bind_eq_some_iff]
      constructor
      · rintro ⟨child, hchild, hrest⟩
        have hmem := (lookup_eq_some_iff hnodup name child).1 hchild
        exact .down hmem ((ih (h.child hmem)).1 hrest)
      · rintro (_ | ⟨hmem, hrest⟩)
        exact ⟨_, (lookup_eq_some_iff hnodup name _).2 hmem, (ih (h.child hmem)).2 hrest⟩

theorem contentAt?_eq_some_iff {root : GitObject} (h : root.NamesDistinct) (path : List String)
    (content : ByteArray) :
    root.contentAt? path = some content ↔ root.Leads path (blob content) := by
  rw [contentAt?, Option.bind_eq_some_iff, ← at?_eq_some_iff h]
  constructor
  · rintro ⟨o, ho, hcontent⟩
    -- Only a blob holds a content.
    cases o with
    | blob own =>
      cases hcontent
      exact ho
    | tree entries => exact nomatch hcontent
    | other kind => exact nomatch hcontent
  · intro ho
    exact ⟨_, ho, rfl⟩

/-! ## Trees along a path -/

theorem treesAlong_cons (root : GitObject) (name : String) (path : List String) :
    root.treesAlong (name :: path) =
      (some root |>.filter isTree).toList ++
        path.inits.dropLast.filterMap fun front => (root.at? (name :: front)).filter isTree := by
  have hinits : path.inits.map (name :: ·) ≠ [] := by
    cases path <;> simp
  rw [treesAlong, List.inits_cons, List.dropLast_cons_of_ne_nil hinits, ← List.map_dropLast,
    List.filterMap_cons, List.filterMap_map, at?]
  cases Option.filter isTree (some root) <;> rfl

/-- From a tree, the way goes on below the entry of the first name. -/
theorem treesAlong_tree (entries : List (String × GitObject)) (name : String)
    (path : List String) :
    (tree entries).treesAlong (name :: path) =
      tree entries :: ((entries.lookup name).elim [] fun child => child.treesAlong path) := by
  have hopened : (some (tree entries) |>.filter isTree).toList = [tree entries] := rfl
  rw [treesAlong_cons, hopened, List.singleton_append]
  cases hchild : entries.lookup name with
  | none => simp [at?, hchild]
  | some child => simp [at?, hchild, treesAlong]

/-- What is no tree has none along any path. -/
theorem treesAlong_of_not_isTree {root : GitObject} (h : root.isTree = false)
    (path : List String) : root.treesAlong path = [] := by
  cases path with
  | nil => rfl
  | cons name path => cases root <;> simp_all [treesAlong_cons, at?, isTree]

end GitObject

/-! ## Requests -/

/-- The requests for objects. -/
inductive ObjectRequest where
  | commit (revision : String)
  | tree (hash : String)
  | blob (hash : String)
deriving DecidableEq, Repr

/-- The error of an outcome that is none. -/
def failure? {ε α : Type} : Except ε α → Option ε
  | .error e => some e
  | .ok _ => none

end GitHub

open GitHub

namespace GitHubClient

section Requests

variable {m : Type → Type} [Monad m] (client : GitHubClient m) (r : Repository)

/-- The name of the tree of a revision. -/
def commitTree (revision : String) : m (Except ScanError String) :=
  client.document s!"commit {revision}" s!"{client.repositoryUrl r}/git/commits/{revision}"
    treeOfCommit?

/-- The entries of a tree. -/
def treeEntries (hash : String) : m (Except ScanError (List TreeEntry)) :=
  client.document s!"tree {hash}" s!"{client.repositoryUrl r}/git/trees/{hash}" entriesOfTree?

end Requests

variable (client : GitHubClient (StateM (List Event))) (r : Repository)

/-- What a request for an object adds to a log. -/
def objectEvents : ObjectRequest → List Event
  | .commit revision =>
    asked s!"{client.repositoryUrl r}/git/commits/{revision}" (client.headers documentType)
  | .tree hash => asked s!"{client.repositoryUrl r}/git/trees/{hash}" (client.headers documentType)
  | .blob hash => asked s!"{client.repositoryUrl r}/git/blobs/{hash}" (client.headers rawType)

/-- The error with which a request for an object fails after a log. -/
def objectError? (log : List Event) : ObjectRequest → Option ScanError
  | .commit revision => failure? (client.commitTree r revision log).1
  | .tree hash => failure? (client.treeEntries r hash log).1
  | .blob hash => failure? (client.blob r hash log).1

/-- The requests, made one after the other, are all answered. -/
def Answered : List ObjectRequest → (log : List Event) → Prop
  | [], _ => True
  | request :: requests, log =>
    client.objectError? r log request = none ∧
      Answered requests (log ++ client.objectEvents r request)

/-- Makes the requests one after the other. The first that fails makes its error the outcome; if
none does, that is `answer`. -/
def performed {α : Type} (answer : α) :
    List ObjectRequest → (log : List Event) → Except ScanError α × List Event
  | [], log => (.ok answer, log)
  | request :: requests, log =>
    match client.objectError? r log request with
    | some e => (.error e, log ++ client.objectEvents r request)
    | none => performed answer requests (log ++ client.objectEvents r request)

variable {client r}

theorem performed_of_answered {α : Type} (answer : α) {requests : List ObjectRequest}
    {log : List Event} (h : client.Answered r requests log) :
    client.performed r answer requests log =
      (.ok answer, log ++ requests.flatMap (client.objectEvents r)) := by
  induction requests generalizing log with
  | nil => rw [performed, List.flatMap_nil, List.append_nil]
  | cons request requests ih =>
    rw [performed, h.1]
    dsimp only
    rw [ih h.2, List.flatMap_cons, List.append_assoc]

theorem performed_of_error {α : Type} (answer : α) {before after : List ObjectRequest}
    {request : ObjectRequest} {log : List Event} {e : ScanError}
    (hbefore : client.Answered r before log)
    (he : client.objectError? r (log ++ before.flatMap (client.objectEvents r)) request = some e) :
    client.performed r answer (before ++ request :: after) log =
      (.error e, log ++ (before ++ [request]).flatMap (client.objectEvents r)) := by
  -- By induction on the requests that were answered; the one behind them ends the run.
  induction before generalizing log with
  | nil =>
    rw [List.flatMap_nil, List.append_nil] at he
    rw [List.nil_append, performed, he, List.nil_append, List.flatMap_singleton]
  | cons first before ih =>
    rw [List.flatMap_cons, ← List.append_assoc] at he
    rw [List.cons_append, performed, hbefore.1]
    dsimp only
    rw [ih hbefore.2 he, List.cons_append, List.flatMap_cons, List.append_assoc]

/-! ## Walks -/

section Walks

variable {server : Server}

theorem commitTree_adds (hserver : client.http = server.transport) (revision : String) :
    Adds (client.commitTree r revision) (client.objectEvents r (.commit revision)) :=
  document_adds hserver _ _ _

theorem treeEntries_adds (hserver : client.http = server.transport) (hash : String) :
    Adds (client.treeEntries r hash) (client.objectEvents r (.tree hash)) :=
  document_adds hserver _ _ _

theorem blob_adds (hserver : client.http = server.transport) (hash : String) :
    Adds (client.blob r hash) (client.objectEvents r (.blob hash)) :=
  text_adds hserver _ _ _

/-- A walk from a commit begins with the request for the commit. -/
theorem viaGitData_apply (hserver : client.http = server.transport) (path revision : String)
    (log : List Event) :
    client.viaGitData r path revision log =
      match (client.commitTree r revision log).1 with
      | .error e => (.error e, log ++ client.objectEvents r (.commit revision))
      | .ok tree =>
        client.follow r tree (components path)
          (log ++ client.objectEvents r (.commit revision)) := by
  rw [viaGitData, bind_apply, ← commitTree_adds hserver revision log, commitTree]
  cases (client.document _ _ treeOfCommit? log).1 <;> rfl

/-- A walk from a tree begins with the request for the tree. -/
theorem follow_cons_apply (hserver : client.http = server.transport) (tree name : String)
    (names : List String) (log : List Event) :
    client.follow r tree (name :: names) log =
      let log' := log ++ client.objectEvents r (.tree tree)
      match (client.treeEntries r tree log).1 with
      | .error e => (.error e, log')
      | .ok entries =>
        match entries.find? (·.path == name) with
        | none => (.ok none, log')
        | some entry =>
          if names.isEmpty then
            if entry.kind == "blob" then
              ((client.blob r entry.sha log').1.map some, (client.blob r entry.sha log').2)
            else (.ok none, log')
          else if entry.kind == "tree" then client.follow r entry.sha names log'
          else (.ok none, log') := by
  rw [follow, bind_apply, ← treeEntries_adds hserver tree log, treeEntries]
  dsimp only
  -- The answer of the tree request decides whether anything more is asked.
  cases (client.document _ _ entriesOfTree? log).1 with
  | error e => rfl
  | ok entries =>
    dsimp only
    cases entries.find? (·.path == name) with
    | none => rfl
    | some entry =>
      dsimp only
      split
      · split <;> rfl
      · split <;> rfl

end Walks

/-! ### Any server -/

section AnyServer

variable {server : Server}

/-- If a request is answered, then those behind it decide. -/
theorem Answered.dropLast_cons {request : ObjectRequest} {requests : List ObjectRequest}
    {log : List Event} (hfirst : client.objectError? r log request = none)
    (hrest : client.Answered r requests.dropLast (log ++ client.objectEvents r request)) :
    client.Answered r (request :: requests).dropLast log := by
  cases requests with
  | nil => trivial
  | cons next requests => exact ⟨hfirst, hrest⟩

/-- A walk from a tree stops with the first request that is not answered. -/
theorem exists_follow_log (hserver : client.http = server.transport) (tree : String)
    (names : List String) (log : List Event) :
    ∃ requests : List ObjectRequest, (client.follow r tree names log).2 =
        log ++ requests.flatMap (client.objectEvents r) ∧
      client.Answered r requests.dropLast log := by
  -- One request for each name, as long as they are answered and name trees.
  induction names generalizing tree log with
  | nil => exact ⟨[], (List.append_nil log).symm, trivial⟩
  | cons name names ih =>
    have hsingle : ∃ requests : List ObjectRequest,
        log ++ client.objectEvents r (.tree tree) =
            log ++ requests.flatMap (client.objectEvents r) ∧
          client.Answered r requests.dropLast log :=
      ⟨[.tree tree], by rw [List.flatMap_singleton], trivial⟩
    rw [follow_cons_apply hserver]
    dsimp only
    cases hanswer : (client.treeEntries r tree log).1 with
    | error e => exact hsingle
    | ok entries =>
      have hanswered : client.objectError? r log (.tree tree) = none := by
        rw [objectError?, hanswer, failure?]
      dsimp only
      cases entries.find? (·.path == name) with
      | none => exact hsingle
      | some entry =>
        dsimp only
        split
        · split
          · refine ⟨[.tree tree, .blob entry.sha], ?_, hanswered, trivial⟩
            rw [blob_adds hserver, List.flatMap_cons, List.flatMap_singleton, List.append_assoc]
          · exact hsingle
        · split
          · obtain ⟨requests, hlog, hrest⟩ :=
              ih entry.sha (log ++ client.objectEvents r (.tree tree))
            refine ⟨.tree tree :: requests, ?_, .dropLast_cons hanswered hrest⟩
            rw [hlog, List.flatMap_cons, List.append_assoc]
          · exact hsingle

/-- **All requests of a walk but the last one are answered.** -/
theorem exists_viaGitData_log (hserver : client.http = server.transport) (path revision : String)
    (log : List Event) :
    ∃ requests : List ObjectRequest, (client.viaGitData r path revision log).2 =
        log ++ requests.flatMap (client.objectEvents r) ∧
      client.Answered r requests.dropLast log := by
  rw [viaGitData_apply hserver]
  cases hanswer : (client.commitTree r revision log).1 with
  | error e => exact ⟨[.commit revision], by rw [List.flatMap_singleton], trivial⟩
  | ok tree =>
    -- The commit is answered; of the walk behind it, every request but the last one is.
    have hanswered : client.objectError? r log (.commit revision) = none := by
      rw [objectError?, hanswer, failure?]
    obtain ⟨requests, hlog, hrest⟩ :=
      exists_follow_log (r := r) hserver tree (components path)
        (log ++ client.objectEvents r (.commit revision))
    refine ⟨.commit revision :: requests, ?_, .dropLast_cons hanswered hrest⟩
    dsimp only
    rw [hlog, List.flatMap_cons, List.append_assoc]

end AnyServer

/-! ### A server with a repository -/

section Repository

variable {server : Server} {hash : GitObject → String}

/-- How a tree lists an entry. -/
def listed (hash : GitObject → String) : String × GitObject → TreeEntry
  | (name, o) => ⟨name, o.kind, hash o⟩

/-- What a client is told about the objects below `root` is right whenever it is told anything. The
function `hash` gives the names under which objects are asked for. -/
structure ServesObjects (client : GitHubClient (StateM (List Event))) (r : Repository)
    (hash : GitObject → String) (root : GitObject) : Prop where
  tree : ∀ path entries, root.Leads path (.tree entries) → ∀ log answer,
    (client.treeEntries r (hash (.tree entries)) log).1 = .ok answer →
      answer = entries.map (listed hash)
  blob : ∀ path content, root.Leads path (.blob content) → ∀ log text,
    (client.blob r (hash (.blob content)) log).1 = .ok text →
      text = Text.decodeMarked content.toList

/-- What a client is told about a revision, whose tree holds these entries, and about the objects
below it is right whenever it is told anything. -/
structure Serves (client : GitHubClient (StateM (List Event))) (r : Repository) (revision : String)
    (hash : GitObject → String) (entries : List (String × GitObject)) : Prop
    extends ServesObjects client r hash (.tree entries) where
  commit : ∀ log answer, (client.commitTree r revision log).1 = .ok answer →
    answer = hash (.tree entries)

theorem ServesObjects.child {entries : List (String × GitObject)} {name : String}
    {child : GitObject} (h : ServesObjects client r hash (.tree entries))
    (hchild : (name, child) ∈ entries) : ServesObjects client r hash child where
  tree path entries hleads := h.tree (name :: path) entries (.down hchild hleads)
  blob path content hleads := h.blob (name :: path) content (.down hchild hleads)

/-- The requests of a walk from an object of a repository: for the trees along the path, and for the
blob to which it leads. -/
def requestsBelow (hash : GitObject → String) (root : GitObject) (names : List String) :
    List ObjectRequest :=
  (root.treesAlong names).map (fun o => .tree (hash o)) ++
    (root.contentAt? names).toList.map fun content => .blob (hash (.blob content))

theorem find?_listed (entries : List (String × GitObject)) (name : String) :
    (entries.map (listed hash)).find? (·.path == name) =
      (entries.lookup name).map fun child => listed hash (name, child) := by
  induction entries with
  | nil => rfl
  | cons entry entries ih =>
    obtain ⟨first, o⟩ := entry
    rw [List.map_cons, List.find?_cons, List.lookup_cons, ih]
    -- Names and their listings agree, so the same entry comes first in both.
    by_cases hname : name = first
    · subst hname
      simp [listed]
    · have hbeq : (name == first) = false := beq_false_of_ne hname
      have hbeq' : ((listed hash (first, o)).path == name) = false :=
        beq_false_of_ne (Ne.symm hname)
      rw [hbeq, hbeq']

theorem requestsBelow_tree (entries : List (String × GitObject)) (name : String)
    (names : List String) :
    requestsBelow hash (.tree entries) (name :: names) =
      .tree (hash (.tree entries)) ::
        (entries.lookup name).elim [] fun child => requestsBelow hash child names := by
  rw [requestsBelow, GitObject.treesAlong_tree, GitObject.contentAt?, GitObject.at?]
  cases entries.lookup name <;> rfl

/-- From what is no tree, no request is made for a longer path. -/
theorem requestsBelow_of_not_isTree {root : GitObject} (h : root.isTree = false) (name : String)
    (names : List String) : requestsBelow hash root (name :: names) = [] := by
  rw [requestsBelow, GitObject.treesAlong_of_not_isTree h]
  cases root with
  | tree entries => exact nomatch h
  | blob content => rfl
  | other kind => rfl

theorem mem_of_lookup {entries : List (String × GitObject)} {name : String} {child : GitObject}
    (h : entries.lookup name = some child) : (name, child) ∈ entries := by
  obtain ⟨before, after, rfl, -⟩ := List.lookup_eq_some_iff.1 h
  exact List.mem_append_right before List.mem_cons_self

/-- The text of the blob at a path. -/
def textAt? (root : GitObject) (names : List String) : Option String :=
  (root.contentAt? names).map fun content => Text.decodeMarked content.toList

theorem textAt?_tree (entries : List (String × GitObject)) (name : String)
    (names : List String) :
    textAt? (.tree entries) (name :: names) =
      (entries.lookup name).bind fun child => textAt? child names := by
  rw [textAt?, GitObject.contentAt?, GitObject.at?]
  cases entries.lookup name <;> rfl

/-- At the end of a path the blob is asked for, if there is one. -/
theorem performed_last (hserver : client.http = server.transport) {child : GitObject}
    (h : ServesObjects client r hash child) (log : List Event) :
    client.performed r (textAt? child []) (requestsBelow hash child []) log =
      if child.kind == "blob" then
        ((client.blob r (hash child) log).1.map some, (client.blob r (hash child) log).2)
      else (.ok none, log) := by
  -- Only a blob is asked for at the end of a path.
  cases child with
  | tree entries => rfl
  | other kind =>
    have hkind : (kind.1 == "blob") = false := beq_false_of_ne kind.2.1
    rw [GitObject.kind, hkind]
    rfl
  | blob content =>
    change client.performed r (some (Text.decodeMarked content.toList))
      [.blob (hash (.blob content))] log = _
    rw [performed, objectError?, blob_adds hserver]
    cases hanswer : (client.blob r (hash (.blob content)) log).1 with
    | error e => rfl
    | ok text =>
      -- The server tells the truth about the blobs it serves.
      obtain rfl := h.blob [] content (.here _) log text hanswer
      rfl

/-- Before the end of a path only a tree leads on. -/
theorem performed_next {child : GitObject} {name : String} {names : List String} {log : List Event}
    (h : ∀ entries, child = .tree entries →
      client.follow r (hash child) (name :: names) log =
        client.performed r (textAt? child (name :: names))
          (requestsBelow hash child (name :: names)) log) :
    client.performed r (textAt? child (name :: names)) (requestsBelow hash child (name :: names))
        log =
      if child.kind == "tree" then client.follow r (hash child) (name :: names) log
      else (.ok none, log) := by
  -- A path goes on below a tree only.
  cases child with
  | tree entries => exact (h entries rfl).symm
  | blob content =>
    rw [requestsBelow_of_not_isTree rfl]
    rfl
  | other kind =>
    have hkind : (kind.1 == "tree") = false := beq_false_of_ne kind.2.2
    rw [requestsBelow_of_not_isTree rfl, GitObject.kind, hkind]
    rfl

/-- **The walk from a tree of a repository on.** It makes the requests that the path takes, one
after the other, and comes to the text of the blob to which the path leads. -/
theorem follow_eq (hserver : client.http = server.transport) {names : List String}
    {entries : List (String × GitObject)} (h : ServesObjects client r hash (.tree entries))
    (log : List Event) :
    client.follow r (hash (.tree entries)) names log =
      client.performed r (textAt? (.tree entries) names)
        (requestsBelow hash (.tree entries) names) log := by
  induction names generalizing entries log with
  | nil => rfl
  | cons name names ih =>
    rw [follow_cons_apply hserver, requestsBelow_tree, textAt?_tree, performed, objectError?]
    cases hanswer : (client.treeEntries r (hash (.tree entries)) log).1 with
    | error e => rfl
    | ok answer =>
      obtain rfl := h.tree [] entries (.here _) log answer hanswer
      dsimp only [failure?]
      rw [find?_listed]
      cases hchild : entries.lookup name with
      | none => rfl
      | some child =>
        have hserves : ServesObjects client r hash child := h.child (mem_of_lookup hchild)
        cases names with
        | nil => exact (performed_last hserver hserves _).symm
        | cons next names =>
          -- Anything but a tree ends the walk here, so that only a tree is left for the induction.
          refine (performed_next ?_).symm
          rintro children rfl
          exact ih hserves _

/-- The requests of a walk from a revision. -/
def walkRequests (hash : GitObject → String) (revision : String)
    (entries : List (String × GitObject)) (names : List String) : List ObjectRequest :=
  .commit revision :: requestsBelow hash (.tree entries) names

/-- The walk from a revision of a repository on. -/
theorem viaGitData_eq (hserver : client.http = server.transport) {revision : String}
    {entries : List (String × GitObject)} (h : Serves client r revision hash entries)
    (path : String) (log : List Event) :
    client.viaGitData r path revision log =
      client.performed r (textAt? (.tree entries) (components path))
        (walkRequests hash revision entries (components path)) log := by
  rw [viaGitData_apply hserver, walkRequests, performed, objectError?]
  cases hanswer : (client.commitTree r revision log).1 with
  | error e => rfl
  | ok tree =>
    obtain rfl := h.commit log tree hanswer
    exact follow_eq hserver h.toServesObjects _

theorem textAt?_eq_some_iff {root : GitObject} (h : root.NamesDistinct) (names : List String)
    (text : String) :
    textAt? root names = some text ↔
      ∃ content, root.Leads names (.blob content) ∧ text = Text.decodeMarked content.toList := by
  rw [textAt?, Option.map_eq_some_iff]
  refine exists_congr fun content => and_congr (GitObject.contentAt?_eq_some_iff h names content) ?_
  exact eq_comm

/-- **A walk looks up a path.** Let what a server tells about a revision and about the objects below
it agree with a repository. If the requests for the commit, for each tree along the path and for the
blob at its end are answered, then they are all that is sent, and the text of the blob is found if
and only if the path leads to one. The first request that fails is the last one that is sent, and
its error is the outcome. -/
theorem viaGitData_looks_up (server : Server) (settings : GitHubSettings) (token : Option String)
    (strategies : List ContentStrategy) (r : Repository) (path revision : String)
    (hash : GitObject → String) (entries : List (String × GitObject)) (log : List Event)
    (hnames : (GitObject.tree entries).NamesDistinct)
    (hserves : Serves (server.client settings token strategies) r revision hash entries) :
    let client := server.client settings token strategies
    let outcome := (client.viaGitData r path revision log).1
    let requests := walkRequests hash revision entries (components path)
    (client.Answered r requests log →
      (client.viaGitData r path revision log).2 =
          log ++ requests.flatMap (client.objectEvents r) ∧
      (∀ text, outcome = .ok (some text) ↔
        ∃ content, (GitObject.tree entries).Leads (components path) (.blob content) ∧
          text = Text.decodeMarked content.toList) ∧
      (outcome = .ok none ↔
        ¬∃ content, (GitObject.tree entries).Leads (components path) (.blob content))) ∧
    ∀ before request after e, requests = before ++ request :: after →
      client.Answered r before log →
      client.objectError? r (log ++ before.flatMap (client.objectEvents r)) request = some e →
      client.viaGitData r path revision log =
        (.error e, log ++ (before ++ [request]).flatMap (client.objectEvents r)) := by
  intro client outcome requests
  have hwalk := viaGitData_eq (server.client_http settings token strategies) hserves path log
  refine ⟨fun hanswered => ?_, fun before request after e hrequests hbefore he => ?_⟩
  -- Once every request is answered, the outcome is what the tree holds at the path.
  · rw [performed_of_answered _ hanswered] at hwalk
    have houtcome : outcome = .ok (textAt? (.tree entries) (components path)) :=
      congrArg Prod.fst hwalk
    refine ⟨congrArg Prod.snd hwalk, fun text => ?_, ?_⟩
    · rw [houtcome, Except.ok.injEq]
      exact textAt?_eq_some_iff hnames _ _
    · rw [houtcome, Except.ok.injEq, textAt?, Option.map_eq_none_iff,
        Option.eq_none_iff_forall_ne_some, not_exists]
      exact forall_congr' fun content =>
        not_congr (GitObject.contentAt?_eq_some_iff hnames _ content)
  · rw [hwalk]
    change client.performed r _ requests log = _
    rw [hrequests]
    exact performed_of_error _ hbefore he

/-! ### A lock file in a directory -/

/-- A text, another repository, and a directory with a lock file. -/
def lockFileEntries : List (String × GitObject) :=
  [("README.md", .blob "read me".toUTF8), ("vendored", .other ⟨"commit", by decide⟩),
    ("packages", .tree [("yarn.lock", .blob "# yarn lockfile v1".toUTF8)])]

/-- Names that tell these objects apart. -/
def sizeHash : GitObject → String
  | .blob content => s!"blob{content.size}"
  | .tree entries => s!"tree{entries.length}"
  | .other kind => kind

def treeJson (entries : List TreeEntry) : Json :=
  .object [("tree", .array (entries.map fun e =>
    .object [("path", .string e.path), ("type", .string e.kind), ("sha", .string e.sha)]))]

/-- A server of these objects that has lost the text. -/
def lockFileServer : Server where
  answer _ request :=
    .ok <| match request.url.target with
    | "/repos/acme/web/git/commits/head" =>
      .ofJson (.object [("tree", .object [("sha", .string "tree3")])])
    | "/repos/acme/web/git/trees/tree3" =>
      .ofJson (treeJson (lockFileEntries.map (listed sizeHash)))
    | "/repos/acme/web/git/trees/tree1" => .ofJson (treeJson [⟨"yarn.lock", "blob", "blob18"⟩])
    | "/repos/acme/web/git/blobs/blob18" => ⟨200, some "# yarn lockfile v1".toUTF8⟩
    | _ => ⟨404, none⟩

def lockFileClient : GitHubClient (StateM (List Event)) :=
  lockFileServer.client { apiUrl := "http://api.test" } none ContentStrategy.all

theorem lockFileClient_http : lockFileClient.http = lockFileServer.transport :=
  rfl

theorem treeJson_isPlain (entries : List TreeEntry) : (treeJson entries).IsPlain :=
  .object (by simp [Json.IsPlain.array, Json.IsPlain.object, Json.IsPlain.string])

theorem lockFileClient_commitTree (log : List Event) :
    (lockFileClient.commitTree ⟨"acme", "web"⟩ "head" log).1 = .ok "tree3" :=
  Server.fetchDocument_of_document (by rfl) rfl
    (.object (by simp [Json.IsPlain.object, Json.IsPlain.string])) (by decide)

theorem lockFileClient_tree3 (log : List Event) :
    (lockFileClient.treeEntries ⟨"acme", "web"⟩ "tree3" log).1 =
      .ok (lockFileEntries.map (listed sizeHash)) :=
  Server.fetchDocument_of_document (by rfl) rfl (treeJson_isPlain _) (by decide)

theorem lockFileClient_tree1 (log : List Event) :
    (lockFileClient.treeEntries ⟨"acme", "web"⟩ "tree1" log).1 =
      .ok [⟨"yarn.lock", "blob", "blob18"⟩] :=
  Server.fetchDocument_of_document (by rfl) rfl (treeJson_isPlain _) (by decide)

theorem decodeMarked_lockFile :
    Text.decodeMarked "# yarn lockfile v1".toUTF8.toList = "# yarn lockfile v1" := by
  decide +kernel

theorem lockFileClient_blob18 (log : List Event) :
    (lockFileClient.blob ⟨"acme", "web"⟩ "blob18" log).1 = .ok "# yarn lockfile v1" := by
  rw [blob, text_apply_fst lockFileClient_http,
    Server.fetch_of_success (by rfl) rfl (by decide)]
  exact congrArg Except.ok decodeMarked_lockFile

theorem lockFileClient_blob7 (log : List Event) :
    (lockFileClient.blob ⟨"acme", "web"⟩ "blob7" log).1 = .error (.notFound "blob blob7") := by
  rw [blob, text_apply_fst lockFileClient_http,
    Server.fetch_of_refusal (by rfl) rfl (by decide)]
  rfl

/-- The objects below these entries. -/
theorem cases_of_leads {path : List String} {o : GitObject}
    (h : (GitObject.tree lockFileEntries).Leads path o) :
    o = .tree lockFileEntries ∨ o = .tree [("yarn.lock", .blob "# yarn lockfile v1".toUTF8)] ∨
      o = .blob "read me".toUTF8 ∨ o = .blob "# yarn lockfile v1".toUTF8 ∨ o.kind = "commit" := by
  cases h with
  | here => exact .inl rfl
  -- Three names below the root, of which `packages` alone leads further.
  | down hchild hrest =>
    simp only [lockFileEntries, List.mem_cons, List.not_mem_nil, or_false, Prod.mk.injEq] at hchild
    rcases hchild with ⟨-, rfl⟩ | ⟨-, rfl⟩ | ⟨-, rfl⟩
    · cases hrest
      exact .inr (.inr (.inl rfl))
    · cases hrest
      exact .inr (.inr (.inr (.inr rfl)))
    · cases hrest with
      | here => exact .inr (.inl rfl)
      | down hchild hrest =>
        obtain ⟨-, rfl⟩ := Prod.mk.inj (List.mem_singleton.1 hchild)
        cases hrest
        exact .inr (.inr (.inr (.inl rfl)))

theorem lockFileEntries_namesDistinct : (GitObject.tree lockFileEntries).NamesDistinct := by
  intro path entries h
  rcases cases_of_leads h with ho | ho | ho | ho | ho
  · cases ho
    decide
  · cases ho
    decide
  · exact nomatch ho
  · exact nomatch ho
  · exact absurd ho (by rw [GitObject.kind]; decide)

theorem lockFileClient_serves :
    Serves lockFileClient ⟨"acme", "web"⟩ "head" sizeHash lockFileEntries where
  commit log answer h := by
    have hhash : sizeHash (.tree lockFileEntries) = "tree3" := by decide
    rw [lockFileClient_commitTree] at h
    rw [hhash]
    exact (Except.ok.inj h).symm
  tree path entries hleads log answer h := by
    rcases cases_of_leads hleads with ho | ho | ho | ho | ho
    · cases ho
      have hhash : sizeHash (.tree lockFileEntries) = "tree3" := by decide
      rw [hhash, lockFileClient_tree3] at h
      exact (Except.ok.inj h).symm
    · cases ho
      have hhash : sizeHash (.tree [("yarn.lock", .blob "# yarn lockfile v1".toUTF8)]) =
          "tree1" := by decide
      rw [hhash, lockFileClient_tree1] at h
      rw [← Except.ok.inj h]
      decide
    · exact nomatch ho
    · exact nomatch ho
    · exact absurd ho (by rw [GitObject.kind]; decide)
  blob path content hleads log text h := by
    rcases cases_of_leads hleads with ho | ho | ho | ho | ho
    · exact nomatch ho
    · exact nomatch ho
    · cases ho
      have hhash : sizeHash (.blob "read me".toUTF8) = "blob7" := by decide
      rw [hhash, lockFileClient_blob7] at h
      exact nomatch h
    · cases ho
      have hhash : sizeHash (.blob "# yarn lockfile v1".toUTF8) = "blob18" := by decide
      rw [hhash, lockFileClient_blob18] at h
      rw [← Except.ok.inj h, decodeMarked_lockFile]
    · exact absurd ho (by rw [GitObject.kind]; decide)

/-- The lock file is found, however many slashes its path has; below another repository nothing is;
and the text that is lost is an error. -/
theorem viaGitData_lockFile :
    (GitObject.tree lockFileEntries).NamesDistinct ∧
    Serves lockFileClient ⟨"acme", "web"⟩ "head" sizeHash lockFileEntries ∧
    (lockFileClient.viaGitData ⟨"acme", "web"⟩ "/packages//yarn.lock" "head" []).1 =
      .ok (some "# yarn lockfile v1") ∧
    (lockFileClient.viaGitData ⟨"acme", "web"⟩ "vendored/yarn.lock" "head" []).1 = .ok none ∧
    (lockFileClient.viaGitData ⟨"acme", "web"⟩ "README.md" "head" []).1 =
      .error (.notFound "blob blob7") := by
  -- What the server answers to each of the five requests.
  have hcommit (log : List Event) :
      lockFileClient.objectError? ⟨"acme", "web"⟩ log (.commit "head") = none := by
    rw [objectError?, lockFileClient_commitTree, failure?]
  have htree3 (log : List Event) :
      lockFileClient.objectError? ⟨"acme", "web"⟩ log (.tree "tree3") = none := by
    rw [objectError?, lockFileClient_tree3, failure?]
  have htree1 (log : List Event) :
      lockFileClient.objectError? ⟨"acme", "web"⟩ log (.tree "tree1") = none := by
    rw [objectError?, lockFileClient_tree1, failure?]
  have hblob18 (log : List Event) :
      lockFileClient.objectError? ⟨"acme", "web"⟩ log (.blob "blob18") = none := by
    rw [objectError?, lockFileClient_blob18, failure?]
  have hblob7 (log : List Event) :
      lockFileClient.objectError? ⟨"acme", "web"⟩ log (.blob "blob7") =
        some (.notFound "blob blob7") := by
    rw [objectError?, lockFileClient_blob7, failure?]
  have hwalk (path : String) := viaGitData_looks_up lockFileServer { apiUrl := "http://api.test" }
    none ContentStrategy.all ⟨"acme", "web"⟩ path "head" sizeHash lockFileEntries []
    lockFileEntries_namesDistinct lockFileClient_serves
  refine ⟨lockFileEntries_namesDistinct, lockFileClient_serves, ?_, ?_, ?_⟩
  -- The path leads to the lock file, below its directory.
  · have hrequests :
        walkRequests sizeHash "head" lockFileEntries (components "/packages//yarn.lock") =
          [.commit "head", .tree "tree3", .tree "tree1", .blob "blob18"] := by decide
    obtain ⟨-, htext, -⟩ := (hwalk "/packages//yarn.lock").1 (by
      rw [hrequests]
      exact ⟨hcommit _, htree3 _, htree1 _, hblob18 _, trivial⟩)
    refine (htext _).2 ⟨"# yarn lockfile v1".toUTF8, ?_, decodeMarked_lockFile.symm⟩
    have hpath : components "/packages//yarn.lock" = ["packages", "yarn.lock"] := by decide
    rw [hpath]
    exact .down (.tail _ (.tail _ (.head _))) (.down (.head _) (.here _))
  -- A submodule is no tree, so the walk ends in front of it.
  · have hrequests :
        walkRequests sizeHash "head" lockFileEntries (components "vendored/yarn.lock") =
          [.commit "head", .tree "tree3"] := by decide
    obtain ⟨-, -, hnone⟩ := (hwalk "vendored/yarn.lock").1 (by
      rw [hrequests]
      exact ⟨hcommit _, htree3 _, trivial⟩)
    refine hnone.2 ?_
    rintro ⟨content, hleads⟩
    have hlookup : (GitObject.tree lockFileEntries).contentAt? (components "vendored/yarn.lock") =
        none := by decide
    rw [← GitObject.contentAt?_eq_some_iff lockFileEntries_namesDistinct, hlookup] at hleads
    exact nomatch hleads
  -- The server refuses the third request, which is the error of the whole lookup.
  · exact congrArg Prod.fst ((hwalk "README.md").2 [.commit "head", .tree "tree3"]
      (.blob "blob7") [] (.notFound "blob blob7") (by decide) ⟨hcommit _, htree3 _, trivial⟩
      (hblob7 _))

end Repository

end GitHubClient

end DepTriage
