import DepTriage.Proofs.Registry.Package
import DepTriage.Report.Result
import Mathlib.Data.List.Forall2

/-!
# Saved results read back

A result is saved as the text of a JSON document, which leaves out the lists that are empty and the
versions of a package, and has no text for a leap second within a minute but that of a fraction of
the second after it. Writer and reader are shown to agree on every part of a result, from the parts
up; two results count as the same if they differ in nothing but how the trees of their maps are laid
out.

## Key results

- `Finding.ofJson?_toJson`, `ScanFailure.ofJson?_toJson`: a finding and a failure read back.
- `ScannedDependency.exists_ofJson?_toJson`: a dependency reads back as it is written.
- `ScanResult.saved_reads_back`: a saved result reads back as it is written, saves to the same text,
  and is the same but for the versions if no time is a leap second within a minute.
- `ScanResult.isValid_of_ofText?`: whatever was read has no such time.
-/

namespace DepTriage

open Json

/-! ## Lists -/

section Lists

variable {α β : Type} {write : α → Json} {l : List α}

/-- A list reads back item by item, up to a relation of the items. -/
theorem exists_list?_map {read : Json → Option β} {Same : β → α → Prop}
    (h : ∀ a ∈ l, ∃ b, read (write a) = some b ∧ Same b a) :
    ∃ bs, list? read (.array (l.map write)) = some bs ∧ List.Forall₂ Same bs l := by
  -- By induction on the written items: what reads the tail back reads the whole list back.
  induction l with
  | nil => exact ⟨[], rfl, .nil⟩
  | cons a l ih =>
    obtain ⟨⟨b, hb, hsame⟩, hl⟩ := List.forall_mem_cons.1 h
    obtain ⟨bs, hbs, hsames⟩ := ih hl
    refine ⟨b :: bs, ?_, .cons hsame hsames⟩
    have hrest : (l.map write).mapM read = some bs := hbs
    simp [list?, items?, hb, hrest]

/-- A list of items that all read back reads back. -/
theorem list?_map {read : Json → Option α} (h : ∀ a ∈ l, read (write a) = some a) :
    list? read (.array (l.map write)) = some l := by
  obtain ⟨bs, hbs, hsame⟩ := exists_list?_map (β := α) fun a ha => ⟨a, h a ha, rfl⟩
  rw [List.forall₂_eq_eq_eq] at hsame
  rw [hbs, hsame]

/-- A list that is left out when it is empty reads back. -/
theorem withDefault?_list {read : Json → Option α} (h : ∀ a ∈ l, read (write a) = some a) :
    withDefault? [] (list? read) (if l.isEmpty then none else some (.array (l.map write)))
      = some l := by
  cases l with
  | nil => rfl
  | cons a l => exact list?_map h

/-- Every item of a list that was read was read itself. -/
theorem exists_of_mem_list? {read : Json → Option α} {j : Json} (h : list? read j = some l) :
    ∀ a ∈ l, ∃ j, read j = some a := by
  obtain ⟨items, -, hitems⟩ := Option.bind_eq_some_iff.1 h
  clear h
  -- The items are read in sequence, so every element that comes out was read from one of them.
  induction items generalizing l with
  | nil =>
    cases hitems
    simp
  | cons item items ih =>
    simp only [List.mapM_cons, Option.bind_eq_bind, Option.bind_eq_some_iff] at hitems
    obtain ⟨a, ha, rest, hrest, hl⟩ := hitems
    cases hl
    exact List.forall_mem_cons.2 ⟨⟨item, ha⟩, ih hrest⟩

/-- Items in a relation are in another one if and only if all of them have a property, if that holds
of each. -/
theorem forall₂_iff_forall_mem {R S : β → α → Prop} {P : α → Prop} {m : List β}
    (h : List.Forall₂ R m l) (hiff : ∀ a ∈ l, ∀ b, R b a → (S b a ↔ P a)) :
    List.Forall₂ S m l ↔ ∀ a ∈ l, P a := by
  induction h with
  | nil => simp
  | cons hhead _ ih =>
    obtain ⟨ha, hrest⟩ := List.forall_mem_cons.1 hiff
    rw [List.forall₂_cons, List.forall_mem_cons, ha _ hhead, ih hrest]

theorem isPlain_array_map (h : ∀ a ∈ l, (write a).IsPlain) : (array (l.map write)).IsPlain :=
  .array (List.forall_mem_map.2 h)

end Lists

/-! ## Labels -/

theorem Access.ofLabel?_label (a : Access) : Access.ofLabel? a.label = some a := by
  cases a <;> rfl

theorem Severity.ofLabel?_label (s : Severity) : Severity.ofLabel? s.label = some s := by
  cases s <;> rfl

theorem Rule.ofLabel?_label (r : Rule) : Rule.ofLabel? r.label = some r := by
  cases r <;> rfl

theorem Capability.ofId?_id (c : Capability) : Capability.ofId? c.id = some c := by
  cases c <;> rfl

theorem ScanStep.ofLabel?_label (s : ScanStep) : ScanStep.ofLabel? s.label = some s := by
  cases s <;> rfl

/-! ## The parts of a result -/

theorem FlaggedGlobal.isPlain_toJson (g : FlaggedGlobal) : g.toJson.IsPlain :=
  .object (by simp [IsPlain.string])

theorem FlaggedGlobal.ofJson?_toJson (g : FlaggedGlobal) :
    FlaggedGlobal.ofJson? g.toJson = some g := by
  simp [FlaggedGlobal.ofJson?, toJson, record?, field?, required?, string?, variant?,
    Access.ofLabel?_label, Capability.ofId?_id]

theorem Finding.isPlain_toJson (f : Finding) : f.toJson.IsPlain := by
  have hflagged := isPlain_array_map (l := f.flagged) fun g _ => g.isPlain_toJson
  refine .object ?_
  split <;> simp [IsPlain.string, hflagged]

/-- The fields of a finding, of which the flagged globals are missing if there are none. -/
theorem Finding.record?_toJson (f : Finding) :
    f.toJson.record? ["rule", "severity", "description", "evidence", "flagged"]
      = some [some (.string f.rule.label), some (.string f.severity.label),
          some (.string f.description), some (.string f.evidence),
          if f.flagged.isEmpty then none
          else some (.array (f.flagged.map FlaggedGlobal.toJson))] := by
  rw [toJson]
  split <;> simp [record?, field?]

theorem Finding.ofJson?_toJson (f : Finding) : Finding.ofJson? f.toJson = some f := by
  have hflagged := withDefault?_list (l := f.flagged) fun g _ => g.ofJson?_toJson
  simp [-List.isEmpty_iff, Finding.ofJson?, f.record?_toJson, required?, string?, variant?,
    Rule.ofLabel?_label, Severity.ofLabel?_label, hflagged]

theorem SkippedFile.isPlain_toJson (f : SkippedFile) : f.toJson.IsPlain :=
  .object (by simp [IsPlain.string])

theorem SkippedFile.ofJson?_toJson (f : SkippedFile) : SkippedFile.ofJson? f.toJson = some f := by
  simp [SkippedFile.ofJson?, toJson, record?, field?, required?, string?]

theorem ScanFailure.isPlain_toJson (f : ScanFailure) : f.toJson.IsPlain := by
  refine .object ?_
  cases f.step <;> simp [IsPlain.string]

theorem ScanFailure.ofJson?_toJson (f : ScanFailure) : ScanFailure.ofJson? f.toJson = some f := by
  obtain ⟨target, step, message⟩ := f
  cases step <;> simp [ScanFailure.ofJson?, toJson, record?, field?, required?, string?, variant?,
    withDefault?, optional?, ScanStep.ofLabel?_label]

namespace GlobalUsage

theorem isPlain_toJson (u : GlobalUsage) : u.toJson.IsPlain :=
  .object (List.forall_mem_map.2 fun _ _ => .string _)

theorem exists_ofJson?_toJson (u : GlobalUsage) :
    ∃ v, GlobalUsage.ofJson? u.toJson = some v ∧ v.accesses.Equiv u.accesses := by
  obtain ⟨map, hmap, hequiv⟩ := exists_mapOfJson?_eq (t := u.accesses)
    (fun a => .string a.label) (fun j => j.variant? >>= Access.ofLabel?)
    fun e _ => Access.ofLabel?_label e.2
  exact ⟨⟨map⟩, congrArg (Option.map GlobalUsage.mk) hmap, hequiv⟩

end GlobalUsage

/-! ## Dependencies -/

namespace ScannedDependency

/-- Dependencies that only differ in how their maps are laid out. -/
structure Same (d e : ScannedDependency) : Prop where
  name : d.name = e.name
  version : d.version = e.version
  metadata : d.metadata.Same e.metadata
  downloads : d.downloads = e.downloads
  globals : d.globals.accesses.Equiv e.globals.accesses
  findings : d.findings = e.findings
  skipped : d.skipped = e.skipped

/-- A dependency whose count of downloads has 64 bits and whose dates and times the calendar has. -/
structure IsRepresentable (d : ScannedDependency) : Prop where
  metadata : d.metadata.IsRepresentable
  downloads : d.downloads.IsValid

/-- A dependency whose times can be read, besides. -/
structure IsValid (d : ScannedDependency) : Prop where
  metadata : d.metadata.IsValid
  downloads : d.downloads.IsValid

/-- A dependency without the versions that the registry lists of its package. -/
def withoutVersions (d : ScannedDependency) : ScannedDependency :=
  { d with metadata := d.metadata.withoutVersions }

/-- What the document of a dependency denotes. -/
def asWritten (d : ScannedDependency) : ScannedDependency :=
  { d with metadata := d.metadata.asWritten }

theorem IsRepresentable.toJson_asWritten {d : ScannedDependency} (h : d.IsRepresentable) :
    d.asWritten.toJson = d.toJson := by
  rw [toJson, toJson, asWritten, h.metadata.toJson_asWritten]

theorem Same.withoutVersions_iff {e d : ScannedDependency} (h : e.Same d.asWritten)
    (hd : d.IsRepresentable) : e.Same d.withoutVersions ↔ d.IsValid := by
  have hmetadata : e.metadata.Same d.metadata.withoutVersions ↔ d.metadata.IsValid :=
    PackageMetadata.Same.withoutVersions_iff h.metadata hd.metadata
  exact ⟨fun hsame => ⟨hmetadata.1 hsame.metadata, hd.downloads⟩,
    fun hvalid => { h with metadata := hmetadata.2 hvalid.metadata }⟩

theorem Same.toJson_eq {d e : ScannedDependency} (h : d.Same e) : d.toJson = e.toJson := by
  simp only [toJson, GlobalUsage.toJson, GlobalUsage.toList, h.name, h.version,
    h.metadata.toJson_eq, h.downloads, h.globals.toList_eq, h.findings, h.skipped]

theorem isPlain_toJson (d : ScannedDependency) : d.toJson.IsPlain := by
  have hfindings := isPlain_array_map (l := d.findings) fun f _ => f.isPlain_toJson
  have hskipped := isPlain_array_map (l := d.skipped) fun f _ => f.isPlain_toJson
  refine .object ?_
  split <;> simp [IsPlain.string, d.metadata.isPlain_toJson, d.downloads.isPlain_toJson,
    d.globals.isPlain_toJson, hfindings, hskipped]

/-- The fields of a dependency, of which the skipped files are missing if there are none. -/
theorem record?_toJson (d : ScannedDependency) :
    d.toJson.record? fieldNames
      = some [some (.string d.name), some (.string d.version), some d.metadata.toJson,
          some d.downloads.toJson, some d.globals.toJson,
          some (.array (d.findings.map Finding.toJson)),
          if d.skipped.isEmpty then none
          else some (.array (d.skipped.map SkippedFile.toJson))] := by
  rw [toJson]
  split <;> simp [record?, field?, fieldNames]

/-- A dependency reads back as its document denotes it. -/
theorem exists_ofJson?_toJson {d : ScannedDependency} (h : d.IsRepresentable) :
    ∃ e, ScannedDependency.ofJson? d.toJson = some e ∧ e.Same d.asWritten := by
  -- Metadata and globals are maps, which come back equivalent rather than equal; the other fields
  -- come back as they were.
  obtain ⟨metadata, hmetadata, hsame⟩ := PackageMetadata.exists_ofJsonWithin?_toJson h.metadata 122
  obtain ⟨globals, hglobals, hequiv⟩ := d.globals.exists_ofJson?_toJson
  have hfindings := list?_map (l := d.findings) fun f _ => f.ofJson?_toJson
  have hskipped := withDefault?_list (l := d.skipped) fun f _ => f.ofJson?_toJson
  have hdownloads := DownloadStats.ofJson?_toJson h.downloads
  refine ⟨{ d with metadata, globals }, ?_, ⟨rfl, rfl, hsame, rfl, hequiv, rfl, rfl⟩⟩
  simp [-List.isEmpty_iff, ScannedDependency.ofJson?, d.record?_toJson, required?, string?,
    hmetadata, hdownloads, hglobals, hfindings, hskipped]

/-- A dependency that was read is valid. -/
theorem isValid_of_ofJson? {j : Json} {d : ScannedDependency}
    (h : ScannedDependency.ofJson? j = some d) : d.IsValid := by
  unfold ScannedDependency.ofJson? at h
  split at h
  -- Reading is a chain of optional steps: only the values of the two timed parts matter here.
  · simp only [Option.bind_eq_bind, Option.bind_eq_some_iff, required?] at h
    obtain ⟨_, _, _, _, metadata, ⟨_, _, hmetadata⟩, downloads, ⟨_, _, hdownloads⟩,
      _, _, _, _, _, _, hd⟩ := h
    cases hd
    exact ⟨PackageMetadata.isValid_of_ofJsonWithin? hmetadata,
      DownloadStats.isValid_of_ofJson? hdownloads⟩
  · cases h

end ScannedDependency

/-! ## Results -/

namespace ScanResult

/-- Results that only differ in how their maps are laid out. -/
structure Same (r s : ScanResult) : Prop where
  dependencies : List.Forall₂ ScannedDependency.Same r.dependencies s.dependencies
  failures : r.failures = s.failures

/-- A result whose numbers have 64 bits and whose dates and times the calendar has. -/
def IsRepresentable (r : ScanResult) : Prop :=
  ∀ d ∈ r.dependencies, d.IsRepresentable

/-- A result whose times can be read, besides. -/
def IsValid (r : ScanResult) : Prop :=
  ∀ d ∈ r.dependencies, d.IsValid

/-- A result without the versions that the registry lists of its packages. -/
def withoutVersions (r : ScanResult) : ScanResult :=
  { r with dependencies := r.dependencies.map ScannedDependency.withoutVersions }

/-- What the document of a result denotes. -/
def asWritten (r : ScanResult) : ScanResult :=
  { r with dependencies := r.dependencies.map ScannedDependency.asWritten }

/-- The result that a text holds. -/
def ofText? (text : String) : Option ScanResult :=
  Json.parse? text.toList >>= ScanResult.ofJson?

theorem IsRepresentable.toJson_asWritten {r : ScanResult} (h : r.IsRepresentable) :
    r.asWritten.toJson = r.toJson := by
  have hdependencies : r.asWritten.dependencies.map ScannedDependency.toJson
      = r.dependencies.map ScannedDependency.toJson := by
    rw [asWritten, List.map_map]
    exact List.map_congr_left fun d hd => (h d hd).toJson_asWritten
  rw [toJson, toJson, hdependencies]
  rfl

/-- What was written is the same but for the versions, if every dependency is. -/
theorem Same.withoutVersions_iff {s r : ScanResult} (h : s.Same r.asWritten)
    (hr : r.IsRepresentable) : s.Same r.withoutVersions ↔ r.IsValid := by
  have hdependencies : List.Forall₂ (fun e d => e.Same d.withoutVersions)
      s.dependencies r.dependencies ↔ r.IsValid :=
    forall₂_iff_forall_mem (List.forall₂_map_right_iff.1 h.dependencies)
      fun d hd _ hsame => hsame.withoutVersions_iff (hr d hd)
  rw [← hdependencies, ← List.forall₂_map_right_iff]
  exact ⟨fun hsame => hsame.dependencies, fun hsame => ⟨hsame, h.failures⟩⟩

theorem Same.toJson_eq {r s : ScanResult} (h : r.Same s) : r.toJson = s.toJson := by
  have hdependencies : r.dependencies.map ScannedDependency.toJson
      = s.dependencies.map ScannedDependency.toJson := by
    rw [← List.forall₂_eq_eq_eq, List.forall₂_map_left_iff, List.forall₂_map_right_iff]
    exact h.dependencies.imp fun _ _ hsame => hsame.toJson_eq
  simp only [toJson, hdependencies, h.failures]

theorem isPlain_toJson (r : ScanResult) : r.toJson.IsPlain := by
  have hdependencies := isPlain_array_map (l := r.dependencies) fun d _ => d.isPlain_toJson
  have hfailures := isPlain_array_map (l := r.failures) fun f _ => f.isPlain_toJson
  refine .object ?_
  split <;> simp [hdependencies, hfailures]

/-- The fields of a result, of which the failures are missing if there are none. -/
theorem record?_toJson (r : ScanResult) :
    r.toJson.record? ["dependencies", "failures"]
      = some [some (.array (r.dependencies.map ScannedDependency.toJson)),
          if r.failures.isEmpty then none
          else some (.array (r.failures.map ScanFailure.toJson))] := by
  rw [toJson]
  split <;> simp [record?, field?]

/-- A result reads back as its document denotes it. -/
theorem exists_ofJson?_toJson {r : ScanResult} (h : r.IsRepresentable) :
    ∃ s, ScanResult.ofJson? r.toJson = some s ∧ s.Same r.asWritten := by
  obtain ⟨dependencies, hdependencies, hsame⟩ := exists_list?_map (l := r.dependencies)
    fun d hd => ScannedDependency.exists_ofJson?_toJson (h d hd)
  have hfailures := withDefault?_list (l := r.failures) fun f _ => f.ofJson?_toJson
  refine ⟨⟨dependencies, r.failures⟩, ?_, ⟨List.forall₂_map_right_iff.2 hsame, rfl⟩⟩
  simp [-List.isEmpty_iff, ScanResult.ofJson?, r.record?_toJson, required?, hdependencies,
    hfailures]

/-- The text of a result reads back as what it denotes. -/
theorem exists_ofText?_toText {r : ScanResult} (h : r.IsRepresentable) :
    ∃ saved, ofText? r.toJson.toText = some saved ∧ saved.Same r.asWritten := by
  rw [ofText?, Json.parse?_toText r.isPlain_toJson]
  exact exists_ofJson?_toJson h

/-- A result that was read is valid. -/
theorem isValid_of_ofText? {text : String} {r : ScanResult} (h : ofText? text = some r) :
    r.IsValid := by
  obtain ⟨j, -, hj⟩ := Option.bind_eq_some_iff.1 h
  unfold ScanResult.ofJson? at hj
  split at hj
  -- The list of dependencies carries the whole statement, one dependency at a time.
  · simp only [Option.bind_eq_bind, Option.bind_eq_some_iff, required?] at hj
    obtain ⟨dependencies, ⟨_, _, hdependencies⟩, _, _, hr⟩ := hj
    cases hr
    intro d hd
    obtain ⟨_, hread⟩ := exists_of_mem_list? hdependencies d hd
    exact ScannedDependency.isValid_of_ofJson? hread
  · cases hj

/-- **A saved result reads back as it is written**, and saving it again gives the same text. It is
the same result but that the versions of its packages are gone, if and only if no time in it is a
leap second within a minute. -/
theorem saved_reads_back {r : ScanResult} (h : r.IsRepresentable) :
    ∃ saved, ofText? r.toJson.toText = some saved ∧ saved.Same r.asWritten ∧
      saved.toJson.toText = r.toJson.toText ∧ (saved.Same r.withoutVersions ↔ r.IsValid) := by
  obtain ⟨saved, hsaved, hsame⟩ := exists_ofText?_toText h
  refine ⟨saved, hsaved, hsame, ?_, hsame.withoutVersions_iff h⟩
  rw [hsame.toJson_eq, h.toJson_asWritten]

/-- A result with leap seconds at the end of a minute and within one, years of five digits and
before year 0, the greatest count of downloads, a version that is not written, and texts that have
to be escaped. -/
def outlandish : ScanResult where
  dependencies := [{
    name := "café\u0000\"\\"
    version := "1.0.0"
    metadata := {
      name := "café"
      tags := .ofList [("latest", "1.0.0")]
      times := .ofList [("created", Timestamp.mk 17166 86399 1500000000),
        ("modified", Timestamp.mk (-719529) 43200 0), ("0.9.0", Timestamp.mk 0 0 1500000000),
        ("1.0.0", Timestamp.mk 2932897 0 1)]
      versions := .ofList
        [("1.0.0", VersionInfo.mk "1.0.0" { tarball := "https://a.test/b.tgz" })] }
    downloads := ⟨18446744073709551615, ⟨10000, 2, 29⟩, ⟨-1, 12, 31⟩, "café"⟩
    globals := .ofList [("fetch", .read), ("window", .readWrite)]
    findings := [⟨.dangerousGlobals, .high, "uses fetch", "index.js", [⟨"fetch", .read, .network⟩]⟩,
      ⟨.keyword, .low, "", "line\nbreak", []⟩]
    skipped := [⟨"lib/a.js", "unexpected token"⟩] }]
  failures := [⟨"b@2.0.0", some .fetchArchive, "HTTP 500"⟩, ⟨"yarn.lock", none, "💥"⟩]

theorem saved_reads_back_outlandish :
    outlandish.IsRepresentable ∧
      ∃ saved, ofText? outlandish.toJson.toText = some saved ∧ saved.Same outlandish.asWritten ∧
        saved.toJson.toText = outlandish.toJson.toText ∧
        (saved.Same outlandish.withoutVersions ↔ outlandish.IsValid) := by
  have hrepresentable : outlandish.IsRepresentable :=
    List.forall_mem_singleton.2 ⟨by decide +kernel, by decide +kernel⟩
  exact ⟨hrepresentable, saved_reads_back hrepresentable⟩

/-- A result with a time that is a leap second within a minute, and read from no text. -/
def offBeat : ScanResult where
  dependencies := [{
    name := "a"
    version := "1.0.0"
    metadata := {
      name := "a"
      tags := .ofList [("latest", "1.0.0")]
      times := .ofList [("1.0.0", Timestamp.mk 0 0 1500000000)] }
    downloads := ⟨1000000, ⟨1970, 1, 1⟩, ⟨1970, 1, 7⟩, "a"⟩
    globals := .ofList []
    findings := [] }]
  failures := []

/-- Its time is written as `1970-01-01T00:00:01.500Z`, which denotes a second later. -/
theorem saved_reads_back_otherwise :
    offBeat.IsRepresentable ∧
      ∃ saved, ofText? offBeat.toJson.toText = some saved ∧
        ¬saved.Same offBeat.withoutVersions := by
  have hrepresentable : offBeat.IsRepresentable :=
    List.forall_mem_singleton.2 ⟨by decide +kernel, by decide +kernel⟩
  have hnot : ¬offBeat.IsValid :=
    fun hvalid => absurd (List.forall_mem_singleton.1 hvalid).metadata (by decide +kernel)
  obtain ⟨saved, hsaved, hsame⟩ := exists_ofText?_toText hrepresentable
  refine ⟨hrepresentable, saved, hsaved, fun h => ?_⟩
  exact hnot ((hsame.withoutVersions_iff hrepresentable).1 h)

end ScanResult

end DepTriage
