import DepTriage.CommandLine.Run
import DepTriage.Proofs.Text.Utf8
import DepTriage.Proofs.Toml.Document
import DepTriage.Proofs.Toml.Integers

/-!
# Saved configurations read back

A configuration is saved with all of its fields, but for a token that is none. Each section reads
back from its fields alone, whatever the strings and lists in it, and so does the whole of them:
only the numbers have to fit in what the file, and the fields they are read into, can hold.

## Key results

- `RegistrySettings.ofToml?_fields` and its like: a section reads back
- `Config.isDocument`: the saved fields make a document
- `Config.parse?_toToml`: a saved configuration reads back
- `Config.isStorable_of_parse?`: whatever is read from a file can be saved
- `Config.limits_scanSettings`: a scan goes by the limits that a file states
- `Config.reads_back_from_saved_bytes`: so it does from the bytes of its file
- `CommandLine.loadConfig_eq`: and so the program finds it
-/

namespace DepTriage

open Toml (FieldValue IsDocument IsBare AreFields fieldValues documentText)
open Toml.Value

/-! ## Values -/

/-- Not by `rfl`, so that a reader is not opened to compare a field with its default. -/
theorem Toml.Value.withDefault?_some {α : Type} (default : α) (read : Toml.Value → Option α)
    (v : Toml.Value) : withDefault? default read (some v) = read v := by
  rw [withDefault?]

theorem Toml.Value.naturalBelow?_natural {n bound : Nat} (h : n < bound) :
    naturalBelow? bound (.integer n) = some n := by
  rw [naturalBelow?, if_pos ⟨Int.natCast_nonneg n, Int.ofNat_lt.2 h⟩, Int.toNat_natCast]

theorem Toml.Value.count?_natural {n : Nat} (h : n < Nat.pow 2 32) : count? (.integer n) = some n :=
  naturalBelow?_natural h

theorem Toml.Value.size?_natural {n : Nat} (h : n < Nat.pow 2 63) : size? (.integer n) = some n :=
  naturalBelow?_natural (Nat.lt_trans h (by decide))

/-- A field with a default has that, or what is read from the document. -/
theorem Toml.Value.cases_withDefault? {α : Type} {default a : α} {read : Toml.Value → Option α}
    {field : Option Toml.Value} (h : withDefault? default read field = some a) :
    a = default ∨ ∃ v ∈ field, read v = some a := by
  cases field with
  | none => exact .inl (Option.some.inj h).symm
  | some v => exact .inr ⟨v, rfl, h⟩

theorem Toml.Value.lt_of_count? {default n : Nat} {field : Option Toml.Value}
    (hdefault : default < Nat.pow 2 32) (h : withDefault? default count? field = some n) :
    n < Nat.pow 2 32 := by
  obtain rfl | ⟨_, _, hn⟩ := cases_withDefault? h
  · exact hdefault
  · exact lt_of_naturalBelow? hn

/-- A size is bounded by the range of the numbers in a document. -/
theorem Toml.Value.lt_of_size? {names : List String} {v : Toml.Value}
    {fields : List (Option Toml.Value)} {field : Option Toml.Value} {default n : Nat}
    (hv : v.IsInRange) (hrecord : v.record? names = some fields) (hfield : field ∈ fields)
    (hdefault : default < Nat.pow 2 63) (h : withDefault? default size? field = some n) :
    n < Nat.pow 2 63 := by
  obtain rfl | ⟨w, hw, hn⟩ := cases_withDefault? h
  · exact hdefault
  · exact (hv.of_record? hrecord hfield hw).lt_of_naturalBelow? hn

theorem Toml.Value.strings?_map (items : List String) :
    strings? (.array (items.map .string)) = some items := by
  rw [strings?, list?]
  induction items with
  | nil => rfl
  | cons item items ih => simp [string?, ih]

theorem Toml.Value.string?_string (text : String) : string? (.string text) = some text :=
  rfl

theorem BatchMode.ofLabel?_label (mode : BatchMode) : ofLabel? mode.label = some mode := by
  cases mode <;> rfl

theorem DownloadPeriod.ofLabel?_label (period : DownloadPeriod) :
    ofLabel? period.label = some period := by
  cases period <;> rfl

/-! ## Sections -/

def RegistrySettings.fields (s : RegistrySettings) : List (String × FieldValue) :=
  [("registry_url", .string s.registryUrl), ("downloads_url", .string s.downloadsUrl),
    ("download_period", .string s.downloadPeriod.label), ("max_retries", .natural s.maxRetries)]

theorem RegistrySettings.areFields {s : RegistrySettings} (h : s.maxRetries < Nat.pow 2 63) :
    AreFields s.fields :=
  .of_keys ["registry_url", "downloads_url", "download_period", "max_retries"] rfl (by decide)
    (by decide) (by simpa [fields, FieldValue.Fits] using h)

theorem RegistrySettings.ofToml?_fields {s : RegistrySettings} (h : s.maxRetries < Nat.pow 2 32) :
    ofToml? (.table (fieldValues s.fields)) = some s := by
  have hrecord : record? ["registry_url", "downloads_url", "download_period", "max_retries"]
      (.table (fieldValues s.fields)) =
        some [some (.string s.registryUrl), some (.string s.downloadsUrl),
          some (.string s.downloadPeriod.label), some (.integer s.maxRetries)] := rfl
  rw [ofToml?, hrecord]
  simp [withDefault?_some, string?_string, variant?, DownloadPeriod.ofLabel?_label,
    count?_natural h]

/-- The fields of the section for GitHub, with the token if there is one. -/
def GitHubSettings.fields (s : GitHubSettings) : List (String × FieldValue) :=
  [("api_url", .string s.apiUrl), ("raw_url", .string s.rawUrl),
    ("max_retries", .natural s.maxRetries), ("per_page", .natural s.perPage)]
    ++ s.token.toList.map fun token => ("token", .string token)

theorem GitHubSettings.areFields {s : GitHubSettings} (hretries : s.maxRetries < Nat.pow 2 63)
    (hpage : s.perPage < Nat.pow 2 63) : AreFields s.fields := by
  obtain ⟨apiUrl, rawUrl, maxRetries, perPage, token⟩ := s
  cases token with
  | none =>
    exact .of_keys ["api_url", "raw_url", "max_retries", "per_page"] rfl (by decide) (by decide)
      (by simpa [fields, FieldValue.Fits] using And.intro hretries hpage)
  | some token =>
    exact .of_keys ["api_url", "raw_url", "max_retries", "per_page", "token"] rfl (by decide)
      (by decide) (by simpa [fields, FieldValue.Fits] using And.intro hretries hpage)

theorem GitHubSettings.ofToml?_fields {s : GitHubSettings} (hretries : s.maxRetries < Nat.pow 2 32)
    (hpage : s.perPage < Nat.pow 2 32) : ofToml? (.table (fieldValues s.fields)) = some s := by
  have hrecord : record? ["api_url", "raw_url", "max_retries", "per_page", "token"]
      (.table (fieldValues s.fields)) =
        some [some (.string s.apiUrl), some (.string s.rawUrl), some (.integer s.maxRetries),
          some (.integer s.perPage), s.token.map .string] := by
    -- The token is the one field that is left out when it is not set.
    obtain ⟨apiUrl, rawUrl, maxRetries, perPage, token⟩ := s
    cases token <;> rfl
  have htoken : withDefault? none (fun v => v.string?.map some) (s.token.map .string) =
      some s.token := by
    cases s.token <;> rfl
  rw [ofToml?, hrecord]
  simp [withDefault?_some, string?_string, count?_natural hretries, count?_natural hpage, htoken]

def ExtractionSettings.fields (s : ExtractionSettings) : List (String × FieldValue) :=
  [("max_file_size", .natural s.limits.maxFileSize),
    ("max_total_size", .natural s.limits.maxTotalSize), ("extensions", .strings s.extensions)]

theorem ExtractionSettings.areFields {s : ExtractionSettings}
    (hfile : s.limits.maxFileSize < Nat.pow 2 63) (htotal : s.limits.maxTotalSize < Nat.pow 2 63) :
    AreFields s.fields :=
  .of_keys ["max_file_size", "max_total_size", "extensions"] rfl (by decide) (by decide)
    (by simpa [fields, FieldValue.Fits] using And.intro hfile htotal)

theorem ExtractionSettings.ofToml?_fields {s : ExtractionSettings}
    (hfile : s.limits.maxFileSize < Nat.pow 2 63) (htotal : s.limits.maxTotalSize < Nat.pow 2 63) :
    ofToml? (.table (fieldValues s.fields)) = some s := by
  have hrecord : record? ["max_file_size", "max_total_size", "extensions"]
      (.table (fieldValues s.fields)) =
        some [some (.integer s.limits.maxFileSize), some (.integer s.limits.maxTotalSize),
          some (.array (s.extensions.map .string))] := rfl
  rw [ofToml?, hrecord]
  simp [withDefault?_some, size?_natural hfile, size?_natural htotal, strings?_map]

def RuleSettings.fields (s : RuleSettings) : List (String × FieldValue) :=
  [("freshness_days", .natural s.freshnessDays),
    ("popularity_threshold", .natural s.popularityThreshold), ("keywords", .strings s.keywords)]

theorem RuleSettings.areFields {s : RuleSettings} (hdays : s.freshnessDays < Nat.pow 2 63)
    (hthreshold : s.popularityThreshold < Nat.pow 2 63) : AreFields s.fields :=
  .of_keys ["freshness_days", "popularity_threshold", "keywords"] rfl (by decide) (by decide)
    (by simpa [fields, FieldValue.Fits] using And.intro hdays hthreshold)

theorem RuleSettings.ofToml?_fields {s : RuleSettings} (hdays : s.freshnessDays < Nat.pow 2 32)
    (hthreshold : s.popularityThreshold < Nat.pow 2 63) :
    ofToml? (.table (fieldValues s.fields)) = some s := by
  have hrecord : record? ["freshness_days", "popularity_threshold", "keywords"]
      (.table (fieldValues s.fields)) =
        some [some (.integer s.freshnessDays), some (.integer s.popularityThreshold),
          some (.array (s.keywords.map .string))] := rfl
  rw [ofToml?, hrecord]
  simp [withDefault?_some, count?_natural hdays, size?_natural hthreshold, strings?_map]

def IgnoreList.fields (s : IgnoreList) : List (String × FieldValue) :=
  [("packages", .strings s.patterns)]

theorem IgnoreList.areFields (s : IgnoreList) : AreFields s.fields :=
  .of_keys ["packages"] rfl (by decide) (by decide) (by simp [fields, FieldValue.Fits])

theorem IgnoreList.ofToml?_fields (s : IgnoreList) :
    ofToml? (.table (fieldValues s.fields)) = some s := by
  have hrecord : record? ["packages"] (.table (fieldValues s.fields)) =
      some [some (.array (s.patterns.map .string))] := rfl
  rw [ofToml?, hrecord]
  simp [withDefault?_some, strings?_map]

/-! ## Bounds -/

theorem RegistrySettings.lt_of_ofToml? {v : Toml.Value} {s : RegistrySettings}
    (h : ofToml? v = some s) : s.maxRetries < Nat.pow 2 32 := by
  unfold ofToml? at h
  split at h
  · simp only [Option.bind_eq_bind, Option.bind_eq_some_iff] at h
    obtain ⟨_, -, _, -, _, -, retries, hretries, hs⟩ := h
    cases hs
    exact lt_of_count? (by decide) hretries
  · cases h

theorem GitHubSettings.lt_of_ofToml? {v : Toml.Value} {s : GitHubSettings}
    (h : ofToml? v = some s) : s.maxRetries < Nat.pow 2 32 ∧ s.perPage < Nat.pow 2 32 := by
  unfold ofToml? at h
  split at h
  · simp only [Option.bind_eq_bind, Option.bind_eq_some_iff] at h
    obtain ⟨_, -, _, -, retries, hretries, page, hpage, _, -, hs⟩ := h
    cases hs
    exact ⟨lt_of_count? (by decide) hretries, lt_of_count? (by decide) hpage⟩
  · cases h

theorem ExtractionSettings.lt_of_ofToml? {v : Toml.Value} (hv : v.IsInRange)
    {s : ExtractionSettings} (h : ofToml? v = some s) :
    s.limits.maxFileSize < Nat.pow 2 63 ∧ s.limits.maxTotalSize < Nat.pow 2 63 := by
  unfold ofToml? at h
  split at h
  · next hrecord =>
    -- Both limits are read as sizes, which a number of the document bounds.
    simp only [Option.bind_eq_bind, Option.bind_eq_some_iff] at h
    obtain ⟨file, hfile, total, htotal, _, -, hs⟩ := h
    cases hs
    exact ⟨lt_of_size? hv hrecord (by simp) (by decide) hfile,
      lt_of_size? hv hrecord (by simp) (by decide) htotal⟩
  · cases h

theorem RuleSettings.lt_of_ofToml? {v : Toml.Value} (hv : v.IsInRange) {s : RuleSettings}
    (h : ofToml? v = some s) :
    s.freshnessDays < Nat.pow 2 32 ∧ s.popularityThreshold < Nat.pow 2 63 := by
  unfold ofToml? at h
  split at h
  · next hrecord =>
    -- The days are counted in 32 bits; only the threshold needs the bound of the document.
    simp only [Option.bind_eq_bind, Option.bind_eq_some_iff] at h
    obtain ⟨days, hdays, threshold, hthreshold, _, -, hs⟩ := h
    cases hs
    exact ⟨lt_of_count? (by decide) hdays,
      lt_of_size? hv hrecord (by simp) (by decide) hthreshold⟩
  · cases h

/-! ## The whole -/

namespace Config

/-- The numbers of a configuration fit in the fields that hold them, and in a file. -/
structure IsStorable (c : Config) : Prop where
  registryRetries : c.registry.maxRetries < Nat.pow 2 32
  gitHubRetries : c.github.maxRetries < Nat.pow 2 32
  perPage : c.github.perPage < Nat.pow 2 32
  maxFileSize : c.extraction.limits.maxFileSize < Nat.pow 2 63
  maxTotalSize : c.extraction.limits.maxTotalSize < Nat.pow 2 63
  freshnessDays : c.rules.freshnessDays < Nat.pow 2 32
  popularityThreshold : c.rules.popularityThreshold < Nat.pow 2 63

theorem sections_eq (c : Config) :
    c.sections = [("registry", c.registry.fields), ("github", c.github.fields),
      ("extraction", c.extraction.fields), ("rules", c.rules.fields),
      ("ignore", c.ignore.fields)] := rfl

/-- Whatever it holds, a configuration is written as a document. -/
theorem isDocument {c : Config} (h : c.IsStorable) : IsDocument c.topFields c.sections where
  top_fits :=
    have htop : AreFields c.topFields := .of_keys ["batch_mode", "default_format"] rfl (by decide)
      (by decide) (by simp [topFields, FieldValue.Fits])
    htop.fits
  areFields := by
    -- Each number is stored within the bound of its own type, which is less than what a file
    -- allows.
    have hlarge : ∀ {n : Nat}, n < Nat.pow 2 32 → n < Nat.pow 2 63 := fun h =>
      Nat.lt_trans h (by decide)
    have hregistry := c.registry.areFields (hlarge h.registryRetries)
    have hgitHub := c.github.areFields (hlarge h.gitHubRetries) (hlarge h.perPage)
    have hextraction := c.extraction.areFields h.maxFileSize h.maxTotalSize
    have hrules := c.rules.areFields (hlarge h.freshnessDays) h.popularityThreshold
    have hnames : ∀ name ∈ ["registry", "github", "extraction", "rules", "ignore"],
        IsBare name := by decide
    simp only [List.forall_mem_cons] at hnames
    rw [sections_eq]
    simp only [List.forall_mem_cons]
    exact ⟨⟨hnames.1, hregistry⟩, ⟨hnames.2.1, hgitHub⟩, ⟨hnames.2.2.1, hextraction⟩,
      ⟨hnames.2.2.2.1, hrules⟩, ⟨hnames.2.2.2.2.1, c.ignore.areFields⟩, nofun⟩
  nodup :=
    show ["batch_mode", "default_format", "registry", "github", "extraction", "rules",
      "ignore"].Nodup by decide

/-- A configuration reads back from the values of its fields and sections. -/
theorem ofToml?_document {c : Config} (h : c.IsStorable) :
    ofToml? (.table (fieldValues c.topFields ++
      c.sections.map fun (name, fields) => (name, .table (fieldValues fields)))) = some c := by
  -- The reader takes the fields by name; each section then reads back by its own lemma.
  have hrecord : record? ["batch_mode", "default_format", "registry", "github", "extraction",
      "rules", "ignore"] (.table (fieldValues c.topFields ++
        c.sections.map fun (name, fields) => (name, .table (fieldValues fields)))) =
      some [some (.string c.batchMode.label), some (.string c.defaultFormat),
        some (.table (fieldValues c.registry.fields)), some (.table (fieldValues c.github.fields)),
        some (.table (fieldValues c.extraction.fields)),
        some (.table (fieldValues c.rules.fields)),
        some (.table (fieldValues c.ignore.fields))] := rfl
  rw [ofToml?]
  dsimp only
  rw [hrecord]
  simp [withDefault?_some, string?_string, variant?, BatchMode.ofLabel?_label,
    RegistrySettings.ofToml?_fields h.registryRetries,
    GitHubSettings.ofToml?_fields h.gitHubRetries h.perPage,
    ExtractionSettings.ofToml?_fields h.maxFileSize h.maxTotalSize,
    RuleSettings.ofToml?_fields h.freshnessDays h.popularityThreshold,
    IgnoreList.ofToml?_fields]

/-- A saved configuration reads back. -/
theorem parse?_toToml {c : Config} (h : c.IsStorable) : parse? c.toToml = some c := by
  have hread : Toml.parse? c.toToml = some (.table (fieldValues c.topFields ++
      c.sections.map fun (name, fields) => (name, .table (fieldValues fields)))) :=
    Toml.parse?_document (isDocument h)
  rw [parse?, hread, Option.bind_eq_bind, Option.bind_some]
  exact ofToml?_document h

/-- Whatever a file holds, the configuration that is read from it can be saved. -/
theorem isStorable_of_parse? {text : String} {c : Config} (h : parse? text = some c) :
    c.IsStorable := by
  obtain ⟨v, hv, h⟩ := Option.bind_eq_some_iff.1 h
  have hrange := Toml.isInRange_of_parse? hv
  unfold ofToml? at h
  dsimp only at h
  split at h
  · next hrecord =>
    simp only [Option.bind_eq_bind, Option.bind_eq_some_iff] at h
    obtain ⟨_, -, _, -, registry, hregistry, gitHub, hgitHub, extraction, hextraction, rules,
      hrules, _, -, hc⟩ := h
    cases hc
    -- Every section is read from a field of the whole, or has its defaults.
    have hretries : registry.maxRetries < Nat.pow 2 32 := by
      obtain rfl | ⟨_, _, hread⟩ := cases_withDefault? hregistry
      · decide
      · exact RegistrySettings.lt_of_ofToml? hread
    have hgitHub : gitHub.maxRetries < Nat.pow 2 32 ∧ gitHub.perPage < Nat.pow 2 32 := by
      obtain rfl | ⟨_, _, hread⟩ := cases_withDefault? hgitHub
      · decide
      · exact GitHubSettings.lt_of_ofToml? hread
    have hextraction : extraction.limits.maxFileSize < Nat.pow 2 63 ∧
        extraction.limits.maxTotalSize < Nat.pow 2 63 := by
      obtain rfl | ⟨w, hw, hread⟩ := cases_withDefault? hextraction
      · decide
      · have hw : w.IsInRange := hrange.of_record? hrecord (by simp) hw
        exact ExtractionSettings.lt_of_ofToml? hw hread
    have hrules : rules.freshnessDays < Nat.pow 2 32 ∧
        rules.popularityThreshold < Nat.pow 2 63 := by
      obtain rfl | ⟨w, hw, hread⟩ := cases_withDefault? hrules
      · decide
      · have hw : w.IsInRange := hrange.of_record? hrecord (by simp) hw
        exact RuleSettings.lt_of_ofToml? hw hread
    exact ⟨hretries, hgitHub.1, hgitHub.2, hextraction.1, hextraction.2, hrules.1, hrules.2⟩
  · cases h

/-- A scan goes by the limits that a file states. -/
theorem limits_scanSettings {c : Config} (h : c.IsStorable) (now : Timestamp) :
    (c.scanSettings now).limits = c.extraction.limits :=
  ExtractionLimits.reservable_eq (Nat.le_pred_of_lt h.maxFileSize)

end Config

/-! ## Files -/

/-- What is saved as the bytes of a file reads back from these bytes. -/
theorem Config.reads_back_from_saved_bytes {c : Config} (h : c.IsStorable) :
    (Text.decode? c.toToml.toUTF8.toList >>= Config.parse?) = some c := by
  rw [Text.decode?_toUTF8, Option.bind_eq_bind, Option.bind_some]
  exact Config.parse?_toToml h

/-- A configuration with what is hardest to write: marks of either kind, backslashes, newlines and
control characters, an empty string, and lists of no item, of one, and of several. -/
def Config.outlandish : Config where
  batchMode := .skipFailed
  defaultFormat := "\"\"\"a'\nb\""
  registry :=
    { registryUrl := "", downloadsUrl := "\\ \t\r'", downloadPeriod := .lastYear,
      maxRetries := 4294967295 }
  github := { apiUrl := "'''", rawUrl := "\x00\x7f", perPage := 0, token := some "\n\"" }
  extraction := { limits := { maxFileSize := 9223372036854775807 }, extensions := [] }
  rules := { keywords := ["#\"\"\"\"", "= 1", "[rules]\n"] }
  ignore := { patterns := ["@scope/*"] }

theorem Config.reads_back_from_saved_bytes_outlandish :
    Config.outlandish.IsStorable ∧
      (Text.decode? Config.outlandish.toToml.toUTF8.toList >>= Config.parse?) =
        some Config.outlandish :=
  have h : Config.outlandish.IsStorable :=
    ⟨by decide, by decide, by decide, by decide, by decide, by decide, by decide⟩
  ⟨h, Config.reads_back_from_saved_bytes h⟩

/-- On a machine whose configuration file was saved, that configuration is the one in use. -/
theorem CommandLine.loadConfig_eq {m : Type → Type} [Monad m] [LawfulMonad m] (env : Environment m)
    {c : Config} (h : c.IsStorable)
    (hsaved : env.content env.configPath = pure (.ok c.toToml.toUTF8)) :
    loadConfig env = pure c := by
  have htext : readText env env.configPath = pure (.ok c.toToml) := by
    rw [readText, hsaved, pure_bind]
    dsimp only
    rw [Text.decode?_toUTF8]
  have hoption : (Except.ok c.toToml : Except String String).toOption = some c.toToml := by
    rw [Except.toOption]
  rw [loadConfig, htext, pure_bind, hoption, Option.bind_eq_bind, Option.bind_some,
    Config.parse?_toToml h, Option.getD_some]

end DepTriage
