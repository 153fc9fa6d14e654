import DepTriage.Archive.Extraction
import DepTriage.Choice
import DepTriage.IgnoreList
import DepTriage.Registry.Package
import DepTriage.Rule.Evaluation
import DepTriage.Toml.Printer
import DepTriage.Toml.Reader

/-! # Configuration

The settings of the program, which are kept in a TOML file. Whatever a file leaves out has its
default, and what it holds besides the settings is passed over. -/

namespace DepTriage

structure RegistrySettings where
  registryUrl : String := "https://registry.npmjs.org"
  downloadsUrl : String := "https://api.npmjs.org/downloads"
  downloadPeriod : DownloadPeriod := .lastWeek
  /-- The attempts that a request may take. -/
  maxRetries : Nat := 3
deriving DecidableEq, Repr, Inhabited

structure GitHubSettings where
  apiUrl : String := "https://api.github.com"
  rawUrl : String := "https://raw.githubusercontent.com"
  maxRetries : Nat := 3
  perPage : Nat := 100
  token : Option String := none
deriving DecidableEq, Repr, Inhabited

/-- The token to use: the one in the settings, or else that of the environment. An empty one counts
as none. -/
def GitHubSettings.effectiveToken? (s : GitHubSettings) (environment : Option String) :
    Option String :=
  (s.token.filter (!·.isEmpty)).or (environment.filter (!·.isEmpty))

structure ExtractionSettings where
  limits : ExtractionLimits := {}
  /-- The extensions of the files that are analyzed. -/
  extensions : List String := [".js", ".mjs", ".cjs"]
deriving DecidableEq, Repr, Inhabited

structure Config where
  batchMode : BatchMode := .failFast
  /-- The name of the format in which results are shown. -/
  defaultFormat : String := "table"
  registry : RegistrySettings := {}
  github : GitHubSettings := {}
  extraction : ExtractionSettings := {}
  rules : RuleSettings := {}
  ignore : IgnoreList := {}
deriving DecidableEq, Repr, Inhabited

/-! ## Reading -/

open Toml (Value)

/-- A number of 32 bits. -/
def Toml.Value.count? (v : Value) : Option Nat :=
  v.naturalBelow? (Nat.pow 2 32)

/-- A number of 64 bits. -/
def Toml.Value.size? (v : Value) : Option Nat :=
  v.naturalBelow? (Nat.pow 2 64)

def Toml.Value.strings? (v : Value) : Option (List String) :=
  v.list? Value.string?

open Toml.Value

def RegistrySettings.ofToml? (v : Value) : Option RegistrySettings :=
  let default : RegistrySettings := {}
  match v.record? ["registry_url", "downloads_url", "download_period", "max_retries"] with
  | some [registryUrl, downloadsUrl, downloadPeriod, maxRetries] => do
    return {
      registryUrl := ← withDefault? default.registryUrl string? registryUrl
      downloadsUrl := ← withDefault? default.downloadsUrl string? downloadsUrl
      downloadPeriod := ← withDefault? default.downloadPeriod
        (fun v => v.variant? >>= DownloadPeriod.ofLabel?) downloadPeriod
      maxRetries := ← withDefault? default.maxRetries count? maxRetries }
  | _ => none

def GitHubSettings.ofToml? (v : Value) : Option GitHubSettings :=
  let default : GitHubSettings := {}
  match v.record? ["api_url", "raw_url", "max_retries", "per_page", "token"] with
  | some [apiUrl, rawUrl, maxRetries, perPage, token] => do
    return {
      apiUrl := ← withDefault? default.apiUrl string? apiUrl
      rawUrl := ← withDefault? default.rawUrl string? rawUrl
      maxRetries := ← withDefault? default.maxRetries count? maxRetries
      perPage := ← withDefault? default.perPage count? perPage
      token := ← withDefault? default.token (fun v => v.string?.map some) token }
  | _ => none

def ExtractionSettings.ofToml? (v : Value) : Option ExtractionSettings :=
  let default : ExtractionSettings := {}
  match v.record? ["max_file_size", "max_total_size", "extensions"] with
  | some [maxFileSize, maxTotalSize, extensions] => do
    return {
      limits := {
        maxFileSize := ← withDefault? default.limits.maxFileSize size? maxFileSize
        maxTotalSize := ← withDefault? default.limits.maxTotalSize size? maxTotalSize }
      extensions := ← withDefault? default.extensions strings? extensions }
  | _ => none

def RuleSettings.ofToml? (v : Value) : Option RuleSettings :=
  let default : RuleSettings := {}
  match v.record? ["freshness_days", "popularity_threshold", "keywords"] with
  | some [freshnessDays, popularityThreshold, keywords] => do
    return {
      freshnessDays := ← withDefault? default.freshnessDays count? freshnessDays
      popularityThreshold := ← withDefault? default.popularityThreshold size? popularityThreshold
      keywords := ← withDefault? default.keywords strings? keywords }
  | _ => none

def IgnoreList.ofToml? (v : Value) : Option IgnoreList :=
  match v.record? ["packages"] with
  | some [packages] => (withDefault? [] strings? packages).map IgnoreList.mk
  | _ => none

namespace Config

def ofToml? (v : Value) : Option Config :=
  let default : Config := {}
  let names := ["batch_mode", "default_format", "registry", "github", "extraction", "rules",
    "ignore"]
  match v.record? names with
  | some [batchMode, defaultFormat, registry, github, extraction, rules, ignore] => do
    return {
      batchMode := ← withDefault? default.batchMode
        (fun v => v.variant? >>= BatchMode.ofLabel?) batchMode
      defaultFormat := ← withDefault? default.defaultFormat string? defaultFormat
      registry := ← withDefault? {} RegistrySettings.ofToml? registry
      github := ← withDefault? {} GitHubSettings.ofToml? github
      extraction := ← withDefault? {} ExtractionSettings.ofToml? extraction
      rules := ← withDefault? {} RuleSettings.ofToml? rules
      ignore := ← withDefault? {} IgnoreList.ofToml? ignore }
  | _ => none

/-- The settings that a file holds. -/
def parse? (text : String) : Option Config :=
  Toml.parse? text >>= ofToml?

/-! ## Writing -/

open Toml (FieldValue)

/-- The settings that stand in no section. -/
def topFields (c : Config) : List (String × FieldValue) :=
  [("batch_mode", .string c.batchMode.label), ("default_format", .string c.defaultFormat)]

/-- The sections of the settings; a token that is none is left out. -/
def sections (c : Config) : List (String × List (String × FieldValue)) :=
  [("registry", [
      ("registry_url", .string c.registry.registryUrl),
      ("downloads_url", .string c.registry.downloadsUrl),
      ("download_period", .string c.registry.downloadPeriod.label),
      ("max_retries", .natural c.registry.maxRetries)]),
    ("github", [
      ("api_url", .string c.github.apiUrl),
      ("raw_url", .string c.github.rawUrl),
      ("max_retries", .natural c.github.maxRetries),
      ("per_page", .natural c.github.perPage)]
      ++ c.github.token.toList.map fun token => ("token", .string token)),
    ("extraction", [
      ("max_file_size", .natural c.extraction.limits.maxFileSize),
      ("max_total_size", .natural c.extraction.limits.maxTotalSize),
      ("extensions", .strings c.extraction.extensions)]),
    ("rules", [
      ("freshness_days", .natural c.rules.freshnessDays),
      ("popularity_threshold", .natural c.rules.popularityThreshold),
      ("keywords", .strings c.rules.keywords)]),
    ("ignore", [("packages", .strings c.ignore.patterns)])]

/-- The text of a file with the settings. -/
def toToml (c : Config) : String :=
  String.ofList <| Toml.fieldsText c.topFields
    ++ c.sections.flatMap fun (name, fields) => Toml.sectionText name fields

end Config

end DepTriage
