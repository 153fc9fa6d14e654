import DepTriage.Config
import DepTriage.Scan.Result
import DepTriage.Scan.Source

/-! # Scanning one dependency

The steps are taken strictly one after the other, and an error names the step that it ended. -/

namespace DepTriage

/-- What a scan goes by. Its limits are such that no extraction is stopped. -/
structure ScanSettings where
  batchMode : BatchMode := .failFast
  downloadPeriod : DownloadPeriod := .lastWeek
  limits : ExtractionLimits := {}
  reservable : limits.AreReservable := by decide
  /-- The extensions of the files that are analyzed. -/
  extensions : List String := [".js", ".mjs", ".cjs"]
  ignore : IgnoreList := {}
  rules : RuleSet := {}
  /-- The time at which the scan is taken to happen. -/
  now : Timestamp

instance : Inhabited ScanSettings :=
  ⟨{ now := default }⟩

/-- The settings of a configuration, at a time. A limit on files that a configuration file can state
is taken as it is. -/
def Config.scanSettings (c : Config) (now : Timestamp) : ScanSettings where
  batchMode := c.batchMode
  downloadPeriod := c.registry.downloadPeriod
  limits := c.extraction.limits.reservable
  reservable := c.extraction.limits.areReservable_reservable
  extensions := c.extraction.extensions
  ignore := c.ignore
  rules := { settings := c.rules }
  now

/-- The source files of an archive. -/
def sourceFiles (settings : ScanSettings) (archive : ByteArray) :
    Except ScanError (List SourceFile) :=
  let filter := extensionFilter settings.extensions
  let extraction := extract filter settings.limits archive
  (extraction.answer (extract_ne_stopped filter settings.reservable archive)).map fun files =>
    (files.filter (·.isFile)).map fun f => ⟨f.path, f.text⟩

/-- What the data fetched for a dependency says about it. -/
def assess (settings : ScanSettings) (key : DependencyKey) (metadata : PackageMetadata)
    (downloads : DownloadStats) (files : List SourceFile) : ScannedDependency :=
  let analysis := analyzeFiles files
  { name := key.name
    version := key.version
    metadata
    downloads
    globals := analysis.usage
    findings := settings.rules.findings {
      name := key.name
      version := key.version
      metadata
      downloads
      globals := analysis.usage
      files
      now := settings.now }
    skipped := analysis.skipped }

variable {m : Type → Type} [Monad m]

/-- Scans one dependency. The archive is the one listed under its very version. -/
def scanPackage (registry : PackageRegistry m) (settings : ScanSettings) (key : DependencyKey) :
    m (Except ScanError ScannedDependency) := do
  match ← registry.metadata key.name with
  | .error e => return .error (e.during key .fetchMetadata)
  | .ok metadata =>
    match metadata.tarball? key.version with
    | none =>
      let missing := ScanError.notFound s!"version {key.version} of {key.name}"
      return .error (missing.during key .fetchMetadata)
    | some url =>
      match ← registry.downloads key.name settings.downloadPeriod with
      | .error e => return .error (e.during key .fetchStats)
      | .ok downloads =>
        match ← registry.tarball url with
        | .error e => return .error (e.during key .fetchArchive)
        | .ok archive =>
          match sourceFiles settings archive with
          | .error e => return .error (e.during key .extract)
          | .ok files => return .ok (assess settings key metadata downloads files)

end DepTriage
