import DepTriage.Rule.DangerousGlobals
import DepTriage.Rule.Registry
import DepTriage.Rule.SourceText

/-! # Applying the rules

Each rule yields at most one finding on what is known of a version. -/

namespace DepTriage

/-- The thresholds of the rules. -/
structure RuleSettings where
  /-- A version is fresh for this many days. -/
  freshnessDays : Nat := 30
  /-- A package with fewer downloads is unpopular. -/
  popularityThreshold : Nat := 10000
  keywords : List String := ["ethereum"]
deriving DecidableEq, Repr, Inhabited

/-- What the rules look at. -/
structure Evidence where
  name : String
  version : String
  metadata : PackageMetadata
  downloads : DownloadStats
  globals : GlobalUsage
  files : List SourceFile
  now : Timestamp
deriving Inhabited

namespace Rule

def check (rule : Rule) (settings : RuleSettings) (e : Evidence) : Option Finding :=
  match rule with
  | freshness => checkFreshness e.name e.version e.metadata settings.freshnessDays e.now
  | popularity => checkPopularity e.name e.downloads settings.popularityThreshold
  | dangerousGlobals => checkGlobals e.globals
  | obfuscation => checkObfuscation e.files
  | keyword => checkKeywords settings.keywords e.files

end Rule

/-- The rules that a scan applies, with their thresholds. -/
structure RuleSet where
  rules : List Rule := Rule.all
  settings : RuleSettings := {}
deriving DecidableEq, Repr, Inhabited

/-- The findings in the order of the rules. -/
def RuleSet.findings (s : RuleSet) (e : Evidence) : List Finding :=
  s.rules.filterMap fun rule => rule.check s.settings e

end DepTriage
