import DepTriage.Finding
import DepTriage.Registry.Package
import DepTriage.Registry.SemanticVersion

/-! # Rules on registry records

Rules that look at how new and how widespread a version is. -/

namespace DepTriage.Rule

/-- Nanoseconds in a number of days. -/
def daySpan (days : Nat) : Int :=
  (days * Timestamp.secondsPerDay * Timestamp.nanosPerSecond : Nat)

/-- When the scanned version was published, if it is the latest one and less than `days` days
old. -/
def freshSince? (metadata : PackageMetadata) (version : String) (days : Nat) (now : Timestamp) :
    Option Timestamp := do
  let latest ← metadata.latest?
  if !sameVersion version latest then none
  else
    let published ← metadata.publishedAt? latest
    if daySpan days ≤ now.since published then none else some published

/-- Fires when the latest version was published within the last `days` days. -/
def checkFreshness (name version : String) (metadata : PackageMetadata) (days : Nat)
    (now : Timestamp) : Option Finding :=
  (freshSince? metadata version days now).map fun _ => {
    rule := .freshness
    severity := .low
    description := "uses the latest or a recently published version"
    evidence :=
      s!"{name} uses the latest version {version}, published within the last {days} days" }

/-- Fires when a package has less than `threshold` downloads. -/
def checkPopularity (name : String) (stats : DownloadStats) (threshold : Nat) : Option Finding :=
  if threshold ≤ stats.downloads then none
  else
    let first := stats.first.toText
    let last := stats.last.toText
    some {
      rule := .popularity
      severity := .medium
      description := "uses a rarely downloaded package"
      evidence :=
        s!"{name} was downloaded only {stats.downloads} times between {first} and {last}" }

end DepTriage.Rule
