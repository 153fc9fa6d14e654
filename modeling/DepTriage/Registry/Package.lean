import DepTriage.Json.Basic
import DepTriage.Time.Reading
import Std.Data.TreeMap

/-! # What a registry knows of a package

The record of a package name with its versions, and the count of its downloads. Only the fields that
a scan reads are kept of the registry's documents. -/

namespace DepTriage

/-- The archive of a version. -/
structure Distribution where
  tarball : String
  shasum : Option String := none
  integrity : Option String := none
  fileCount : Option Nat := none
  unpackedSize : Option Nat := none
deriving DecidableEq, Repr, Inhabited

structure VersionInfo where
  version : String
  distribution : Distribution
deriving DecidableEq, Repr, Inhabited

structure PackageMetadata where
  name : String
  description : Option String := none
  /-- The versions that tags stand for. -/
  tags : Std.TreeMap String String := ∅
  /-- When each version was published; the registry lists two dates of the package among them. -/
  times : Std.TreeMap String Timestamp := ∅
  versions : Std.TreeMap String VersionInfo := ∅
deriving Inhabited

namespace PackageMetadata

/-- The version with the tag `latest`. -/
def latest? (p : PackageMetadata) : Option String :=
  p.tags["latest"]?

def publishedAt? (p : PackageMetadata) (version : String) : Option Timestamp :=
  p.times[version]?

def version? (p : PackageMetadata) (version : String) : Option VersionInfo :=
  p.versions[version]?

def tarball? (p : PackageMetadata) (version : String) : Option String :=
  (p.version? version).map (·.distribution.tarball)

end PackageMetadata

/-- A package's name as one segment of a URL path: the slash after a scope is encoded. -/
def escapeName (name : String) : String :=
  String.ofList (name.toList.flatMap fun c => if c = '/' then ['%', '2', 'F'] else [c])

/-- The windows over which a registry counts downloads; all end today. -/
inductive DownloadPeriod where
  | lastDay
  | lastWeek
  | lastMonth
  | lastYear
deriving DecidableEq, Repr, Inhabited

namespace DownloadPeriod

def label : DownloadPeriod → String
  | lastDay => "last-day"
  | lastWeek => "last-week"
  | lastMonth => "last-month"
  | lastYear => "last-year"

def ofLabel? : String → Option DownloadPeriod
  | "last-day" => some lastDay
  | "last-week" => some lastWeek
  | "last-month" => some lastMonth
  | "last-year" => some lastYear
  | _ => none

end DownloadPeriod

/-- The downloads of a package from one day to another. -/
structure DownloadStats where
  downloads : Nat
  first : Date
  last : Date
  package : String
deriving DecidableEq, Repr, Inhabited

/-! ## Documents -/

open Json

namespace Distribution

def fieldNames : List String :=
  ["tarball", "shasum", "integrity", "fileCount", "unpackedSize"]

def ofJson? (j : Json) : Option Distribution :=
  match j.record? fieldNames with
  | some [tarball, shasum, integrity, fileCount, unpackedSize] => do
    return {
      tarball := ← required? string? tarball
      shasum := ← withDefault? none (optional? string?) shasum
      integrity := ← withDefault? none (optional? string?) integrity
      fileCount := ← withDefault? none (optional? natural?) fileCount
      unpackedSize := ← withDefault? none (optional? natural?) unpackedSize }
  | _ => none

/-- Fields without value are left out. -/
def toJson (d : Distribution) : Json :=
  .object <| [("tarball", .string d.tarball)]
    ++ d.shasum.toList.map (fun s => ("shasum", .string s))
    ++ d.integrity.toList.map (fun s => ("integrity", .string s))
    ++ d.fileCount.toList.map (fun n => ("fileCount", .natural n))
    ++ d.unpackedSize.toList.map (fun n => ("unpackedSize", .natural n))

end Distribution

namespace VersionInfo

def ofJson? (j : Json) : Option VersionInfo :=
  match j.record? ["version", "dist"] with
  | some [version, distribution] => do
    return ⟨← required? string? version, ← required? Distribution.ofJson? distribution⟩
  | _ => none

def toJson (v : VersionInfo) : Json :=
  .object [("version", .string v.version), ("dist", v.distribution.toJson)]

end VersionInfo

/-- A map from texts; of the values of a repeated key the last one counts. -/
def mapOfJson? (read : Json → Option α) (j : Json) : Option (Std.TreeMap String α) :=
  j.entries? >>= List.foldlM (fun map (key, value) => (read value).map (map.insert key)) ∅

namespace PackageMetadata

def fieldNames : List String :=
  ["name", "description", "dist-tags", "time", "versions"]

/-- The points in time of a map; what is none is left out. The values may hold anything that can be
read as a whole. -/
def timesOfJson? (depth : Nat) (j : Json) : Option (Std.TreeMap String Timestamp) :=
  (mapOfJson? (fun v => if v.isReadable depth then some v else none) j).map fun map =>
    map.filterMap fun _ v => v.string? >>= Timestamp.read?

/-- The record of a document in which the values of points in time may be nested `depth` deep. -/
def ofJsonWithin? (depth : Nat) (j : Json) : Option PackageMetadata :=
  match j.record? fieldNames with
  | some [name, description, tags, times, versions] => do
    return {
      name := ← required? string? name
      description := ← withDefault? none (optional? string?) description
      tags := ← withDefault? ∅ (mapOfJson? string?) tags
      times := ← withDefault? ∅ (timesOfJson? depth) times
      versions := ← withDefault? ∅ (mapOfJson? VersionInfo.ofJson?) versions }
  | _ => none

/-- The record of a registry's document. -/
def ofJson? (j : Json) : Option PackageMetadata :=
  ofJsonWithin? 125 j

/-- The record without its versions. -/
def toJson (p : PackageMetadata) : Json :=
  .object <| [("name", .string p.name)]
    ++ p.description.toList.map (fun s => ("description", .string s))
    ++ [("dist-tags", .object (p.tags.toList.map fun (k, v) => (k, .string v))),
      ("time", .object (p.times.toList.map fun (k, t) => (k, .string t.toText)))]

end PackageMetadata

namespace DownloadStats

def fieldNames : List String :=
  ["downloads", "start", "end", "package"]

def dateOfJson? (j : Json) : Option Date :=
  j.string? >>= Date.read?

def ofJson? (j : Json) : Option DownloadStats :=
  match j.record? fieldNames with
  | some [downloads, first, last, package] => do
    return ⟨← required? natural? downloads, ← required? dateOfJson? first,
      ← required? dateOfJson? last, ← required? string? package⟩
  | _ => none

def toJson (s : DownloadStats) : Json :=
  .object [("downloads", .natural s.downloads), ("start", .string s.first.toText),
    ("end", .string s.last.toText), ("package", .string s.package)]

end DownloadStats

end DepTriage
