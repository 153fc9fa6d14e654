import DepTriage.Proofs.Registry.SemanticVersion
import DepTriage.Proofs.Time.Span
import DepTriage.Rule.Registry

/-!
# Fresh versions

The rule on fresh versions compares versions and subtracts points in time. Versions are the same
only if their texts are, so it is the tag itself that the scanned version has to equal.

## Key results

- `freshSince?_eq_some_iff`: when a version counts as fresh, and since when
- `checkFreshness_isSome_iff`: when the rule fires, and that its arithmetic stays in range
-/

namespace DepTriage.Rule

open Timestamp (daysSpan? daysSpan?_eq since?_eq since_eq_sub)

variable {version : String} {metadata : PackageMetadata} {days : Nat} {now published : Timestamp}

/-- A version is fresh if it is the one with the tag and its time lies within the days. -/
theorem freshSince?_eq_some_iff :
    freshSince? metadata version days now = some published ↔
      metadata.latest? = some version ∧ metadata.publishedAt? version = some published ∧
        now.since published < daySpan days := by
  have hwindow (time : Timestamp) :
      (if daySpan days ≤ now.since time then none else some time) = some published ↔
        now.since time < daySpan days ∧ time = published := by
    rw [Option.ite_none_left_eq_some, Int.not_le, Option.some.injEq]
  simp only [freshSince?, Option.bind_eq_bind, Option.bind_eq_some_iff,
    Option.ite_none_left_eq_some, Bool.not_eq_true', Bool.not_eq_false, sameVersion_iff_eq, hwindow]
  -- Tag and version are one text, so that it does not matter whose time is looked up.
  constructor
  · rintro ⟨_, hlatest, rfl, _, hpublished, hwithin, rfl⟩
    exact ⟨hlatest, hpublished, hwithin⟩
  · rintro ⟨hlatest, hpublished, hwithin⟩
    exact ⟨version, hlatest, rfl, published, hpublished, hwithin, rfl⟩

/-- No number of days of 32 bits is out of range. -/
theorem daysSpan?_eq_daySpan (h : days < 2 ^ 32) : daysSpan? days = some (daySpan days) := by
  rw [daysSpan?_eq (by omega), daySpan, Int.natCast_mul, Int.natCast_mul]

/-- Versions are the same only if their texts are. So the rule fires if and only if the scanned
version is the one with the tag `latest`, its time is recorded, and less than the days lie between
this time and now; it may also lie ahead. Without leap seconds this is a comparison of points in
time. Nothing that is computed leaves its range. -/
theorem checkFreshness_isSome_iff (name version : String) (metadata : PackageMetadata) (days : Nat)
    (now : Timestamp) :
    (∀ a b, sameVersion a b ↔ a = b) ∧
    ((checkFreshness name version metadata days now).isSome ↔
      metadata.latest? = some version ∧ ∃ published,
        metadata.publishedAt? version = some published ∧ now.since published < daySpan days) ∧
    (∀ published, now.leap = 0 → published.leap = 0 →
      (now.since published < daySpan days ↔
        now.sinceEpoch < published.sinceEpoch + daySpan days)) ∧
    (now.IsRepresentable → days < 2 ^ 32 →
      daysSpan? days = some (daySpan days) ∧
        ∀ published, published.IsRepresentable →
          now.since? published = some (now.since published)) := by
  refine ⟨fun a b => sameVersion_iff_eq, ?_, fun published hnow hpublished => ?_,
    fun hnow hdays => ⟨daysSpan?_eq_daySpan hdays, fun published => since?_eq hnow⟩⟩
  · rw [checkFreshness, Option.isSome_map, Option.isSome_iff_exists]
    simp only [freshSince?_eq_some_iff, exists_and_left]
  · rw [since_eq_sub hnow hpublished]
    omega

/-- From the first point in time to the last one there are fewer days than 32 bits can count. A
version of the same numbers with another label is another version. -/
theorem checkFreshness_leftPad :
    let first : Timestamp := ⟨-96465292, 0, 0⟩
    let last : Timestamp := ⟨95026236, 86399, 999999999⟩
    let metadata : PackageMetadata := {
      name := "left-pad"
      tags := (∅ : Std.TreeMap String String).insert "latest" "1.3.0"
      times := (∅ : Std.TreeMap String Timestamp).insert "1.3.0" first }
    (checkFreshness "left-pad" "1.3.0" metadata (2 ^ 32 - 1) last).isSome ∧
      ¬sameVersion "1.3.0" "1.3.0+build" ∧
      last.sinceEpoch < first.sinceEpoch + daySpan (2 ^ 32 - 1) ∧
      daysSpan? (2 ^ 32 - 1 : Nat) = some (daySpan (2 ^ 32 - 1)) ∧
      last.since? first = some (last.since first) := by
  intro first last metadata
  obtain ⟨hsame, hfires, hinstants, hrange⟩ :=
    checkFreshness_isSome_iff "left-pad" "1.3.0" metadata (2 ^ 32 - 1) last
  have hlatest : metadata.latest? = some "1.3.0" := Std.TreeMap.getElem?_insert_self
  have hpublished : metadata.publishedAt? "1.3.0" = some first := Std.TreeMap.getElem?_insert_self
  have hwithin : last.since first < daySpan (2 ^ 32 - 1) := by decide
  -- Both ends of the clock's range, so the difference is as large as it gets.
  have hfirst : first.IsRepresentable := ⟨by decide, by decide, by decide⟩
  have hlast : last.IsRepresentable := ⟨by decide, by decide, by decide⟩
  obtain ⟨hdays, hspan⟩ := hrange hlast (by decide)
  exact ⟨hfires.2 ⟨hlatest, first, hpublished, hwithin⟩, by rw [hsame]; decide,
    (hinstants first rfl rfl).1 hwithin, hdays, hspan first hfirst⟩

end DepTriage.Rule
