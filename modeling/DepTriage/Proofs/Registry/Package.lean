import DepTriage.Proofs.Json.RoundTrip
import DepTriage.Proofs.Time.Reading
import DepTriage.Registry.Package

/-!
# Packages read back

Metadata and downloads are written as JSON and read by the reader that also takes the registry's
documents, which drops every point in time that it cannot read. A leap second within a minute is
written as a fraction of the second after it, and reads back as that.

## Key results

- `exists_mapOfJson?_eq`: a map reads back from its entries.
- `PackageMetadata.exists_ofJsonWithin?_toJson`: metadata reads back as it is written, and loses no
  point in time.
- `PackageMetadata.Same.withoutVersions_iff`: this is the same metadata but for its versions, if no
  time is a leap second within a minute.
- `DownloadStats.ofJson?_toJson`: downloads read back.
- `PackageMetadata.isValid_of_ofJsonWithin?`, `DownloadStats.isValid_of_ofJson?`: what these
  theorems take for granted holds of whatever was read.
-/

namespace DepTriage

open Json
open Std (TreeMap)

/-! ## Maps -/

variable {α : Type}

/-- A map that is filled with the entries of another one is the same. -/
theorem foldl_insert_toList_equiv (t : TreeMap String α) :
    (t.toList.foldl (fun map e => map.insert e.1 e.2) ∅ : TreeMap String α).Equiv t := by
  refine TreeMap.ofList_equiv_foldl.symm.trans (.of_forall_constGet?_eq fun name => ?_)
  -- Two ordered maps are equivalent when every key looks up the same value.
  cases hvalue : t[name]? with
  | some value =>
    exact TreeMap.getElem?_ofList_of_mem Std.ReflCmp.compare_self TreeMap.distinct_keys_toList
      (TreeMap.mem_toList_iff_getElem?_eq_some.2 hvalue)
  | none =>
    -- A key the map does not hold is not among the listed ones either.
    refine TreeMap.getElem?_ofList_of_contains_eq_false ?_
    rw [Bool.eq_false_iff, ne_eq, List.contains_iff_mem]
    intro hname
    obtain ⟨⟨_, value⟩, hmem, rfl⟩ := List.mem_map.1 hname
    exact absurd (TreeMap.mem_toList_iff_getElem?_eq_some.1 hmem) (by simp [hvalue])

/-- A map from texts reads back from its entries, if every value does. -/
theorem exists_mapOfJson?_eq {t : TreeMap String α} (write : α → Json) (read : Json → Option α)
    (h : ∀ e ∈ t.toList, read (write e.2) = some e.2) :
    ∃ map, mapOfJson? read (.object (t.toList.map fun e => (e.1, write e.2))) = some map ∧
      map.Equiv t := by
  -- The fold over the fields inserts the values that were written, for any map it starts from.
  refine ⟨_, ?_, foldl_insert_toList_equiv t⟩
  have hfold (entries : List (String × α)) (map : TreeMap String α)
      (h : ∀ e ∈ entries, read (write e.2) = some e.2) :
      (entries.map fun e => (e.1, write e.2)).foldlM
          (fun map e => (read e.2).map (map.insert e.1)) map
        = some (entries.foldl (fun map e => map.insert e.1 e.2) map) := by
    induction entries generalizing map with
    | nil => rfl
    | cons e entries ih =>
      obtain ⟨he, hentries⟩ := List.forall_mem_cons.1 h
      simp [he, ih _ hentries]
  simpa [mapOfJson?, entries?] using hfold t.toList ∅ h

/-- Mapping leaves a map as it is if it leaves every value as it is. -/
theorem equiv_map_iff {t : TreeMap String α} {f : α → α} :
    (t.map fun _ => f).Equiv t ↔ ∀ e ∈ t.toList, f e.2 = e.2 := by
  constructor
  -- Every listed entry is looked up in both maps.
  · rintro h ⟨name, value⟩ hmem
    have hvalue := TreeMap.mem_toList_iff_getElem?_eq_some.1 hmem
    have hmapped := h.getElem?_eq (k := name)
    rw [TreeMap.getElem?_map, hvalue] at hmapped
    exact Option.some.inj hmapped
  · refine fun h => .of_forall_constGet?_eq fun name => ?_
    rw [TreeMap.getElem?_map]
    cases hvalue : t[name]? with
    | none => rfl
    | some value => exact congrArg some (h _ (TreeMap.mem_toList_iff_getElem?_eq_some.2 hvalue))

/-! ## Metadata -/

namespace PackageMetadata

/-- Metadata that only differ in how their maps are laid out. -/
structure Same (p q : PackageMetadata) : Prop where
  name : p.name = q.name
  description : p.description = q.description
  tags : p.tags.Equiv q.tags
  times : p.times.Equiv q.times
  versions : p.versions.Equiv q.versions

/-- Metadata with times between the first and the last year. -/
def IsRepresentable (p : PackageMetadata) : Prop :=
  ∀ e ∈ p.times.toList, e.2.IsRepresentable

/-- Metadata with times that can be read. -/
def IsValid (p : PackageMetadata) : Prop :=
  ∀ e ∈ p.times.toList, e.2.IsValid

instance (p : PackageMetadata) : Decidable p.IsRepresentable :=
  inferInstanceAs (Decidable (∀ e ∈ p.times.toList, e.2.IsRepresentable))

instance (p : PackageMetadata) : Decidable p.IsValid :=
  inferInstanceAs (Decidable (∀ e ∈ p.times.toList, e.2.IsValid))

/-- Metadata without the versions, which are never written. -/
def withoutVersions (p : PackageMetadata) : PackageMetadata :=
  { p with versions := ∅ }

/-- What the document of metadata denotes: there are no versions, and a time is what its text
denotes. -/
def asWritten (p : PackageMetadata) : PackageMetadata :=
  { p with times := p.times.map fun _ => Timestamp.asWritten, versions := ∅ }

theorem IsRepresentable.toJson_asWritten {p : PackageMetadata} (h : p.IsRepresentable) :
    p.asWritten.toJson = p.toJson := by
  have htimes : ((p.times.map fun _ => Timestamp.asWritten).toList.map
        fun e => (e.1, Json.string e.2.toText))
      = p.times.toList.map fun e => (e.1, Json.string e.2.toText) := by
    rw [TreeMap.toList_map, List.map_map]
    refine List.map_congr_left fun e he => ?_
    simp only [Function.comp_apply, Timestamp.toText_asWritten (h e he).nanosecond]
  simp only [toJson, asWritten, htimes]

/-- What was written is the same but for the versions, if every time reads back as it was. -/
theorem Same.withoutVersions_iff {q p : PackageMetadata} (h : q.Same p.asWritten)
    (hp : p.IsRepresentable) : q.Same p.withoutVersions ↔ p.IsValid := by
  have htimes : q.times.Equiv (p.times.map fun _ => Timestamp.asWritten) := h.times
  have hvalid : (p.times.map fun _ => Timestamp.asWritten).Equiv p.times ↔ p.IsValid :=
    equiv_map_iff.trans (forall₂_congr fun e he => (hp e he).asWritten_eq_iff)
  rw [← hvalid, ← htimes.congr_left]
  exact ⟨fun hsame => hsame.times, fun htimes => { h with times := htimes }⟩

theorem Same.toJson_eq {p q : PackageMetadata} (h : p.Same q) : p.toJson = q.toJson := by
  simp only [toJson, h.name, h.description, h.tags.toList_eq, h.times.toList_eq]

theorem isPlain_toJson (p : PackageMetadata) : p.toJson.IsPlain := by
  have htags : IsPlain (.object (p.tags.toList.map fun e => (e.1, .string e.2))) :=
    .object (List.forall_mem_map.2 fun _ _ => .string _)
  have htimes : IsPlain (.object (p.times.toList.map fun e => (e.1, .string e.2.toText))) :=
    .object (List.forall_mem_map.2 fun _ _ => .string _)
  refine .object ?_
  cases p.description <;> simp [htags, htimes, IsPlain.string]

/-- Every point in time reads back as it is written, and none is dropped. -/
theorem exists_timesOfJson?_eq {t : TreeMap String Timestamp}
    (h : ∀ e ∈ t.toList, e.2.IsRepresentable) (depth : Nat) :
    ∃ map, timesOfJson? depth (.object (t.toList.map fun e => (e.1, .string e.2.toText)))
        = some map ∧ map.Equiv (t.map fun _ => Timestamp.asWritten) := by
  -- The values are first read as a whole, and then as points in time.
  have hwhole : ∀ e ∈ (t.map fun _ v => string v.toText).toList,
      (if (id e.2).isReadable depth then some (id e.2) else none) = some e.2 := by
    rw [TreeMap.toList_map]
    exact List.forall_mem_map.2 fun _ _ => by simp [isReadable]
  obtain ⟨raw, hraw, hequiv⟩ :=
    exists_mapOfJson?_eq id (fun v => if v.isReadable depth then some v else none) hwhole
  rw [TreeMap.toList_map, List.map_map] at hraw
  refine ⟨raw.filterMap fun _ v => v.string? >>= Timestamp.read?, ?_, ?_⟩
  · exact congrArg (Option.map _) hraw
  · refine (hequiv.filterMap _).trans (.of_forall_constGet?_eq fun name => ?_)
    rw [TreeMap.getElem?_filterMap', TreeMap.getElem?_map, TreeMap.getElem?_map]
    cases htime : t[name]? with
    | none => rfl
    | some time =>
      have hrepresentable := h _ (TreeMap.mem_toList_iff_getElem?_eq_some.2 htime)
      simp [string?, hrepresentable.read?_toText]

/-- **Metadata reads back as its document denotes it.** -/
theorem exists_ofJsonWithin?_toJson {p : PackageMetadata} (h : p.IsRepresentable) (depth : Nat) :
    ∃ q, ofJsonWithin? depth p.toJson = some q ∧ q.Same p.asWritten := by
  obtain ⟨tags, htags, hsameTags⟩ :=
    exists_mapOfJson?_eq (t := p.tags) Json.string string? fun _ _ => rfl
  obtain ⟨times, htimes, hsameTimes⟩ := exists_timesOfJson?_eq h depth
  refine ⟨⟨p.name, p.description, tags, times, ∅⟩, ?_, ⟨rfl, rfl, hsameTags, hsameTimes, .rfl⟩⟩
  cases hdescription : p.description <;>
    simp [ofJsonWithin?, toJson, record?, fieldNames, field?, required?, withDefault?, optional?,
      string?, hdescription, htags, htimes]

theorem isValid_of_timesOfJson? {depth : Nat} {j : Json} {map : TreeMap String Timestamp}
    (h : timesOfJson? depth j = some map) : ∀ e ∈ map.toList, e.2.IsValid := by
  obtain ⟨raw, -, rfl⟩ := Option.map_eq_some_iff.1 h
  intro e he
  rw [TreeMap.toList_filterMap] at he
  obtain ⟨⟨name, j⟩, -, hj⟩ := List.mem_filterMap.1 he
  obtain ⟨time, htime, rfl⟩ := Option.map_eq_some_iff.1 hj
  obtain ⟨text, -, htext⟩ := Option.bind_eq_some_iff.1 htime
  exact Timestamp.exists_read?_iff.1 ⟨text, htext⟩

/-- Metadata that was read has valid times. -/
theorem isValid_of_ofJsonWithin? {depth : Nat} {j : Json} {p : PackageMetadata}
    (h : ofJsonWithin? depth j = some p) : p.IsValid := by
  unfold ofJsonWithin? at h
  split at h
  · next name description tags times versions _ =>
    simp only [Option.bind_eq_bind, Option.bind_eq_some_iff] at h
    obtain ⟨_, _, _, _, _, _, map, htimes, _, _, hp⟩ := h
    cases hp
    -- Without times the map is empty, and an empty map is valid.
    cases times with
    | none =>
      cases htimes
      simp [IsValid]
    | some j => exact isValid_of_timesOfJson? htimes
  · cases h

end PackageMetadata

/-! ## Downloads -/

namespace DownloadStats

/-- A count of 64 bits between dates that the calendar has. -/
structure IsValid (s : DownloadStats) : Prop where
  downloads : s.downloads < naturalBound
  first : s.first.isValid
  last : s.last.isValid

instance (s : DownloadStats) : Decidable s.IsValid :=
  decidable_of_iff (s.downloads < naturalBound ∧ s.first.isValid ∧ s.last.isValid)
    ⟨fun ⟨downloads, first, last⟩ => ⟨downloads, first, last⟩,
      fun h => ⟨h.downloads, h.first, h.last⟩⟩

theorem isPlain_toJson (s : DownloadStats) : s.toJson.IsPlain :=
  .object (by simp [IsPlain.string, IsPlain.natural])

/-- **Downloads read back from their document.** -/
theorem ofJson?_toJson {s : DownloadStats} (h : s.IsValid) :
    DownloadStats.ofJson? s.toJson = some s := by
  simp [DownloadStats.ofJson?, toJson, record?, fieldNames, field?, required?, natural?, string?,
    dateOfJson?, h.downloads, Date.read?_toText h.first, Date.read?_toText h.last]

theorem lt_of_required? {field : Option Json} {n : Nat} (h : required? natural? field = some n) :
    n < naturalBound := by
  obtain ⟨j, -, hj⟩ := Option.bind_eq_some_iff.1 h
  unfold natural? at hj
  split at hj
  · obtain ⟨hbound, hn⟩ := Option.ite_none_right_eq_some.1 hj
    exact Option.some.inj hn ▸ hbound
  · cases hj

theorem isValid_of_required? {field : Option Json} {d : Date}
    (h : required? dateOfJson? field = some d) : d.isValid := by
  obtain ⟨j, -, hj⟩ := Option.bind_eq_some_iff.1 h
  obtain ⟨text, -, htext⟩ := Option.bind_eq_some_iff.1 hj
  exact Date.exists_read?_iff.1 ⟨text, htext⟩

/-- Downloads that were read are valid. -/
theorem isValid_of_ofJson? {j : Json} {s : DownloadStats} (h : DownloadStats.ofJson? j = some s) :
    s.IsValid := by
  unfold DownloadStats.ofJson? at h
  split at h
  · next downloads first last package _ =>
    -- Each of the three fields is read with its own check.
    simp only [Option.bind_eq_bind, Option.bind_eq_some_iff] at h
    obtain ⟨n, hn, f, hf, l, hl, _, _, hs⟩ := h
    cases hs
    exact ⟨lt_of_required? hn, isValid_of_required? hf, isValid_of_required? hl⟩
  · cases h

end DownloadStats

end DepTriage
