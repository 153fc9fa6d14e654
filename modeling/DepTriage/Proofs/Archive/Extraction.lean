import DepTriage.Proofs.Archive.Delivery

/-!
# The limits of extraction

Extraction counts entries as they are read. Here it is compared with what the archive holds: the sum
of all lengths, and the lengths that headers and records state. A file that is kept may state a size
for which no room can be reserved, and its extraction is then stopped.

## Key results

- `extract_eq_ok_iff`: the archives that can be extracted, and what is taken out of them.
- `extract_within_budget_iff`: the members that describe an entry are read without being counted.
- `extract_size_le_iff`: a file exceeds the limit on its size exactly if records state its size.
- `extract_eq_reservable`: such sizes apart, a limit on files need not exceed what can be reserved.
- `extract_filters_agree`: the filter selects among the files, and decides about their extraction
  exactly where it keeps the file that stops it.
-/

namespace DepTriage.Archive

/-! ## Extraction -/

/-- An archive can be extracted exactly if it is unbroken, its entries fit the budget, and none of
them stops the extraction. -/
theorem extract_eq_ok_iff {filter : String → Bool} {limits : ExtractionLimits}
    {archive : ByteArray} {files : List ExtractedFile} :
    extract filter limits archive = .ok files ↔
      ∃ os, Tar.Holds { source := .ofBytes archive } os ∧
        (os.map (·.entry.length)).sum ≤ limits.maxTotalSize ∧
        (∀ o ∈ os, ¬Stops filter limits o.entry) ∧
        files = os.filterMap (taken? filter limits ·.entry) := by
  -- Entries that fit the budget are all reached.
  have hreached (os : List Tar.Origin)
      (hfits : (os.map (·.entry.length)).sum ≤ limits.maxTotalSize) :
      IsStopped filter limits 0 (os.map (·.entry)) ↔ ∃ o ∈ os, Stops filter limits o.entry := by
    rw [isStopped_iff_of_fits (by rwa [List.map_map])]
    simp
  constructor
  · intro h
    have hgoes : ¬IsStopped filter limits 0 (Tar.list (.ofBytes archive)).entries := by
      intro hstopped
      rw [(extract_eq_stopped_iff filter limits archive).2 hstopped] at h
      cases h
    rw [extract_eq_outcome hgoes, outcome, ← filterMap_taken?] at h
    split at h
    · cases h
    · next hfits =>
      split at h
      · cases h
      · next hunbroken =>
        -- The listing is unbroken, and the archive holds what it lists.
        have hlist : Tar.list (.ofBytes archive) =
            ⟨(Tar.list (.ofBytes archive)).entries, false⟩ := by
          rw [← Bool.eq_false_iff.2 hunbroken]
        obtain ⟨os, hos, hentries⟩ := Tar.list_eq_iff.1 hlist
        rw [hentries, List.map_map] at hfits
        rw [hentries, hreached os (Nat.not_lt.1 hfits)] at hgoes
        rw [hentries, List.filterMap_map] at h
        exact ⟨os, hos, Nat.not_lt.1 hfits, fun o ho hstops => hgoes ⟨o, ho, hstops⟩,
          (Extraction.ok.inj h).symm⟩
  · rintro ⟨os, hos, hfits, hstops, rfl⟩
    have hlist : Tar.list (.ofBytes archive) = ⟨os.map (·.entry), false⟩ :=
      Tar.list_eq_iff.2 ⟨os, hos, rfl⟩
    have hgoes : ¬IsStopped filter limits 0 (os.map (·.entry)) := by
      intro hstopped
      obtain ⟨o, ho, hstop⟩ := (hreached os hfits).1 hstopped
      exact hstops o ho hstop
    rw [extract_eq_outcome (by rwa [hlist]), hlist, outcome, ← filterMap_taken?, List.map_map,
      List.filterMap_map]
    exact (if_neg (Nat.not_lt.2 hfits)).trans (if_neg Bool.false_ne_true)

/-- An entry that does not stop the extraction is taken out alike if the limit on files is lowered
to what room can be reserved for. -/
theorem taken?_reservable {filter : String → Bool} {limits : ExtractionLimits} {e : Tar.Entry}
    (h : ¬Stops filter limits e) : taken? filter limits e = taken? filter limits.reservable e := by
  by_cases hfilter : filter e.path = true
  · cases hkind : e.kind with
    | file =>
      have hroom : ¬(e.declared ≤ limits.maxFileSize ∧ maxReservation < e.declared) := by
        rintro ⟨hsize, hroom⟩
        exact h ⟨hkind, hfilter, hsize, hroom⟩
      have hlimit : limits.maxFileSize < e.declared ↔
          limits.reservable.maxFileSize < e.declared := by
        show _ ↔ min limits.maxFileSize maxReservation < e.declared
        omega
      simp only [taken?, hkind, hlimit]
    | directory => simp [taken?, hkind]
    | link => simp [taken?, hkind]
    | other => simp [taken?, hkind]
  · simp [taken?, hfilter]

/-- An extraction that is not stopped takes out the same files, or meets the same error, if the
limit on files is lowered to what room can be reserved for. -/
theorem extract_eq_reservable {filter : String → Bool} {limits : ExtractionLimits}
    {archive : ByteArray} (h : extract filter limits archive ≠ .stopped) :
    extract filter limits archive = extract filter limits.reservable archive := by
  have hgoes := mt (extract_eq_stopped_iff filter limits archive).2 h
  have hgoes_reservable :
      ¬IsStopped filter limits.reservable 0 (Tar.list (.ofBytes archive)).entries := by
    rintro ⟨_, e, _, _, hstops, _⟩
    exact not_stops_of_areReservable limits.areReservable_reservable e hstops
  rw [extract_eq_outcome hgoes, extract_eq_outcome hgoes_reservable, outcome, outcome,
    ← filterMap_taken?, ← filterMap_taken?]
  by_cases hover : limits.maxTotalSize <
      ((Tar.list (.ofBytes archive)).entries.map Tar.Entry.length).sum
  · rw [if_pos hover]
    exact (if_pos hover).symm
  · rw [isStopped_iff_of_fits (Nat.not_lt.1 hover)] at hgoes
    -- Each entry is reached, so that none of them stops the extraction.
    have htaken : ∀ e ∈ (Tar.list (.ofBytes archive)).entries,
        taken? filter limits e = taken? filter limits.reservable e :=
      fun e he => taken?_reservable fun hstops => hgoes ⟨e, he, hstops⟩
    rw [List.filterMap_congr htaken]
    rfl

/-- A file with its size in records is extracted whatever the limit on files is. -/
theorem extract_recordSizedFile {limits : ExtractionLimits} (h : 64 ≤ limits.maxTotalSize) :
    ∃ files, extract (fun _ => true) limits Tar.recordSizedFile = .ok files ∧
      ∃ f ∈ files, f.kind = .file ∧ f.content.size = 64 := by
  obtain ⟨o, ho, hkind, hdeclared, hsize, hlength, -⟩ := Tar.holds_recordSizedFile
  have hsum : ([o].map (·.entry.length)).sum = 64 := by simpa using hlength
  -- The header states no size, so that no room is reserved.
  have hstops : ∀ o' ∈ [o], ¬Stops (fun _ => true) limits o'.entry := by
    rintro o' ho' ⟨-, -, -, hroom⟩
    rw [List.mem_singleton.1 ho', hdeclared] at hroom
    exact nomatch hroom
  refine ⟨_, extract_eq_ok_iff.2 ⟨[o], ho, hsum ▸ h, hstops, rfl⟩,
    ⟨o.entry.path, .file, o.entry.data, o.entry.data.size⟩, ?_, rfl, hsize⟩
  simp [taken?, hkind, hdeclared]

/-! ## The limit on the whole -/

/-- Extraction succeeds exactly if the archive is unbroken, its entries fit the budget and none of
them stops it, whatever the members hold that describe them. The budget therefore covers all data of
the archives that can be extracted only where these members fit into what the entries leave of
it. -/
theorem extract_within_budget_iff (filter : String → Bool) (limits : ExtractionLimits)
    (archive : ByteArray) :
    ((∃ files, extract filter limits archive = .ok files) ↔
      ∃ os, Tar.Holds { source := .ofBytes archive } os ∧
        (os.map (·.entry.length)).sum ≤ limits.maxTotalSize ∧
        ∀ o ∈ os, ¬Stops filter limits o.entry) ∧
    ∀ os, Tar.Holds { source := .ofBytes archive } os →
      ((∀ files, extract filter limits archive = .ok files →
          (os.map (·.length)).sum ≤ limits.maxTotalSize) ↔
        ((os.map (·.entry.length)).sum ≤ limits.maxTotalSize →
          (∀ o ∈ os, ¬Stops filter limits o.entry) →
          (os.map (·.described)).sum ≤
            limits.maxTotalSize - (os.map (·.entry.length)).sum)) := by
  have hsucceeds : (∃ files, extract filter limits archive = .ok files) ↔
      ∃ os, Tar.Holds { source := .ofBytes archive } os ∧
        (os.map (·.entry.length)).sum ≤ limits.maxTotalSize ∧
        ∀ o ∈ os, ¬Stops filter limits o.entry := by
    simp only [extract_eq_ok_iff]
    exact ⟨fun ⟨_, os, hos, hfits, hstops, _⟩ => ⟨os, hos, hfits, hstops⟩,
      fun ⟨os, hos, hfits, hstops⟩ => ⟨_, os, hos, hfits, hstops, rfl⟩⟩
  refine ⟨hsucceeds, fun os hos => ?_⟩
  -- Entries and what describes them add up to all data; an archive holds one row of entries only.
  rw [Tar.sum_map_length]
  constructor
  · intro h hfits hstops
    obtain ⟨files, hfiles⟩ := hsucceeds.2 ⟨os, hos, hfits, hstops⟩
    have := h files hfiles
    omega
  · intro h files hfiles
    obtain ⟨os₂, hos₂, hfits, hstops⟩ := hsucceeds.1 ⟨files, hfiles⟩
    obtain rfl := hos.unique hos₂
    have := h hfits hstops
    omega

/-- With what describes its file, the archive takes up 75 bytes of the budget. -/
theorem extract_recordSizedFile_within_budget :
    (∃ files, extract (fun _ => true) ⟨8, 75⟩ Tar.recordSizedFile = .ok files) ∧
      ∃ os, Tar.Holds { source := .ofBytes Tar.recordSizedFile } os ∧
        (os.map (·.length)).sum ≤ 75 := by
  obtain ⟨files, hfiles, -⟩ :=
    extract_recordSizedFile (show 64 ≤ (⟨8, 75⟩ : ExtractionLimits).maxTotalSize by decide)
  obtain ⟨o, ho, -, -, -, hlength, hdescribed⟩ := Tar.holds_recordSizedFile
  refine ⟨⟨files, hfiles⟩, [o], ho, ?_⟩
  refine ((extract_within_budget_iff (fun _ => true) ⟨8, 75⟩ Tar.recordSizedFile).2 [o] ho).2
    (fun _ _ => ?_) files hfiles
  simp [hlength, hdescribed]

/-- A budget of 70 bytes is exceeded, and the archive is extracted nevertheless. -/
theorem extract_exceeds_budget :
    ∃ files os, extract (fun _ => true) ⟨8, 70⟩ Tar.recordSizedFile = .ok files ∧
      Tar.Holds { source := .ofBytes Tar.recordSizedFile } os ∧ 70 < (os.map (·.length)).sum := by
  obtain ⟨files, hfiles, -⟩ :=
    extract_recordSizedFile (show 64 ≤ (⟨8, 70⟩ : ExtractionLimits).maxTotalSize by decide)
  obtain ⟨o, ho, -, -, -, hlength, hdescribed⟩ := Tar.holds_recordSizedFile
  refine ⟨files, [o], hfiles, ho, ?_⟩
  simp [Tar.Origin.length, hlength, hdescribed]

/-! ## The limit on a file -/

theorem taken?_eq_some {filter : String → Bool} {limits : ExtractionLimits} {e : Tar.Entry}
    {f : ExtractedFile} (h : taken? filter limits e = some f) :
    f.path = e.path ∧ f.size = f.content.size ∧
      (f.kind = .file ∧ e.kind = .file ∧ e.declared ≤ limits.maxFileSize ∧ f.content = e.data ∨
        f.kind ≠ .file ∧ f.content = .empty) := by
  rw [taken?_eq_ite, Option.ite_none_right_eq_some] at h
  obtain ⟨htaken, hfile⟩ := h
  obtain rfl := Option.some.inj hfile
  cases hkind : e.kind with
  | file =>
    simp only [isTaken, hkind, Bool.and_eq_true, decide_eq_true_eq] at htaken
    simp [fileOf, hkind, htaken.2]
  | directory => simp [fileOf, hkind]
  | link => simp [fileOf, hkind]
  | other => simp [isTaken, hkind] at htaken

/-- What is extracted has its size beside its content, and only files have content. Each comes from
an entry of the archive, and it exceeds the limit on files exactly if the header of that entry
states no size and the records in front of it give one beyond the limit. -/
theorem extract_size_le_iff {filter : String → Bool} {limits : ExtractionLimits}
    {archive : ByteArray} {files : List ExtractedFile} {f : ExtractedFile}
    (h : extract filter limits archive = .ok files) (hf : f ∈ files) :
    f.size = f.content.size ∧ (f.kind ≠ .file → f.content = .empty ∧ f.size = 0) ∧
      ∃ os, Tar.Holds { source := .ofBytes archive } os ∧ ∃ o ∈ os,
        taken? filter limits o.entry = some f ∧
        (f.content.size ≤ limits.maxFileSize ↔
          ¬ (f.kind = .file ∧ Tar.sizeField? o.own.header 124 = some 0 ∧
            ∃ size, o.description.records.bind Tar.recordSize? = some size ∧
              limits.maxFileSize < size)) := by
  obtain ⟨os, hos, -, -, rfl⟩ := extract_eq_ok_iff.1 h
  obtain ⟨o, ho, htaken⟩ := List.mem_filterMap.1 hf
  -- A taken entry is a file with all its data, or it has no content.
  obtain ⟨-, hsize, hfile | hother⟩ := taken?_eq_some htaken
  · obtain ⟨hkind, hentry, hdeclared, hcontent⟩ := hfile
    obtain ⟨hstated, hdata⟩ := hos.size_data_of_file ho hentry
    refine ⟨hsize, fun hne => absurd hkind hne, os, hos, o, ho, htaken, ?_⟩
    rw [hcontent, hdata, hstated]
    by_cases hzero : o.entry.declared = 0
    · -- The header states no size, so that the records decide.
      rw [if_pos hzero]
      cases o.description.records.bind Tar.recordSize? <;> simp [hkind, hzero]
    · -- The header states the size, and that it is within the limit has been checked.
      rw [if_neg hzero]
      simp [hzero, hdeclared]
  · obtain ⟨hkind, hcontent⟩ := hother
    have hempty : f.content.size = 0 := by
      rw [hcontent]
      rfl
    refine ⟨hsize, fun _ => ⟨hcontent, hsize.trans hempty⟩, os, hos, o, ho, htaken, ?_⟩
    simp [hkind, hempty]

/-- A limit of 64 bytes on files is kept. -/
theorem extract_recordSizedFile_within_limit :
    ∃ files, extract (fun _ => true) ⟨64, 1000⟩ Tar.recordSizedFile = .ok files ∧
      ∃ f ∈ files, f.size = f.content.size ∧ f.content.size ≤ 64 ∧
        ∃ os, Tar.Holds { source := .ofBytes Tar.recordSizedFile } os ∧
          ∃ o ∈ os, taken? (fun _ => true) ⟨64, 1000⟩ o.entry = some f := by
  obtain ⟨files, hfiles, f, hf, -, hsize⟩ :=
    extract_recordSizedFile (show 64 ≤ (⟨64, 1000⟩ : ExtractionLimits).maxTotalSize by decide)
  obtain ⟨hcontent, -, os, hos, o, ho, htaken, -⟩ := extract_size_le_iff hfiles hf
  exact ⟨files, hfiles, f, hf, hcontent, Nat.le_of_eq hsize, os, hos, o, ho, htaken⟩

/-- A limit of eight bytes on files is checked against the header, which states no size: a file of
64 bytes is extracted. -/
theorem extract_exceeds_limit :
    ∃ files, extract (fun _ => true) ⟨8, 1000⟩ Tar.recordSizedFile = .ok files ∧
      ∃ f ∈ files, f.kind = .file ∧ 8 < f.content.size := by
  obtain ⟨files, hfiles, f, hf, hkind, hsize⟩ :=
    extract_recordSizedFile (show 64 ≤ (⟨8, 1000⟩ : ExtractionLimits).maxTotalSize by decide)
  exact ⟨files, hfiles, f, hf, hkind, by omega⟩

/-! ## The filter -/

/-- An entry is charged before the filter is asked, which then only selects. -/
theorem taken?_eq_filter (filter : String → Bool) (limits : ExtractionLimits) (e : Tar.Entry) :
    taken? filter limits e =
      (taken? (fun _ => true) limits e).filter fun f => filter f.path := by
  have hfilter : taken? filter limits e =
      if filter e.path then taken? (fun _ => true) limits e else none := by
    by_cases hkeep : filter e.path <;> simp [taken?, hkeep]
  rw [hfilter]
  cases htaken : taken? (fun _ => true) limits e with
  | none => simp
  | some f =>
    -- What is taken out has the path of its entry.
    have hpath : f.path = e.path := (taken?_eq_some htaken).1
    rw [Option.filter_some, hpath]

/-- What one filter keeps, the filter that lets everything through keeps as well. -/
theorem IsStopped.of_filter {filter : String → Bool} {limits : ExtractionLimits} {total : Nat}
    {es : List Tar.Entry} (h : IsStopped filter limits total es) :
    IsStopped (fun _ => true) limits total es := by
  obtain ⟨before, e, after, hes, ⟨hkind, -, hsize, hroom⟩, hfits⟩ := h
  exact ⟨before, e, after, hes, ⟨hkind, rfl, hsize, hroom⟩, hfits⟩

/-- What a filter leaves is selected from what is taken out without one. -/
theorem outcome_eq_ok_iff (filter : String → Bool) (limits : ExtractionLimits) (broken : Bool)
    (es : List Tar.Entry) (files : List ExtractedFile) :
    outcome filter limits broken es = .ok files ↔
      ∃ all, outcome (fun _ => true) limits broken es = .ok all ∧
        files = all.filter fun f => filter f.path := by
  have hselected : es.filterMap (taken? filter limits) =
      (es.filterMap (taken? (fun _ => true) limits)).filter fun f => filter f.path := by
    rw [List.filter_filterMap]
    exact List.filterMap_congr fun e _ => taken?_eq_filter filter limits e
  rw [outcome, outcome, ← filterMap_taken?, ← filterMap_taken?, hselected]
  -- The budget and the state of the archive are the same in both runs.
  split
  · simp
  · split
    · simp
    · simp [eq_comm]

/-- Whether the outcome is a success, and which error it is otherwise, no filter decides. -/
theorem outcome_agrees (f g : String → Bool) (limits : ExtractionLimits) (broken : Bool)
    (es : List Tar.Entry) :
    ((∃ files, outcome f limits broken es = .ok files) ↔
      ∃ files, outcome g limits broken es = .ok files) ∧
    ∀ e, outcome f limits broken es = .error e ↔ outcome g limits broken es = .error e := by
  rw [outcome, outcome]
  split
  · simp
  · split
    · simp
    · simp

/-- An extraction is stopped if it is neither a success nor an error. -/
theorem eq_stopped_iff (x : Extraction) :
    x = .stopped ↔ ¬(∃ files, x = .ok files) ∧ ∀ e, x ≠ .error e := by
  cases x <;> simp

/-- Two filters do not differ in whether an archive can be extracted, nor in the error if it cannot,
unless one of them keeps a file that stops its extraction and the other does not. Where no file does
so, a filter leaves those files, in their order, that it lets through, and if room can be reserved
for all files within the limit on their size, none does. -/
theorem extract_filters_agree (f g : String → Bool) (limits : ExtractionLimits)
    (archive : ByteArray) :
    ((((∃ files, extract f limits archive = .ok files) ↔
          ∃ files, extract g limits archive = .ok files) ∧
        ∀ e, extract f limits archive = .error e ↔ extract g limits archive = .error e) ↔
      (IsStopped f limits 0 (Tar.list (.ofBytes archive)).entries ↔
        IsStopped g limits 0 (Tar.list (.ofBytes archive)).entries)) ∧
    (¬IsStopped (fun _ => true) limits 0 (Tar.list (.ofBytes archive)).entries →
      ∀ files, extract f limits archive = .ok files ↔
        ∃ all, extract (fun _ => true) limits archive = .ok all ∧
          files = all.filter fun file => f file.path) ∧
    (limits.AreReservable →
      ¬IsStopped (fun _ => true) limits 0 (Tar.list (.ofBytes archive)).entries) := by
  have hstopped (filter : String → Bool) :
      IsStopped filter limits 0 (Tar.list (.ofBytes archive)).entries ↔
        extract filter limits archive = .stopped :=
    (extract_eq_stopped_iff filter limits archive).symm
  refine ⟨⟨fun ⟨hsuccess, herror⟩ => ?_, fun h => ?_⟩, fun hgoes files => ?_, ?_⟩
  · rw [hstopped, hstopped, eq_stopped_iff, eq_stopped_iff, hsuccess]
    exact and_congr_right' (forall_congr' fun e => not_congr (herror e))
  · by_cases hf : IsStopped f limits 0 (Tar.list (.ofBytes archive)).entries
    -- Where both are stopped, neither succeeds and neither fails.
    · rw [(hstopped f).1 hf, (hstopped g).1 (h.1 hf)]
      exact ⟨iff_of_false nofun nofun, fun e => Iff.rfl⟩
    · rw [extract_eq_outcome hf, extract_eq_outcome (mt h.2 hf)]
      exact outcome_agrees f g limits _ _
  · rw [extract_eq_outcome hgoes, extract_eq_outcome (mt IsStopped.of_filter hgoes)]
    exact outcome_eq_ok_iff f limits _ _ files
  · rintro h ⟨_, e, _, _, hstops, _⟩
    exact not_stops_of_areReservable h e hstops

/-- Whatever a filter drops of the file with its size in records, the archive can be extracted, and
nothing is left of it if all is dropped. -/
theorem extract_recordSizedFile_filtered :
    ((∃ files, extract (·.isEmpty) ⟨8, 1000⟩ Tar.recordSizedFile = .ok files) ↔
      ∃ files, extract (fun _ => true) ⟨8, 1000⟩ Tar.recordSizedFile = .ok files) ∧
    extract (fun _ => false) ⟨8, 1000⟩ Tar.recordSizedFile = .ok [] := by
  obtain ⟨files, hfiles, -⟩ :=
    extract_recordSizedFile (show 64 ≤ (⟨8, 1000⟩ : ExtractionLimits).maxTotalSize by decide)
  obtain ⟨hagree, -, hreservable⟩ :=
    extract_filters_agree (·.isEmpty) (fun _ => true) ⟨8, 1000⟩ Tar.recordSizedFile
  obtain ⟨-, hselect, -⟩ :=
    extract_filters_agree (fun _ => false) (fun _ => true) ⟨8, 1000⟩ Tar.recordSizedFile
  -- Room for these limits can be reserved, so neither filter stops the extraction.
  have hgoes := hreservable (by decide)
  refine ⟨(hagree.2 ?_).1, (hselect hgoes []).2 ⟨files, hfiles, by simp⟩⟩
  exact iff_of_false (mt IsStopped.of_filter hgoes) hgoes

/-- Of the archive that breaks off behind its header, a filter that drops the file finds the fault.
Where the file is kept, no room can be reserved for the size that the header states. -/
theorem extract_vastFile :
    extract (fun _ => false) ⟨Nat.pow 2 63, 0⟩ Tar.vastFile = .error (.io "<io error>") ∧
    extract (fun _ => true) ⟨Nat.pow 2 63, 0⟩ Tar.vastFile = .stopped := by
  obtain ⟨e, hlist, hkind, hdeclared, hlength⟩ := Tar.list_vastFile
  constructor
  -- Nothing is kept, so no room is reserved, and the missing data is the fault that ends it.
  · have hgoes : ¬IsStopped (fun _ => false) ⟨Nat.pow 2 63, 0⟩ 0 [e] :=
      fun ⟨_, _, _, _, ⟨_, hfilter, _⟩, _⟩ => nomatch hfilter
    rw [extract_eq_outcome (by rwa [hlist]), hlist, outcome, List.map_singleton, List.sum_singleton,
      hlength]
    rfl
  -- The file is kept, and no machine can reserve the room its header states.
  · have hstops : Stops (fun _ => true) ⟨Nat.pow 2 63, 0⟩ e := by
      refine ⟨hkind, rfl, Nat.le_of_eq hdeclared, ?_⟩
      rw [hdeclared]
      decide
    rw [extract_eq_stopped_iff, hlist]
    exact ⟨[], e, [], rfl, hstops, Nat.le_refl 0⟩

end DepTriage.Archive
