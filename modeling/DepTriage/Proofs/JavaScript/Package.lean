import DepTriage.JavaScript.Analysis
import DepTriage.Proofs.GlobalUsage.Join

/-!
# The analysis of a package

The analysis of a package is made of what its files give, each on its own: the usage is the join of
the usages of the files that can be analyzed, and the others are listed.

## Key results

- `usage_eq_foldl`, `skipped_eq_filterMap`: both parts of an analysis, file by file
- `analyzeFiles_joins`: what an analysis says, and what it does not depend on
-/

namespace DepTriage

/-! ## One file -/

namespace SourceFile

/-- The usage of a file that can be analyzed. -/
def usage? (file : SourceFile) : Option GlobalUsage :=
  file.analyze.toOption

/-- How a file is listed that cannot be analyzed. -/
def skipped? (file : SourceFile) : Option SkippedFile :=
  match file.analyze with
  | .ok _ => none
  | .error e => some ⟨file.path, e.message⟩

theorem usage?_eq_some_iff {file : SourceFile} {u : GlobalUsage} :
    file.usage? = some u ↔ file.analyze = .ok u := by
  rw [usage?]
  cases file.analyze <;> simp [Except.toOption]

theorem usage?_eq_none_iff {file : SourceFile} :
    file.usage? = none ↔ file.skipped?.isSome := by
  rw [usage?, skipped?]
  cases file.analyze <;> simp [Except.toOption]

/-- A file is only refused for its own text, and the error names its own path. -/
theorem analyze_eq_error {file : SourceFile} {e : ScanError} (h : file.analyze = .error e) :
    ∃ fault : SourceFault, e = .parseFailure file.path fault.message := by
  have hmap : ∀ result : Except SourceFault GlobalUsage,
      result.mapError (·.failure file.path) = .error e →
        ∃ fault : SourceFault, e = .parseFailure file.path fault.message := by
    intro result hresult
    cases result with
    | ok u => exact nomatch hresult
    | error fault => exact ⟨fault, (Except.error.inj hresult).symm⟩
  exact hmap _ h

end SourceFile

/-! ## Many files -/

namespace PackageAnalysis

theorem add_eq (a : PackageAnalysis) (file : SourceFile) :
    a.add file = ⟨(file.usage?.map a.usage.merge).getD a.usage,
      a.skipped ++ file.skipped?.toList⟩ := by
  rw [add, SourceFile.usage?, SourceFile.skipped?]
  cases file.analyze <;> simp [Except.toOption]

/-- A file that cannot be analyzed leaves the usage as it is. -/
theorem usage_foldl (files : List SourceFile) (a : PackageAnalysis) :
    (files.foldl add a).usage = (files.filterMap SourceFile.usage?).foldl .merge a.usage := by
  induction files generalizing a with
  | nil => rfl
  | cons file files ih =>
    rw [List.foldl_cons, ih, add_eq]
    cases h : file.usage? with
    | none => rw [List.filterMap_cons_none h]; rfl
    | some u => rw [List.filterMap_cons_some h]; rfl

theorem skipped_foldl (files : List SourceFile) (a : PackageAnalysis) :
    (files.foldl add a).skipped = a.skipped ++ files.filterMap SourceFile.skipped? := by
  induction files generalizing a with
  | nil => exact (List.append_nil _).symm
  | cons file files ih =>
    rw [List.foldl_cons, ih, add_eq, List.append_assoc]
    cases h : file.skipped? with
    | none => rw [List.filterMap_cons_none h]; rfl
    | some s => rw [List.filterMap_cons_some h]; rfl

end PackageAnalysis

theorem usage_eq_foldl (files : List SourceFile) :
    (analyzeFiles files).usage = (files.filterMap SourceFile.usage?).foldl .merge {} :=
  PackageAnalysis.usage_foldl files {}

theorem skipped_eq_filterMap (files : List SourceFile) :
    (analyzeFiles files).skipped = files.filterMap SourceFile.skipped? :=
  PackageAnalysis.skipped_foldl files {}

/-! ## What does not matter -/

/-- The references of the files that can be analyzed. -/
def usedBy (files : List SourceFile) : Set (String × Access) :=
  {r | ∃ file ∈ files, ∃ u, file.analyze = .ok u ∧ u.get? r.1 = some r.2}

namespace GlobalUsage

theorem Joins.foldl_merge {u : GlobalUsage} {R : Set (String × Access)} (h : u.Joins R)
    (us : List GlobalUsage) :
    (us.foldl GlobalUsage.merge u).Joins (R ∪ {r | ∃ v ∈ us, v.get? r.1 = some r.2}) := by
  induction us generalizing u R with
  | nil => exact h.congr fun r => by simp
  | cons v us ih =>
    refine (ih (h.merge v.joins_toList)).congr fun r => ?_
    have hlisted : r ∈ v.toList ↔ v.get? r.1 = some r.2 := mem_toList
    simp [hlisted, or_assoc]

end GlobalUsage

/-- The usage of a package is the join of the usages of its files. -/
theorem joins_usedBy (files : List SourceFile) :
    (analyzeFiles files).usage.Joins (usedBy files) := by
  rw [usage_eq_foldl]
  refine (GlobalUsage.joins_empty.foldl_merge _).congr fun r => ?_
  simp only [Set.empty_union, usedBy, Set.mem_ofPred_eq, List.mem_filterMap,
    SourceFile.usage?_eq_some_iff]
  constructor
  · rintro ⟨u, ⟨file, hfile, hu⟩, hr⟩
    exact ⟨file, hfile, u, hu, hr⟩
  · rintro ⟨file, hfile, u, hu, hr⟩
    exact ⟨u, ⟨file, hfile, hu⟩, hr⟩

/-- The files that are skipped have no part in the usage, wherever they stand. -/
theorem usage_eq_of_filterMap_eq {files others : List SourceFile}
    (h : files.filterMap SourceFile.usage? = others.filterMap SourceFile.usage?) :
    (analyzeFiles files).usage = (analyzeFiles others).usage := by
  rw [usage_eq_foldl, usage_eq_foldl, h]

/-- The analysis of a package has for each name the strongest access that a file which can be
analyzed has for it, and no other name. It lists the other files in their order, each with its own
path and the text of its error, which names that path. In another order the same files give the same
usage, and are skipped in that order. A file that cannot be analyzed can be added, left out or
replaced by other such files without any effect on the usage. -/
theorem analyzeFiles_joins (files : List SourceFile) :
    (analyzeFiles files).usage.Joins
      {r | ∃ file ∈ files, ∃ u, file.analyze = .ok u ∧ u.get? r.1 = some r.2} ∧
    (analyzeFiles files).skipped = files.filterMap (fun file =>
      match file.analyze with
      | .ok _ => none
      | .error e => some ⟨file.path, e.message⟩) ∧
    (∀ (file : SourceFile) e, file.analyze = .error e →
      ∃ fault : SourceFault, e = .parseFailure file.path fault.message) ∧
    (∀ others, files.Perm others →
      (analyzeFiles files).usage.toList = (analyzeFiles others).usage.toList ∧
      (analyzeFiles files).skipped.Perm (analyzeFiles others).skipped) ∧
    ∀ before faulty after others, files = before ++ faulty ++ after →
      (∀ file ∈ faulty ++ others, ∃ e, file.analyze = .error e) →
      (analyzeFiles files).usage = (analyzeFiles (before ++ others ++ after)).usage := by
  refine ⟨joins_usedBy files, skipped_eq_filterMap files, fun _ _ => SourceFile.analyze_eq_error,
    fun others hperm => ⟨?_, ?_⟩, ?_⟩
  -- The references that files use do not depend on the order of the files.
  · refine (joins_usedBy files).toList_eq ((joins_usedBy others).congr fun r => ?_)
    simp only [usedBy, Set.mem_ofPred_eq, hperm.mem_iff]
  · rw [skipped_eq_filterMap, skipped_eq_filterMap]
    exact hperm.filterMap _
  · rintro before faulty after others rfl hfaulty
    -- None of the files that are exchanged has a usage to merge.
    have hnone : ∀ fs : List SourceFile, (∀ file ∈ fs, file ∈ faulty ++ others) →
        fs.filterMap SourceFile.usage? = [] := by
      intro fs hfs
      rw [List.filterMap_eq_nil_iff]
      intro file hfile
      obtain ⟨e, he⟩ := hfaulty file (hfs file hfile)
      rw [SourceFile.usage?, he]
      rfl
    apply usage_eq_of_filterMap_eq
    simp only [List.filterMap_append,
      hnone faulty fun file h => List.mem_append_left _ h,
      hnone others fun file h => List.mem_append_right _ h]

/-- A file that cannot be read is moved to the front, and another such file is put in its place. -/
theorem analyzeFiles_joins_around_faulty :
    let sound : SourceFile := ⟨"a.mjs", "fetch = 1;"⟩
    let faulty : SourceFile := ⟨"b.mjs", "("⟩
    let other : SourceFile := ⟨"c.cjs", "let = ;"⟩
    (∀ file ∈ [faulty] ++ [other], ∃ e, file.analyze = .error e) ∧
      (analyzeFiles [sound, faulty]).usage.toList = (analyzeFiles [faulty, sound]).usage.toList ∧
      (analyzeFiles [sound, faulty]).usage = (analyzeFiles [sound, other]).usage := by
  intro sound faulty other
  have herror : ∀ file ∈ [faulty] ++ [other], ∃ e, file.analyze = .error e := by
    -- The parser runs on two short texts, which the kernel can do.
    have hskipped : ∀ file ∈ [faulty] ++ [other], file.skipped?.isSome = true := by decide +kernel
    intro file hfile
    have hnone := SourceFile.usage?_eq_none_iff.2 (hskipped file hfile)
    rw [SourceFile.usage?] at hnone
    cases h : file.analyze with
    | ok u => rw [h] at hnone; exact nomatch hnone
    | error e => exact ⟨e, rfl⟩
  obtain ⟨-, -, -, hperm, hreplace⟩ := analyzeFiles_joins [sound, faulty]
  exact ⟨herror, (hperm [faulty, sound] (.swap _ _ [])).1,
    hreplace [sound] [faulty] [] [other] rfl herror⟩

end DepTriage
