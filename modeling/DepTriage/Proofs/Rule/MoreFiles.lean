import DepTriage.Proofs.GlobalUsage.Join
import DepTriage.Rule.Evaluation
import Mathlib.Data.List.Flatten
import Mathlib.Data.List.Forall2

/-!
# More files, no fewer findings

What the rules find in the files of a version they still find when there are further files among
them: a file only adds to the usage of a package and to the hits in its texts, also one that cannot
be analyzed.

## Key results

- `analyzeFiles_usage_mono`: the usage of more files is greater
- `Capability.ofGlobal?_mono`: a stronger access does not take a capability away
- `Rule.check_mono`: a rule that fires still fires
- `RuleSet.findings_of_sublist`: all findings are kept, in their order
-/

namespace DepTriage

/-! ## Usage -/

theorem Access.join_mono {a b : Access} (h : a ≤ b) (c : Access) : a.join c ≤ b.join c := by
  cases a with
  | readWrite =>
    obtain rfl : Access.readWrite = b := h
    exact le_refl _
  | read =>
    cases b with
    | read => exact le_refl _
    | readWrite => cases c <;> rfl

namespace GlobalUsage

variable {u v : GlobalUsage}

theorem record_mono (h : u ≤ v) (name : String) (a : Access) :
    u.record name a ≤ v.record name a := by
  intro other b hb
  rw [get?_record] at hb ⊢
  -- Only the recorded name changes, and it changes to a join on both sides.
  split at hb
  · next hname =>
    rw [if_pos hname]
    refine ⟨_, rfl, ?_⟩
    obtain rfl := Option.some.inj hb
    cases hu : u.get? name with
    | none =>
      cases v.get? name with
      | none => exact Access.le_refl a
      | some c => cases c <;> cases a <;> rfl
    | some earlier =>
      obtain ⟨later, hv, hle⟩ := h name earlier hu
      rw [hv]
      exact Access.join_mono hle a
  · next hname =>
    rw [if_neg hname]
    exact h other b hb

theorem recordAll_mono (h : u ≤ v) (references : List (String × Access)) :
    u.recordAll references ≤ v.recordAll references := by
  induction references generalizing u v with
  | nil => exact h
  | cons r references ih => exact ih (record_mono h r.1 r.2)

theorem le_recordAll (u : GlobalUsage) (references : List (String × Access)) :
    u ≤ u.recordAll references := by
  induction references generalizing u with
  | nil => exact le_refl u
  | cons r references ih => exact le_trans (u.le_record r.1 r.2) (ih _)

end GlobalUsage

namespace PackageAnalysis

/-- A file adds to the usage of those before it, or leaves it as it is. -/
theorem usage_le_add (a : PackageAnalysis) (file : SourceFile) : a.usage ≤ (a.add file).usage := by
  rw [add]
  cases file.analyze with
  | error e => exact a.usage.le_refl
  | ok usage => exact a.usage.le_recordAll _

theorem add_mono {a b : PackageAnalysis} (h : a.usage ≤ b.usage) (file : SourceFile) :
    (a.add file).usage ≤ (b.add file).usage := by
  rw [add, add]
  cases file.analyze with
  | error e => exact h
  | ok usage => exact GlobalUsage.recordAll_mono h _

end PackageAnalysis

/-- Further files, wherever they stand, only add to the usage of a package. -/
theorem analyzeFiles_usage_mono {files more : List SourceFile} (h : files.Sublist more) :
    (analyzeFiles files).usage ≤ (analyzeFiles more).usage := by
  -- Both analyses start from what the files before have given, the second from no less.
  suffices ∀ a b : PackageAnalysis, a.usage ≤ b.usage →
      (files.foldl PackageAnalysis.add a).usage ≤ (more.foldl PackageAnalysis.add b).usage from
    this {} {} (GlobalUsage.le_refl _)
  induction h with
  | slnil => exact fun a b hab => hab
  | cons file _ ih =>
    intro a b hab
    rw [List.foldl_cons]
    exact ih a _ (GlobalUsage.le_trans hab (b.usage_le_add file))
  | cons_cons file _ ih =>
    intro a b hab
    rw [List.foldl_cons, List.foldl_cons]
    exact ih _ _ (PackageAnalysis.add_mono hab file)

/-! ## Flagged globals -/

/-- A global that comes with a capability when it is read comes with the same one when it is
written. -/
theorem Capability.ofGlobal?_mono {name : String} {a b : Access} {capability : Capability}
    (h : ofGlobal? name a = some capability) (hab : a ≤ b) :
    ofGlobal? name b = some capability := by
  cases a with
  | readWrite =>
    obtain rfl : Access.readWrite = b := hab
    exact h
  | read =>
    cases b with
    | read => exact h
    | readWrite =>
      -- Event handlers, which count when they are written, come with no capability otherwise.
      have hhandlers : ∀ name ∈ handlerNames, ofGlobal? name .read = none := by decide +kernel
      have hnot : handlerNames.contains name = false := by
        rw [Bool.eq_false_iff, Ne, List.contains_iff_mem]
        intro hmem
        rw [hhandlers name hmem] at h
        exact nomatch h
      rw [ofGlobal?, hnot, Bool.and_false] at h ⊢
      exact h

namespace FlaggedGlobal

/-- What `g` is flagged for, `other` is flagged for too, with an access at least as strong. -/
structure IsCoveredBy (g other : FlaggedGlobal) : Prop where
  name_eq : other.name = g.name
  capability_eq : other.capability = g.capability
  access_le : g.access ≤ other.access

theorem mem_ofUsage {u : GlobalUsage} {g : FlaggedGlobal} :
    g ∈ ofUsage u ↔
      u.get? g.name = some g.access ∧ Capability.ofGlobal? g.name g.access = some g.capability := by
  rw [← GlobalUsage.mem_toList, ofUsage, List.mem_filterMap]
  constructor
  · rintro ⟨⟨name, access⟩, hmem, hg⟩
    obtain ⟨capability, hcapability, rfl⟩ := Option.map_eq_some_iff.1 hg
    exact ⟨hmem, hcapability⟩
  · rintro ⟨hmem, hcapability⟩
    exact ⟨(g.name, g.access), hmem, Option.map_eq_some_iff.2 ⟨_, hcapability, rfl⟩⟩

/-- A global that is flagged stays flagged in a greater usage. -/
theorem exists_isCoveredBy {u v : GlobalUsage} (h : u ≤ v) {g : FlaggedGlobal}
    (hg : g ∈ ofUsage u) :
    ∃ other ∈ ofUsage v, g.IsCoveredBy other := by
  obtain ⟨hget, hcapability⟩ := mem_ofUsage.1 hg
  obtain ⟨access, hv, hle⟩ := h g.name g.access hget
  have hother := Capability.ofGlobal?_mono hcapability hle
  exact ⟨⟨g.name, access, g.capability⟩, mem_ofUsage.2 ⟨hv, hother⟩, rfl, rfl, hle⟩

end FlaggedGlobal

/-! ## Findings -/

/-- What the rules look at when a version comes with these files. -/
def Evidence.withFiles (e : Evidence) (files : List SourceFile) : Evidence :=
  { e with files, globals := (analyzeFiles files).usage }

/-- The finding `other` is of the same rule and as severe, and flags all that `f` flags. -/
structure Finding.IsCoveredBy (f other : Finding) : Prop where
  rule_eq : other.rule = f.rule
  severity_eq : other.severity = f.severity
  flagged : ∀ g ∈ f.flagged, ∃ stronger ∈ other.flagged, g.IsCoveredBy stronger

theorem FlaggedGlobal.IsCoveredBy.refl (g : FlaggedGlobal) : g.IsCoveredBy g :=
  ⟨rfl, rfl, g.access.le_refl⟩

theorem Finding.IsCoveredBy.refl (f : Finding) : f.IsCoveredBy f :=
  ⟨rfl, rfl, fun g hg => ⟨g, hg, .refl g⟩⟩

namespace Rule

/-- The hits that a rule has in the texts of files, which its finding lists one to a line. -/
def hits (rule : Rule) (settings : RuleSettings) (files : List SourceFile) : List String :=
  match rule with
  | obfuscation => obfuscationHits files
  | keyword => keywordHits settings.keywords files
  | _ => []

/-- Each file has its hits, whatever files stand around it. -/
theorem hits_sublist (rule : Rule) (settings : RuleSettings) {files more : List SourceFile}
    (h : files.Sublist more) : (rule.hits settings files).Sublist (rule.hits settings more) := by
  cases rule with
  | obfuscation => exact (h.filter _).map _
  | keyword => exact h.flatMap _
  | _ => exact .refl _

theorem checkGlobals_eq_none {u : GlobalUsage} (h : FlaggedGlobal.ofUsage u = []) :
    checkGlobals u = none := by
  rw [checkGlobals, h]

theorem checkGlobals_of_ne_nil {u : GlobalUsage} (h : FlaggedGlobal.ofUsage u ≠ []) :
    ∃ f, checkGlobals u = some f ∧ f.rule = dangerousGlobals ∧ f.severity = .high ∧
      f.flagged = FlaggedGlobal.ofUsage u := by
  rw [checkGlobals]
  cases hflagged : FlaggedGlobal.ofUsage u with
  | nil => exact absurd hflagged h
  | cons g flagged => exact ⟨_, rfl, rfl, rfl, rfl⟩

theorem checkGlobals_mono {u v : GlobalUsage} (h : u ≤ v) {f : Finding}
    (hf : checkGlobals u = some f) :
    ∃ other, checkGlobals v = some other ∧ f.IsCoveredBy other := by
  -- A finding means that something is flagged, and more usage flags that as well.
  have hu : FlaggedGlobal.ofUsage u ≠ [] := fun hnil => by
    rw [checkGlobals_eq_none hnil] at hf
    exact nomatch hf
  obtain ⟨g, hg⟩ := List.exists_mem_of_ne_nil _ hu
  obtain ⟨stronger, hstronger, -⟩ := FlaggedGlobal.exists_isCoveredBy h hg
  obtain ⟨f', hf', hrule, hseverity, hflagged⟩ := checkGlobals_of_ne_nil hu
  obtain rfl : f' = f := Option.some.inj (hf'.symm.trans hf)
  obtain ⟨other, hother, hrule', hseverity', hflagged'⟩ :=
    checkGlobals_of_ne_nil (List.ne_nil_of_mem hstronger)
  refine ⟨other, hother, hrule'.trans hrule.symm, hseverity'.trans hseverity.symm, ?_⟩
  rw [hflagged, hflagged']
  exact fun g hg => FlaggedGlobal.exists_isCoveredBy h hg

section Hits

variable {rule : Rule} {severity : Severity} {description : String} {hits : List String}

theorem ofHits_eq_some_iff {f : Finding} :
    ofHits rule severity description hits = some f ↔
      hits ≠ [] ∧ f = { rule, severity, description, evidence := "\n".intercalate hits } := by
  rw [ofHits]
  cases hits with
  | nil => simp
  | cons hit hits => simp [eq_comm]

/-- Further hits do not undo a finding. -/
theorem ofHits_mono {more : List String} (h : hits.Sublist more) {f : Finding}
    (hf : ofHits rule severity description hits = some f) :
    ∃ other, ofHits rule severity description more = some other ∧ f.IsCoveredBy other := by
  obtain ⟨hne, rfl⟩ := ofHits_eq_some_iff.1 hf
  have hmore : more ≠ [] := by
    rintro rfl
    exact hne (List.sublist_nil.1 h)
  exact ⟨_, ofHits_eq_some_iff.2 ⟨hmore, rfl⟩, rfl, rfl, nofun⟩

end Hits

/-- A rule that fires on some files of a version fires on all of them. -/
theorem check_mono (rule : Rule) (settings : RuleSettings) (e : Evidence)
    {files more : List SourceFile} (h : files.Sublist more) {f : Finding}
    (hf : rule.check settings (e.withFiles files) = some f) :
    ∃ other, rule.check settings (e.withFiles more) = some other ∧ f.IsCoveredBy other := by
  cases rule with
  | freshness => exact ⟨f, hf, .refl f⟩
  | popularity => exact ⟨f, hf, .refl f⟩
  | dangerousGlobals => exact checkGlobals_mono (analyzeFiles_usage_mono h) hf
  | obfuscation => exact ofHits_mono (hits_sublist obfuscation settings h) hf
  | keyword => exact ofHits_mono (hits_sublist keyword settings h) hf

/-- A finding tells its rule, and the evidence of a rule on texts lists the hits. -/
theorem of_check {rule : Rule} {settings : RuleSettings} {e : Evidence} {f : Finding}
    (hf : rule.check settings e = some f) :
    f.rule = rule ∧ (rule = obfuscation ∨ rule = keyword →
      f.evidence = "\n".intercalate (rule.hits settings e.files)) := by
  cases rule with
  | freshness =>
    obtain ⟨-, -, rfl⟩ := Option.map_eq_some_iff.1 hf
    exact ⟨rfl, by simp⟩
  | popularity =>
    -- Only the rules on files speak of lines; of the others nothing but the rule is asked.
    simp only [check, checkPopularity] at hf
    split at hf
    · exact nomatch hf
    · obtain rfl := Option.some.inj hf
      exact ⟨rfl, by simp⟩
  | dangerousGlobals =>
    have hflagged : FlaggedGlobal.ofUsage e.globals ≠ [] := fun hnil => by
      rw [check, checkGlobals_eq_none hnil] at hf
      exact nomatch hf
    obtain ⟨f', hf', hrule, -⟩ := checkGlobals_of_ne_nil hflagged
    obtain rfl : f' = f := Option.some.inj (hf'.symm.trans hf)
    exact ⟨hrule, by simp⟩
  | obfuscation =>
    obtain ⟨-, rfl⟩ := ofHits_eq_some_iff.1 hf
    exact ⟨rfl, fun _ => rfl⟩
  | keyword =>
    obtain ⟨-, rfl⟩ := ofHits_eq_some_iff.1 hf
    exact ⟨rfl, fun _ => rfl⟩

end Rule

namespace RuleSet

/-- Answers that are kept one by one are kept as a list. -/
private theorem sublistForall₂_filterMap {α β : Type} {R : β → β → Prop} {p q : α → Option β}
    (h : ∀ a b, p a = some b → ∃ c, q a = some c ∧ R b c) (as : List α) :
    (as.filterMap p).SublistForall₂ R (as.filterMap q) := by
  induction as with
  | nil => exact .nil
  | cons a as ih =>
    -- An element that only the second function keeps is skipped on the right.
    cases hp : p a with
    | none =>
      rw [List.filterMap_cons_none hp, List.filterMap_cons]
      split
      · exact ih
      · exact .cons_right ih
    | some b =>
      obtain ⟨c, hq, hbc⟩ := h a b hp
      rw [List.filterMap_cons_some hp, List.filterMap_cons_some hq]
      exact .cons hbc ih

/-- Files that are inserted anywhere hide nothing. Each finding on the files without them stands, in
the same order, beside one of the same rule that is as severe and flags each of its globals for the
same capability, with an access at least as strong. The hits of the rules on texts, which their
findings list as evidence, are a subsequence of the hits with the inserted files. -/
theorem findings_of_sublist (s : RuleSet) (e : Evidence) {files more : List SourceFile}
    (h : files.Sublist more) :
    (s.findings (e.withFiles files)).SublistForall₂ Finding.IsCoveredBy
        (s.findings (e.withFiles more)) ∧
      ∀ rule, rule = .obfuscation ∨ rule = .keyword →
        (rule.hits s.settings files).Sublist (rule.hits s.settings more) ∧
        ∀ given, ∀ f ∈ s.findings (e.withFiles given), f.rule = rule →
          f.evidence = "\n".intercalate (rule.hits s.settings given) := by
  refine ⟨sublistForall₂_filterMap (fun rule f hf => rule.check_mono s.settings e h hf) s.rules,
    fun rule hrule => ⟨rule.hits_sublist s.settings h, ?_⟩⟩
  intro files f hf hfrule
  obtain ⟨fired, -, hcheck⟩ := List.mem_filterMap.1 hf
  obtain ⟨heq, hevidence⟩ := Rule.of_check hcheck
  obtain rfl : fired = rule := heq.symm.trans hfrule
  exact hevidence hrule

/-- A file that assigns to a global and one that cannot be analyzed are put around another one. -/
theorem findings_of_sublist_around :
    let e : Evidence := default
    let file : SourceFile := ⟨"a.js", "fetch(_0x0a1b2c);"⟩
    let more : List SourceFile := [⟨"b.cjs", "fetch = null;"⟩, file, ⟨"c.mjs", "function ("⟩]
    let findings := fun files => (default : RuleSet).findings (e.withFiles files)
    [file].Sublist more ∧
      (findings [file]).SublistForall₂ Finding.IsCoveredBy (findings more) := by
  intro e file more findings
  have hsublist : [file].Sublist more := by simp [more]
  exact ⟨hsublist, (findings_of_sublist default e hsublist).1⟩

end RuleSet

end DepTriage
