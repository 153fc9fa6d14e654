import DepTriage.Git.NameStatus
import DepTriage.Proofs.Text.Split
import Mathlib.Data.List.Forall2

/-!
# Name-status listings

A listing whose fields are the fields of records is read as these records, and one that ends inside
of a record is not read. A record that tells of a changed file tells of the same lock file as the
changed file itself.

## Key results

- `LockFormat.ofPath?_of_isSuffixOf`: lock files of npm have no format
- `NameStatus.read_terminated`: records that are written one after the other are read back
- `NameStatus.read_cut`: what is read of a listing that is cut off behind a field
- `NameStatus.TellsOf.lockFile?_eq`: a record and the changed file that it tells of are the same
  lock file
-/

namespace DepTriage

namespace LockFormat

/-- A name of more than two characters that ends a path ends its last component. -/
theorem exists_lastComponent?_eq {name : List Char} {path : String} (hslash : '/' ∉ name)
    (hlength : 2 < name.length) (h : name <:+ path.toList) :
    ∃ front, lastComponent? path = some (String.ofList (front ++ name)) := by
  obtain ⟨before, hpath⟩ := h
  obtain ⟨fields, front, -, hfields⟩ := Text.splitAll_append_of_not_mem before hslash
  -- Such a component is none of those that are dropped.
  have hne : ∀ dots : List Char, dots.length ≤ 2 → front ++ name ≠ dots := by
    intro dots hdots heq
    have := congrArg List.length heq
    rw [List.length_append] at this
    omega
  have hkept : (front ++ name != [] && front ++ name != ['.']) = true := by
    simp [hne ['.'] (by decide), hne [] (by decide)]
  have hproper : (front ++ name != ['.', '.']) = true := by
    simpa using hne ['.', '.'] (by decide)
  refine ⟨front, ?_⟩
  rw [lastComponent?, ← hpath, hfields, List.filter_append, List.filter_singleton, hkept, cond_true,
    List.getLast?_concat, Option.filter_some, if_pos hproper, Option.map_some]

/-- A lock file of npm has no format, in whatever directory it is and whatever stands before its
name. -/
theorem ofPath?_of_isSuffixOf {path : String}
    (h : "package-lock.json".toList.isSuffixOf path.toList) : ofPath? path = none := by
  obtain ⟨front, hlast⟩ := exists_lastComponent?_eq (by decide) (by decide)
    (List.isSuffixOf_iff_suffix.1 h)
  -- The last component is too long for the name of a lock file.
  have hne : ∀ fileName : String, fileName.toList.length < 17 →
      some (String.ofList (front ++ "package-lock.json".toList)) ≠ some fileName := by
    intro fileName hlength heq
    rw [← Option.some.inj heq, String.toList_ofList, List.length_append] at hlength
    have : "package-lock.json".toList.length = 17 := rfl
    omega
  rw [ofPath?, hlast]
  split
  · rename_i heq
    exact absurd heq (hne _ (by decide))
  · rename_i heq
    exact absurd heq (hne _ (by decide))
  · rfl

end LockFormat

namespace Git

/-! ## Written listings -/

/-- Fields as a listing has them: each ends with a null character. -/
def terminated (fields : List (List Char)) : List Char :=
  fields.flatMap (· ++ ['\x00'])

namespace NameStatus

/-- A field can stand in a listing. -/
def IsField (field : List Char) : Prop :=
  field ≠ [] ∧ '\x00' ∉ field

instance : DecidablePred IsField :=
  fun field => inferInstanceAs (Decidable (field ≠ [] ∧ '\x00' ∉ field))

/-- The fields that are written for a record: its status, with which the status field begins, and
its path, which stands behind the one that it comes from if it has two of them. -/
inductive Written : NameStatus → List (List Char) → Prop
  | one {status : Char} {score : List Char} {path : String} (hone : hasTwoPaths status = false)
      (hstatus : IsField (status :: score)) (hpath : IsField path.toList) :
    Written ⟨status, path, none⟩ [status :: score, path.toList]
  | two {status : Char} {score : List Char} {source path : String} (htwo : hasTwoPaths status)
      (hstatus : IsField (status :: score)) (hsource : IsField source.toList)
      (hpath : IsField path.toList) :
    Written ⟨status, path, some source⟩ [status :: score, source.toList, path.toList]

variable {r : NameStatus} {records : List NameStatus} {fields : List (List Char)}
  {parts : List (List (List Char))}

theorem Written.isField (h : Written r fields) : ∀ field ∈ fields, IsField field := by
  cases h with
  | one _ hstatus hpath => simp [hstatus, hpath]
  | two _ hstatus hsource hpath => simp [hstatus, hsource, hpath]

/-- A record is read from the fields in front, and the rest from those behind them. -/
theorem Written.ofFields_append (h : Written r fields) (rest : List (List Char)) :
    ofFields (fields ++ rest) = (ofFields rest).map (r :: ·) := by
  cases h with
  | one hone _ _ =>
    rw [List.cons_append, List.cons_append, List.nil_append]
    cases rest <;> simp [ofFields, hone]
  | two htwo _ _ _ =>
    rw [List.cons_append, List.cons_append, List.cons_append, List.nil_append, ofFields,
      if_pos htwo, String.ofList_toList, String.ofList_toList]

/-- Records are read from the fields in front, and the rest from those behind them. -/
theorem ofFields_flatten_append (h : List.Forall₂ Written records parts)
    (rest : List (List Char)) :
    ofFields (parts.flatten ++ rest) = (ofFields rest).map (records ++ ·) := by
  induction h with
  | nil =>
    rw [List.flatten_nil, List.nil_append]
    cases ofFields rest <;> rfl
  | cons hr _ ih =>
    rw [List.flatten_cons, List.append_assoc, hr.ofFields_append, ih]
    cases ofFields rest <;> rfl

theorem ofFields_flatten (h : List.Forall₂ Written records parts) :
    ofFields parts.flatten = .ok records := by
  have hall := ofFields_flatten_append h []
  rw [List.append_nil] at hall
  rw [hall, ofFields, Except.map, List.append_nil]

/-- The fields that end with a null character are the fields of the listing. -/
theorem fields_terminated (h : ∀ field ∈ fields, IsField field) :
    NameStatus.fields (terminated fields) = fields := by
  -- The empty field behind the last null character is dropped, and no other one.
  have hnonempty : ∀ field ∈ fields, !field.isEmpty := by
    intro field hfield
    rw [List.isEmpty_eq_false_iff.2 (h field hfield).1, Bool.not_false]
  rw [NameStatus.fields, terminated, Text.splitAll_flatMap fun field hfield => (h field hfield).2,
    List.filter_append, List.filter_eq_self.2 hnonempty]
  exact List.append_nil fields

theorem isField_of_mem_flatten (h : List.Forall₂ Written records parts) :
    ∀ field ∈ parts.flatten, IsField field := by
  induction h with
  | nil => simp
  | cons hr _ ih =>
    rw [List.flatten_cons, List.forall_mem_append]
    exact ⟨hr.isField, ih⟩

/-- Records that are written one after the other are read back. -/
theorem read_terminated (h : List.Forall₂ Written records parts) :
    read (String.ofList (terminated parts.flatten)) = .ok records := by
  rw [read, String.toList_ofList, fields_terminated (isField_of_mem_flatten h), ofFields_flatten h]

/-! ## Listings that are cut off -/

/-- The listing is cut off behind these fields. The null character of the last one may be lost. -/
def IsCutBehind (cut : List (List Char)) (listing : String) : Prop :=
  listing.toList = terminated cut ∨ listing.toList ++ ['\x00'] = terminated cut

instance (cut : List (List Char)) (listing : String) : Decidable (IsCutBehind cut listing) :=
  inferInstanceAs (Decidable (_ ∨ _))

/-- The cut falls between records, behind `n` of them. -/
def FallsBetween (parts : List (List (List Char))) (cut : List (List Char)) (n : Nat) : Prop :=
  cut = (parts.take n).flatten

/-- The cut falls inside of a record: behind `n` others, of which only the fields `left` remain. -/
structure FallsInside (parts : List (List (List Char))) (cut : List (List Char)) (n : Nat)
    (left : List (List Char)) : Prop where
  eq_append : cut = (parts.take n).flatten ++ left
  ne_nil : left ≠ []
  lt_part : ∃ part ∈ parts[n]?, left <+: part ∧ left ≠ part

/-- What is missing behind the fields that remain of a record. -/
inductive Lacks : List (List Char) → ListingFault → Prop
  | path (status : List Char) : Lacks [status] (.noPath (String.ofList status))
  | destination (status source : List Char) :
    Lacks [status, source] (.noDestination (String.ofList status))

/-- A null character at the end ends the last field, if there is none in front of it. -/
theorem fields_append_null (listing : List Char) :
    NameStatus.fields (listing ++ ['\x00']) = NameStatus.fields listing := by
  rw [NameStatus.fields, Text.splitAll_append, List.filter_append]
  exact List.append_nil _

theorem IsCutBehind.fields_eq {cut : List (List Char)} {listing : String}
    (h : IsCutBehind cut listing) (hcut : ∀ field ∈ cut, IsField field) :
    NameStatus.fields listing.toList = cut := by
  rcases h with hlisting | hlisting
  · rw [hlisting, fields_terminated hcut]
  · rw [← fields_append_null, hlisting, fields_terminated hcut]

/-- A record of which fields are missing at the end is not read. -/
theorem Written.exists_lacks (h : Written r fields) {left : List (List Char)} (hne : left ≠ [])
    (hfront : left <+: fields) (hlt : left ≠ fields) :
    ∃ fault, Lacks left fault ∧ ofFields left = .error fault := by
  have hpos : 0 < left.length := List.length_pos_of_ne_nil hne
  have hlength : left.length < fields.length :=
    Nat.lt_of_le_of_ne hfront.length_le fun heq => hlt (hfront.eq_of_length heq)
  obtain ⟨k, hk⟩ : ∃ k, left.length = k := ⟨_, rfl⟩
  have htake := List.prefix_iff_eq_take.1 hfront
  rw [hk] at htake hpos hlength
  subst htake
  -- The status is there, so that its path is missing, or the second one of its paths.
  cases h with
  | @one status score path hone hstatus hpath =>
    have hlast : k = 1 := by
      change k < 2 at hlength
      omega
    subst hlast
    exact ⟨_, .path _, rfl⟩
  | @two status score source path htwo hstatus hsource hpath =>
    have hlast : k = 1 ∨ k = 2 := by
      change k < 3 at hlength
      omega
    rcases hlast with rfl | rfl
    · exact ⟨_, .path _, rfl⟩
    · refine ⟨_, .destination _ source.toList, ?_⟩
      show ofFields [status :: score, source.toList] = _
      rw [ofFields, if_pos htwo]

/-- Every cut falls between records or inside of one. -/
theorem fallsBetween_or_fallsInside {cut : List (List Char)} (h : cut <+: parts.flatten) :
    (∃ n ≤ parts.length, FallsBetween parts cut n) ∨ ∃ n left, FallsInside parts cut n left := by
  induction parts generalizing cut with
  | nil => exact .inl ⟨0, Nat.le_refl 0, List.prefix_nil.1 h⟩
  | cons part parts ih =>
    rw [List.flatten_cons] at h
    -- The listing ends within the first record, or what is left behind it does with the others.
    rcases List.prefix_or_prefix_of_prefix h (List.prefix_append part parts.flatten) with
      hcut | ⟨cut, rfl⟩
    · by_cases hnil : cut = []
      · exact .inl ⟨0, Nat.zero_le _, hnil⟩
      · by_cases hpart : cut = part
        · exact .inl ⟨1, by simp, by simp [FallsBetween, hpart]⟩
        · exact .inr ⟨0, cut, rfl, hnil, part, rfl, hcut, hpart⟩
    · rcases ih ((List.prefix_append_right_inj part).1 h) with
        ⟨n, hn, rfl⟩ | ⟨n, left, rfl, hnil, hpart⟩
      · exact .inl ⟨n + 1, Nat.succ_le_succ hn, by simp [FallsBetween]⟩
      · exact .inr ⟨n + 1, left, by simp, hnil, by simpa using hpart⟩

/-- Records that are written one after the other are read back. A listing of them that is cut off
behind a field is read as the records in front of the cut if this falls between records, and is an
error that tells what is missing if it falls inside of one. -/
theorem read_cut (h : List.Forall₂ Written records parts) :
    read (String.ofList (terminated parts.flatten)) = .ok records ∧
    ∀ cut listing, cut <+: parts.flatten → IsCutBehind cut listing →
      (∀ n, FallsBetween parts cut n → read listing = .ok (records.take n)) ∧
      (∀ n left, FallsInside parts cut n left →
        ∃ fault, Lacks left fault ∧ read listing = .error fault) ∧
      ((∃ n ≤ records.length, FallsBetween parts cut n) ∨
        ∃ n left, FallsInside parts cut n left) := by
  refine ⟨read_terminated h, fun cut listing hcut hlisting => ?_⟩
  have hread : read listing = ofFields cut := by
    rw [read, hlisting.fields_eq fun field hfield =>
      isField_of_mem_flatten h field (hcut.subset hfield)]
  refine ⟨?_, ?_, ?_⟩
  · rintro n rfl
    rw [hread, ofFields_flatten (List.forall₂_take n h)]
  -- The records before the cut read on, and what is left of the next one lacks a field.
  · rintro n left ⟨rfl, hne, part, hpart, hfront, hlt⟩
    obtain ⟨hn, rfl⟩ := List.getElem?_eq_some_iff.1 hpart
    have hr := h.get (h.length_eq ▸ hn) hn
    obtain ⟨fault, hlacks, hfault⟩ := hr.exists_lacks hne hfront hlt
    rw [hread, ofFields_flatten_append (List.forall₂_take n h), hfault]
    exact ⟨fault, hlacks, rfl⟩
  · rw [h.length_eq]
    exact fallsBetween_or_fallsInside hcut

/-- A file with a name like a status, and one that was renamed from such a name. The listing is cut
off between their records, and in front of the name that the second one got. -/
theorem read_cut_of_names_like_statuses :
    let records : List NameStatus := [⟨'M', "R100", none⟩, ⟨'R', "yarn.lock", some "A"⟩]
    let first := ["M".toList, "R100".toList]
    let second := ["R087".toList, "A".toList, "yarn.lock".toList]
    let inside := first ++ ["R087".toList, "A".toList]
    List.Forall₂ Written records [first, second] ∧
    read (String.ofList (terminated [first, second].flatten)) = .ok records ∧
    (first <+: [first, second].flatten ∧ IsCutBehind first "M\x00R100" ∧
      FallsBetween [first, second] first 1 ∧
      read "M\x00R100" = .ok [⟨'M', "R100", none⟩]) ∧
    (inside <+: [first, second].flatten ∧ IsCutBehind inside "M\x00R100\x00R087\x00A\x00" ∧
      FallsInside [first, second] inside 1 ["R087".toList, "A".toList] ∧
      ∃ fault, Lacks ["R087".toList, "A".toList] fault ∧
        read "M\x00R100\x00R087\x00A\x00" = .error fault) := by
  intro records first second inside
  have hwritten : List.Forall₂ Written records [first, second] :=
    .cons (.one (by decide) (by decide) (by decide))
      (.cons (.two (by decide) (by decide) (by decide) (by decide)) .nil)
  obtain ⟨hall, hcuts⟩ := read_cut hwritten
  -- One cut between the records, without the mark behind its last field, and one inside the second.
  have hfirst : first <+: [first, second].flatten := by decide
  have hlost : IsCutBehind first "M\x00R100" := by decide
  have hbetween : FallsBetween [first, second] first 1 := rfl
  have hinside : inside <+: [first, second].flatten := by decide
  have hkept : IsCutBehind inside "M\x00R100\x00R087\x00A\x00" := by decide
  have hfalls : FallsInside [first, second] inside 1 ["R087".toList, "A".toList] :=
    ⟨rfl, by decide, second, rfl, by decide, by decide⟩
  exact ⟨hwritten, hall,
    ⟨hfirst, hlost, hbetween, (hcuts first _ hfirst hlost).1 1 hbetween⟩,
    hinside, hkept, hfalls, (hcuts inside _ hinside hkept).2.1 1 _ hfalls⟩

/-! ## The lock files of records -/

/-- The record tells of the changed file. Where a file is not renamed or copied, a record does not
say where it comes from. -/
inductive TellsOf : NameStatus → ChangedFile → Prop
  | added {path : String} {previous : Option String} :
    TellsOf ⟨'A', path, none⟩ ⟨path, .added, previous⟩
  | removed {path : String} {previous : Option String} :
    TellsOf ⟨'D', path, none⟩ ⟨path, .removed, previous⟩
  | modified {status : Char} {kind : FileStatus} {path : String} {previous : Option String}
      (hstatus : status ∈ ['M', 'T']) (hkind : kind ∈ [.modified, .changed]) :
    TellsOf ⟨status, path, none⟩ ⟨path, kind, previous⟩
  | renamed {path source : String} : TellsOf ⟨'R', path, some source⟩ ⟨path, .renamed, some source⟩
  | copied {path source : String} : TellsOf ⟨'C', path, some source⟩ ⟨path, .copied, some source⟩

variable {f : ChangedFile}

/-- That lock files of npm are left out makes no difference. -/
theorem lockFile?_eq (r : NameStatus) :
    r.lockFile? = if r.status = 'D' then none
      else (LockFormat.ofPath? r.path).map fun format => ⟨r.path, format, r.basePath? format⟩ := by
  rw [lockFile?]
  by_cases hnpm : "package-lock.json".toList.isSuffixOf r.path.toList
  · rw [if_pos hnpm, LockFormat.ofPath?_of_isSuffixOf hnpm, Option.map_none, ite_self]
  · rw [if_neg hnpm]
    cases LockFormat.ofPath? r.path with
    | none => simp
    | some format => simp

/-- A record and the changed file that it tells of are the same lock file. -/
theorem TellsOf.lockFile?_eq (h : TellsOf r f) : r.lockFile? = f.lockFile? := by
  rw [NameStatus.lockFile?_eq, ChangedFile.lockFile?]
  cases h with
  | added | removed | renamed | copied => rfl
  | modified hstatus hkind =>
    simp only [List.mem_cons, List.not_mem_nil, or_false] at hstatus hkind
    rcases hstatus with rfl | rfl <;> rcases hkind with rfl | rfl <;> rfl

theorem filterMap_lockFile?_eq {files : List ChangedFile} (h : List.Forall₂ TellsOf records files) :
    records.filterMap lockFile? = files.filterMap ChangedFile.lockFile? := by
  induction h with
  | nil => rfl
  | cons hr _ ih => rw [List.filterMap_cons, List.filterMap_cons, hr.lockFile?_eq, ih]

end NameStatus

end Git

end DepTriage
