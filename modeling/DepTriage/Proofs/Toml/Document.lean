import DepTriage.Proofs.Toml.Values

/-!
# Written TOML documents read back

A document is written as the fields that stand in no section, and after them one section after the
other, each under its header. Its lines are read one by one into an outline, in which the keys of a
line go to the end of one table: the document's own at first, and that of the last header later on.

## Key results

- `key?_bare`: a bare key reads back
- `ReadsTo.fields`: the fields of a table get to its end, in their order
- `ReadsTo.sections`: so do the sections of a document
- `parse?_document`: a document as it is written
-/

namespace DepTriage.Toml

/-! ## Keys -/

/-- A key that is written without marks. -/
structure IsBare (key : String) : Prop where
  ne_nil : key.toList ≠ []
  chars : ∀ c ∈ key.toList, isBareKeyChar c

instance (key : String) : Decidable (IsBare key) :=
  decidable_of_iff ((!key.toList.isEmpty && key.toList.all isBareKeyChar) = true) <| by
    rw [Bool.and_eq_true, Bool.not_eq_true', List.isEmpty_eq_false_iff, List.all_eq_true]
    exact ⟨fun h => ⟨h.1, h.2⟩, fun h => ⟨h.1, h.2⟩⟩

theorem ne_of_isBareKeyChar {c mark : Char} (hc : isBareKeyChar c)
    (hmark : isBareKeyChar mark = false) : c ≠ mark := by
  rintro rfl
  exact absurd hc (by rw [hmark]; decide)

theorem dropBlanks_of_isBareKeyChar {c : Char} (hc : isBareKeyChar c) (cs : List Char) :
    dropBlanks (c :: cs) = c :: cs := by
  have hspace := ne_of_isBareKeyChar hc (show isBareKeyChar ' ' = false by decide)
  have htab := ne_of_isBareKeyChar hc (show isBareKeyChar '\t' = false by decide)
  refine List.dropWhile_cons_of_neg ?_
  simp [isBlank, hspace, htab]

theorem IsBare.exists_cons {key : String} (h : IsBare key) :
    ∃ c cs, key.toList = c :: cs ∧ isBareKeyChar c := by
  obtain ⟨c, cs, hkey⟩ := List.exists_cons_of_ne_nil h.ne_nil
  exact ⟨c, cs, hkey, h.chars c (hkey ▸ List.mem_cons_self)⟩

/-- A bare key is read up to what cannot belong to it. -/
theorem simpleKey?_bare {key : String} (hkey : IsBare key) {mark : Char}
    (hmark : isBareKeyChar mark = false) (rest : List Char) :
    simpleKey? (key.toList ++ mark :: rest) = some (key, mark :: rest) := by
  have htake : (key.toList ++ mark :: rest).takeWhile isBareKeyChar = key.toList := by
    rw [List.takeWhile_append_of_pos hkey.chars, List.takeWhile_cons_of_neg (by simp [hmark]),
      List.append_nil]
  have hdrop : (key.toList ++ mark :: rest).dropWhile isBareKeyChar = mark :: rest := by
    rw [List.dropWhile_append_of_pos hkey.chars, List.dropWhile_cons_of_neg (by simp [hmark])]
  obtain ⟨c, cs, hcons, hc⟩ := hkey.exists_cons
  -- Both quotes are ruled out by the first character, which is that of a bare key.
  rw [simpleKey?.eq_def]
  split
  · next heq =>
    rw [hcons] at heq
    exact absurd (List.cons.inj heq).1 (ne_of_isBareKeyChar hc (by decide))
  · next heq =>
    rw [hcons] at heq
    exact absurd (List.cons.inj heq).1 (ne_of_isBareKeyChar hc (by decide))
  · have hempty : ¬key.toList.isEmpty = true := by
      rw [hcons]
      exact Bool.false_ne_true
    rw [htake, hdrop]
    show (if key.toList.isEmpty = true then none else some (String.ofList key.toList, _)) = _
    rw [if_neg hempty, String.ofList_toList]

/-- A bare key reads back as the only part of its path, up to the mark that follows it. -/
theorem key?_bare {key : String} (hkey : IsBare key) {mark first : Char} {rest more : List Char}
    (hmark : isBareKeyChar mark = false) (hrest : dropBlanks (mark :: rest) = first :: more)
    (hdot : first ≠ '.') :
    key? (key.toList ++ mark :: rest) = some ([], key, first :: more) := by
  have hparts : keyParts? nestingLimit (key.toList ++ mark :: rest) =
      some ([key], first :: more) := by
    obtain ⟨c, cs, hcons, hc⟩ := hkey.exists_cons
    have hblanks : dropBlanks (key.toList ++ mark :: rest) = key.toList ++ mark :: rest := by
      rw [hcons]
      exact dropBlanks_of_isBareKeyChar hc _
    show keyParts? (78 + 1) _ = _
    rw [keyParts?, hblanks, simpleKey?_bare hkey hmark]
    dsimp only
    rw [hrest]
    -- Without a dot behind it the key is the whole path.
    split
    · next heq => exact absurd (List.cons.inj heq).1 hdot
    · rfl
  rw [key?, hparts]
  rfl

/-! ## Tables under construction -/

namespace DraftTable

/-- The table of a document or a header, with its entries. -/
abbrev ofEntries (entries : List (String × Draft)) : DraftTable :=
  mk false false entries

variable {entries : List (String × Draft)} {key : String}

theorem get?_eq_none (h : key ∉ entries.map Prod.fst) : (ofEntries entries).get? key = none := by
  refine List.lookup_eq_none_iff.2 fun entry hentry => ?_
  rw [bne_iff_ne]
  exact fun heq => h (heq ▸ List.mem_map_of_mem hentry)

theorem setIn_append (h : key ∉ entries.map Prod.fst) (draft : Draft)
    (others : List (String × Draft)) :
    setIn key draft (entries ++ others) = entries ++ setIn key draft others := by
  induction entries with
  | nil => rfl
  | cons entry entries ih =>
    rw [List.map_cons, List.mem_cons, not_or] at h
    obtain ⟨hne, hrest⟩ := h
    have hkey : (entry.1 == key) = false := beq_eq_false_iff_ne.2 (Ne.symm hne)
    rw [List.cons_append, setIn, hkey, ih hrest]
    rfl

/-- A new key gets to the end. -/
theorem set_of_notMem (h : key ∉ entries.map Prod.fst) (draft : Draft) :
    (ofEntries entries).set key draft = ofEntries (entries ++ [(key, draft)]) := by
  have hset := setIn_append h draft []
  rw [List.append_nil] at hset
  exact congrArg ofEntries hset

theorem put?_of_notMem (h : key ∉ entries.map Prod.fst) (value : Value) :
    (ofEntries entries).put? [] key value =
      some (ofEntries (entries ++ [(key, .value value)])) := by
  rw [put?, alter?, get?_eq_none h, set_of_notMem h]
  rfl

theorem define?_of_notMem (h : key ∉ entries.map Prod.fst) :
    (ofEntries entries).define? [] key =
      some (ofEntries (entries ++ [(key, .table (ofEntries []))])) := by
  rw [define?, alter?, get?_eq_none h, set_of_notMem h]
  rfl

/-- The table of the last header is altered where it stands. -/
theorem alter?_last (h : key ∉ entries.map Prod.fst) {f : DraftTable → Option DraftTable}
    {t t' : DraftTable} (hf : f t = some t') :
    (ofEntries (entries ++ [(key, .table t)])).alter? false f [key] =
      some (ofEntries (entries ++ [(key, .table t')])) := by
  -- The section in question is the last entry, and none before it has its name.
  have hget : (ofEntries (entries ++ [(key, .table t)])).get? key = some (.table t) := by
    rw [get?, ofEntries, DraftTable.entries, List.lookup_append]
    have hnone : entries.lookup key = none := get?_eq_none h
    rw [hnone, Option.none_or, List.lookup_cons_self]
  have hset : (ofEntries (entries ++ [(key, .table t)])).set key (.table t') =
      ofEntries (entries ++ [(key, .table t')]) := by
    refine congrArg ofEntries ((setIn_append h _ _).trans ?_)
    rw [setIn, beq_self_eq_true]
    rfl
  rw [alter?, hget]
  simp only [Bool.false_and, Bool.false_eq_true, if_false, alter?, hf, Option.map_some, hset]

end DraftTable

/-- What comes of the entries of a table when it is sealed. -/
theorem DraftTable.sealEntries_eq_map (entries : List (String × Draft)) :
    DraftTable.sealEntries entries = entries.map fun (key, draft) => (key, draft.seal) := by
  induction entries with
  | nil => rw [sealEntries]; rfl
  | cons entry entries ih => rw [sealEntries, ih]; rfl

/-! ## Fields -/

/-- The fields of a table: their keys are bare and no two of them alike, and their values fit. -/
structure AreFields (fields : List (String × FieldValue)) : Prop where
  fits : ∀ field ∈ fields, IsBare field.1 ∧ field.2.Fits
  nodup : (fields.map Prod.fst).Nodup

/-- The keys of a table apart from their values. -/
theorem AreFields.of_keys {fields : List (String × FieldValue)} (keys : List String)
    (hkeys : fields.map Prod.fst = keys) (hbare : ∀ key ∈ keys, IsBare key) (hnodup : keys.Nodup)
    (hfits : ∀ v ∈ fields.map Prod.snd, v.Fits) : AreFields fields where
  fits _ hfield :=
    ⟨hbare _ (hkeys ▸ List.mem_map_of_mem hfield), hfits _ (List.mem_map_of_mem hfield)⟩
  nodup := hkeys ▸ hnodup

/-- The entries that fields leave in a table under construction. -/
def fieldDrafts (fields : List (String × FieldValue)) : List (String × Draft) :=
  fields.map fun (key, v) => (key, .value v.value)

theorem fieldsText_cons (key : String) (v : FieldValue) (fields : List (String × FieldValue)) :
    fieldsText ((key, v) :: fields) =
      key.toList ++ ' ' :: '=' :: ' ' :: (v.text ++ '\n' :: fieldsText fields) := by
  simp [fieldsText]

open DraftTable (ofEntries)

/-- The outlines in which lines go to the end of one table, given the entries of that table. -/
def Collects (outline : List (String × Draft) → Outline) : Prop :=
  ∀ entries key value, key ∉ entries.map Prod.fst →
    (outline entries).root.alter? false (·.put? [] key value) (outline entries).path =
        some (outline (entries ++ [(key, .value value)])).root ∧
      (outline (entries ++ [(key, .value value)])).path = (outline entries).path

/-- Before any header, the table is that of the document. -/
theorem collects_top : Collects fun entries => ⟨ofEntries entries, []⟩ :=
  fun _ _ value h => ⟨DraftTable.put?_of_notMem h value, rfl⟩

/-- Below a header it is that of the header. -/
theorem collects_section {before : List (String × Draft)} {name : String}
    (hname : name ∉ before.map Prod.fst) :
    Collects fun entries => ⟨ofEntries (before ++ [(name, .table (ofEntries entries))]), [name]⟩ :=
  fun _ _ value h => ⟨DraftTable.alter?_last hname (DraftTable.put?_of_notMem h value), rfl⟩

/-- The line of a field is read up to its end. -/
theorem keyLine?_field {outline : List (String × Draft) → Outline} (houtline : Collects outline)
    {entries : List (String × Draft)} {key : String} {v : FieldValue} (hkey : IsBare key)
    (hv : v.Fits) (hnew : key ∉ entries.map Prod.fst) (rest : List Char) :
    keyLine? (outline entries) (key.toList ++ ' ' :: '=' :: ' ' :: (v.text ++ '\n' :: rest)) =
      some (outline (entries ++ [(key, .value v.value)]), '\n' :: rest) := by
  -- The key is bare, so it ends at the blank in front of the equals sign.
  have hread : key? (key.toList ++ ' ' :: '=' :: ' ' :: (v.text ++ '\n' :: rest)) =
      some ([], key, '=' :: ' ' :: (v.text ++ '\n' :: rest)) :=
    key?_bare hkey (by decide) rfl (by decide)
  obtain ⟨hput, hpath⟩ := houtline entries key v.value hnew
  -- The text of a value is shorter than the line, so the fuel reaches.
  have hfuel : v.text.length ≤
      (key.toList ++ ' ' :: '=' :: ' ' :: (v.text ++ '\n' :: rest)).length := by
    simp only [List.length_append, List.length_cons]
    omega
  have hvalue : value? ((key.toList ++ ' ' :: '=' :: ' ' :: (v.text ++ '\n' :: rest)).length + 1)
      nestingLimit (dropBlanks (' ' :: (v.text ++ '\n' :: rest))) =
        some (v.value, '\n' :: rest) := by
    have hblank : dropBlanks (' ' :: (v.text ++ '\n' :: rest)) = v.text ++ '\n' :: rest :=
      v.dropBlanks_text _
    rw [hblank]
    exact v.value?_text hv 78 hfuel rest
  rw [keyLine?, hread]
  -- Only the branch behind an equals sign applies.
  split
  · next heq =>
    simp only [Option.some.injEq, Prod.mk.injEq, List.cons.injEq] at heq
    obtain ⟨rfl, rfl, -, rfl⟩ := heq
    rewrite [hvalue]
    show ((outline entries).root.alter? false (·.put? [] key v.value) _).map _ = _
    rw [hput, Option.map_some, ← hpath]
  · next hother => exact (hother _ _ _ rfl).elim

/-- The line of a header is read up to its end, and adds a table without entries. -/
theorem header?_bare {entries : List (String × Draft)} {name : String} (hname : IsBare name)
    (hnew : name ∉ entries.map Prod.fst) (path : List String) (rest : List Char) :
    header? ⟨ofEntries entries, path⟩ (name.toList ++ ']' :: '\n' :: rest) =
      some (⟨ofEntries (entries ++ [(name, .table (ofEntries []))]), [name]⟩, '\n' :: rest) := by
  have hread : key? (name.toList ++ ']' :: '\n' :: rest) = some ([], name, ']' :: '\n' :: rest) :=
    key?_bare hname (by decide) rfl (by decide)
  -- A bare name opens no array of tables.
  obtain ⟨c, cs, hcons, hc⟩ := hname.exists_cons
  rw [header?.eq_def]
  split
  · next heq =>
    rw [hcons] at heq
    exact absurd (List.cons.inj heq).1 (ne_of_isBareKeyChar hc (by decide))
  · rw [hread]
    show ((ofEntries entries).define? [] name).map _ = _
    rw [DraftTable.define?_of_notMem hnew]
    rfl

/-! ## Lines -/

/-- Reading gets from one place of a document to another, if as many lines may be read as there are
characters. -/
def ReadsTo (o : Outline) (cs : List Char) (o' : Outline) (rest : List Char) : Prop :=
  ∀ bound, cs.length < bound →
    ∃ bound', rest.length < bound' ∧ lines? bound o cs = lines? bound' o' rest

namespace ReadsTo

variable {o o' o'' : Outline} {cs cs' cs'' : List Char}

theorem refl (o : Outline) (cs : List Char) : ReadsTo o cs o cs :=
  fun bound h => ⟨bound, h, rfl⟩

theorem trans (h : ReadsTo o cs o' cs') (h' : ReadsTo o' cs' o'' cs'') : ReadsTo o cs o'' cs'' := by
  intro bound hbound
  obtain ⟨bound', hbound', heq⟩ := h bound hbound
  obtain ⟨bound'', hbound'', heq'⟩ := h' bound' hbound'
  exact ⟨bound'', hbound'', heq.trans heq'⟩

/-- A line has one character at least. -/
theorem line (hlength : cs'.length < cs.length)
    (hline : ∀ bound, lines? (bound + 1) o cs = lines? bound o' cs') : ReadsTo o cs o' cs' := by
  intro bound hbound
  obtain ⟨k, rfl⟩ : ∃ k, bound = k + 1 := ⟨bound - 1, by omega⟩
  exact ⟨k, by omega, hline k⟩

theorem lines?_eq (h : ReadsTo o cs o' []) : lines? (cs.length + 1) o cs = some o' := by
  obtain ⟨bound, hbound, heq⟩ := h _ (Nat.lt_succ_self _)
  obtain ⟨k, rfl⟩ : ∃ k, bound = k + 1 := ⟨bound - 1, by omega⟩
  rw [heq, lines?]
  rfl

theorem emptyLine (o : Outline) (rest : List Char) : ReadsTo o ('\n' :: rest) o rest := by
  refine line (Nat.lt_succ_self _) fun bound => ?_
  rw [lines?]
  rfl

theorem field {outline : List (String × Draft) → Outline} (houtline : Collects outline)
    {entries : List (String × Draft)} {key : String} {v : FieldValue} (hkey : IsBare key)
    (hv : v.Fits) (hnew : key ∉ entries.map Prod.fst) (rest : List Char) :
    ReadsTo (outline entries) (key.toList ++ ' ' :: '=' :: ' ' :: (v.text ++ '\n' :: rest))
      (outline (entries ++ [(key, .value v.value)])) rest := by
  have hread := keyLine?_field houtline hkey hv hnew rest
  obtain ⟨c, cs, hcons, hc⟩ := hkey.exists_cons
  have hne : ∀ {mark : Char}, isBareKeyChar mark = false → (c == mark) = false := fun hmark =>
    beq_eq_false_iff_ne.2 (ne_of_isBareKeyChar hc hmark)
  refine line (by simp only [List.length_append, List.length_cons]; omega) fun bound => ?_
  rw [hcons, List.cons_append] at hread ⊢
  rw [lines?, dropBlanks_of_isBareKeyChar hc]
  -- The first character is neither a line's end, nor a comment, nor the bracket of a section.
  split
  · next heq => exact nomatch heq
  · next heq => exact absurd (List.cons.inj heq).1 (ne_of_isBareKeyChar hc (by decide))
  · next heq =>
    obtain ⟨rfl, rfl⟩ := List.cons.inj heq
    rw [hne (by decide), hne (by decide), hne (by decide)]
    show (keyLine? _ _ >>= _) = _
    rw [hread]
    rfl

theorem header {entries : List (String × Draft)} {name : String} (hname : IsBare name)
    (hnew : name ∉ entries.map Prod.fst) (path : List String) (rest : List Char) :
    ReadsTo ⟨ofEntries entries, path⟩ ('[' :: (name.toList ++ ']' :: '\n' :: rest))
      ⟨ofEntries (entries ++ [(name, .table (ofEntries []))]), [name]⟩ rest := by
  refine line (by simp only [List.length_append, List.length_cons]; omega) fun bound => ?_
  rw [lines?]
  show (header? _ _ >>= _) = _
  rw [header?_bare hname hnew]
  rfl

/-- The fields of a table get to its end. -/
theorem fields {outline : List (String × Draft) → Outline} (houtline : Collects outline)
    {fields : List (String × FieldValue)} (entries : List (String × Draft))
    (hfits : ∀ field ∈ fields, IsBare field.1 ∧ field.2.Fits)
    (hnodup : (entries.map Prod.fst ++ fields.map Prod.fst).Nodup) (rest : List Char) :
    ReadsTo (outline entries) (fieldsText fields ++ rest)
      (outline (entries ++ fieldDrafts fields)) rest := by
  induction fields generalizing entries with
  | nil =>
    rw [fieldDrafts, List.map_nil, List.append_nil]
    exact refl _ _
  | cons field fields ih =>
    obtain ⟨key, v⟩ := field
    obtain ⟨⟨hkey, hv⟩, hfits⟩ := List.forall_mem_cons.1 hfits
    have htext : fieldsText ((key, v) :: fields) ++ rest =
        key.toList ++ ' ' :: '=' :: ' ' :: (v.text ++ '\n' :: (fieldsText fields ++ rest)) := by
      simp [fieldsText_cons]
    -- The key is new at this point, so that the document does not define it twice.
    have hnew : key ∉ entries.map Prod.fst := fun hmem =>
      (List.nodup_append.1 hnodup).2.2 key hmem key List.mem_cons_self rfl
    have hread := ih (entries ++ [(key, .value v.value)]) hfits (by simpa using hnodup)
    rw [List.append_assoc] at hread
    rw [htext]
    exact (field houtline hkey hv hnew _).trans hread

/-- A section gets to the end of the document, with its fields. -/
theorem sectionText {entries : List (String × Draft)} {name : String} (hname : IsBare name)
    (hnew : name ∉ entries.map Prod.fst) {fields : List (String × FieldValue)}
    (hfields : AreFields fields) (path : List String) (rest : List Char) :
    ReadsTo ⟨ofEntries entries, path⟩ (Toml.sectionText name fields ++ rest)
      ⟨ofEntries (entries ++ [(name, .table (ofEntries (fieldDrafts fields)))]), [name]⟩ rest := by
  have htext : Toml.sectionText name fields ++ rest =
      '\n' :: '[' :: (name.toList ++ ']' :: '\n' :: (fieldsText fields ++ rest)) := by
    simp [Toml.sectionText]
  rw [htext]
  exact (emptyLine _ _).trans ((header hname hnew path _).trans
    (ReadsTo.fields (collects_section hnew) [] hfields.fits hfields.nodup rest))

end ReadsTo

/-! ## Documents -/

/-- Fields that stand in no section, and the sections after them. -/
def documentText (top : List (String × FieldValue))
    (sections : List (String × List (String × FieldValue))) : List Char :=
  fieldsText top ++ sections.flatMap fun (name, fields) => sectionText name fields

/-- The entries that sections leave in a document under construction. -/
def sectionDrafts (sections : List (String × List (String × FieldValue))) :
    List (String × Draft) :=
  sections.map fun (name, fields) => (name, .table (ofEntries (fieldDrafts fields)))

/-- The sections of a document get to its end. -/
theorem ReadsTo.sections {sections : List (String × List (String × FieldValue))}
    (entries : List (String × Draft)) (path : List String)
    (hsections : ∀ s ∈ sections, IsBare s.1 ∧ AreFields s.2)
    (hnodup : (entries.map Prod.fst ++ sections.map Prod.fst).Nodup) :
    ∃ path', ReadsTo ⟨ofEntries entries, path⟩
      (sections.flatMap fun (name, fields) => Toml.sectionText name fields)
      ⟨ofEntries (entries ++ sectionDrafts sections), path'⟩ [] := by
  induction sections generalizing entries path with
  | nil =>
    rw [sectionDrafts, List.map_nil, List.append_nil]
    exact ⟨path, refl _ _⟩
  | cons s sections ih =>
    obtain ⟨name, fields⟩ := s
    obtain ⟨⟨hname, hfields⟩, hsections⟩ := List.forall_mem_cons.1 hsections
    have hnew : name ∉ entries.map Prod.fst := fun hmem =>
      (List.nodup_append.1 hnodup).2.2 name hmem name List.mem_cons_self rfl
    obtain ⟨path', hread⟩ :=
      ih (entries ++ [(name, .table (ofEntries (fieldDrafts fields)))]) [name] hsections
        (by simpa using hnodup)
    rw [List.append_assoc] at hread
    -- Where the section before this one left the path does not matter.
    rw [List.flatMap_cons]
    exact ⟨path', (sectionText hname hnew hfields path _).trans hread⟩

/-- The fields and sections of a document: no section is named like a field above it. -/
structure IsDocument (top : List (String × FieldValue))
    (sections : List (String × List (String × FieldValue))) : Prop where
  top_fits : ∀ field ∈ top, IsBare field.1 ∧ field.2.Fits
  areFields : ∀ s ∈ sections, IsBare s.1 ∧ AreFields s.2
  nodup : (top.map Prod.fst ++ sections.map Prod.fst).Nodup

/-- The entries that fields have in a document. -/
def fieldValues (fields : List (String × FieldValue)) : List (String × Value) :=
  fields.map fun (key, v) => (key, v.value)

/-- No document starts with a byte order mark. -/
theorem documentText_ne_mark {top : List (String × FieldValue)}
    {sections : List (String × List (String × FieldValue))}
    (h : ∀ field ∈ top, IsBare field.1 ∧ field.2.Fits) (cs : List Char) :
    documentText top sections ≠ '\ufeff' :: cs := by
  intro heq
  -- The document starts with a key or a bracket.
  cases top with
  | nil =>
    cases sections with
    | nil => exact nomatch heq
    | cons s sections => exact absurd (List.cons.inj heq).1 (by decide)
  | cons field top =>
    obtain ⟨key, v⟩ := field
    obtain ⟨c, cs, hkey, hc⟩ := (h (key, v) List.mem_cons_self).1.exists_cons
    rw [documentText, fieldsText_cons, hkey] at heq
    exact absurd (List.cons.inj heq).1 (ne_of_isBareKeyChar hc (by decide))

/-- What has been read of a document is sealed to its fields and sections. -/
theorem seal_drafts (top : List (String × FieldValue))
    (sections : List (String × List (String × FieldValue))) :
    (ofEntries (fieldDrafts top ++ sectionDrafts sections)).seal =
      .table (fieldValues top ++
        sections.map fun (name, fields) => (name, .table (fieldValues fields))) := by
  -- Fields and sections are sealed alike, each in its own table.
  have hfields : ∀ fields,
      DraftTable.sealEntries (fieldDrafts fields) = fieldValues fields := by
    intro fields
    rw [DraftTable.sealEntries_eq_map, fieldDrafts, fieldValues, List.map_map]
    refine List.map_congr_left fun field _ => ?_
    show (field.1, Draft.seal (.value field.2.value)) = _
    rw [Draft.seal]
  have hsections : DraftTable.sealEntries (sectionDrafts sections) =
      sections.map fun (name, fields) => (name, .table (fieldValues fields)) := by
    rw [DraftTable.sealEntries_eq_map, sectionDrafts, List.map_map]
    refine List.map_congr_left fun s _ => ?_
    show (s.1, Draft.seal (.table (ofEntries (fieldDrafts s.2)))) = _
    rw [Draft.seal, DraftTable.seal, hfields]
  rw [DraftTable.seal, DraftTable.sealEntries_eq_map, List.map_append,
    ← DraftTable.sealEntries_eq_map, ← DraftTable.sealEntries_eq_map, hfields, hsections]

/-- A document reads back as the table of its fields and sections. -/
theorem parse?_document {top : List (String × FieldValue)}
    {sections : List (String × List (String × FieldValue))} (h : IsDocument top sections) :
    parse? (String.ofList (documentText top sections)) =
      some (.table (fieldValues top ++
        sections.map fun (name, fields) => (name, .table (fieldValues fields)))) := by
  -- First the fields on top, then section by section.
  have htop : ReadsTo {} (documentText top sections) ⟨ofEntries (fieldDrafts top), []⟩
      (sections.flatMap fun (name, fields) => sectionText name fields) :=
    ReadsTo.fields collects_top [] h.top_fits (List.nodup_append.1 h.nodup).1 _
  have hkeys : (fieldDrafts top).map Prod.fst = top.map Prod.fst := by
    rw [fieldDrafts, List.map_map]
    rfl
  obtain ⟨path, hsections⟩ :=
    ReadsTo.sections (fieldDrafts top) [] h.areFields (by rw [hkeys]; exact h.nodup)
  have hread := (htop.trans hsections).lines?_eq
  rw [parse?, String.toList_ofList]
  split
  -- No byte order mark stands in front of a document.
  · next heq => exact absurd heq (documentText_ne_mark h.top_fits _)
  · rw [hread, Option.map_some, seal_drafts]

end DepTriage.Toml
