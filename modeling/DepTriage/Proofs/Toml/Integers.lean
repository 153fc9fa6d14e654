import DepTriage.Toml.Reader

/-!
# The whole numbers of a document

A whole number is read only if it fits in 64 bits with a sign. Wherever it stands in a document, it
is then added to a table under construction, and what is added to a table or put on its way leaves
the rest of it as it was. So a document that was read holds no other whole numbers.

## Key results

- `isInRange_of_number?`, `readsInRange`: whole numbers on their own, and in arrays and tables
- `isInRange_of_alter?`: an alteration of a table keeps its numbers in range if it does so at its
  end
- `isInRange_of_parse?`: all whole numbers of a document are in range
- `Value.IsInRange.lt_of_naturalBelow?`: so is each natural number of one of its fields
-/

namespace DepTriage.Toml

/-- A value with whole numbers of 64 bits with a sign, at any depth. -/
inductive Value.IsInRange : Value → Prop where
  | string (text : String) : IsInRange (.string text)
  | integer {n : Int} (hleast : -(Nat.pow 2 63 : Int) ≤ n) (hgreatest : n < (Nat.pow 2 63 : Int)) :
    IsInRange (.integer n)
  | float (x : Binary64) : IsInRange (.float x)
  | bool (b : Bool) : IsInRange (.bool b)
  | dateTime : IsInRange .dateTime
  | array {items : List Value} (h : ∀ v ∈ items, IsInRange v) : IsInRange (.array items)
  | table {entries : List (String × Value)} (h : ∀ e ∈ entries, IsInRange e.2) :
    IsInRange (.table entries)

/-! ## Numbers -/

theorem isInRange_of_integerValue? {n : Int} {v : Value} (h : integerValue? n = some v) :
    v.IsInRange := by
  obtain ⟨⟨hleast, hgreatest⟩, hv⟩ := Option.ite_none_right_eq_some.1 h
  exact Option.some.inj hv ▸ .integer hleast hgreatest

theorem isInRange_of_floatValue? {x : Binary64} {v : Value} (h : floatValue? x = some v) :
    v.IsInRange := by
  obtain ⟨-, hv⟩ := Option.ite_none_left_eq_some.1 h
  exact Option.some.inj hv ▸ .float x

theorem isInRange_of_basedInteger? {base : Nat} {cs rest : List Char} {v : Value}
    (h : basedInteger? base cs = some (v, rest)) : v.IsInRange := by
  simp only [basedInteger?, Option.bind_eq_bind, Option.bind_eq_some_iff] at h
  obtain ⟨_, -, _, hinteger, hv⟩ := h
  cases hv
  exact isInRange_of_integerValue? hinteger

theorem isInRange_of_decimalNumber? {negative : Bool} {cs rest : List Char} {v : Value}
    (h : decimalNumber? negative cs = some (v, rest)) : v.IsInRange := by
  simp only [decimalNumber?, Option.bind_eq_bind, Option.bind_eq_some_iff] at h
  obtain ⟨⟨whole, _⟩, -, h⟩ := h
  -- With a fraction or an exponent, a number is none of the whole ones.
  have hfloat {x : Binary64} {rest' : List Char}
      (h : ((floatValue? x).bind fun v => some (v, rest')) = some (v, rest)) : v.IsInRange := by
    obtain ⟨_, hx, hv⟩ := Option.bind_eq_some_iff.1 h
    cases hv
    exact isInRange_of_floatValue? hx
  split at h
  · obtain ⟨_, -, h⟩ := Option.bind_eq_some_iff.1 h
    split at h
    · obtain ⟨_, -, h⟩ := Option.bind_eq_some_iff.1 h
      exact hfloat h
    · exact hfloat h
  · split at h
    · obtain ⟨_, -, h⟩ := Option.bind_eq_some_iff.1 h
      exact hfloat h
    · obtain ⟨_, hinteger, hv⟩ := Option.bind_eq_some_iff.1 h
      cases hv
      exact isInRange_of_integerValue? hinteger

theorem isInRange_of_signedNumber? {negative : Bool} {cs rest : List Char} {v : Value}
    (h : signedNumber? negative cs = some (v, rest)) : v.IsInRange := by
  unfold signedNumber? at h
  split at h
  · cases h
    exact .float _
  · cases h
    exact .float _
  · exact isInRange_of_decimalNumber? h

theorem isInRange_of_number? {cs rest : List Char} {v : Value}
    (h : number? cs = some (v, rest)) : v.IsInRange := by
  unfold number? at h
  -- Dates and times hold no whole number; each form of number has a lemma of its own.
  split at h
  · obtain ⟨_, -, hv⟩ := Option.map_eq_some_iff.1 h
    cases hv
    exact .dateTime
  split at h
  · obtain ⟨_, -, hv⟩ := Option.map_eq_some_iff.1 h
    cases hv
    exact .dateTime
  split at h
  · exact isInRange_of_signedNumber? h
  · exact isInRange_of_signedNumber? h
  · exact isInRange_of_basedInteger? h
  · exact isInRange_of_basedInteger? h
  · exact isInRange_of_basedInteger? h
  · exact isInRange_of_decimalNumber? h

/-! ## Tables under construction -/

theorem isInRange_seal_iff {t : DraftTable} :
    t.seal.IsInRange ↔ ∀ e ∈ t.entries, e.2.seal.IsInRange := by
  obtain ⟨_, _, entries⟩ := t
  have hentries : (∀ e ∈ DraftTable.sealEntries entries, e.2.IsInRange) ↔
      ∀ e ∈ entries, e.2.seal.IsInRange := by
    -- Sealing runs through the entries one at a time.
    induction entries with
    | nil => simp [DraftTable.sealEntries]
    | cons e entries ih =>
      rw [DraftTable.sealEntries, List.forall_mem_cons, List.forall_mem_cons, ih]
  rw [DraftTable.seal, DraftTable.entries, ← hentries]
  exact ⟨fun | .table h => h, .table⟩

theorem isInRange_seal_tables_iff {last : DraftTable} {others : List DraftTable} :
    (Draft.tables last others).seal.IsInRange ↔
      last.seal.IsInRange ∧ ∀ t ∈ others, t.seal.IsInRange := by
  -- The tables of an array are sealed from the back onto those sealed before.
  have honto (values : List Value) :
      (∀ v ∈ DraftTable.sealOnto others values, v.IsInRange) ↔
        (∀ v ∈ values, v.IsInRange) ∧ ∀ t ∈ others, t.seal.IsInRange := by
    induction others generalizing values with
    | nil => simp [DraftTable.sealOnto]
    | cons t others ih =>
      rw [DraftTable.sealOnto, ih, List.forall_mem_cons, List.forall_mem_cons, and_assoc,
        and_left_comm]
  rw [Draft.seal]
  have hlast := honto [last.seal]
  rw [List.forall_mem_singleton] at hlast
  rw [← hlast]
  exact ⟨fun | .array h => h, .array⟩

theorem isInRange_seal_empty (isImplicit isDotted : Bool) :
    (DraftTable.mk isImplicit isDotted []).seal.IsInRange :=
  isInRange_seal_iff.2 nofun

theorem isInRange_of_get? {t : DraftTable} {key : String} {d : Draft} (ht : t.seal.IsInRange)
    (h : t.get? key = some d) : d.seal.IsInRange := by
  obtain ⟨before, _, hentries, -⟩ := List.lookup_eq_some_iff.1 h
  exact isInRange_seal_iff.1 ht (key, d) (by simp [hentries])

theorem isInRange_set {t : DraftTable} (key : String) {d : Draft} (ht : t.seal.IsInRange)
    (hd : d.seal.IsInRange) : (t.set key d).seal.IsInRange := by
  rw [isInRange_seal_iff] at ht ⊢
  rw [DraftTable.set, DraftTable.entries]
  generalize t.entries = entries at ht
  induction entries with
  -- One entry is replaced, or one is added at the end.
  | nil => simpa [DraftTable.setIn] using hd
  | cons e entries ih =>
    obtain ⟨he, hentries⟩ := List.forall_mem_cons.1 ht
    rw [DraftTable.setIn]
    split
    · exact List.forall_mem_cons.2 ⟨hd, hentries⟩
    · exact List.forall_mem_cons.2 ⟨he, ih hentries⟩

/-- An alteration keeps numbers in range if it does so at the end of its path. -/
theorem isInRange_of_alter? {dotted : Bool} {f : DraftTable → Option DraftTable}
    (hf : ∀ c c', f c = some c' → c.seal.IsInRange → c'.seal.IsInRange) {path : List String}
    {t t' : DraftTable} (h : t.alter? dotted f path = some t') (ht : t.seal.IsInRange) :
    t'.seal.IsInRange := by
  induction path generalizing t t' with
  | nil => exact hf t t' h ht
  | cons key path ih =>
    unfold DraftTable.alter? at h
    split at h
    -- The way leads through a table that comes about, the last table of an array, or a table.
    · obtain ⟨c, hc, rfl⟩ := Option.map_eq_some_iff.1 h
      exact isInRange_set key ht (ih hc (isInRange_seal_empty true dotted))
    · cases h
    · next last others hget =>
      obtain ⟨hlast, hothers⟩ := isInRange_seal_tables_iff.1 (isInRange_of_get? ht hget)
      obtain ⟨c, hc, rfl⟩ := Option.map_eq_some_iff.1 h
      exact isInRange_set key ht (isInRange_seal_tables_iff.2 ⟨ih hc hlast, hothers⟩)
    · next c hget =>
      obtain ⟨-, h⟩ := Option.ite_none_left_eq_some.1 h
      obtain ⟨c', hc, rfl⟩ := Option.map_eq_some_iff.1 h
      exact isInRange_set key ht (ih hc (isInRange_of_get? ht hget))

theorem isInRange_of_put? {t t' : DraftTable} {path : List String} {key : String} {v : Value}
    (h : t.put? path key v = some t') (ht : t.seal.IsInRange) (hv : v.IsInRange) :
    t'.seal.IsInRange := by
  refine isInRange_of_alter? (fun c c' hc hrange => ?_) h ht
  obtain ⟨-, hc'⟩ := Option.ite_none_left_eq_some.1 hc
  exact Option.some.inj hc' ▸ isInRange_set key hrange hv

theorem isInRange_of_define? {t t' : DraftTable} {path : List String} {key : String}
    (h : t.define? path key = some t') (ht : t.seal.IsInRange) : t'.seal.IsInRange := by
  refine isInRange_of_alter? (fun c c' hc hrange => ?_) h ht
  split at hc
  · cases hc
    exact isInRange_set key hrange (isInRange_seal_empty false false)
  · next d hget =>
    obtain ⟨-, hc'⟩ := Option.ite_none_right_eq_some.1 hc
    -- The table is defined where it stands, with the entries that it has.
    have hentries : ∀ e ∈ d.entries, e.2.seal.IsInRange :=
      isInRange_seal_iff.1 (isInRange_of_get? hrange hget)
    exact Option.some.inj hc' ▸ isInRange_set key hrange (isInRange_seal_iff.2 hentries)
  · cases hc

theorem isInRange_of_extend? {t t' : DraftTable} {path : List String} {key : String}
    (h : t.extend? path key = some t') (ht : t.seal.IsInRange) : t'.seal.IsInRange := by
  refine isInRange_of_alter? (fun c c' hc hrange => ?_) h ht
  have hempty := isInRange_seal_empty false false
  -- Extending adds an empty table, behind the tables that are there already.
  split at hc
  · cases hc
    exact isInRange_set key hrange (isInRange_seal_tables_iff.2 ⟨hempty, nofun⟩)
  · next last others hget =>
    cases hc
    refine isInRange_set key hrange (isInRange_seal_tables_iff.2 ⟨hempty, ?_⟩)
    exact List.forall_mem_cons.2 (isInRange_seal_tables_iff.1 (isInRange_of_get? hrange hget))
  · cases hc

/-! ## Values -/

/-- What is read of values, of items and of entries, given some fuel, is in range. -/
structure ReadsInRange (fuel : Nat) : Prop where
  value : ∀ {depth : Nat} {cs rest : List Char} {v : Value},
    value? fuel depth cs = some (v, rest) → v.IsInRange
  items : ∀ {depth : Nat} {cs rest : List Char} {items read : List Value},
    items? fuel depth cs items = some (read, rest) → (∀ v ∈ items, v.IsInRange) →
      ∀ v ∈ read, v.IsInRange
  pairs : ∀ {depth : Nat} {cs rest : List Char} {table read : DraftTable},
    pairs? fuel depth cs table = some (read, rest) → table.seal.IsInRange → read.seal.IsInRange

theorem ReadsInRange.value_succ {fuel : Nat} (ih : ReadsInRange fuel) {depth : Nat}
    {cs rest : List Char} {v : Value} (h : value? (fuel + 1) depth cs = some (v, rest)) :
    v.IsInRange := by
  rw [value?.eq_def] at h
  dsimp only at h
  split at h
  · cases h
  split at h
  · obtain ⟨_, -, hv⟩ := Option.map_eq_some_iff.1 h
    cases hv
    exact .string _
  split at h
  · obtain ⟨-, h⟩ := Option.ite_none_left_eq_some.1 h
    obtain ⟨_, hitems, hv⟩ := Option.map_eq_some_iff.1 h
    cases hv
    exact .array (ih.items hitems nofun)
  split at h
  · obtain ⟨-, h⟩ := Option.ite_none_left_eq_some.1 h
    split at h
    · cases h
      exact .table nofun
    · obtain ⟨_, hpairs, hv⟩ := Option.map_eq_some_iff.1 h
      cases hv
      exact ih.pairs hpairs (isInRange_seal_empty false false)
  split at h
  · exact isInRange_of_number? h
  -- What is left are words, none of which is a whole number.
  · simp only [Option.orElse_eq_orElse, Option.orElse_eq_or, Option.or_eq_some_iff,
      Option.map_eq_some_iff, Prod.mk.injEq] at h
    obtain ⟨_, -, rfl, -⟩ | ⟨-, ⟨_, -, rfl, -⟩ | ⟨-, ⟨_, -, rfl, -⟩ | ⟨-, _, -, rfl, -⟩⟩⟩ := h
    · exact .bool true
    · exact .bool false
    · exact .float _
    · exact .float _

theorem ReadsInRange.items_succ {fuel : Nat} (ih : ReadsInRange fuel) {depth : Nat}
    {cs rest : List Char} {items read : List Value}
    (h : items? (fuel + 1) depth cs items = some (read, rest)) (hitems : ∀ v ∈ items, v.IsInRange) :
    ∀ v ∈ read, v.IsInRange := by
  have hreverse {items : List Value} (hitems : ∀ v ∈ items, v.IsInRange) :
      ∀ v ∈ items.reverse, v.IsInRange := fun v hv => hitems v (List.mem_reverse.1 hv)
  rw [items?.eq_def] at h
  dsimp only at h
  split at h
  · cases h
  · cases h
    exact hreverse hitems
  split at h
  · cases h
  · next hvalue =>
    have hmore := List.forall_mem_cons.2 ⟨ih.value hvalue, hitems⟩
    -- A comma leads to the next item, and a bracket ends the array.
    split at h
    · exact ih.items h hmore
    · cases h
      exact hreverse hmore
    · cases h

theorem ReadsInRange.pairs_succ {fuel : Nat} (ih : ReadsInRange fuel) {depth : Nat}
    {cs rest : List Char} {table read : DraftTable}
    (h : pairs? (fuel + 1) depth cs table = some (read, rest)) (htable : table.seal.IsInRange) :
    read.seal.IsInRange := by
  -- The value, the table it is put into and the pairs behind it, each in turn.
  rw [pairs?.eq_def] at h
  dsimp only at h
  split at h
  · split at h
    · cases h
    · next hvalue =>
      split at h
      · cases h
      · next hput =>
        have hmore := isInRange_of_put? hput htable (ih.value hvalue)
        split at h
        · exact ih.pairs h hmore
        · cases h
          exact hmore
        · cases h
  · cases h

theorem readsInRange (fuel : Nat) : ReadsInRange fuel := by
  -- The three readers call each other with less fuel, so their bounds are proved together.
  induction fuel with
  | zero =>
    refine ⟨fun h => ?_, fun h => ?_, fun h => ?_⟩
    · rw [value?] at h
      cases h
    · rw [items?] at h
      cases h
    · rw [pairs?] at h
      cases h
  | succ fuel ih => exact ⟨ih.value_succ, ih.items_succ, ih.pairs_succ⟩

/-! ## Documents -/

theorem isInRange_of_header? {o o' : Outline} {cs rest : List Char}
    (h : header? o cs = some (o', rest)) (ho : o.root.seal.IsInRange) :
    o'.root.seal.IsInRange := by
  unfold header? at h
  -- A header opens a table of an array or a table of its own.
  split at h
  · split at h
    · obtain ⟨_, hroot, ho'⟩ := Option.map_eq_some_iff.1 h
      cases ho'
      exact isInRange_of_extend? hroot ho
    · cases h
  · split at h
    · obtain ⟨_, hroot, ho'⟩ := Option.map_eq_some_iff.1 h
      cases ho'
      exact isInRange_of_define? hroot ho
    · cases h

theorem isInRange_of_keyLine? {o o' : Outline} {cs rest : List Char}
    (h : keyLine? o cs = some (o', rest)) (ho : o.root.seal.IsInRange) :
    o'.root.seal.IsInRange := by
  unfold keyLine? at h
  split at h
  · split at h
    · cases h
    · next hvalue =>
      have hv := (readsInRange _).value hvalue
      -- The value is added at the end of the path of the last header.
      obtain ⟨_, hroot, ho'⟩ := Option.map_eq_some_iff.1 h
      cases ho'
      exact isInRange_of_alter? (fun c c' hput hc => isInRange_of_put? hput hc hv) hroot ho
  · cases h

theorem isInRange_of_lines? {bound : Nat} {o o' : Outline} {cs : List Char}
    (h : lines? bound o cs = some o') (ho : o.root.seal.IsInRange) : o'.root.seal.IsInRange := by
  -- A blank line leaves the outline as it is; a header or a field alters it.
  induction bound generalizing o cs with
  | zero => cases h
  | succ bound ih =>
    rw [lines?] at h
    split at h
    · exact Option.some.inj h ▸ ho
    · obtain ⟨⟨o₁, _⟩, hheader, h⟩ := Option.bind_eq_some_iff.1 h
      obtain ⟨_, -, h⟩ := Option.bind_eq_some_iff.1 h
      exact ih h (isInRange_of_header? hheader ho)
    · split at h
      · obtain ⟨_, -, h⟩ := Option.bind_eq_some_iff.1 h
        exact ih h ho
      · obtain ⟨⟨o₁, _⟩, hline, h⟩ := Option.bind_eq_some_iff.1 h
        obtain ⟨_, -, h⟩ := Option.bind_eq_some_iff.1 h
        exact ih h (isInRange_of_keyLine? hline ho)

/-- **All whole numbers of a document fit in 64 bits with a sign.** -/
theorem isInRange_of_parse? {text : String} {v : Value} (h : parse? text = some v) :
    v.IsInRange := by
  obtain ⟨o, hlines, rfl⟩ := Option.map_eq_some_iff.1 h
  exact isInRange_of_lines? hlines (isInRange_seal_empty false false)

/-! ## Fields -/

namespace Value

theorem IsInRange.of_record? {names : List String} {v w : Value} {fields : List (Option Value)}
    {field : Option Value} (hv : v.IsInRange) (h : v.record? names = some fields)
    (hfield : field ∈ fields) (hw : w ∈ field) : w.IsInRange := by
  obtain rfl := Option.mem_def.1 hw
  -- A record takes its fields from a table by name or from an array by place.
  cases hv with
  | table hentries =>
    cases h
    obtain ⟨name, -, hname⟩ := List.mem_map.1 hfield
    obtain ⟨before, _, hlookup, -⟩ := List.lookup_eq_some_iff.1 hname
    exact hentries (name, w) (by simp [hlookup])
  | array hitems =>
    cases h
    obtain hitem | hmissing := List.mem_append.1 hfield
    · obtain ⟨w', hw', heq⟩ := List.mem_map.1 hitem
      exact hitems w (Option.some.inj heq ▸ List.mem_of_mem_take hw')
    · exact nomatch (List.mem_replicate.1 hmissing).2
  | _ => cases h

theorem lt_of_naturalBelow? {v : Value} {n bound : Nat} (h : naturalBelow? bound v = some n) :
    n < bound := by
  unfold naturalBelow? at h
  split at h
  · obtain ⟨⟨hnatural, hbound⟩, hn⟩ := Option.ite_none_right_eq_some.1 h
    have hn := Option.some.inj hn
    omega
  · cases h

/-- Whatever the bound, no natural number of a document is greater than that of its range. -/
theorem IsInRange.lt_of_naturalBelow? {v : Value} (hv : v.IsInRange) {n bound : Nat}
    (h : naturalBelow? bound v = some n) : n < Nat.pow 2 63 := by
  cases hv with
  | integer _ hgreatest =>
    obtain ⟨⟨hnatural, -⟩, hn⟩ := Option.ite_none_right_eq_some.1 h
    have hn := Option.some.inj hn
    omega
  | _ => cases h

end Value

end DepTriage.Toml
