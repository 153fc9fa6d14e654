import DepTriage.Archive.Tar
import DepTriage.Proofs.Archive.Bytes
import Mathlib.Algebra.Ring.Nat

/-!
# What a tar archive holds

The listing of an archive is given by a bounded reader. Here stands, without any bound, what an
archive holds: a row of entries, each with the members it is read from.

## Key results

- `list_eq_iff`: the listing of a source is unbroken exactly if the source holds a row of entries,
  and it lists these. The bounds on entries and members are never what ends it.
- `zeros_of_mem_list`: only sparse files, which are no files of a package, yield more than data.
- `Holds.size_data_of_file`: a file has the length that its own header states or, where this is
  zero, the one in the records before it.
- `holds_recordSizedFile`: an archive with such a file, written down byte by byte.
- `list_vastFile`: an archive that breaks off behind a header, which states a size of 2 ^ 63 bytes.
-/

namespace DepTriage.Archive.Tar

/-! ## Members -/

theorem Cursor.available_eq_iff {c : Cursor} {count : Nat} (h : 0 < count) :
    c.available count = count ↔ c.position + count ≤ c.source.bytes.size := by
  rw [Cursor.available]
  omega

theorem Cursor.block?_eq_some_iff {c c' : Cursor} {block : ByteArray} :
    c.block? = .ok (some (block, c')) ↔
      c.position + blockSize ≤ c.source.bytes.size ∧ block = c.peekBytes blockSize ∧
        c' = c.advance blockSize := by
  rw [← Cursor.available_eq_iff (by decide), Cursor.block?]
  constructor
  -- Less than a whole block is the end of the source or a fault.
  · intro h
    split at h
    · next hfull =>
      cases h
      exact ⟨hfull, rfl, rfl⟩
    · split at h <;> cases h
  · rintro ⟨hfull, rfl, rfl⟩
    rw [if_pos hfull]

theorem Cursor.skipTo?_eq_some_iff {c c' : Cursor} {index : Nat} :
    c.skipTo? index = some c' ↔
      index ≤ c.source.bytes.size ∧ c' = { c with position := index } := by
  rw [Cursor.skipTo?]
  constructor
  · intro h
    split at h
    · cases h
    · next hroom => exact ⟨by omega, (Option.some.inj h).symm⟩
  · rintro ⟨hroom, rfl⟩
    rw [if_neg (by omega)]

/-- A member as it is read at a cursor, with the records that may give its size. -/
structure Member.StandsAt (m : Member) (c : Cursor) (records : Option ByteArray) : Prop where
  room : c.position + blockSize ≤ c.source.bytes.size
  body : m.body = c.advance blockSize
  size : ∃ stated, sizeField? m.header 124 = some stated ∧
    m.size = if stated = 0 then (records.bind recordSize?).getD 0 else stated
  data : m.data = m.body.peekBytes (m.body.available m.size)
  next : m.next = m.body.position + (m.size + blockSize - 1) / blockSize * blockSize

theorem standsAt_of_readMember {c : Cursor} {records : Option ByteArray} {m : Member}
    (h : readMember c records = .member m) : m.StandsAt c records := by
  rw [readMember] at h
  cases hblock : c.block? with
  | error => simp [hblock] at h
  | ok found =>
    cases found with
    | none => simp [hblock] at h
    | some found =>
      obtain ⟨block, body⟩ := found
      obtain ⟨hroom, -, rfl⟩ := Cursor.block?_eq_some_iff.1 hblock
      simp only [hblock] at h
      -- No member stands there if the block is all zeros or its checksum is wrong.
      split at h
      · cases h
      · split at h
        · cases h
        · cases hstated : sizeField? block 124 with
          | none => simp [hstated] at h
          | some stated =>
            simp only [hstated] at h
            generalize hsize : (if stated = 0 then _ else stated) = size at h
            -- Nor does one whose end no number can name.
            split at h
            · cases h
            · cases h
              exact ⟨hroom, rfl, ⟨stated, hstated, hsize.symm⟩, rfl, rfl⟩

namespace Member.StandsAt

variable {m : Member} {c : Cursor} {records : Option ByteArray}

theorem source_body (h : m.StandsAt c records) : m.body.source = c.source := by
  rw [h.body]
  rfl

theorem position_body (h : m.StandsAt c records) : m.body.position = c.position + blockSize := by
  rw [h.body]
  rfl

theorem position_add_size_le (h : m.StandsAt c records) :
    m.body.position + m.size ≤ m.next := by
  have hblock : blockSize = 512 := rfl
  rw [h.next, hblock]
  omega

/-- Each member takes a block at least. -/
theorem position_add_blockSize_le (h : m.StandsAt c records) :
    c.position + blockSize ≤ m.next := by
  have := h.position_body
  have := h.position_add_size_le
  omega

/-- A member has all its data if the source does not end within. -/
theorem data_size (h : m.StandsAt c records) (hroom : m.next ≤ c.source.bytes.size) :
    m.data.size = m.size := by
  have := h.position_add_size_le
  rw [h.data, Cursor.peekBytes, Cursor.available, ByteArray.size_extract, h.source_body]
  omega

end Member.StandsAt

/-! ## Members that are written down -/

theorem fieldText_toByteArray (l : List UInt8) (start length : Nat) :
    fieldText l.toByteArray start length = ((l.drop start).take length).takeWhile (· ≠ 0) := by
  rw [fieldText, Bytes.extract_toByteArray, Bytes.toList_toByteArray, Nat.add_sub_cancel_left]

theorem octalField?_toByteArray (l : List UInt8) (start length : Nat) :
    octalField? l.toByteArray start length =
      (Text.decode? (((l.drop start).take length).takeWhile (· ≠ 0))).bind
        fun text => octal? (Text.trim text.toList) := by
  rw [octalField?, fieldText_toByteArray]

theorem sizeField?_toByteArray {l : List UInt8} {start : Nat} (h : l.getD start 0 < 0x80) :
    sizeField? l.toByteArray start =
      (Text.decode? (((l.drop start).take 12).takeWhile (· ≠ 0))).bind
        fun text => octal? (Text.trim text.toList) := by
  rw [sizeField?, Bytes.byteAt_toByteArray, if_neg (by simpa using h), octalField?_toByteArray]

theorem sizeField?_toByteArray_binary {l : List UInt8} {start : Nat} (h : 0x80 ≤ l.getD start 0) :
    sizeField? l.toByteArray start =
      some (((l.drop (start + 4)).take 8).foldl (fun n b => 256 * n + b.toNat) 0) := by
  rw [sizeField?, Bytes.byteAt_toByteArray, if_pos h, Bytes.extract_toByteArray,
    Bytes.toList_toByteArray, Nat.add_sub_add_left]

theorem checksum_toByteArray (l : List UInt8) :
    checksum l.toByteArray = (l.take 148).foldl (fun n b => n + b.toNat) 0 + 8 * 32 +
      ((l.drop 156).take 356).foldl (fun n b => n + b.toNat) 0 := by
  dsimp only [checksum]
  rw [Bytes.extract_toByteArray, Bytes.extract_toByteArray, Bytes.foldl_toByteArray,
    Bytes.foldl_toByteArray]
  rfl

theorem dialect_toByteArray (l : List UInt8) :
    dialect l.toByteArray =
      if (l.drop 257).take 8 == "ustar".toUTF8.toList ++ [0, 48, 48] then .ustar
      else if (l.drop 257).take 8 == "ustar  ".toUTF8.toList ++ [0] then .gnu
      else .old := by
  simp only [dialect, Bytes.extract_toByteArray, Bytes.toList_toByteArray]

theorem recordSize?_toByteArray (l : List UInt8) :
    recordSize? l.toByteArray = recordSize?.find (recordLines l [] []) := by
  rw [recordSize?, Bytes.toList_toByteArray]

/-- Where the data ends between two members, the archive ends. -/
theorem readMember_of_size_le {c : Cursor} {records : Option ByteArray}
    (h : c.source.bytes.size ≤ c.position) (hfails : c.source.fails = false) :
    readMember c records = .finished := by
  have havailable : c.available blockSize = 0 := by
    rw [Cursor.available]
    omega
  have hblock : c.block? = .ok none := by
    rw [Cursor.block?, havailable, hfails]
    rfl
  rw [readMember, hblock]

/-- A sound header and the data behind it are read as a member. -/
theorem readMember_toByteArray (before header rest : List UInt8) (fails : Bool)
    (records : Option ByteArray) (stated size : Nat) (hheader : header.length = blockSize)
    (hzero : header.all (· = 0) = false)
    (hsum : octalField? header.toByteArray 148 8 = some (checksum header.toByteArray))
    (hstated : sizeField? header.toByteArray 124 = some stated)
    (hsize : (if stated = 0 then (records.bind recordSize?).getD 0 else stated) = size)
    (hbound : before.length + size + 1024 < numberBound) :
    let source : ByteSource := ⟨(before ++ header ++ rest).toByteArray, fails⟩
    let body := before.length + blockSize
    readMember { source, position := before.length } records =
      .member ⟨header.toByteArray, size, (rest.take size).toByteArray,
        { source, position := body },
        body + (size + blockSize - 1) / blockSize * blockSize⟩ := by
  intro source body
  have hlength : source.bytes.size = before.length + blockSize + rest.length := by
    simp only [source, List.size_toByteArray, List.length_append, hheader]
  have hblock : ({ source, position := before.length } : Cursor).block? =
      .ok (some (header.toByteArray, { source, position := body })) := by
    refine Cursor.block?_eq_some_iff.2 ⟨by simp only; omega, ?_, rfl⟩
    -- The block at the cursor is the header, between what stands before it and its data.
    simp only [Cursor.peekBytes, source, Bytes.extract_toByteArray, Nat.add_sub_cancel_left]
    rw [List.append_assoc, List.drop_left, ← hheader, List.take_left]
  have hdata : ({ source, position := body } : Cursor).peekBytes
      (({ source, position := body } : Cursor).available size) = (rest.take size).toByteArray := by
    simp only [Cursor.peekBytes, Cursor.available, source, Bytes.extract_toByteArray,
      Nat.add_sub_cancel_left]
    have hbody : body = (before ++ header).length := by rw [List.length_append, hheader]
    -- Where the rest is shorter than the size, all of the rest is the data.
    rw [hbody, List.drop_left]
    simp only [List.size_toByteArray, List.length_append, Nat.add_sub_cancel_left]
    rw [← List.take_eq_take_min]
  have hbounds : ¬ (decide (numberBound ≤ size + blockSize - 1)
      || decide (numberBound ≤ body + (size + blockSize - 1) / blockSize * blockSize)) := by
    have hblockSize : blockSize = 512 := rfl
    simp only [Bool.or_eq_true, decide_eq_true_eq, body, hblockSize]
    omega
  rw [readMember, hblock]
  simp only [Bytes.toList_toByteArray, hzero, hsum, hstated, hsize, hdata]
  rw [if_neg Bool.false_ne_true, if_neg (fun hne => hne rfl), if_neg hbounds]

/-! ## Entries -/

/-- An entry with the members that it is read from. -/
structure Origin where
  /-- The members that describe the entry. -/
  describing : List Member
  /-- What has been said of the entry in front of its own member. -/
  description : Description
  own : Member
  entry : Entry

/-- The length of the data of the members that describe an entry. -/
def Origin.described (o : Origin) : Nat :=
  (o.describing.map (·.data.size)).sum

/-- The length of all data that is read for an entry. -/
def Origin.length (o : Origin) : Nat :=
  o.described + o.entry.length

theorem sum_map_length (os : List Origin) :
    (os.map (·.length)).sum = (os.map (·.described)).sum + (os.map (·.entry.length)).sum := by
  induction os with
  | nil => rfl
  | cons o os ih =>
    rw [List.map_cons, List.sum_cons, ih, Origin.length]
    simp only [List.map_cons, List.sum_cons]
    omega

/-- At a cursor, where something may have been said before, an entry is read; the cursor after it
stands where the next one begins. -/
inductive Reads : Cursor → Description → Origin → Cursor → Prop
  | own {c : Cursor} {d : Description} {m : Member} {e : Entry} {next : Nat} :
      readMember c d.records = .member m → d.add? m = some none →
      entryOf? d m = some (e, next) →
      Reads c d ⟨[], d, m, e⟩ { m.body with position := next }
  | describing {c c₁ c₂ : Cursor} {d d₁ : Description} {m : Member} {o : Origin} :
      readMember c d.records = .member m → d.add? m = some (some d₁) →
      m.body.skipTo? m.next = some c₁ → Reads c₁ d₁ o c₂ →
      Reads c d { o with describing := m :: o.describing } c₂

/-- From a cursor on, the archive holds a row of entries, up to its end. -/
inductive Holds : Cursor → List Origin → Prop
  | finished {c : Cursor} : c.position ≤ c.source.bytes.size → readMember c none = .finished →
      Holds c []
  | entry {c c₁ : Cursor} {o : Origin} {os : List Origin} : c.position ≤ c.source.bytes.size →
      Reads c {} o c₁ → Holds c₁ os → Holds c (o :: os)

theorem Holds.position_le {c : Cursor} {os : List Origin} (h : Holds c os) :
    c.position ≤ c.source.bytes.size := by
  cases h <;> assumption

theorem le_of_readSparse? {m : Member} {sparse : Sparse} {next : Nat}
    (h : readSparse? m = some (sparse, next)) : m.next ≤ next := by
  simp only [readSparse?] at h
  split at h
  · cases h
  · simp only [Option.bind_eq_bind, Option.bind_eq_some_iff] at h
    obtain ⟨-, -, s, -, stated, -, h⟩ := h
    split at h
    · cases h
    · cases h
      exact Nat.le_add_right _ _

/-- The entry of a member, which is told by its kind: a sparse file has data of its own making, and
any other entry has the data of the member. -/
theorem entryOf?_cases {d : Description} {m : Member} {e : Entry} {next : Nat}
    (h : entryOf? d m = some (e, next)) :
    (m.kind = 83 ∧ e.kind = EntryKind.ofByte m.kind ∧
      ∃ sparse, readSparse? m = some (sparse, next)) ∨
    (m.kind ≠ 83 ∧ sizeField? m.header 124 = some e.declared ∧ next = m.next ∧
      e = { kind := EntryKind.ofByte m.kind, path := Text.decodeLossy (d.path m.header)
            declared := e.declared, data := m.data }) := by
  simp only [entryOf?] at h
  -- Only a sparse file has a map to read, which changes where the next entry starts.
  split at h
  · next hkind =>
    simp only [Option.bind_eq_bind, Option.bind_eq_some_iff] at h
    obtain ⟨⟨sparse, _⟩, hsparse, h⟩ := h
    cases h
    exact .inl ⟨hkind, rfl, sparse, hsparse⟩
  · next hkind =>
    simp only [Option.bind_eq_bind, Option.bind_eq_some_iff] at h
    obtain ⟨declared, hdeclared, h⟩ := h
    cases h
    exact .inr ⟨hkind, hdeclared, rfl, rfl⟩

theorem le_of_entryOf? {d : Description} {m : Member} {e : Entry} {next : Nat}
    (h : entryOf? d m = some (e, next)) : m.next ≤ next := by
  obtain ⟨-, -, sparse, hsparse⟩ | ⟨-, -, rfl, -⟩ := entryOf?_cases h
  · exact le_of_readSparse? hsparse
  · exact Nat.le_refl _

/-- A sparse file is no file of a package: of a file the entry has the data of its member, and no
zeros beside them. -/
theorem entryOf?_of_file {d : Description} {m : Member} {e : Entry} {next : Nat}
    (h : entryOf? d m = some (e, next)) (hfile : e.kind = .file) :
    sizeField? m.header 124 = some e.declared ∧ next = m.next ∧ e.data = m.data ∧
      e.zeros = 0 := by
  obtain ⟨hsparse, hkind, -⟩ | ⟨-, hdeclared, hnext, he⟩ := entryOf?_cases h
  · rw [hkind, hsparse] at hfile
    exact absurd hfile (by decide)
  · exact ⟨hdeclared, hnext, by rw [he], by rw [he]⟩

theorem Reads.advances {c c₁ : Cursor} {d : Description} {o : Origin} (h : Reads c d o c₁) :
    c₁.source = c.source ∧ c.position + blockSize ≤ c.source.bytes.size ∧
      c.position + blockSize ≤ c₁.position := by
  induction h with
  | own hread _ hentry =>
    have hm := standsAt_of_readMember hread
    have hnext := le_of_entryOf? hentry
    exact ⟨hm.source_body, hm.room, Nat.le_trans hm.position_add_blockSize_le hnext⟩
  | describing hread _ hskip _ ih =>
    -- The entry stands behind the member that describes it, still further on.
    have hm := standsAt_of_readMember hread
    obtain ⟨-, rfl⟩ := Cursor.skipTo?_eq_some_iff.1 hskip
    obtain ⟨hsource, -, hposition⟩ := ih
    have := hm.position_add_blockSize_le
    exact ⟨hsource.trans hm.source_body, hm.room, by simp only at hposition; omega⟩

theorem Reads.unique {c c₁ c₂ : Cursor} {d : Description} {o o₂ : Origin} (h : Reads c d o c₁)
    (h₂ : Reads c d o₂ c₂) : o = o₂ ∧ c₁ = c₂ := by
  induction h generalizing o₂ c₂ with
  | own hread hadd hentry =>
    cases h₂ with
    | own hread₂ hadd₂ hentry₂ =>
      obtain rfl := MemberStep.member.inj (hread.symm.trans hread₂)
      obtain ⟨rfl, rfl⟩ := Prod.mk.inj (Option.some.inj (hentry.symm.trans hentry₂))
      exact ⟨rfl, rfl⟩
    | describing hread₂ hadd₂ =>
      -- The member would both describe the one after it and not.
      obtain rfl := MemberStep.member.inj (hread.symm.trans hread₂)
      cases hadd.symm.trans hadd₂
  | describing hread hadd hskip _ ih =>
    cases h₂ with
    | own hread₂ hadd₂ =>
      obtain rfl := MemberStep.member.inj (hread.symm.trans hread₂)
      cases hadd.symm.trans hadd₂
    | describing hread₂ hadd₂ hskip₂ hreads₂ =>
      obtain rfl := MemberStep.member.inj (hread.symm.trans hread₂)
      obtain rfl := Option.some.inj (Option.some.inj (hadd.symm.trans hadd₂))
      obtain rfl := Option.some.inj (hskip.symm.trans hskip₂)
      obtain ⟨rfl, rfl⟩ := ih hreads₂
      exact ⟨rfl, rfl⟩

theorem Reads.readMember_ne_finished {c c₁ : Cursor} {o : Origin} (h : Reads c {} o c₁) :
    readMember c none ≠ .finished := by
  cases h with
  | own hread => simp [show readMember c none = _ from hread]
  | describing hread => simp [show readMember c none = _ from hread]

theorem Holds.unique {c : Cursor} {os os₂ : List Origin} (h : Holds c os) (h₂ : Holds c os₂) :
    os = os₂ := by
  -- Both listings go through the archive in step, member by member.
  induction h generalizing os₂ with
  | finished _ hend =>
    cases h₂ with
    | finished => rfl
    | entry _ hreads₂ => exact absurd hend hreads₂.readMember_ne_finished
  | entry _ hreads _ ih =>
    cases h₂ with
    | finished _ hend => exact absurd hend hreads.readMember_ne_finished
    | entry _ hreads₂ hrest₂ =>
      obtain ⟨rfl, rfl⟩ := hreads.unique hreads₂
      rw [ih hrest₂]

/-! ## Reading without bounds -/

/-- What reading comes to at a member: a fault, the end of the archive, an entry, or something said
of the entry behind it, where reading goes on. -/
theorem readEntry_cases (bound : Nat) (c : Cursor) (d : Description) :
    readEntry (bound + 1) c d = .broken ∨
    (readEntry (bound + 1) c d = .finished ∧ d.isEmpty = true ∧
      readMember c d.records = .finished) ∨
    (∃ m e next, readEntry (bound + 1) c d = .entry e { m.body with position := next } ∧
      readMember c d.records = .member m ∧ d.add? m = some none ∧
      entryOf? d m = some (e, next)) ∨
    ∃ m d₁ c₁, readEntry (bound + 1) c d = readEntry bound c₁ d₁ ∧
      readMember c d.records = .member m ∧ d.add? m = some (some d₁) ∧
      m.body.skipTo? m.next = some c₁ := by
  -- A member is an entry of its own or says something about the next one.
  rw [readEntry]
  cases hread : readMember c d.records with
  | broken => exact .inl rfl
  | finished =>
    by_cases hempty : d.isEmpty = true
    · exact .inr (.inl ⟨if_pos hempty, hempty, rfl⟩)
    · exact .inl (if_neg hempty)
  | member m =>
    simp only
    cases hadd : d.add? m with
    | none => exact .inl rfl
    | some said =>
      cases said with
      | none =>
        cases hentry : entryOf? d m with
        | none => exact .inl rfl
        | some found => exact .inr (.inr (.inl ⟨m, found.1, found.2, rfl, rfl, hadd, hentry⟩))
      | some d₁ =>
        cases hskip : m.body.skipTo? m.next with
        | none => exact .inl rfl
        | some c₁ => exact .inr (.inr (.inr ⟨m, d₁, c₁, rfl, rfl, hadd, hskip⟩))

/-- An entry that is read stands there. -/
theorem reads_of_readEntry {bound : Nat} {c c₁ : Cursor} {d : Description} {e : Entry}
    (h : readEntry bound c d = .entry e c₁) : ∃ o, o.entry = e ∧ Reads c d o c₁ := by
  -- By induction on the members that describe the entry.
  induction bound generalizing c d with
  | zero => simp [readEntry] at h
  | succ bound ih =>
    obtain hstep | ⟨hstep, -⟩ | ⟨m, e₁, next, hstep, hread, hadd, hentry⟩ |
      ⟨m, d₁, c₂, hstep, hread, hadd, hskip⟩ := readEntry_cases bound c d
    · cases hstep.symm.trans h
    · cases hstep.symm.trans h
    · cases hstep.symm.trans h
      exact ⟨_, rfl, .own hread hadd hentry⟩
    · obtain ⟨o, ho, hreads⟩ := ih (hstep.symm.trans h)
      exact ⟨{ o with describing := m :: o.describing }, ho, .describing hread hadd hskip hreads⟩

/-- An entry that stands there is read, if the bound covers the blocks that are left. -/
theorem readEntry_of_reads {bound : Nat} {c c₁ : Cursor} {d : Description} {o : Origin}
    (h : Reads c d o c₁) (hbound : c.source.bytes.size < c.position + bound * blockSize) :
    readEntry bound c d = .entry o.entry c₁ := by
  -- By induction on the members: each takes a block, so that one less covers what is left.
  induction h generalizing bound with
  | own hread hadd hentry =>
    cases bound with
    | zero =>
      have := (standsAt_of_readMember hread).room
      omega
    | succ bound => simp [readEntry, hread, hadd, hentry]
  | describing hread hadd hskip _ ih =>
    have hm := standsAt_of_readMember hread
    have hroom := hm.room
    cases bound with
    | zero => omega
    | succ bound =>
      rw [readEntry]
      simp only [hread, hadd, hskip]
      obtain ⟨-, rfl⟩ := Cursor.skipTo?_eq_some_iff.1 hskip
      refine ih ?_
      have := hm.position_add_blockSize_le
      simp only [hm.source_body]
      rw [Nat.add_mul] at hbound
      omega

theorem Description.isEmpty_of_add? {d d₁ : Description} {m : Member}
    (h : d.add? m = some (some d₁)) : d₁.isEmpty = false := by
  simp only [Description.add?] at h
  split at h
  · cases h
  -- One case for each kind of member that describes another.
  all_goals repeat' split at h
  all_goals cases h
  all_goals simp [Description.isEmpty]

/-- Reading ends only in front of a first member. -/
theorem finished_of_readEntry {bound : Nat} {c : Cursor} {d : Description}
    (h : readEntry bound c d = .finished) :
    d.isEmpty = true ∧ readMember c d.records = .finished := by
  induction bound generalizing c d with
  | zero => simp [readEntry] at h
  | succ bound ih =>
    obtain hstep | ⟨-, hend⟩ | ⟨m, e, next, hstep, -⟩ | ⟨m, d₁, c₂, hstep, -, hadd, -⟩ :=
      readEntry_cases bound c d
    · cases hstep.symm.trans h
    · exact hend
    · cases hstep.symm.trans h
    · -- Something has been said, so that the end of the archive would be a fault.
      have hempty := (ih (hstep.symm.trans h)).1
      rw [Description.isEmpty_of_add? hadd] at hempty
      cases hempty

theorem holds_of_readEntries {bound : Nat} {c : Cursor} {before entries : List Entry}
    (h : readEntries bound c before = ⟨entries, false⟩) :
    ∃ os, Holds c os ∧ entries = before.reverse ++ os.map (·.entry) := by
  -- By induction on the bound: had it run out, the listing would be broken.
  induction bound generalizing c before with
  | zero => simp [readEntries] at h
  | succ bound ih =>
    rw [readEntries] at h
    split at h
    · cases h
    · next hposition =>
      cases hread : readEntry (bound + 1) c {} with
      | broken => simp [hread] at h
      | finished =>
        simp only [hread] at h
        cases h
        exact ⟨[], .finished (by omega) (finished_of_readEntry hread).2, by simp⟩
      | entry e c₁ =>
        simp only [hread] at h
        obtain ⟨os, hos, rfl⟩ := ih h
        obtain ⟨o, rfl, ho⟩ := reads_of_readEntry hread
        exact ⟨o :: os, .entry (by omega) ho hos, by simp⟩

theorem readEntries_of_holds {bound : Nat} {c : Cursor} {before : List Entry} {os : List Origin}
    (h : Holds c os) (hbound : c.source.bytes.size < c.position + bound * blockSize) :
    readEntries bound c before = ⟨before.reverse ++ os.map (·.entry), false⟩ := by
  induction h generalizing bound before with
  | finished hposition hread =>
    cases bound with
    | zero => omega
    | succ bound =>
      rw [readEntries, if_neg (by omega), readEntry]
      simp [hread, Description.isEmpty]
  | entry hposition hreads _ ih =>
    cases bound with
    | zero => omega
    | succ bound =>
      rw [readEntries, if_neg (by omega), readEntry_of_reads hreads hbound]
      -- The next entry stands behind a block at least, so that one less covers what is left.
      obtain ⟨hsource, -, hadvance⟩ := hreads.advances
      simp only
      rw [ih (by rw [hsource]; rw [Nat.add_mul] at hbound; omega)]
      simp

/-- The listing of a source is unbroken exactly if the source holds a row of entries, and then it
lists these. -/
theorem list_eq_iff {source : ByteSource} {entries : List Entry} :
    list source = ⟨entries, false⟩ ↔ ∃ os, Holds { source } os ∧ entries = os.map (·.entry) := by
  constructor
  · exact holds_of_readEntries
  · rintro ⟨os, hos, rfl⟩
    refine readEntries_of_holds hos ?_
    have hblock : blockSize = 512 := rfl
    simp only [hblock]
    omega

/-- Where the first entry would end behind the end of the source, it is the only one that is listed,
and the listing is broken. -/
theorem list_of_reads_of_lt {source : ByteSource} {c₁ : Cursor} {o : Origin}
    (h : Reads { source } {} o c₁) (hend : c₁.source.bytes.size < c₁.position) :
    list source = ⟨[o.entry], true⟩ := by
  have hbound : source.bytes.size < 0 + (source.bytes.size / blockSize + 2) * blockSize := by
    have hblock : blockSize = 512 := rfl
    rw [hblock]
    omega
  rw [list, readEntries, if_neg (Nat.not_lt_zero _), readEntry_of_reads h hbound]
  dsimp only
  rw [readEntries, if_pos hend]
  rfl

/-- The member of an entry itself. -/
theorem Reads.own_eq {c c₁ : Cursor} {d : Description} {o : Origin} (h : Reads c d o c₁) :
    ∃ c₀ : Cursor, c₀.source = c.source ∧ o.own.StandsAt c₀ o.description.records ∧
      ∃ next, entryOf? o.description o.own = some (o.entry, next) ∧ c₁.position = next := by
  induction h with
  | own hread _ hentry => exact ⟨_, rfl, standsAt_of_readMember hread, _, hentry, rfl⟩
  | describing hread _ hskip _ ih =>
    obtain ⟨c₀, hsource, hown⟩ := ih
    obtain ⟨-, rfl⟩ := Cursor.skipTo?_eq_some_iff.1 hskip
    exact ⟨c₀, hsource.trans (standsAt_of_readMember hread).source_body, hown⟩

theorem zeros_of_mem_readEntries {bound : Nat} {c : Cursor} {before : List Entry}
    (hbefore : ∀ e ∈ before, e.kind = .file → e.zeros = 0) :
    ∀ e ∈ (readEntries bound c before).entries, e.kind = .file → e.zeros = 0 := by
  have hreverse : ∀ e ∈ before.reverse, e.kind = .file → e.zeros = 0 :=
    fun e he => hbefore e (List.mem_reverse.1 he)
  induction bound generalizing c before with
  | zero => exact hreverse
  | succ bound ih =>
    rw [readEntries]
    split
    · exact hreverse
    · cases hread : readEntry (bound + 1) c {} with
      | broken => exact hreverse
      | finished => exact hreverse
      | entry e c₁ =>
        -- What is read as an entry has zeros only if it is sparse, and a plain file is not.
        obtain ⟨o, rfl, ho⟩ := reads_of_readEntry hread
        obtain ⟨-, -, -, next, hentry, -⟩ := ho.own_eq
        have hall : ∀ e ∈ o.entry :: before, e.kind = .file → e.zeros = 0 :=
          List.forall_mem_cons.2
            ⟨fun hfile => (entryOf?_of_file hentry hfile).2.2.2, hbefore⟩
        exact ih hall fun e he => hall e (List.mem_reverse.1 he)

/-- The data of a listed file is all that reading the file yields. -/
theorem zeros_of_mem_list {source : ByteSource} {e : Entry} (h : e ∈ (list source).entries)
    (hkind : e.kind = .file) : e.zeros = 0 :=
  zeros_of_mem_readEntries (fun _ hmem => absurd hmem List.not_mem_nil) e h hkind

/-! ## Lengths -/

/-- The entry of a file has the length that its header states, or, where that is zero, the one in
the records before it. -/
theorem Holds.size_data_of_file {c : Cursor} {os : List Origin} {o : Origin} (h : Holds c os)
    (ho : o ∈ os) (hkind : o.entry.kind = .file) :
    sizeField? o.own.header 124 = some o.entry.declared ∧
      o.entry.data.size =
        if o.entry.declared = 0 then (o.description.records.bind recordSize?).getD 0
        else o.entry.declared := by
  induction h with
  | finished => simp at ho
  | entry hposition hreads hrest ih =>
    obtain rfl | ho := List.mem_cons.1 ho
    · obtain ⟨c₀, hsource, hown, next, hentry, hnext⟩ := hreads.own_eq
      obtain ⟨hdeclared, rfl, hdata, -⟩ := entryOf?_of_file hentry hkind
      obtain ⟨stated, hstated, hsize⟩ := hown.size
      obtain rfl : stated = o.entry.declared := by
        rw [hstated] at hdeclared
        exact Option.some.inj hdeclared
      refine ⟨hdeclared, ?_⟩
      -- The next entry stands within the source, so that this one has all its data.
      rw [hdata, hown.data_size, hsize]
      rw [← hnext, hsource, ← hreads.advances.1]
      exact hrest.position_le
    · exact ih ho

/-! ## Written headers -/

/-- A header with a name, a size in octal digits, a checksum and a kind. -/
def writtenHeader (name size sum : List UInt8) (kind : UInt8) : List UInt8 :=
  name ++ List.replicate (124 - name.length) 0 ++ size ++ List.replicate (24 - size.length) 0 ++
    sum ++ [0, 0, kind] ++ List.replicate 100 0 ++ [117, 115, 116, 97, 114, 0, 48, 48] ++
    List.replicate 247 0

/-- The header of a record, of eleven bytes. -/
@[irreducible] def recordHeader : List UInt8 :=
  writtenHeader [120] [49, 51] [48, 48, 50, 51, 52, 51] 120

/-- The header of a file, which states no size. -/
@[irreducible] def fileHeader : List UInt8 :=
  writtenHeader [97, 46, 106, 115] [48] [48, 48, 50, 53, 51, 51] 48

/-- The header of a file, which states 2 ^ 63 bytes in binary. -/
@[irreducible] def vastHeader : List UInt8 :=
  writtenHeader [97, 46, 106, 115] [128, 0, 0, 0, 128, 0, 0, 0, 0, 0, 0, 0]
    [48, 48, 51, 48, 53, 51] 48

/-- A header that states a size, a kind and its own checksum. -/
structure IsSound (header : List UInt8) (stated : Nat) (kind : UInt8) : Prop where
  length : header.length = blockSize
  not_zero : header.all (· = 0) = false
  sum : octalField? header.toByteArray 148 8 = some (checksum header.toByteArray)
  stated : sizeField? header.toByteArray 124 = some stated
  kind : BitReader.byteAt header.toByteArray 156 = kind
  dialect : dialect header.toByteArray = .ustar

/-- What a header says is worked out on the list of its bytes. -/
theorem isSound_of_fields {l : List UInt8} {stated : Nat} {kind : UInt8}
    (hlength : l.length = blockSize) (hzero : l.all (· = 0) = false)
    (hsum : (Text.decode? (((l.drop 148).take 8).takeWhile (· ≠ 0))).bind
        (fun text => octal? (Text.trim text.toList)) =
      some ((l.take 148).foldl (fun n b => n + b.toNat) 0 + 8 * 32 +
        ((l.drop 156).take 356).foldl (fun n b => n + b.toNat) 0))
    (hstated : sizeField? l.toByteArray 124 = some stated) (hkind : l.getD 156 0 = kind)
    (hdialect : ((l.drop 257).take 8 == "ustar".toUTF8.toList ++ [0, 48, 48]) = true) :
    IsSound l stated kind where
  length := hlength
  not_zero := hzero
  sum := by rw [octalField?_toByteArray, checksum_toByteArray, hsum]
  stated := hstated
  kind := by rw [Bytes.byteAt_toByteArray, hkind]
  dialect := by rw [dialect_toByteArray, if_pos hdialect]

/-- The headers of both archives. -/
theorem isSound_headers :
    IsSound recordHeader 11 120 ∧ IsSound fileHeader 0 48 ∧
      IsSound vastHeader (Nat.pow 2 63) 48 := by
  refine ⟨?_, ?_, ?_⟩
  · refine isSound_of_fields (by decide +kernel) (by decide +kernel) (by decide +kernel) ?_
      (by decide +kernel) (by decide +kernel)
    rw [sizeField?_toByteArray (by decide +kernel)]
    decide +kernel
  · refine isSound_of_fields (by decide +kernel) (by decide +kernel) (by decide +kernel) ?_
      (by decide +kernel) (by decide +kernel)
    rw [sizeField?_toByteArray (by decide +kernel)]
    decide +kernel
  -- The size is too large for octal digits.
  · refine isSound_of_fields (by decide +kernel) (by decide +kernel) (by decide +kernel) ?_
      (by decide +kernel) (by decide +kernel)
    rw [sizeField?_toByteArray_binary (by decide +kernel)]
    decide +kernel

/-- A member of the plainest kind is a file, of which nothing else has to be read. -/
theorem IsSound.entry_of_file {header : List UInt8} {stated : Nat} (h : IsSound header stated 48)
    {m : Member} (hm : m.header = header.toByteArray) (d : Description) :
    d.add? m = some none ∧
      entryOf? d m =
        some (⟨.file, Text.decodeLossy (d.path m.header), stated, m.data, 0⟩, m.next) := by
  have hkind : m.kind = 48 := by rw [Member.kind, hm, h.kind]
  constructor
  · rw [Description.add?, hkind]
    split <;> rfl
  · rw [entryOf?, hkind, hm, h.stated]
    rfl

/-! ## A file with its size in records -/

/-- What is needed to fill a block. -/
@[irreducible] def padding (l : List UInt8) : List UInt8 :=
  List.replicate (blockSize - l.length) 0

/-- One record, which gives a size of 64 bytes. -/
@[irreducible] def sizeRecord : List UInt8 :=
  [49, 49, 32, 115, 105, 122, 101, 61, 54, 52, 10]

@[irreducible] def fileData : List UInt8 :=
  List.replicate 64 97

/-- An archive of one file, which has its size in the records before it. -/
@[irreducible] def recordSizedFile : ByteArray :=
  (recordHeader ++ (sizeRecord ++ padding sizeRecord) ++ fileHeader ++
    (fileData ++ padding fileData)).toByteArray

theorem length_sizeRecord : sizeRecord.length = 11 := by
  rw [sizeRecord]
  rfl

theorem length_fileData : fileData.length = 64 := by
  rw [fileData, List.length_replicate]

theorem length_append_padding {l : List UInt8} (h : l.length ≤ blockSize) :
    (l ++ padding l).length = blockSize := by
  rw [padding, List.length_append, List.length_replicate]
  omega

theorem length_sizeBlock : (sizeRecord ++ padding sizeRecord).length = blockSize :=
  length_append_padding (by rw [length_sizeRecord]; decide)

theorem length_fileBlock : (fileData ++ padding fileData).length = blockSize :=
  length_append_padding (by rw [length_fileData]; decide)

theorem size_recordSizedFile : recordSizedFile.size = 2048 := by
  obtain ⟨hrecord, hfile, -⟩ := isSound_headers
  rw [recordSizedFile, List.size_toByteArray, List.length_append, List.length_append,
    List.length_append, hrecord.length, hfile.length, length_sizeBlock, length_fileBlock]
  rfl

theorem ofBytes_recordSizedFile :
    ByteSource.ofBytes recordSizedFile = ⟨recordSizedFile, false⟩ := by
  have hfirst : BitReader.byteAt recordSizedFile 0 = 120 := by
    rw [recordSizedFile, Bytes.byteAt_toByteArray, recordHeader]
    rfl
  simp [ByteSource.ofBytes, Gzip.isGzip, hfirst]

def recordMember : Member where
  header := recordHeader.toByteArray
  size := 11
  data := sizeRecord.toByteArray
  body := { source := ⟨recordSizedFile, false⟩, position := 512 }
  next := 1024

theorem readMember_recordMember :
    readMember { source := ⟨recordSizedFile, false⟩ } none = .member recordMember := by
  -- The header states eleven bytes, which are the size record.
  obtain ⟨⟨hheader, hzero, hsum, hstated, -, -⟩, -⟩ := isSound_headers
  have hread := readMember_toByteArray [] recordHeader
    ((sizeRecord ++ padding sizeRecord) ++ fileHeader ++ (fileData ++ padding fileData))
    false none 11 11 hheader hzero hsum hstated rfl (by decide)
  have hdata : ((sizeRecord ++ padding sizeRecord) ++ fileHeader ++
      (fileData ++ padding fileData)).take 11 = sizeRecord := by
    rw [List.append_assoc, List.append_assoc, List.take_left' length_sizeRecord]
  rw [hdata] at hread
  simp only [List.nil_append, ← List.append_assoc] at hread
  simp only [recordMember, recordSizedFile, ← List.append_assoc]
  exact hread

theorem add?_recordMember :
    Description.add? {} recordMember =
      some (some { records := some sizeRecord.toByteArray }) := by
  obtain ⟨⟨-, -, -, -, hkind, hdialect⟩, -⟩ := isSound_headers
  rw [Description.add?, Member.kind, recordMember, hdialect, hkind]
  rfl

def fileMember : Member where
  header := fileHeader.toByteArray
  size := 64
  data := fileData.toByteArray
  body := { source := ⟨recordSizedFile, false⟩, position := 1536 }
  next := 2048

theorem readMember_fileMember :
    readMember { source := ⟨recordSizedFile, false⟩, position := 1024 }
      (some sizeRecord.toByteArray) = .member fileMember := by
  -- The header states no size, so that the one in the record counts.
  have hsize : ((some sizeRecord.toByteArray).bind recordSize?).getD 0 = 64 := by
    rw [Option.bind_some, recordSize?_toByteArray]
    decide +kernel
  obtain ⟨hrecord, ⟨hheader, hzero, hsum, hstated, -, -⟩, -⟩ := isSound_headers
  have hlength : (recordHeader ++ (sizeRecord ++ padding sizeRecord)).length = 1024 := by
    rw [List.length_append, hrecord.length, length_sizeBlock]
    rfl
  have hread := readMember_toByteArray
    (recordHeader ++ (sizeRecord ++ padding sizeRecord)) fileHeader
    (fileData ++ padding fileData) false (some sizeRecord.toByteArray) 0 64
    hheader hzero hsum hstated hsize (by rw [hlength]; decide)
  rw [List.take_left' length_fileData, hlength] at hread
  rw [fileMember, recordSizedFile]
  exact hread

/-- Behind the file, the archive ends. -/
theorem holds_fileMember_next : Holds { fileMember.body with position := 2048 } [] := by
  have hbody : { fileMember.body with position := 2048 } =
      ({ source := ⟨recordSizedFile, false⟩, position := 2048 } : Cursor) := rfl
  rw [hbody]
  exact .finished (Nat.le_of_eq size_recordSizedFile.symm)
    (readMember_of_size_le (Nat.le_of_eq size_recordSizedFile) rfl)

/-- The file stands in the archive with 64 bytes of data, and eleven bytes that describe it. -/
theorem holds_recordSizedFile :
    ∃ o, Holds { source := .ofBytes recordSizedFile } [o] ∧ o.entry.kind = .file ∧
      o.entry.declared = 0 ∧ o.entry.data.size = 64 ∧ o.entry.length = 64 ∧
      o.described = 11 := by
  rw [ofBytes_recordSizedFile]
  have hsize : fileMember.data.size = 64 := by
    rw [fileMember, List.size_toByteArray, length_fileData]
  have hskip : recordMember.body.skipTo? recordMember.next =
      some { source := ⟨recordSizedFile, false⟩, position := 1024 } := by
    refine Cursor.skipTo?_eq_some_iff.2 ⟨?_, rfl⟩
    simp only [recordMember, size_recordSizedFile]
    decide
  -- The record takes effect on the file behind it.
  obtain ⟨-, hfile, -⟩ := isSound_headers
  obtain ⟨hadd, hentry⟩ := hfile.entry_of_file (m := fileMember) rfl
    { records := some sizeRecord.toByteArray }
  refine ⟨_, .entry (Nat.zero_le _) (.describing readMember_recordMember add?_recordMember hskip
    (.own readMember_fileMember hadd hentry)) holds_fileMember_next, rfl, rfl, hsize, hsize, ?_⟩
  simp only [Origin.described, recordMember, List.map_cons, List.map_nil,
    List.size_toByteArray, length_sizeRecord]
  rfl

/-! ## A file of a size beyond all others -/

/-- An archive that breaks off behind this header. -/
@[irreducible] def vastFile : ByteArray :=
  vastHeader.toByteArray

theorem size_vastFile : vastFile.size = 512 := by
  obtain ⟨-, -, hvast⟩ := isSound_headers
  rw [vastFile, List.size_toByteArray, hvast.length]
  rfl

theorem ofBytes_vastFile : ByteSource.ofBytes vastFile = ⟨vastFile, false⟩ := by
  have hfirst : BitReader.byteAt vastFile 0 = 97 := by
    rw [vastFile, Bytes.byteAt_toByteArray, vastHeader]
    rfl
  simp [ByteSource.ofBytes, Gzip.isGzip, hfirst]

def vastMember : Member where
  header := vastHeader.toByteArray
  size := Nat.pow 2 63
  data := [].toByteArray
  body := { source := ⟨vastFile, false⟩, position := 512 }
  next := 512 + Nat.pow 2 63

theorem readMember_vastMember :
    readMember { source := ⟨vastFile, false⟩ } none = .member vastMember := by
  obtain ⟨-, -, hheader, hzero, hsum, hstated, -, -⟩ := isSound_headers
  have hread := readMember_toByteArray [] vastHeader [] false none (Nat.pow 2 63) (Nat.pow 2 63)
    hheader hzero hsum hstated rfl (by decide)
  rw [List.nil_append, List.append_nil, List.take_nil] at hread
  rw [vastMember, vastFile]
  exact hread

/-- The file is listed without data, and where it ends there is nothing any more. -/
theorem list_vastFile :
    ∃ e : Entry, list (.ofBytes vastFile) = ⟨[e], true⟩ ∧ e.kind = .file ∧
      e.declared = Nat.pow 2 63 ∧ e.length = 0 := by
  rw [ofBytes_vastFile]
  obtain ⟨-, -, hvast⟩ := isSound_headers
  obtain ⟨hadd, hentry⟩ := hvast.entry_of_file (m := vastMember) rfl {}
  have hreads : Reads { source := ⟨vastFile, false⟩ } {} _ _ :=
    .own readMember_vastMember hadd hentry
  have hbehind : vastFile.size < 512 + Nat.pow 2 63 := by
    rw [size_vastFile]
    decide
  exact ⟨_, list_of_reads_of_lt hreads hbehind, rfl, rfl, rfl⟩

end DepTriage.Archive.Tar
