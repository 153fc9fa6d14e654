import DepTriage.Archive.Extraction
import DepTriage.Proofs.Archive.Tar
import Mathlib.Data.List.Basic

/-!
# Entries that arrive in pieces

Extraction takes in each entry piece by piece, counts the pieces and keeps some of them. Here it is
compared with what can be said of the entries as a whole, with all their data at once: the sum of
their lengths decides whether the limit is exceeded, and each entry decides for itself whether it is
taken out, and whether it stops the extraction.

## Key results

- `pump?_eq`: taking in pieces one after the other is taking in all of them at once.
- `extractOnto_cons`: what extraction does at one delivery depends on the entry that it brings.
- `extractOnto_eq_stopped_iff`, `extractOnto_eq`: what all of them come to.
- `extract_eq_stopped_iff`, `extract_eq_outcome`: the same for the entries that an archive lists.
- `extractOnto_eq_outcome`: extraction is stopped exactly where room for an entry cannot be
  reserved, and is otherwise the outcome for the entries as a whole, however their data arrives.
-/

namespace DepTriage.Archive

/-! ## Pieces -/

/-- What pieces are put together to. -/
def joined : List ByteArray → ByteArray
  | [] => .empty
  | piece :: pieces => piece ++ joined pieces

theorem joined_append (front back : List ByteArray) :
    joined (front ++ back) = joined front ++ joined back := by
  induction front with
  | nil => exact ByteArray.empty_append.symm
  | cons piece front ih => rw [List.cons_append, joined, joined, ih, ByteArray.append_assoc]

theorem size_joined_replicate (count : Nat) (piece : ByteArray) :
    (joined (.replicate count piece)).size = count * piece.size := by
  induction count with
  | zero => rw [Nat.zero_mul]; rfl
  | succ count ih =>
    rw [List.replicate_succ, joined, ByteArray.size_append, ih, Nat.add_one_mul, Nat.add_comm]

/-- Before the end, which an empty piece stands for, no piece is empty. -/
def NoneEmpty (pieces : List ByteArray) : Prop :=
  ∀ piece ∈ pieces, piece.size ≠ 0

theorem isEmpty_eq_false {piece : ByteArray} (h : piece.size ≠ 0) : piece.isEmpty = false :=
  beq_eq_false_iff_ne.2 h

/-- Taking in pieces one after the other fails exactly if they exceed the limit together, and
otherwise all of them join the sink. -/
theorem pump?_eq {limit total : Nat} (h : total ≤ limit) {pieces : List ByteArray}
    (hpieces : NoneEmpty pieces) (sink : Option ByteArray) :
    pump? limit pieces total sink =
      if limit < total + (joined pieces).size then none
      else some (total + (joined pieces).size, sink.map (· ++ joined pieces)) := by
  induction pieces generalizing total sink with
  | nil =>
    have hsink : sink.map (· ++ joined []) = sink := by cases sink <;> simp [joined]
    rw [hsink]
    simp [pump?, joined, Nat.not_lt.2 h]
  | cons piece pieces ih =>
    obtain ⟨hpiece, hpieces⟩ := List.forall_mem_cons.1 hpieces
    rw [pump?, isEmpty_eq_false hpiece, joined, ByteArray.size_append, ← Nat.add_assoc]
    by_cases hover : limit < total + piece.size
    -- The piece that crosses the limit ends the loop, whatever is still to come.
    · rw [if_neg Bool.false_ne_true, if_pos hover, if_pos (by omega)]
    · have hsink : (sink.map (· ++ piece)).map (· ++ joined pieces) =
          sink.map (· ++ (piece ++ joined pieces)) := by
        cases sink <;> simp [ByteArray.append_assoc]
      rw [if_neg Bool.false_ne_true, if_neg hover, ih (by omega) hpieces, hsink]

/-! ## Cutting -/

/-- What stands in front of an index, and the pieces from it on, are all bytes. -/
theorem joined_cutFrom (bytes : ByteArray) {bound index : Nat} (h : bytes.size ≤ index + bound) :
    bytes.extract 0 index ++ joined (cutFrom bytes bound index) = bytes := by
  -- From the end on, nothing is left to cut.
  have hend (index : Nat) (hsize : bytes.size ≤ index) :
      bytes.extract 0 index ++ .empty = bytes := by
    rw [ByteArray.append_empty, ← Nat.max_eq_left hsize, ByteArray.extract_zero_max_size]
  induction bound generalizing index with
  | zero => exact hend index h
  | succ bound ih =>
    rw [cutFrom]
    split
    · next hsize => exact hend index hsize
    -- The next piece starts where the last one ended.
    · have hchunk : chunkSize = 8192 := rfl
      rw [joined, ← ByteArray.append_assoc, ByteArray.extract_append_extract, Nat.zero_min,
        Nat.max_eq_right (Nat.le_add_right _ _)]
      exact ih (by omega)

theorem noneEmpty_cutFrom (bytes : ByteArray) (bound index : Nat) :
    NoneEmpty (cutFrom bytes bound index) := by
  induction bound generalizing index with
  | zero => exact nofun
  | succ bound ih =>
    rw [cutFrom]
    split
    · exact nofun
    -- A piece is cut before the end only, so it holds a byte.
    · have hchunk : chunkSize = 8192 := rfl
      refine List.forall_mem_cons.2 ⟨?_, ih _⟩
      rw [ByteArray.size_extract]
      omega

theorem size_zeroPiece : zeroPiece.size = chunkSize :=
  Array.size_replicate

theorem size_joined_zeroPieces (count : Nat) : (joined (zeroPieces count)).size = count := by
  have hdivision : count / chunkSize * chunkSize + count % chunkSize = count :=
    Nat.div_add_mod' count chunkSize
  rw [zeroPieces, joined_append, ByteArray.size_append, size_joined_replicate, size_zeroPiece]
  split
  -- Either full pieces alone, or one shorter piece behind them.
  · next hrest =>
    rw [hrest] at hdivision
    exact hdivision
  · have hbelow : count % chunkSize < chunkSize := Nat.mod_lt count (by decide)
    rw [joined, joined, ByteArray.append_empty, ByteArray.size_extract, size_zeroPiece]
    omega

theorem noneEmpty_zeroPieces (count : Nat) : NoneEmpty (zeroPieces count) := by
  have hbelow : count % chunkSize < chunkSize := Nat.mod_lt count (by decide)
  -- A shorter piece is written only for a remainder that is not zero.
  intro piece hpiece
  rcases List.mem_append.1 hpiece with hfull | hlast
  · rw [List.eq_of_mem_replicate hfull, size_zeroPiece]
    decide
  · split at hlast
    · exact nomatch hlast
    · next hrest =>
      rw [List.mem_singleton.1 hlast, ByteArray.size_extract, size_zeroPiece]
      omega

/-! ## Entries as a whole -/

/-- Whether an entry is taken out of an archive. The size of a file is what its header states. -/
def isTaken (filter : String → Bool) (limits : ExtractionLimits) (e : Tar.Entry) : Bool :=
  filter e.path &&
    match e.kind with
    | .file => decide (e.declared ≤ limits.maxFileSize)
    | .directory | .link => true
    | .other => false

/-- What is taken out with an entry: a file has all its data, and nothing else has content. -/
def fileOf (e : Tar.Entry) : ExtractedFile :=
  match e.kind with
  | .directory => ⟨e.path, .directory, .empty, 0⟩
  | .link => ⟨e.path, .symlink, .empty, 0⟩
  | .file | .other => ⟨e.path, .file, e.data, e.data.size⟩

/-- What extraction comes to for a row of entries, which is `broken` if a fault ends it: an error if
their lengths exceed the limit together, the fault if there is one, and otherwise the entries that
are taken out, in their order. -/
def outcome (filter : String → Bool) (limits : ExtractionLimits) (broken : Bool)
    (es : List Tar.Entry) : Extraction :=
  if limits.maxTotalSize < (es.map Tar.Entry.length).sum then
    .error (.sizeLimitExceeded limits.maxTotalSize)
  else if broken then .error (.io "<io error>")
  else .ok ((es.filter (isTaken filter limits)).map fileOf)

theorem taken?_eq_ite (filter : String → Bool) (limits : ExtractionLimits) (e : Tar.Entry) :
    taken? filter limits e = if isTaken filter limits e then some (fileOf e) else none := by
  -- Only a file is held to the limit; directories and links are taken as they are.
  by_cases hfilter : filter e.path = true
  · cases hkind : e.kind with
    | file =>
      by_cases hsize : e.declared ≤ limits.maxFileSize
      · simp [taken?, isTaken, fileOf, hfilter, hkind, hsize]
      · simp [taken?, isTaken, hfilter, hkind, hsize, Nat.not_le.1 hsize]
    | directory => simp [taken?, isTaken, fileOf, hfilter, hkind]
    | link => simp [taken?, isTaken, fileOf, hfilter, hkind]
    | other => simp [taken?, isTaken, hfilter, hkind]
  · simp [taken?, isTaken, hfilter]

/-- Each entry decides for itself whether it is taken out. -/
theorem filterMap_taken? (filter : String → Bool) (limits : ExtractionLimits)
    (es : List Tar.Entry) :
    es.filterMap (taken? filter limits) = (es.filter (isTaken filter limits)).map fileOf := by
  induction es with
  | nil => rfl
  | cons e es ih =>
    rw [List.filterMap_cons, taken?_eq_ite, ih]
    by_cases htaken : isTaken filter limits e <;> simp [htaken]

/-! ## Deliveries -/

/-- The data that a delivery brings. -/
def Delivery.data (d : Delivery) : ByteArray :=
  joined d.pieces

/-- The entry that a delivery brings. -/
def Delivery.whole (d : Delivery) : Tar.Entry :=
  d.entry (some d.data)

theorem Delivery.length_whole (d : Delivery) : d.whole.length = d.data.size :=
  rfl

/-- Whether an entry stops its extraction: it is a file to be kept, and it states a size for which
no room can be reserved. -/
def Stops (filter : String → Bool) (limits : ExtractionLimits) (e : Tar.Entry) : Prop :=
  e.kind = .file ∧ filter e.path = true ∧ e.declared ≤ limits.maxFileSize ∧
    maxReservation < e.declared

/-- A row of entries stops its extraction at one of them: the bytes read by then, `total` of them
before the row, are within the budget. -/
def IsStopped (filter : String → Bool) (limits : ExtractionLimits) (total : Nat)
    (es : List Tar.Entry) : Prop :=
  ∃ before e after, es = before ++ e :: after ∧ Stops filter limits e ∧
    total + (before.map Tar.Entry.length).sum ≤ limits.maxTotalSize

section

variable {filter : String → Bool} {limits : ExtractionLimits}

theorem stops_whole_iff {d : Delivery} :
    d.IsKept filter limits ∧ maxReservation < d.declared ↔ Stops filter limits d.whole :=
  ⟨fun ⟨⟨hkind, hfilter, hsize⟩, hroom⟩ => ⟨hkind, hfilter, hsize, hroom⟩,
    fun ⟨hkind, hfilter, hsize, hroom⟩ => ⟨⟨hkind, hfilter, hsize⟩, hroom⟩⟩

/-- Within limits for which room can be reserved, no entry stops its extraction. -/
theorem not_stops_of_areReservable (h : limits.AreReservable) (e : Tar.Entry) :
    ¬Stops filter limits e :=
  fun ⟨_, _, hsize, hroom⟩ => Nat.not_le.2 hroom (Nat.le_trans hsize h)

theorem not_isStopped_nil (total : Nat) : ¬IsStopped filter limits total [] := by
  rintro ⟨before, e, after, hnil, -⟩
  simp at hnil

/-- A row of entries stops its extraction at the first of them or behind it. -/
theorem isStopped_cons_iff {total : Nat} (h : total ≤ limits.maxTotalSize) {e : Tar.Entry}
    {es : List Tar.Entry} :
    IsStopped filter limits total (e :: es) ↔
      Stops filter limits e ∨ IsStopped filter limits (total + e.length) es := by
  constructor
  · rintro ⟨before, e₁, after, heq, hstops, hfits⟩
    -- The entry that stops is the first one, or it stands among the others, whose budget the first
    -- one shortens.
    cases before with
    | nil =>
      obtain ⟨rfl, rfl⟩ := List.cons.inj heq
      exact .inl hstops
    | cons e₂ before =>
      obtain ⟨rfl, rfl⟩ := List.cons.inj heq
      refine .inr ⟨before, e₁, after, rfl, hstops, ?_⟩
      rwa [List.map_cons, List.sum_cons, ← Nat.add_assoc] at hfits
  · rintro (hstops | ⟨before, e₁, after, rfl, hstops, hfits⟩)
    · exact ⟨[], e, es, rfl, hstops, h⟩
    · refine ⟨e :: before, e₁, after, rfl, hstops, ?_⟩
      rwa [List.map_cons, List.sum_cons, ← Nat.add_assoc]

/-- Beyond the limit, no entry is reached. -/
theorem not_isStopped_of_lt {total : Nat} (h : limits.maxTotalSize < total) (es : List Tar.Entry) :
    ¬IsStopped filter limits total es :=
  fun ⟨_, _, _, _, _, hfits⟩ => Nat.not_le.2 h (Nat.le_of_add_right_le hfits)

/-- Where a row of entries fits the budget, each of them is reached. -/
theorem isStopped_iff_of_fits {es : List Tar.Entry}
    (h : (es.map Tar.Entry.length).sum ≤ limits.maxTotalSize) :
    IsStopped filter limits 0 es ↔ ∃ e ∈ es, Stops filter limits e := by
  constructor
  · rintro ⟨before, e, after, rfl, hstops, -⟩
    exact ⟨e, by simp, hstops⟩
  · rintro ⟨e, he, hstops⟩
    obtain ⟨before, after, rfl⟩ := List.append_of_mem he
    refine ⟨before, e, after, rfl, hstops, ?_⟩
    rw [List.map_append, List.sum_append] at h
    omega

end

/-- The data that is not kept decides nothing. -/
theorem taken?_entry (filter : String → Bool) (limits : ExtractionLimits) (d : Delivery) :
    taken? filter limits (d.entry ((d.sink? filter limits).map (· ++ d.data))) =
      taken? filter limits d.whole := by
  by_cases hkept : d.IsKept filter limits
  · rw [Delivery.sink?, if_pos hkept, Option.map_some, ByteArray.empty_append, Delivery.whole]
  · rw [Delivery.sink?, if_neg hkept, Option.map_none, Delivery.whole]
    cases hkind : d.kind with
    | file =>
      -- The filter does not let the file through, or the file states too great a size.
      by_cases hfilter : filter d.path = true
      · have hsize : limits.maxFileSize < d.declared :=
          Nat.not_le.1 fun hle => hkept ⟨hkind, hfilter, hle⟩
        simp [taken?, Delivery.entry, hkind, hfilter, hsize]
      · simp [taken?, Delivery.entry, hfilter]
    | directory => simp [taken?, Delivery.entry, hkind]
    | link => simp [taken?, Delivery.entry, hkind]
    | other => simp [taken?, Delivery.entry, hkind]

section

variable (filter : String → Bool) (limits : ExtractionLimits) (broken : Bool)

open Classical in
/-- What extraction does at a delivery: it is stopped there, or the limit is exceeded there, or it
goes on with the entry counted and perhaps taken out. -/
theorem extractOnto_cons {d : Delivery} (hd : NoneEmpty d.pieces) (ds : List Delivery) {total : Nat}
    (files : List ExtractedFile) (h : total ≤ limits.maxTotalSize) :
    extractOnto filter limits broken (d :: ds) total files =
      if Stops filter limits d.whole then .stopped
      else if limits.maxTotalSize < total + d.whole.length then
        .error (.sizeLimitExceeded limits.maxTotalSize)
      else
        extractOnto filter limits broken ds (total + d.whole.length)
          ((taken? filter limits d.whole).toList ++ files) := by
  have hpump : pump? limits.maxTotalSize d.pieces total (d.sink? filter limits) =
      if limits.maxTotalSize < total + d.whole.length then none
      else some (total + d.whole.length, (d.sink? filter limits).map (· ++ d.data)) :=
    pump?_eq h hd (d.sink? filter limits)
  rw [extractOnto, hpump]
  -- An entry that stops is met before any of its bytes is counted.
  by_cases hstops : Stops filter limits d.whole
  · rw [if_pos (stops_whole_iff.2 hstops), if_pos hstops]
  · rw [if_neg (mt stops_whole_iff.1 hstops), if_neg hstops]
    by_cases hover : limits.maxTotalSize < total + d.whole.length
    · rw [if_pos hover, if_pos hover]
    · rw [if_neg hover, if_neg hover]
      dsimp only
      rw [taken?_entry]

/-- Extraction is stopped exactly if the entries that are delivered stop it. -/
theorem extractOnto_eq_stopped_iff {ds : List Delivery} (hds : ∀ d ∈ ds, NoneEmpty d.pieces)
    {total : Nat} (files : List ExtractedFile) (h : total ≤ limits.maxTotalSize) :
    extractOnto filter limits broken ds total files = .stopped ↔
      IsStopped filter limits total (ds.map Delivery.whole) := by
  -- By induction on the deliveries: what has been read before them is within the limit.
  induction ds generalizing total files with
  | nil =>
    rw [extractOnto]
    refine iff_of_false (fun hend => ?_) (not_isStopped_nil total)
    split at hend <;> cases hend
  | cons d ds ih =>
    obtain ⟨hpieces, hds⟩ := List.forall_mem_cons.1 hds
    rw [extractOnto_cons filter limits broken hpieces ds files h, List.map_cons,
      isStopped_cons_iff h]
    by_cases hstops : Stops filter limits d.whole
    · rw [if_pos hstops]
      exact iff_of_true rfl (.inl hstops)
    · rw [if_neg hstops, or_iff_right hstops]
      by_cases hover : limits.maxTotalSize < total + d.whole.length
      · rw [if_pos hover]
        refine iff_of_false (fun hend => ?_) (not_isStopped_of_lt hover _)
        cases hend
      · rw [if_neg hover]
        exact ih hds _ (Nat.not_lt.1 hover)

/-- What deliveries come to that do not stop their extraction: the data that they bring fits the
budget, or else nothing of them is extracted. -/
theorem extractOnto_eq {ds : List Delivery} (hds : ∀ d ∈ ds, NoneEmpty d.pieces) {total : Nat}
    (files : List ExtractedFile) (h : total ≤ limits.maxTotalSize)
    (hgoes : ¬IsStopped filter limits total (ds.map Delivery.whole)) :
    extractOnto filter limits broken ds total files =
      if limits.maxTotalSize < total + (ds.map (·.whole.length)).sum then
        .error (.sizeLimitExceeded limits.maxTotalSize)
      else if broken then .error (.io "<io error>")
      else .ok (files.reverse ++ ds.filterMap (taken? filter limits ·.whole)) := by
  induction ds generalizing total files with
  | nil =>
    rw [extractOnto, List.map_nil, List.sum_nil, Nat.add_zero, if_neg (Nat.not_lt.2 h),
      List.filterMap_nil, List.append_nil]
  | cons d ds ih =>
    obtain ⟨hpieces, hds⟩ := List.forall_mem_cons.1 hds
    rw [List.map_cons, isStopped_cons_iff h, not_or] at hgoes
    obtain ⟨hstops, hgoes⟩ := hgoes
    rw [extractOnto_cons filter limits broken hpieces ds files h, if_neg hstops, List.map_cons,
      List.sum_cons, ← Nat.add_assoc]
    by_cases hover : limits.maxTotalSize < total + d.whole.length
    · rw [if_pos hover, if_pos (by omega)]
    · rw [if_neg hover, ih hds _ (Nat.not_lt.1 hover) hgoes]
      -- What is taken of the entry joins the files before it, which are in reverse.
      cases htaken : taken? filter limits d.whole <;> simp [htaken]

end

/-! ## Listed entries -/

theorem noneEmpty_delivery (limit : Nat) (e : Tar.Entry) : NoneEmpty (e.delivery limit).pieces := by
  intro piece hpiece
  rcases List.mem_append.1 hpiece with hdata | hzeros
  · exact noneEmpty_cutFrom e.data _ _ piece hdata
  · exact noneEmpty_zeroPieces _ piece hzeros

theorem data_delivery (limit : Nat) (e : Tar.Entry) :
    (e.delivery limit).data = e.data ++ joined (zeroPieces (min e.zeros (limit + 1))) := by
  have hdata := joined_cutFrom e.data (show e.data.size ≤ 0 + e.data.size by omega)
  rw [ByteArray.extract_same, ByteArray.empty_append] at hdata
  rw [Delivery.data, Tar.Entry.delivery, joined_append, hdata]

/-- A file is taken out as it is: only a sparse file has zeros beside its data. -/
theorem taken?_delivery (filter : String → Bool) (limits : ExtractionLimits) (limit : Nat)
    {e : Tar.Entry} (h : e.kind = .file → e.zeros = 0) :
    taken? filter limits (e.delivery limit).whole = taken? filter limits e := by
  obtain ⟨kind, path, declared, data, zeros⟩ := e
  cases kind with
  -- Only a file is kept with its bytes, and a file has no zeros to cut short.
  | file =>
    obtain rfl : zeros = 0 := h rfl
    have hdata : (Tar.Entry.delivery limit ⟨.file, path, declared, data, 0⟩).data = data := by
      rw [data_delivery, Nat.zero_min]
      exact ByteArray.append_empty
    rw [Delivery.whole, hdata]
    rfl
  | directory => rfl
  | link => rfl
  | other => rfl

/-- Of the zeros of a sparse file, enough are read to tell whether the limit is exceeded. -/
theorem lt_sum_delivery_iff (limit total : Nat) (es : List Tar.Entry) :
    limit < total + ((es.map (Tar.Entry.delivery limit)).map (·.whole.length)).sum ↔
      limit < total + (es.map Tar.Entry.length).sum := by
  induction es generalizing total with
  | nil => rfl
  | cons e es ih =>
    have hlength : (e.delivery limit).whole.length = e.data.size + min e.zeros (limit + 1) := by
      rw [Delivery.length_whole, data_delivery, ByteArray.size_append, size_joined_zeroPieces]
    rw [List.map_cons, List.map_cons, List.sum_cons, List.map_cons, List.sum_cons, hlength,
      Tar.Entry.length]
    have hrest := ih (total + (e.data.size + e.zeros))
    -- Cut short or not, an entry of more zeros than the limit exceeds it alone.
    by_cases hzeros : e.zeros ≤ limit + 1
    · rw [Nat.min_eq_left hzeros]
      omega
    · rw [Nat.min_eq_right (by omega)]
      omega

/-- An empty piece would end the copying early, and no delivery of a listed entry has one. -/
theorem noneEmpty_of_mem_deliveries {limit : Nat} {es : List Tar.Entry} :
    ∀ d ∈ es.map (Tar.Entry.delivery limit), NoneEmpty d.pieces := by
  intro d hd
  obtain ⟨e, -, rfl⟩ := List.mem_map.1 hd
  exact noneEmpty_delivery limit e

/-- Entries are delivered with fewer zeros, but where they are stopped is the same. -/
theorem isStopped_deliveries_iff {filter : String → Bool} {limits : ExtractionLimits}
    {es : List Tar.Entry} :
    IsStopped filter limits 0
        ((es.map (Tar.Entry.delivery limits.maxTotalSize)).map Delivery.whole) ↔
      IsStopped filter limits 0 es := by
  -- What the entries before it deliver fits the budget exactly if they fit it themselves.
  have hfits (before : List Tar.Entry) :
      0 + (((before.map (Tar.Entry.delivery limits.maxTotalSize)).map Delivery.whole).map
          Tar.Entry.length).sum ≤ limits.maxTotalSize ↔
        0 + (before.map Tar.Entry.length).sum ≤ limits.maxTotalSize := by
    rw [List.map_map, ← Nat.not_lt, ← Nat.not_lt]
    exact not_congr (lt_sum_delivery_iff limits.maxTotalSize 0 before)
  constructor
  · rintro ⟨before, e, after, heq, hstops, hsum⟩
    obtain ⟨front, back, rfl, hfront, hback⟩ := List.map_eq_append_iff.1 (List.map_map ▸ heq)
    obtain ⟨e₁, rest, rfl, rfl, -⟩ := List.map_eq_cons_iff.1 hback
    rw [← hfront, ← List.map_map] at hsum
    exact ⟨front, e₁, rest, rfl, hstops, (hfits front).1 hsum⟩
  · rintro ⟨before, e, after, rfl, hstops, hsum⟩
    refine ⟨_, (e.delivery limits.maxTotalSize).whole,
      (after.map (Tar.Entry.delivery limits.maxTotalSize)).map Delivery.whole, ?_, hstops,
      (hfits before).2 hsum⟩
    rw [List.map_append, List.map_append, List.map_cons, List.map_cons]

/-- The extraction of an archive is stopped exactly if its entries stop it. -/
theorem extract_eq_stopped_iff (filter : String → Bool) (limits : ExtractionLimits)
    (archive : ByteArray) :
    extract filter limits archive = .stopped ↔
      IsStopped filter limits 0 (Tar.list (.ofBytes archive)).entries := by
  rw [extract, extractOnto_eq_stopped_iff filter limits _ noneEmpty_of_mem_deliveries []
    (Nat.zero_le _), isStopped_deliveries_iff]

/-- Where its entries do not stop it, the extraction of an archive comes to their outcome. -/
theorem extract_eq_outcome {filter : String → Bool} {limits : ExtractionLimits}
    {archive : ByteArray}
    (h : ¬IsStopped filter limits 0 (Tar.list (.ofBytes archive)).entries) :
    extract filter limits archive =
      outcome filter limits (Tar.list (.ofBytes archive)).broken
        (Tar.list (.ofBytes archive)).entries := by
  rw [extract]
  generalize hlisting : Tar.list (.ofBytes archive) = listing at h ⊢
  have htaken : (listing.entries.map (Tar.Entry.delivery limits.maxTotalSize)).filterMap
      (taken? filter limits ·.whole) = listing.entries.filterMap (taken? filter limits) := by
    -- Kept entries are not cut short, so they are the same files.
    rw [List.filterMap_map]
    refine List.filterMap_congr fun e he => taken?_delivery filter limits _ ?_
    rw [← hlisting] at he
    exact Tar.zeros_of_mem_list he
  have hsum := lt_sum_delivery_iff limits.maxTotalSize 0 listing.entries
  rw [Nat.zero_add, Nat.zero_add] at hsum
  rw [extractOnto_eq filter limits _ noneEmpty_of_mem_deliveries [] (Nat.zero_le _)
    (mt isStopped_deliveries_iff.1 h), htaken, Nat.zero_add, outcome, ← filterMap_taken?]
  simp only [hsum, List.reverse_nil, List.nil_append]

/-! ## Extraction as a whole -/

/-- In whatever pieces the data of entries arrives, their extraction is stopped exactly if one of
them stops it before the limit is exceeded, and otherwise comes to their outcome as a whole. The
entries of an archive are those that are listed of it. -/
theorem extractOnto_eq_outcome (filter : String → Bool) (limits : ExtractionLimits) :
    (∀ (broken : Bool) (ds : List Delivery), (∀ d ∈ ds, NoneEmpty d.pieces) →
      (extractOnto filter limits broken ds 0 [] = .stopped ↔
        IsStopped filter limits 0 (ds.map Delivery.whole)) ∧
      (¬IsStopped filter limits 0 (ds.map Delivery.whole) →
        extractOnto filter limits broken ds 0 [] =
          outcome filter limits broken (ds.map Delivery.whole))) ∧
    (∀ archive : ByteArray,
      (extract filter limits archive = .stopped ↔
        IsStopped filter limits 0 (Tar.list (.ofBytes archive)).entries) ∧
      (¬IsStopped filter limits 0 (Tar.list (.ofBytes archive)).entries →
        extract filter limits archive =
          outcome filter limits (Tar.list (.ofBytes archive)).broken
            (Tar.list (.ofBytes archive)).entries)) ∧
    (limits.AreReservable → ∀ es, ¬IsStopped filter limits 0 es) := by
  refine ⟨fun broken ds hds => ⟨?_, fun h => ?_⟩, fun archive => ⟨?_, fun h => ?_⟩, ?_⟩
  · exact extractOnto_eq_stopped_iff filter limits broken hds [] (Nat.zero_le _)
  · rw [extractOnto_eq filter limits broken hds [] (Nat.zero_le _) h, Nat.zero_add, outcome,
      List.map_map, ← filterMap_taken?, List.filterMap_map]
    rfl
  · exact extract_eq_stopped_iff filter limits archive
  · exact extract_eq_outcome h
  · rintro h es ⟨_, e, _, _, hstops, _⟩
    exact not_stops_of_areReservable h e hstops

/-- A file in two pieces, an entry of no use, a directory, a file that is too large, and one that
the filter does not let through; they take up five bytes together. -/
def fiveBytes : List Delivery :=
  [⟨.file, "package/a.js", 2, [⟨#[1]⟩, ⟨#[2]⟩]⟩, ⟨.other, "package/device", 0, []⟩,
    ⟨.directory, "package/lib", 0, []⟩, ⟨.file, "package/b.js", 3, [⟨#[3, 4]⟩]⟩,
    ⟨.file, "package/c.txt", 1, [⟨#[5]⟩]⟩]

/-- Five bytes are within a limit of five and exceed one of four. -/
theorem extractOnto_fiveBytes :
    (∀ d ∈ fiveBytes, NoneEmpty d.pieces) ∧
    extractOnto (· != "package/c.txt") ⟨2, 5⟩ false fiveBytes 0 [] =
      .ok [⟨"package/a.js", .file, ⟨#[1, 2]⟩, 2⟩, ⟨"package/lib", .directory, .empty, 0⟩] ∧
    extractOnto (· != "package/c.txt") ⟨2, 4⟩ true fiveBytes 0 [] =
      .error (.sizeLimitExceeded 4) := by
  have hpieces : ∀ d ∈ fiveBytes, NoneEmpty d.pieces := by
    unfold NoneEmpty
    decide
  obtain ⟨hdeliveries, -, hreservable⟩ := extractOnto_eq_outcome (· != "package/c.txt") ⟨2, 5⟩
  obtain ⟨hdeliveries₄, -, hreservable₄⟩ := extractOnto_eq_outcome (· != "package/c.txt") ⟨2, 4⟩
  refine ⟨hpieces, ?_, ?_⟩
  -- Under limits a machine can reserve, nothing stops the extraction.
  · rw [(hdeliveries false fiveBytes hpieces).2 (hreservable (by decide) _)]
    rfl
  · rw [(hdeliveries₄ true fiveBytes hpieces).2 (hreservable₄ (by decide) _)]
    rfl

/-- A file without data that states a size of 2 ^ 63 bytes. -/
def vast : Delivery :=
  ⟨.file, "package/a.js", Nat.pow 2 63, []⟩

/-- As a whole the file comes to itself, but its extraction is stopped: no room can be reserved for
the size that it states. -/
theorem extractOnto_vast :
    (∀ d ∈ [vast], NoneEmpty d.pieces) ∧
    outcome (fun _ => true) ⟨Nat.pow 2 63, 0⟩ false [vast.whole] =
      .ok [⟨"package/a.js", .file, .empty, 0⟩] ∧
    extractOnto (fun _ => true) ⟨Nat.pow 2 63, 0⟩ false [vast] 0 [] = .stopped := by
  refine ⟨?_, rfl, rfl⟩
  unfold NoneEmpty
  decide

end DepTriage.Archive
