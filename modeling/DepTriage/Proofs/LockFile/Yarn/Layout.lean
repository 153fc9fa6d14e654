import DepTriage.Proofs.LockFile.Yarn.Fold
import DepTriage.Proofs.Text.Blank
import DepTriage.Proofs.Text.Split
import Mathlib.Data.List.Induction
import Mathlib.Logic.Relation

/-!
# The layout of yarn.lock

Reading two texts one behind the other is reading both of them, and lines that say nothing change
nothing. Texts are taken apart at line feeds only, since a carriage return at the end of a line is
white space like any other.

## Key results

- `ofText_eq_noise_iff`, `ofText_of_isDeep`: the lines that say nothing
- `mapError_unplaced_read_eq_layout`: reading a text is reading its layout
- `exists_read_append_iff`, `addsTo_of_read_append`, `read_flatten`: texts behind each other
- `Edit.readOnto_eq`: edits that respace a text
- `read_append_and_respace`: texts behind each other, their order, and respacing
-/

namespace DepTriage.Yarn

open DepTriage.Text

variable {base s t : DependencySet}

/-! ## Kinds of lines -/

def IsBlank (line : List Char) : Prop :=
  ∀ c ∈ line, isWhiteSpace c

/-- A mark at the start of a line, at any depth, makes it a comment. -/
def IsComment (line : List Char) : Prop :=
  ∃ margin text, line = margin ++ '#' :: text ∧ IsBlank margin

/-- A line that stands deeper than the fields of an entry. -/
def IsDeep (line : List Char) : Prop :=
  ∃ text, line = ' ' :: ' ' :: ' ' :: text

theorem not_isWhiteSpace_mark : ¬isWhiteSpace '#' := by decide

theorem isBlank_return : IsBlank ['\r'] := by
  intro c hc
  obtain rfl := List.mem_singleton.1 hc
  decide

theorem ofText_append {blanks : List Char} (line : List Char) (h : IsBlank blanks) :
    Line.ofText (line ++ blanks) = Line.ofText line := by
  rw [Line.ofText, Line.ofText, trimEnd_append_of_all line h]

theorem ofText_eq_noise_iff {line : List Char} :
    Line.ofText line = .noise ↔ IsBlank line ∨ IsComment line := by
  rcases all_or_exists_not isWhiteSpace line with hblank | ⟨margin, c, text, rfl, hmargin, hc⟩
  · have hnoise : Line.ofText line = .noise := by
      rw [Line.ofText, trimEnd_of_all hblank]
      rfl
    exact ⟨fun _ => Or.inl hblank, fun _ => hnoise⟩
  · -- The first character of the line that is no white space decides.
    have htrim : trimStart isWhiteSpace (trimEnd isWhiteSpace (margin ++ c :: text)) =
        c :: trimEnd isWhiteSpace text := by
      rw [trimEnd_append_cons_of_not _ _ hc, trimStart_append_of_all hmargin,
        trimStart_cons_of_not hc]
    have hblank : ¬IsBlank (margin ++ c :: text) := fun h => hc (h c (by simp))
    have hcomment : IsComment (margin ++ c :: text) ↔ c = '#' := by
      constructor
      · rintro ⟨front, rest, heq, hfront⟩
        have hstart := congrArg (trimStart isWhiteSpace) heq
        rw [trimStart_append_of_all hmargin, trimStart_cons_of_not hc,
          trimStart_append_of_all hfront, trimStart_cons_of_not not_isWhiteSpace_mark] at hstart
        exact (List.cons.inj hstart).1
      · rintro rfl
        exact ⟨margin, text, rfl, hmargin⟩
    simp only [hblank, hcomment, false_or]
    rw [Line.ofText, htrim]
    by_cases hmark : c = '#'
    · simp [hmark]
    -- No line with another first character is noise.
    · refine iff_of_false (fun h => ?_) hmark
      split at h
      · next hnil => exact nomatch hnil
      · next heq => exact hmark (List.cons.inj heq).1
      · split at h
        · exact nomatch h
        · split at h <;> exact nomatch h

/-- A line that says nothing to the reader, wherever it stands. -/
def IsNoise (line : List Char) : Prop :=
  IsBlank line ∨ IsComment line

instance : DecidablePred IsNoise :=
  fun _ => decidable_of_iff _ ofText_eq_noise_iff

theorem ofText_of_isDeep {line : List Char} (h : IsDeep line) :
    Line.ofText line = .noise ∨ Line.ofText line = .field none := by
  obtain ⟨text, rfl⟩ := h
  rcases all_or_exists_not isWhiteSpace text with hblank | ⟨margin, c, rest, rfl, -, hc⟩
  · have hspaces : ∀ d ∈ [' ', ' ', ' '], isWhiteSpace d := List.all_eq_true.1 (by decide)
    refine Or.inl (ofText_eq_noise_iff.2 (Or.inl fun d hd => ?_))
    exact (List.mem_append.1 (show d ∈ [' ', ' ', ' '] ++ text from hd)).elim
      (hspaces d) (hblank d)
  · -- Trimming leaves the blanks in front, and no field stands behind more than two of them.
    have htrim : trimEnd isWhiteSpace (' ' :: ' ' :: ' ' :: (margin ++ c :: rest)) =
        ' ' :: ' ' :: ' ' :: (margin ++ c :: trimEnd isWhiteSpace rest) :=
      trimEnd_append_cons_of_not (' ' :: ' ' :: ' ' :: margin) rest hc
    rw [Line.ofText, htrim]
    split
    · exact Or.inl rfl
    · exact Or.inl rfl
    · exact Or.inr rfl

theorem head?_of_ofText_eq_field {line : List Char} {version : Option (List Char)}
    (h : Line.ofText line = .field version) : line.head? = some ' ' := by
  obtain ⟨blanks, hline, -⟩ := exists_eq_trimEnd_append isWhiteSpace line
  rw [Line.ofText] at h
  split at h
  · exact nomatch h
  · exact nomatch h
  · split at h
    · next heq =>
      rw [hline, heq]
      rfl
    · split at h <;> exact nomatch h

/-! ## Texts -/

/-- The lines of a text as they are cut out at line feeds only. -/
def layout (text : List Char) : List Line :=
  (splitAll '\n' text).map Line.ofText

/-- A text that is empty or ends with a line feed, so that a line may start behind it. -/
def EndsLine (text : List Char) : Prop :=
  text = [] ∨ text.getLast? = some '\n'

/-- The first line that is not noise, if there is one, is not indented. -/
def StartsUnindented (text : List Char) : Prop :=
  ∀ line, (lines text).find? (fun line => ¬IsNoise line) = some line → line.head? ≠ some ' '

theorem layout_append (before after : List Char) :
    layout (before ++ '\n' :: after) = layout before ++ layout after := by
  rw [layout, splitAll_append, List.map_append]
  rfl

theorem layout_of_not_mem {line : List Char} (h : '\n' ∉ line) :
    layout line = [Line.ofText line] := by
  rw [layout, splitAll_of_not_mem h]
  rfl

/-- White space within a line that is put behind a text changes nothing. -/
theorem layout_append_blanks (text : List Char) {blanks : List Char} (hblank : IsBlank blanks)
    (hfeed : '\n' ∉ blanks) : layout (text ++ blanks) = layout text := by
  obtain ⟨fields, last, htext, hblanks⟩ := splitAll_append_of_not_mem text hfeed
  rw [layout, layout, htext, hblanks, List.map_append, List.map_append, List.map_singleton,
    List.map_singleton, ofText_append last hblank]

theorem layout_eq_append_noise (text : List Char) :
    ∃ rest, layout text = (lines text).map Line.ofText ++ rest ∧ ∀ line ∈ rest, line = .noise := by
  exact exists_map_splitAll_eq Line.ofText (fun line => ofText_append line isBlank_return) text

/-- Reading a lock file is reading its layout, but for the lines in which faults are. -/
theorem mapError_unplaced_read_eq_layout (content : List Char) :
    (read content).mapError Fault.unplaced = readOnto {} (layout content) := by
  obtain ⟨rest, hlayout, hnoise⟩ := layout_eq_append_noise content
  rw [mapError_unplaced_read, hlayout, readOnto_append_noise {} _ hnoise]

theorem read_eq_ok_iff {content : List Char} {set : DependencySet} :
    read content = .ok set ↔ readOnto {} (layout content) = .ok set := by
  rw [← mapError_unplaced_read_eq_layout]
  cases read content with
  | error fault => exact iff_of_false nofun nofun
  | ok other => exact Iff.rfl

theorem StartsUnindented.startsAtKey {text : List Char} (h : StartsUnindented text) :
    StartsAtKey (layout text) := by
  intro version hfind
  obtain ⟨rest, hlayout, hnoise⟩ := layout_eq_append_noise text
  have hrest : rest.find? (· ≠ .noise) = none := by simpa using hnoise
  -- Noise at the end of the layout cannot be the first entry found.
  rw [hlayout, List.find?_append, hrest, Option.or_none, List.find?_map,
    Option.map_eq_some_iff] at hfind
  obtain ⟨line, hline, hfield⟩ := hfind
  refine h line ?_ (head?_of_ofText_eq_field hfield)
  rw [← hline]
  congr 1
  funext other
  have hnoise : IsNoise other ↔ Line.ofText other = .noise := ofText_eq_noise_iff.symm
  simp [hnoise]

/-- A text that ends with a line leaves behind it an empty field, in which another text starts. -/
theorem EndsLine.exists_layout_eq {before : List Char} (h : EndsLine before) :
    ∃ ls, layout before = ls ++ [.noise] ∧
      ∀ after, layout (before ++ after) = ls ++ layout after := by
  rcases h with rfl | hlast
  · exact ⟨[], rfl, fun _ => rfl⟩
  · obtain ⟨front, rfl⟩ := List.getLast?_eq_some_iff.1 hlast
    refine ⟨layout front, layout_append front [], fun after => ?_⟩
    rw [List.append_assoc]
    exact layout_append front after

/-! ## Texts behind each other -/

/-- Reading goes on behind a text as if it started anew, with the dependencies found before. -/
theorem read_append_eq_ok_iff {before after : List Char} (hbefore : EndsLine before)
    (hafter : StartsUnindented after) :
    read (before ++ after) = .ok s ↔
      ∃ base, read before = .ok base ∧ readOnto base (layout after) = .ok s := by
  obtain ⟨ls, hends, happend⟩ := hbefore.exists_layout_eq
  have hlayout : readOnto {} (layout (before ++ after)) =
      readOnto {} (layout before ++ layout after) := by
    rw [happend, hends, List.append_assoc]
    exact (readOnto_append_cons (fun _ _ => rfl) _).symm
  simp only [read_eq_ok_iff]
  rw [hlayout]
  exact readOnto_append_eq_ok_iff hafter.startsAtKey

theorem Matches.exists_iff {α β : Type} {R : α → β → Prop} {x : Except Fault α}
    {y : Except Fault β} (h : Matches R x y) : (∃ a, x = .ok a) ↔ ∃ b, y = .ok b := by
  cases h with
  | ok h => exact iff_of_true ⟨_, rfl⟩ ⟨_, rfl⟩
  | error fault => exact iff_of_false nofun nofun

theorem exists_read_append_iff {before after : List Char} (hbefore : EndsLine before)
    (hafter : StartsUnindented after) :
    (∃ s, read (before ++ after) = .ok s) ↔
      (∃ s, read before = .ok s) ∧ ∃ s, read after = .ok s := by
  -- Whether the second text is read does not depend on what stood in front of it.
  have hsecond : ∀ base, (∃ s, readOnto base (layout after) = .ok s) ↔ ∃ s, read after = .ok s := by
    intro base
    simp only [read_eq_ok_iff]
    exact (readOnto_matches base _).exists_iff
  simp only [read_append_eq_ok_iff hbefore hafter]
  constructor
  · rintro ⟨s, base, hbase, hs⟩
    exact ⟨⟨base, hbase⟩, (hsecond base).1 ⟨s, hs⟩⟩
  · rintro ⟨⟨base, hbase⟩, hread⟩
    obtain ⟨s, hs⟩ := (hsecond base).2 hread
    exact ⟨s, base, hbase, hs⟩

/-- What is read together has the dependencies of both texts. -/
theorem addsTo_of_read_append {before after : List Char} (hbefore : EndsLine before)
    (hafter : StartsUnindented after) (h : read (before ++ after) = .ok s)
    (hbase : read before = .ok base) (ht : read after = .ok t) : AddsTo base s t := by
  obtain ⟨other, hother, hread⟩ := (read_append_eq_ok_iff hbefore hafter).1 h
  obtain rfl := Except.ok.inj (hother.symm.trans hbase)
  have hmatches := readOnto_matches other (layout after)
  rw [hread, read_eq_ok_iff.1 ht] at hmatches
  cases hmatches with
  | ok hadds => exact hadds

/-! ## Blocks -/

/-- A text of whole entries: it can stand at any place between others. -/
structure IsBlock (text : List Char) : Prop where
  endsLine : EndsLine text
  startsUnindented : StartsUnindented text

theorem isBlock_of_find? {text line : List Char} (hends : EndsLine text)
    (hfirst : (lines text).find? (fun line => ¬IsNoise line) = some line)
    (hline : line.head? ≠ some ' ') : IsBlock text := by
  refine ⟨hends, fun other hother => ?_⟩
  obtain rfl := Option.some.inj (hfirst.symm.trans hother)
  exact hline

theorem EndsLine.append {before after : List Char} (hbefore : EndsLine before)
    (hafter : EndsLine after) : EndsLine (before ++ after) := by
  rcases hafter with rfl | hlast
  · rwa [List.append_nil]
  · exact Or.inr (by simp [hlast])

theorem endsLine_flatten {blocks : List (List Char)} (h : ∀ b ∈ blocks, EndsLine b) :
    EndsLine blocks.flatten := by
  induction blocks with
  | nil => exact Or.inl rfl
  | cons b blocks ih =>
    obtain ⟨hb, hblocks⟩ := List.forall_mem_cons.1 h
    exact hb.append (ih hblocks)

/-- Blocks are read one behind the other exactly if each of them is, and they give together what
each of them gives. -/
theorem read_flatten {blocks : List (List Char)} (h : ∀ b ∈ blocks, IsBlock b) :
    ((∃ s, read blocks.flatten = .ok s) ↔ ∀ b ∈ blocks, ∃ s, read b = .ok s) ∧
      ∀ s, read blocks.flatten = .ok s →
        ∀ k, k ∈ s ↔ ∃ b ∈ blocks, ∃ t, read b = .ok t ∧ k ∈ t := by
  -- By induction from the end: the blocks in front of the last one end with a line.
  induction blocks using List.reverseRecOn with
  | nil =>
    refine ⟨iff_of_true ⟨{}, rfl⟩ nofun, fun s hs k => ?_⟩
    obtain rfl := Except.ok.inj hs
    simp [DependencySet.not_mem_empty]
  | append_singleton blocks last ih =>
    rw [List.forall_mem_append, List.forall_mem_singleton] at h
    obtain ⟨hblocks, hlast⟩ := h
    obtain ⟨hsucceeds, hmem⟩ := ih hblocks
    have hends : EndsLine blocks.flatten := endsLine_flatten fun b hb => (hblocks b hb).endsLine
    rw [List.flatten_append, List.flatten_singleton]
    have hboth := exists_read_append_iff hends hlast.startsUnindented
    constructor
    · rw [hboth, hsucceeds, List.forall_mem_append, List.forall_mem_singleton]
    · intro s hs k
      obtain ⟨⟨base, hbase⟩, t, ht⟩ := hboth.1 ⟨s, hs⟩
      rw [addsTo_of_read_append hends hlast.startsUnindented hs hbase ht k, hmem base hbase k]
      simp [or_and_right, exists_or, ht]

/-! ## Respacing -/

/-- A line that says nothing behind a text: noise, or a deep line behind an entry key. -/
def SaysNothing (before line : List Char) : Prop :=
  IsNoise line ∨ IsDeep line ∧ entries before ≠ []

/-- One step in respacing a text. -/
inductive Edit : (text edited : List Char) → Prop
  /-- Puts a line between others, or in front of them. -/
  | insert {before line after : List Char} (hbefore : EndsLine before) (hfeed : '\n' ∉ line)
      (h : SaysNothing before line) : Edit (before ++ after) (before ++ (line ++ '\n' :: after))
  /-- Puts a line behind the last one. -/
  | append {text line : List Char} (hfeed : '\n' ∉ line) (h : SaysNothing text line) :
      Edit text (text ++ '\n' :: line)
  /-- Puts white space at the end of a line. -/
  | trail {before blanks after : List Char} (hblank : IsBlank blanks) (hfeed : '\n' ∉ blanks)
      (hend : after = [] ∨ after.head? = some '\n') :
      Edit (before ++ after) (before ++ (blanks ++ after))
  /-- Puts a carriage return in front of a line feed. -/
  | crlf {before after : List Char} :
      Edit (before ++ '\n' :: after) (before ++ '\r' :: '\n' :: after)

theorem exists_key_of_entries_ne_nil {text : List Char} (h : entries text ≠ []) :
    ∃ entryKey, .key entryKey ∈ layout text := by
  obtain ⟨rest, hlayout, -⟩ := layout_eq_append_noise text
  suffices ∀ (ls : List Line) (number : Nat), entriesFrom ls number ≠ [] →
      ∃ entryKey, .key entryKey ∈ ls by
    obtain ⟨entryKey, hkey⟩ := this _ _ h
    exact ⟨entryKey, by rw [hlayout]; exact List.mem_append_left _ hkey⟩
  intro ls
  -- The entries are cut out of the lines, so that the induction is on these and their number.
  induction ls with
  | nil => exact fun _ hnil => absurd rfl hnil
  | cons line ls ih =>
    intro number hls
    cases line with
    | key entryKey => exact ⟨entryKey, List.mem_cons_self⟩
    | _ =>
      obtain ⟨entryKey, hkey⟩ := ih (number + 1) hls
      exact ⟨entryKey, List.mem_cons_of_mem _ hkey⟩

theorem readOnto_append_ofText {before : List Line} {line : List Char}
    (h : IsNoise line ∨ IsDeep line ∧ ∃ entryKey, .key entryKey ∈ before)
    (base : DependencySet) (after : List Line) :
    readOnto base (before ++ Line.ofText line :: after) = readOnto base (before ++ after) := by
  rcases h with hnoise | ⟨hdeep, hkey⟩
  · rw [ofText_eq_noise_iff.2 hnoise]
    exact readOnto_append_cons (fun _ _ => rfl) after
  · rcases ofText_of_isDeep hdeep with hline | hline
    · rw [hline]
      exact readOnto_append_cons (fun _ _ => rfl) after
    · rw [hline]
      exact readOnto_append_field hkey base after

/-- What says nothing in a text says nothing in its layout, of which noise at the end is no part. -/
theorem SaysNothing.of_layout {before line : List Char} {ls rest : List Line}
    (h : SaysNothing before line) (hlayout : layout before = ls ++ rest)
    (hnoise : ∀ l ∈ rest, l = .noise) :
    IsNoise line ∨ IsDeep line ∧ ∃ entryKey, .key entryKey ∈ ls := by
  refine h.imp_right fun ⟨hdeep, hentries⟩ => ⟨hdeep, ?_⟩
  obtain ⟨entryKey, hkey⟩ := exists_key_of_entries_ne_nil hentries
  rw [hlayout] at hkey
  rcases List.mem_append.1 hkey with hkey | hkey
  · exact ⟨entryKey, hkey⟩
  · exact nomatch hnoise _ hkey

theorem layout_append_blanks_append (before : List Char) {blanks after : List Char}
    (hblank : IsBlank blanks) (hfeed : '\n' ∉ blanks)
    (hend : after = [] ∨ after.head? = some '\n') :
    layout (before ++ (blanks ++ after)) = layout (before ++ after) := by
  rcases hend with rfl | hhead
  · rw [List.append_nil, List.append_nil, layout_append_blanks before hblank hfeed]
  · obtain ⟨rest, rfl⟩ := List.head?_eq_some_iff.1 hhead
    rw [← List.append_assoc, layout_append, layout_append, layout_append_blanks before hblank hfeed]

/-- Respacing a text step by step changes nothing that is read. -/
theorem Edit.readOnto_eq {text edited : List Char} (h : Edit text edited) :
    readOnto {} (layout text) = readOnto {} (layout edited) := by
  cases h with
  -- A line that feeds the fold nothing may stand between any two lines.
  | insert hbefore hfeed h =>
    obtain ⟨ls, hends, happend⟩ := hbefore.exists_layout_eq
    have hline := h.of_layout hends (by simp)
    rw [happend, happend, layout_append, layout_of_not_mem hfeed]
    exact (readOnto_append_ofText hline {} _).symm
  | append hfeed h =>
    have hline := h.of_layout (List.append_nil _).symm nofun
    rw [layout_append, layout_of_not_mem hfeed, readOnto_append_ofText hline, List.append_nil]
  | trail hblank hfeed hend => rw [layout_append_blanks_append _ hblank hfeed hend]
  | @crlf before after =>
    have hlayout := layout_append_blanks_append before isBlank_return (by decide)
      (Or.inr (show ('\n' :: after).head? = some '\n' from rfl))
    rw [← hlayout]
    rfl

/-! ## Main result -/

/-- Of two texts, of which the first one ends with a line and the second one starts unindented, the
one behind the other is read exactly if both are read, and gives the union of what they give.
Texts made of the same blocks, in any order and number, are therefore read alike. Respacing, back
and forth, changes neither the dependencies nor the fault, but for the line that it is in. -/
theorem read_append_and_respace :
    (∀ before after, EndsLine before → StartsUnindented after →
      ((∃ s, read (before ++ after) = .ok s) ↔
        (∃ s, read before = .ok s) ∧ ∃ s, read after = .ok s) ∧
      ∀ s a b, read (before ++ after) = .ok s → read before = .ok a → read after = .ok b →
        s.toList = (a.union b).toList) ∧
    (∀ blocks others : List (List Char), (∀ b ∈ blocks, IsBlock b) →
      (∀ b, b ∈ blocks ↔ b ∈ others) →
      ((∃ s, read blocks.flatten = .ok s) ↔ ∃ s, read others.flatten = .ok s) ∧
      ∀ s t, read blocks.flatten = .ok s → read others.flatten = .ok t → s.toList = t.toList) ∧
    ∀ text edited, Relation.EqvGen Edit text edited →
      (∀ s, read text = .ok s ↔ read edited = .ok s) ∧
      (read text).mapError Fault.unplaced = (read edited).mapError Fault.unplaced := by
  refine ⟨fun before after hbefore hafter => ⟨exists_read_append_iff hbefore hafter, ?_⟩,
    fun blocks others hblocks hsame => ?_, fun text edited hedits => ?_⟩
  · intro s a b hs ha hb
    refine DependencySet.toList_eq_of_mem_iff fun k => ?_
    rw [addsTo_of_read_append hbefore hafter hs ha hb k, DependencySet.mem_union]
  · have hothers : ∀ b ∈ others, IsBlock b := fun b hb => hblocks b ((hsame b).2 hb)
    obtain ⟨hblocks, hmem⟩ := read_flatten hblocks
    obtain ⟨hothers, hmemOthers⟩ := read_flatten hothers
    constructor
    · simp only [hblocks, hothers, hsame]
    · intro s t hs ht
      refine DependencySet.toList_eq_of_mem_iff fun k => ?_
      simp only [hmem s hs k, hmemOthers t ht k, hsame]
  -- Each edit keeps the reading, and what one edit keeps, any chain of them keeps.
  · have hread : readOnto {} (layout text) = readOnto {} (layout edited) := by
      induction hedits with
      | rel _ _ hedit => exact hedit.readOnto_eq
      | refl _ => rfl
      | symm _ _ _ ih => exact ih.symm
      | trans _ _ _ _ _ ih₁ ih₂ => exact ih₁.trans ih₂
    refine ⟨fun s => ?_, ?_⟩
    · rw [read_eq_ok_iff, read_eq_ok_iff, hread]
    · rw [mapError_unplaced_read_eq_layout, mapError_unplaced_read_eq_layout, hread]

def lodashBlock : List Char :=
  "lodash@^4.0.0:\n  version \"4.17.21\"\n".toList

def reactBlock : List Char :=
  "react@^18.0.0:\n  version \"18.2.0\"\n".toList

/-- The text of `lodashBlock` with a carriage return, a comment and a line of a deeper field. -/
def respacedBlock : List Char :=
  "lodash@^4.0.0:\r\n# pinned\n  version \"4.17.21\"\n    version \"9.9.9\"\n".toList

/-- Two blocks in one order and in another one, in which one of them stands twice, and one of them
respaced. -/
theorem lodashBlock_and_reactBlock :
    ∃ a b s, read lodashBlock = .ok a ∧ a.toList = [⟨"lodash", "4.17.21"⟩] ∧
      read reactBlock = .ok b ∧ b.toList = [⟨"react", "18.2.0"⟩] ∧
      read (lodashBlock ++ reactBlock) = .ok s ∧ s.toList = (a.union b).toList ∧
      (∃ t, read (reactBlock ++ lodashBlock ++ reactBlock) = .ok t ∧ t.toList = s.toList) ∧
      read respacedBlock = .ok a := by
  obtain ⟨happend, hreorder, hrespace⟩ := read_append_and_respace
  have hlodash : IsBlock lodashBlock :=
    isBlock_of_find? (Or.inr (by decide +kernel))
      (show _ = some "lodash@^4.0.0:".toList by decide +kernel) (by decide)
  have hreact : IsBlock reactBlock :=
    isBlock_of_find? (Or.inr (by decide +kernel))
      (show _ = some "react@^18.0.0:".toList by decide +kernel) (by decide)
  -- Each edit respaces the text a little more: the line end, a comment, a deep line.
  have hstep : ∀ {text edited text' edited' : List Char}, Edit text edited → text' = text →
      edited = edited' → Relation.EqvGen Edit text' edited' := by
    rintro _ _ _ _ h rfl rfl
    exact .rel _ _ h
  have hreturn : Relation.EqvGen Edit lodashBlock
      "lodash@^4.0.0:\r\n  version \"4.17.21\"\n".toList :=
    hstep (@Edit.crlf "lodash@^4.0.0:".toList "  version \"4.17.21\"\n".toList)
      (by decide +kernel) (by decide +kernel)
  have hcomment : Relation.EqvGen Edit "lodash@^4.0.0:\r\n  version \"4.17.21\"\n".toList
      "lodash@^4.0.0:\r\n# pinned\n  version \"4.17.21\"\n".toList :=
    hstep (@Edit.insert "lodash@^4.0.0:\r\n".toList "# pinned".toList
        "  version \"4.17.21\"\n".toList (Or.inr (by decide +kernel)) (by decide +kernel)
        (Or.inl (Or.inr ⟨[], " pinned".toList, rfl, nofun⟩)))
      (by decide +kernel) (by decide +kernel)
  have hdeep : Relation.EqvGen Edit "lodash@^4.0.0:\r\n# pinned\n  version \"4.17.21\"\n".toList
      respacedBlock :=
    hstep (@Edit.insert "lodash@^4.0.0:\r\n# pinned\n  version \"4.17.21\"\n".toList
        "    version \"9.9.9\"".toList [] (Or.inr (by decide +kernel)) (by decide +kernel)
        (Or.inr ⟨⟨_, rfl⟩, by decide +kernel⟩))
      (by decide +kernel) (by decide +kernel)
  have hedits : Relation.EqvGen Edit lodashBlock respacedBlock :=
    .trans _ _ _ hreturn (.trans _ _ _ hcomment hdeep)
  have hreadLodash : (read lodashBlock).toOption.map DependencySet.toList =
      some [⟨"lodash", "4.17.21"⟩] := by decide +kernel
  have hreadReact : (read reactBlock).toOption.map DependencySet.toList =
      some [⟨"react", "18.2.0"⟩] := by decide +kernel
  obtain ⟨a, ha, hakeys⟩ := DependencySet.exists_eq_ok_of_toList hreadLodash
  obtain ⟨b, hb, hbkeys⟩ := DependencySet.exists_eq_ok_of_toList hreadReact
  obtain ⟨hsucceeds, hunion⟩ := happend _ _ hlodash.endsLine hreact.startsUnindented
  obtain ⟨s, hs⟩ := hsucceeds.2 ⟨⟨a, ha⟩, b, hb⟩
  obtain ⟨hboth, hsame⟩ := hreorder [lodashBlock, reactBlock] [reactBlock, lodashBlock, reactBlock]
    (by simp [hlodash, hreact]) (by simp [or_comm])
  obtain ⟨t, ht⟩ := hboth.1 ⟨s, by simpa using hs⟩
  refine ⟨a, b, s, ha, hakeys, hb, hbkeys, hs, hunion s a b hs ha hb, ⟨t, by simpa using ht, ?_⟩,
    ((hrespace _ _ hedits).1 a).1 ha⟩
  exact (hsame s t (by simpa using hs) ht).symm

end DepTriage.Yarn
