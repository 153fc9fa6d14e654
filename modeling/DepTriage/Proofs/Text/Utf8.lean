import DepTriage.Proofs.Archive.Bytes
import DepTriage.Proofs.Text.ByteOrder
import DepTriage.Text.Utf8
import Mathlib.Tactic.SplitIfs

/-!
# Texts in UTF-8

The bytes of a text decode to the text: the bytes of each character are one step, and there is no
fault between them.

## Key results

- `utf8Step_utf8EncodeChar`: the bytes of a character are one step
- `decode_toUTF8`: the bytes of a text decode to it
-/

namespace DepTriage.Text

/-! ## Characters -/

theorem continuationBits_ofNat {n : Nat} (h : n < 64) :
    continuationBits (UInt8.ofNat (n + 128)) = n := by
  rw [continuationBits, UInt8.toNat_ofNat']
  omega

theorem isContinuation_ofNat {n : Nat} (h : n < 64) :
    isContinuation (UInt8.ofNat (n + 128)) := by
  simp only [isContinuation, Bool.and_eq_true, decide_eq_true_eq, UInt8.le_iff_toNat_le,
    UInt8.lt_iff_toNat_lt, UInt8.toNat_ofNat', UInt8.reduceToNat]
  omega

/-- The second byte of a character may follow the first one if the character needs so many bytes,
and if it is no surrogate and not too great. -/
theorem isSecondByte_ofNat (first : Nat) {n : Nat} (hfirst : first < 256) (h : n < 64)
    (hlong : (first = 0xE0 → 0x20 ≤ n) ∧ (first = 0xF0 → 0x10 ≤ n))
    (hgreat : (first = 0xED → n < 0x20) ∧ (first = 0xF4 → n < 0x10)) :
    isSecondByte (UInt8.ofNat first) (UInt8.ofNat (n + 128)) := by
  simp only [isSecondByte, isContinuation, ← UInt8.toNat_inj, UInt8.le_iff_toNat_le,
    UInt8.lt_iff_toNat_lt, UInt8.toNat_ofNat', UInt8.reduceToNat]
  split_ifs <;> simp <;> omega

/-- The bytes of a character are one step, whatever follows them. -/
theorem utf8Step_utf8EncodeChar {c : Char} {b : UInt8} {bytes : List UInt8}
    (h : String.utf8EncodeChar c = b :: bytes) (rest : List UInt8) :
    utf8Step b (bytes ++ rest) = .char c (bytes.length + 1) := by
  have hvalid : c.val.toNat < 0xD800 ∨ 0xDFFF < c.val.toNat ∧ c.val.toNat < 0x110000 := by
    have hc := c.valid
    simp only [UInt32.isValidChar, Nat.isValidChar] at hc
    omega
  have hofNat : ∀ n, n = c.val.toNat → Char.ofNat n = c := fun n hn => hn ▸ Char.ofNat_toNat c
  unfold String.utf8EncodeChar at h
  generalize c.val.toNat = v at h hvalid hofNat
  dsimp only at h
  -- One case for each number of bytes: the bits are put together to what they were taken from.
  split_ifs at h <;> cases h
  · simp only [utf8Step, UInt8.toNat_ofNat']
    rw [if_pos (by omega), hofNat _ (by omega)]
    rfl
  · have hsecond := isSecondByte_ofNat (v / 64 % 32 + 192) (n := v % 64) (by omega)
      (by omega) (by omega) (by omega)
    simp only [utf8Step, UInt8.toNat_ofNat', List.cons_append, hsecond,
      continuationBits_ofNat (n := v % 64) (by omega)]
    rw [if_neg (by omega), if_neg (by simp; omega), if_neg (by simp), if_pos (by omega),
      hofNat _ (by omega)]
    rfl
  · have hsecond := isSecondByte_ofNat (v / 4096 % 16 + 224) (n := v / 64 % 64) (by omega)
      (by omega) (by omega) (by omega)
    simp only [utf8Step, UInt8.toNat_ofNat', List.cons_append, hsecond,
      isContinuation_ofNat (n := v % 64) (by omega),
      continuationBits_ofNat (n := v / 64 % 64) (by omega),
      continuationBits_ofNat (n := v % 64) (by omega)]
    rw [if_neg (by omega), if_neg (by simp; omega), if_neg (by simp), if_neg (by omega),
      if_neg (by simp), if_pos (by omega), hofNat _ (by omega)]
    rfl
  · have hsecond := isSecondByte_ofNat (v / 262144 % 8 + 240) (n := v / 4096 % 64)
      (by omega) (by omega) (by omega) (by omega)
    simp only [utf8Step, UInt8.toNat_ofNat', List.cons_append, hsecond,
      isContinuation_ofNat (n := v / 64 % 64) (by omega),
      isContinuation_ofNat (n := v % 64) (by omega),
      continuationBits_ofNat (n := v / 4096 % 64) (by omega),
      continuationBits_ofNat (n := v / 64 % 64) (by omega),
      continuationBits_ofNat (n := v % 64) (by omega)]
    rw [if_neg (by omega), if_neg (by simp; omega), if_neg (by simp), if_neg (by omega),
      if_neg (by simp), if_neg (by omega), if_neg (by simp), hofNat _ (by omega)]
    rfl

/-! ## Texts -/

/-- Bytes that are done with are skipped. -/
private theorem firstFault?_append (done rest : List UInt8) (start : Nat) :
    firstFault? (done ++ rest) done.length start = firstFault? rest 0 (start + done.length) := by
  induction done generalizing start with
  | nil => rfl
  | cons b done ih =>
    rw [List.cons_append, List.length_cons, firstFault?, ih, Nat.add_right_comm, Nat.add_assoc]

private theorem decodeOnto_append (onFault : List UInt8 → List Char) (done rest : List UInt8)
    (chars : List Char) :
    decodeOnto onFault (done ++ rest) done.length chars = decodeOnto onFault rest 0 chars := by
  induction done with
  | nil => rfl
  | cons b done ih => rw [List.cons_append, List.length_cons, decodeOnto, ih]

private theorem firstFault?_flatMap (cs : List Char) (start : Nat) :
    firstFault? (cs.flatMap String.utf8EncodeChar) 0 start = none := by
  induction cs generalizing start with
  | nil => rfl
  | cons c cs ih =>
    -- The first byte gives the character, and the other bytes of it are skipped.
    obtain ⟨b, bytes, hbytes⟩ := List.exists_cons_of_ne_nil (String.utf8EncodeChar_ne_nil (c := c))
    rw [List.flatMap_cons, hbytes, List.cons_append, firstFault?, utf8Step_utf8EncodeChar hbytes]
    exact (firstFault?_append bytes _ _).trans (ih _)

private theorem decodeOnto_flatMap (onFault : List UInt8 → List Char) (cs chars : List Char) :
    decodeOnto onFault (cs.flatMap String.utf8EncodeChar) 0 chars = chars.reverse ++ cs := by
  induction cs generalizing chars with
  | nil => rw [List.flatMap_nil, decodeOnto, List.append_nil]
  | cons c cs ih =>
    obtain ⟨b, bytes, hbytes⟩ := List.exists_cons_of_ne_nil (String.utf8EncodeChar_ne_nil (c := c))
    rw [List.flatMap_cons, hbytes, List.cons_append, decodeOnto, utf8Step_utf8EncodeChar hbytes]
    refine (decodeOnto_append onFault bytes _ _).trans ?_
    rw [ih, List.reverse_cons, List.append_assoc, List.singleton_append]

/-- The bytes of a text have no faults. -/
theorem decodeOnto_toUTF8 (onFault : List UInt8 → List Char) (s : String) :
    decodeOnto onFault s.toUTF8.toList 0 [] = s.toList := by
  rw [Archive.Bytes.toList_eq_data_toList]
  show decodeOnto onFault (bytes s) 0 [] = s.toList
  rw [bytes_eq_flatMap, decodeOnto_flatMap, List.reverse_nil, List.nil_append]

/-- The bytes of a text decode to it. -/
theorem decode_toUTF8 (s : String) : decode s.toUTF8.toList = .ok s := by
  have hsound : firstFault? s.toUTF8.toList 0 0 = none := by
    rw [Archive.Bytes.toList_eq_data_toList]
    show firstFault? (bytes s) 0 0 = none
    rw [bytes_eq_flatMap, firstFault?_flatMap]
  rw [decode, hsound, decodeLossy, decodeOnto_toUTF8, String.ofList_toList]

theorem decode?_toUTF8 (s : String) : decode? s.toUTF8.toList = some s := by
  rw [decode?, decode_toUTF8]
  rfl

end DepTriage.Text
