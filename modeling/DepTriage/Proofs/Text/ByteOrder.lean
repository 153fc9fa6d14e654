/-! # The order of texts

Texts are compared by their characters, from the first one on. Since UTF-8 puts greater characters
into greater bytes, this is the same as to compare their bytes.

## Key results

- `utf8EncodeChar_lt`: of two different characters, the bytes already tell the order
- `lt_iff_bytes_lt`: the order of texts is the order of their bytes
- `compare_eq_lt_iff`: the same for comparisons
-/

namespace DepTriage.Text

/-- The bytes of a text in UTF-8. -/
def bytes (s : String) : List UInt8 :=
  s.toUTF8.data.toList

/-- The bytes of a text are those of its characters. -/
theorem bytes_eq_flatMap (s : String) : bytes s = s.toList.flatMap String.utf8EncodeChar := by
  rw [bytes, ← String.ofList_toList (s := s), String.toUTF8_eq_toByteArray,
    String.toByteArray_ofList, String.toList_ofList]
  exact List.toList_data_toByteArray

/-- A smaller first byte decides. -/
private theorem cons_lt_of_lt {m n : Nat} (hn : n < 256) (h : m < n) (s t : List UInt8) :
    UInt8.ofNat m :: s < UInt8.ofNat n :: t := by
  rw [List.cons_lt_cons_iff, UInt8.lt_iff_toNat_lt, UInt8.toNat_ofNat', UInt8.toNat_ofNat']
  exact Or.inl (by omega)

/-- The first bytes decide, and where they agree the rest does. -/
private theorem cons_lt_of_le {m n : Nat} (hn : n < 256) (h : m ≤ n) {s t : List UInt8}
    (hrest : m = n → s < t) : UInt8.ofNat m :: s < UInt8.ofNat n :: t := by
  rcases Nat.lt_or_eq_of_le h with hlt | rfl
  · exact cons_lt_of_lt hn hlt s t
  · rw [List.cons_lt_cons_iff]
    exact Or.inr ⟨rfl, hrest rfl⟩

/-- Of two different characters, the bytes tell the order whatever follows them. -/
theorem utf8EncodeChar_lt {c d : Char} (h : c < d) (s t : List UInt8) :
    String.utf8EncodeChar c ++ s < String.utf8EncodeChar d ++ t := by
  have hlt : c.val.toNat < d.val.toNat := UInt32.lt_iff_toNat_lt.1 h
  have hvalid : d.val.toNat < 0x110000 := by
    have hd := d.valid
    simp only [UInt32.isValidChar, Nat.isValidChar] at hd
    omega
  unfold String.utf8EncodeChar
  generalize c.val.toNat = m at hlt
  generalize d.val.toNat = n at hlt hvalid
  dsimp only
  -- With as many bytes on both sides, the digits are compared one after the other; with fewer on
  -- the left, the first byte decides; with more, the left character would be the greater one.
  split
  · split
    · exact cons_lt_of_lt (by omega) hlt _ _
    · split
      · exact cons_lt_of_lt (by omega) (by omega) _ _
      · split <;> exact cons_lt_of_lt (by omega) (by omega) _ _
  · split
    · rw [if_neg (by omega)]
      split
      · exact cons_lt_of_le (by omega) (by omega) fun _ =>
          cons_lt_of_lt (by omega) (by omega) _ _
      · split <;> exact cons_lt_of_lt (by omega) (by omega) _ _
    · split
      · rw [if_neg (by omega), if_neg (by omega)]
        split
        · exact cons_lt_of_le (by omega) (by omega) fun _ =>
            cons_lt_of_le (by omega) (by omega) fun _ =>
              cons_lt_of_lt (by omega) (by omega) _ _
        · exact cons_lt_of_lt (by omega) (by omega) _ _
      · rw [if_neg (by omega), if_neg (by omega), if_neg (by omega)]
        exact cons_lt_of_le (by omega) (by omega) fun _ =>
          cons_lt_of_le (by omega) (by omega) fun _ =>
            cons_lt_of_le (by omega) (by omega) fun _ =>
              cons_lt_of_lt (by omega) (by omega) _ _

/-- The first place where two lists of characters differ is where their bytes differ. -/
private theorem flatMap_lt {cs ds : List Char} (h : cs < ds) :
    cs.flatMap String.utf8EncodeChar < ds.flatMap String.utf8EncodeChar := by
  induction cs generalizing ds with
  | nil =>
    cases ds with
    | nil => exact absurd h (List.lt_irrefl _)
    | cons d ds =>
      cases hd : String.utf8EncodeChar d with
      | nil => exact absurd hd String.utf8EncodeChar_ne_nil
      | cons b bs =>
        rw [List.flatMap_cons, hd]
        exact List.nil_lt_cons _ _
  | cons c cs ih =>
    cases ds with
    | nil => exact absurd h (List.not_lt_nil _)
    | cons d ds =>
      rw [List.flatMap_cons, List.flatMap_cons]
      -- The first characters that differ decide, and before them both encodings are the same.
      rcases List.cons_lt_cons_iff.1 h with hlt | ⟨rfl, hrest⟩
      · exact utf8EncodeChar_lt hlt _ _
      · exact List.append_left_lt (ih hrest)

/-- Texts are in the order of their bytes. -/
theorem lt_iff_bytes_lt {a b : String} : a < b ↔ bytes a < bytes b := by
  rw [bytes_eq_flatMap, bytes_eq_flatMap]
  constructor
  · exact flatMap_lt
  · intro h
    rcases Std.lt_trichotomy a b with hab | rfl | hba
    · exact hab
    · exact absurd h (List.lt_irrefl _)
    · exact absurd (flatMap_lt hba) (List.lt_asymm h)

theorem compare_eq_lt_iff {a b : String} : compare a b = .lt ↔ bytes a < bytes b := by
  rw [← lt_iff_bytes_lt]
  show compareOfLessAndEq a b = .lt ↔ a < b
  rw [compareOfLessAndEq_eq_lt]

end DepTriage.Text
