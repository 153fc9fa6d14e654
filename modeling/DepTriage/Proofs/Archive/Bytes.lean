import DepTriage.Archive.Bits

/-!
# Byte arrays as lists

Archives are read by indices of byte arrays, whose loops do not reduce. Here each way of reading
bytes is given by the list of the bytes, in which a given archive can be computed.

## Key results

- `toList_toByteArray`, `extract_toByteArray`, `foldl_toByteArray`, `byteAt_toByteArray`: the list
  of a byte array, a part of it, a fold over it, and a byte in it.
-/

namespace DepTriage.Archive.Bytes

theorem toList_loop_eq (bytes : ByteArray) (i : Nat) (before : List UInt8) :
    ByteArray.toList.loop bytes i before = before.reverse ++ bytes.data.toList.drop i := by
  fun_induction ByteArray.toList.loop bytes i before with
  | case1 i before hi ih =>
    have hlength : i < bytes.data.toList.length := hi
    have hget : bytes.get! i = bytes.data.toList[i] := getElem!_pos bytes.data i hi
    rw [ih, hget, List.drop_eq_getElem_cons hlength]
    simp
  | case2 i before hi =>
    rw [List.drop_eq_nil_of_le (Nat.not_lt.1 hi), List.append_nil]

theorem toList_eq_data_toList (bytes : ByteArray) : bytes.toList = bytes.data.toList :=
  toList_loop_eq bytes 0 []

theorem toList_toByteArray (l : List UInt8) : l.toByteArray.toList = l := by
  rw [toList_eq_data_toList, List.toList_data_toByteArray]

theorem extract_toByteArray (l : List UInt8) (start stop : Nat) :
    l.toByteArray.extract start stop = ((l.drop start).take (stop - start)).toByteArray := by
  apply ByteArray.ext
  rw [ByteArray.data_extract, List.data_toByteArray, List.data_toByteArray]
  simp [List.extract_eq_take_drop]

theorem foldlM_loop_eq {β : Type} (f : β → UInt8 → β) (bytes : ByteArray) {i j : Nat} (init : β)
    (h : i + j = bytes.size) :
    ByteArray.foldlM.loop (m := Id) (fun b x => pure (f b x)) bytes bytes.size (Nat.le_refl _) i j
      init = (bytes.data.toList.drop j).foldl f init := by
  have hlength : bytes.data.toList.length = bytes.size := Array.length_toList
  -- By induction on the number of bytes that are left; the next one is at `j`.
  induction i generalizing j init with
  | zero =>
    rw [ByteArray.foldlM.loop, dif_neg (by omega), List.drop_eq_nil_of_le (by omega)]
    rfl
  | succ i ih =>
    rw [ByteArray.foldlM.loop, dif_pos (by omega), List.drop_eq_getElem_cons (by omega)]
    exact ih _ (by omega)

theorem foldl_eq_foldl_data {β : Type} (f : β → UInt8 → β) (bytes : ByteArray) (init : β) :
    bytes.foldl f init = bytes.data.toList.foldl f init := by
  rw [ByteArray.foldl, ByteArray.foldlM, dif_pos (Nat.le_refl _)]
  exact foldlM_loop_eq f bytes init (by omega)

theorem foldl_toByteArray {β : Type} (f : β → UInt8 → β) (l : List UInt8) (init : β) :
    l.toByteArray.foldl f init = l.foldl f init := by
  rw [foldl_eq_foldl_data, List.toList_data_toByteArray]

theorem byteAt_toByteArray (l : List UInt8) (i : Nat) :
    BitReader.byteAt l.toByteArray i = l.getD i 0 := by
  rw [BitReader.byteAt, List.getD_eq_getElem?_getD]
  split
  · next hi =>
    have hlength : i < l.length := by rwa [List.size_toByteArray] at hi
    rw [List.getElem?_eq_getElem hlength]
    simp [ByteArray.getElem_eq_getElem_data]
  · next hi =>
    rw [List.size_toByteArray] at hi
    rw [List.getElem?_eq_none (Nat.not_lt.1 hi)]
    rfl

end DepTriage.Archive.Bytes
