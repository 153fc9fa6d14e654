import DepTriage.Registry.SemanticVersion

/-!
# Versions and their texts

The numbers of a version have no zeros in front, and its labels are kept as they are written. So no
version has two texts, and comparing versions part by part is comparing their texts.

## Key results

- `SemanticVersion.toList_eq_text`: a version is read from one text only
- `sameVersion_iff_eq`: texts name the same version only if they are equal
-/

namespace DepTriage

namespace SemanticVersion

/-! ## Numbers -/

/-- The digit that a character stands for is written as the character. -/
theorem toDigits_digit {c : Char} (h : c.isDigit) :
    Nat.toDigits 10 (c.toNat - '0'.toNat) = [c] := by
  -- The character is one of ten that follow each other.
  have hrange : 48 ≤ c.toNat ∧ c.toNat ≤ 57 := Char.isDigit_iff_toNat.1 h
  have hzero : '0'.toNat = 48 := rfl
  have hlt : c.toNat - '0'.toNat < 10 := by omega
  have hchar : (c.toNat - '0'.toNat).digitChar = c := by
    apply Char.toNat_inj.1
    rw [Nat.toNat_digitChar_of_lt_ten hlt]
    omega
  rw [Nat.toDigits_of_lt_base hlt, hchar]

/-- Digits behind a positive number make a number that is written with them. -/
theorem toDigits_append {n : Nat} (hn : 0 < n) {digits : List Char}
    (hdigits : ∀ c ∈ digits, c.isDigit) :
    Nat.toDigits 10 n ++ digits = Nat.toDigits 10 (Nat.ofDigitChars 10 digits n) := by
  -- The number stays positive with each digit that it takes, so that it never starts with a zero.
  induction digits generalizing n with
  | nil => rw [List.append_nil, Nat.ofDigitChars_nil]
  | cons c digits ih =>
    obtain ⟨hc, hrest⟩ := List.forall_mem_cons.1 hdigits
    have hrange : 48 ≤ c.toNat ∧ c.toNat ≤ 57 := Char.isDigit_iff_toNat.1 hc
    have hzero : '0'.toNat = 48 := rfl
    calc Nat.toDigits 10 n ++ c :: digits
      _ = (Nat.toDigits 10 n ++ [c]) ++ digits := by simp
      _ = Nat.toDigits 10 (10 * n + (c.toNat - '0'.toNat)) ++ digits := by
        rw [← toDigits_digit hc, Nat.toDigits_append_toDigits (by decide) hn (by omega)]
      _ = Nat.toDigits 10 (Nat.ofDigitChars 10 (c :: digits) n) := by
        rw [ih (by omega) hrest, Nat.ofDigitChars_cons]

/-- Digits without a zero in front are how their number is written. -/
theorem toDigits_ofDigitChars {digits : List Char} (hne : digits ≠ [])
    (hdigits : ∀ c ∈ digits, c.isDigit) (hunpadded : isUnpadded digits) :
    Nat.toDigits 10 (Nat.ofDigitChars 10 digits 0) = digits := by
  obtain ⟨c, rest, rfl⟩ := List.exists_cons_of_ne_nil hne
  obtain ⟨hc, hrest⟩ := List.forall_mem_cons.1 hdigits
  rw [Nat.ofDigitChars_cons, Nat.mul_zero, Nat.zero_add]
  by_cases hzero : c.toNat - '0'.toNat = 0
  · -- A zero stands alone.
    have hchar : [c] = ['0'] := by rw [← toDigits_digit hc, hzero, Nat.toDigits_zero]
    obtain rfl : c = '0' := List.head_eq_of_cons_eq hchar
    cases rest with
    | nil => exact toDigits_digit hc
    | cons _ _ => cases hunpadded
  · rw [← toDigits_append (Nat.pos_of_ne_zero hzero) hrest, toDigits_digit hc,
      List.singleton_append]

/-- A number is read from the digits that it is written with. -/
theorem eq_of_readPart? {cs : List Char} {n : Nat} {rest : List Char}
    (h : readPart? cs = some (n, rest)) : cs = Nat.toDigits 10 n ++ rest := by
  obtain ⟨hpart, hread⟩ := Option.ite_none_left_eq_some.1 h
  simp only [Bool.or_eq_true, Bool.not_eq_true', not_or, Bool.not_eq_true, Bool.not_eq_false]
    at hpart
  obtain ⟨⟨hne, hunpadded⟩, -⟩ := hpart
  have hdigits : ∀ c ∈ cs.takeWhile Char.isDigit, c.isDigit :=
    List.all_eq_true.1 List.all_takeWhile
  have hwritten := toDigits_ofDigitChars (by simpa using hne) hdigits hunpadded
  simp only [Option.some.injEq, Prod.mk.injEq] at hread
  obtain ⟨rfl, rfl⟩ := hread
  calc cs
    _ = cs.takeWhile Char.isDigit ++ cs.dropWhile Char.isDigit :=
      List.takeWhile_append_dropWhile.symm
    _ = _ := congrArg (· ++ cs.dropWhile Char.isDigit) hwritten.symm

theorem eq_of_readDot? {cs rest : List Char} (h : readDot? cs = some rest) : cs = '.' :: rest := by
  unfold readDot? at h
  split at h
  · cases h
    rfl
  · cases h

/-! ## Labels -/

/-- A label behind its mark. Without a label there is no mark. -/
def labelText (mark : Char) (label : List Char) : List Char :=
  if label = [] then [] else mark :: label

/-- A label is read as it stands behind its mark. A mark without a label cannot be read. -/
theorem eq_of_readMarked? {mark : Char} {unpadded : Bool} {cs label rest : List Char}
    (h : readMarked? mark unpadded cs = some (label, rest)) :
    cs = labelText mark label ++ rest := by
  unfold readMarked? at h
  split at h
  · next c cs =>
    split at h
    · next hmark =>
      obtain ⟨hlabel, hread⟩ := Option.ite_none_right_eq_some.1 h
      cases hread
      -- Without a character between the dots a label is refused, also if there is no dot.
      have hne : cs.takeWhile (fun c => isLabelChar c || c == '.') ≠ [] := by
        intro hnil
        rw [hnil] at hlabel
        cases hlabel
      rw [labelText, if_neg hne, List.cons_append, List.takeWhile_append_dropWhile,
        beq_iff_eq.1 hmark]
    · cases h
      rfl
  · cases h
    rfl

/-! ## Versions -/

/-- How a version is written. -/
def text (v : SemanticVersion) : List Char :=
  Nat.toDigits 10 v.major ++ '.' :: (Nat.toDigits 10 v.minor ++ '.' :: (Nat.toDigits 10 v.patch
    ++ (labelText '-' v.preRelease ++ labelText '+' v.build)))

/-- **A version is read from one text only.** -/
theorem toList_eq_text {t : String} {v : SemanticVersion} (h : read? t = some v) :
    t.toList = v.text := by
  -- Reading is a sequence of steps, each of which takes its part off the front of the text.
  simp only [read?, Option.bind_eq_bind, Option.bind_eq_some_iff] at h
  obtain ⟨⟨major, _⟩, hmajor, _, hdot, ⟨minor, _⟩, hminor, _, hdot', ⟨patch, _⟩, hpatch,
    ⟨preRelease, _⟩, hpreRelease, ⟨build, rest⟩, hbuild, h⟩ := h
  obtain ⟨hrest, hv⟩ := Option.ite_none_right_eq_some.1 h
  cases hv
  dsimp only at hdot hdot' hpreRelease hbuild hrest
  rw [eq_of_readPart? hmajor, eq_of_readDot? hdot, eq_of_readPart? hminor, eq_of_readDot? hdot',
    eq_of_readPart? hpatch, eq_of_readMarked? hpreRelease, eq_of_readMarked? hbuild,
    List.isEmpty_iff.1 hrest, List.append_nil, text]

end SemanticVersion

open SemanticVersion in
/-- **Texts name the same version only if they are equal.** -/
theorem sameVersion_iff_eq {a b : String} : sameVersion a b ↔ a = b := by
  unfold sameVersion
  split
  -- Two readable versions are equal as texts because each is written back from what was read.
  · next v w hv hw =>
    constructor
    · intro h
      apply String.toList_injective
      rw [toList_eq_text hv, toList_eq_text hw, beq_iff_eq.1 h]
    · rintro rfl
      rw [Option.some.inj (hv.symm.trans hw)]
      exact beq_self_eq_true w
  · exact beq_iff_eq

end DepTriage
