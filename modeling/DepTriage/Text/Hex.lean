/-! # Hexadecimal digits

The value of a digit and of a run of digits. -/

namespace DepTriage.Text

def hexDigit? (c : Char) : Option Nat :=
  if '0' ≤ c ∧ c ≤ '9' then some (c.toNat - '0'.toNat)
  else if 'a' ≤ c ∧ c ≤ 'f' then some (c.toNat - 'a'.toNat + 10)
  else if 'A' ≤ c ∧ c ≤ 'F' then some (c.toNat - 'A'.toNat + 10)
  else none

/-- Reads exactly `count` digits onto `value` and gives the number and what follows. -/
def takeHex : (count : Nat) → List Char → (value : Nat) → Option (Nat × List Char)
  | 0, cs, value => some (value, cs)
  | count + 1, c :: cs, value =>
    match hexDigit? c with
    | some d => takeHex count cs (16 * value + d)
    | none => none
  | _ + 1, [], _ => none

theorem length_of_takeHex {count : Nat} {cs : List Char} {value n : Nat} {rest : List Char}
    (h : takeHex count cs value = some (n, rest)) : rest.length + count = cs.length := by
  induction count generalizing cs value with
  | zero => simp_all [takeHex]
  | succ count ih =>
    cases cs with
    | nil => simp [takeHex] at h
    | cons c cs =>
      simp only [takeHex] at h
      split at h
      · have := ih h; simp only [List.length_cons]; omega
      · simp at h

/-- Reads the digits in front onto `value`, and gives their number, their value and what
follows. -/
def spanHex : List Char → (digits value : Nat) → Nat × Nat × List Char
  | c :: cs, digits, value =>
    match hexDigit? c with
    | some d => spanHex cs (digits + 1) (16 * value + d)
    | none => (digits, value, c :: cs)
  | [], digits, value => (digits, value, [])

theorem length_spanHex_le (cs : List Char) (digits value : Nat) :
    (spanHex cs digits value).2.2.length ≤ cs.length := by
  induction cs generalizing digits value with
  | nil => simp [spanHex]
  | cons c cs ih =>
    simp only [spanHex]
    split
    · have := ih (digits + 1) (16 * value + (by assumption)); simp only [List.length_cons]; grind
    · simp

/-- The digit of a value below 16, in lower case. -/
def hexDigitLower (n : Nat) : Char :=
  if n < 10 then Char.ofNat ('0'.toNat + n) else Char.ofNat ('a'.toNat + (n - 10))

/-- The lower-case digits of a number, at least `width` of them. -/
def hexLower (width n : Nat) : List Char :=
  let digits := (Nat.toDigits 16 n)
  List.replicate (width - digits.length) '0' ++ digits

end DepTriage.Text
