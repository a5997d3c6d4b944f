import TokenLint.Text.Utf8
import Mathlib.Tactic.Common

/-!
# Reading back what was written

The bytes that write a text are read as that text.
-/

namespace TokenLint.Text

variable {first second third fourth : UInt8} {position number : Nat} {rest : List UInt8}

section Steps

variable (follows : mayFollow first second = true)

include follows

theorem decodeFrom_two (low : 0xc2 ≤ first.toNat) (high : first.toNat < 0xe0) :
    decodeFrom position (first :: second :: rest) =
      (decodeFrom (position + 2) rest).map (twoByteChar first second :: ·) := by
  rw [decodeFrom.eq_def]
  simp only [UInt8.lt_iff_toNat_lt, UInt8.le_iff_toNat_le, UInt8.reduceToNat, follows]
  rw [if_neg (by omega), if_neg (by simp; omega), if_neg (by simp), if_pos high]

theorem decodeFrom_three (low : 0xe0 ≤ first.toNat) (high : first.toNat < 0xf0)
    (goesOn : isContinuation third = true) :
    decodeFrom position (first :: second :: third :: rest) =
      (decodeFrom (position + 3) rest).map (threeByteChar first second third :: ·) := by
  rw [decodeFrom.eq_def]
  simp only [UInt8.lt_iff_toNat_lt, UInt8.le_iff_toNat_le, UInt8.reduceToNat, follows, goesOn]
  rw [if_neg (by omega), if_neg (by simp; omega), if_neg (by simp), if_neg (by omega),
    if_neg (by simp), if_pos high]

theorem decodeFrom_four (low : 0xf0 ≤ first.toNat) (high : first.toNat < 0xf5)
    (goesOn : isContinuation third = true) (ends : isContinuation fourth = true) :
    decodeFrom position (first :: second :: third :: fourth :: rest) =
      (decodeFrom (position + 4) rest).map (fourByteChar first second third fourth :: ·) := by
  rw [decodeFrom.eq_def]
  simp only [UInt8.lt_iff_toNat_lt, UInt8.le_iff_toNat_le, UInt8.reduceToNat, follows, goesOn, ends]
  rw [if_neg (by omega), if_neg (by simp; omega), if_neg (by simp), if_neg (by omega),
    if_neg (by simp), if_neg (by omega), if_neg (by simp)]

end Steps

theorem toNat_byte {number : Nat} (small : number < 0x100) :
    (UInt8.ofNat number).toNat = number := by
  rw [UInt8.toNat_ofNat']
  exact Nat.mod_eq_of_lt small

theorem isContinuation_tail (number : Nat) :
    isContinuation (UInt8.ofNat (number % 0x40 + 0x80)) = true := by
  have value : (UInt8.ofNat (number % 0x40 + 0x80)).toNat = number % 0x40 + 0x80 :=
    toNat_byte (by omega)
  simp only [isContinuation, UInt8.le_iff_toNat_le, UInt8.lt_iff_toNat_lt, value, UInt8.reduceToNat,
    Bool.and_eq_true, decide_eq_true_eq]
  omega

theorem payload_tail (number : Nat) :
    payload (UInt8.ofNat (number % 0x40 + 0x80)) 0x40 = number % 0x40 := by
  rw [payload, toNat_byte (by omega)]
  omega

/-- A tail may follow a first byte if neither a shorter form would do nor a surrogate or a number
beyond the last character comes out. -/
theorem mayFollow_tail {following : Nat} (small : number < 0x100)
    (shortest : (number = 0xe0 → 0x20 ≤ following % 0x40) ∧
      (number = 0xf0 → 0x10 ≤ following % 0x40))
    (isChar : (number = 0xed → following % 0x40 < 0x20) ∧
      (number = 0xf4 → following % 0x40 < 0x10)) :
    mayFollow (UInt8.ofNat number) (UInt8.ofNat (following % 0x40 + 0x80)) = true := by
  have value : (UInt8.ofNat (following % 0x40 + 0x80)).toNat = following % 0x40 + 0x80 :=
    toNat_byte (by omega)
  have same : ∀ byte : UInt8, UInt8.ofNat number = byte ↔ number = byte.toNat := by
    intro byte
    rw [← UInt8.toNat_inj, toNat_byte small]
  simp only [mayFollow, isContinuation_tail, same, UInt8.lt_iff_toNat_lt, UInt8.le_iff_toNat_le,
    value, UInt8.reduceToNat, Bool.true_and, Bool.and_eq_true, Bool.not_eq_true',
    Bool.and_eq_false_iff, beq_eq_false_iff_ne, ne_eq, decide_eq_false_iff_not]
  omega

/-- The bytes of a character in front of others are read as that character. -/
theorem decodeFrom_utf8EncodeChar (position : Nat) (rest : List UInt8) (char : Char) :
    ∃ next, decodeFrom position (String.utf8EncodeChar char ++ rest) =
      (decodeFrom next rest).map (char :: ·) := by
  have valid : char.toNat < 0xd800 ∨ 0xdfff < char.toNat ∧ char.toNat < 0x110000 := char.valid
  have value_eq : char.val.toNat = char.toNat := rfl
  rw [String.utf8EncodeChar, value_eq]
  split
  · rename_i one
    have value : (UInt8.ofNat char.toNat).toNat = char.toNat := toNat_byte (by omega)
    refine ⟨position + 1, ?_⟩
    rw [List.cons_append, List.nil_append, decodeFrom.eq_def]
    simp only [UInt8.lt_iff_toNat_lt, value, UInt8.reduceToNat, Char.ofNat_toNat]
    exact if_pos (by omega)
  split
  · rename_i _ two
    have value : (UInt8.ofNat (char.toNat / 64 % 32 + 192)).toNat = char.toNat / 64 % 32 + 192 :=
      toNat_byte (by omega)
    refine ⟨position + 2, ?_⟩
    have read : twoByteChar (UInt8.ofNat (char.toNat / 64 % 32 + 192))
        (UInt8.ofNat (char.toNat % 64 + 128)) = char := by
      have number_eq : payload (UInt8.ofNat (char.toNat / 64 % 32 + 192)) 0x20 * 0x40 +
          char.toNat % 0x40 = char.toNat := by
        rw [payload, value]
        omega
      rw [twoByteChar, payload_tail, number_eq, Char.ofNat_toNat]
    simp only [List.cons_append, List.nil_append]
    rw [decodeFrom_two (mayFollow_tail (by omega) (by omega) (by omega)) (by omega) (by omega),
      read]
  split
  · rename_i _ _ three
    have value : (UInt8.ofNat (char.toNat / 4096 % 16 + 224)).toNat =
        char.toNat / 4096 % 16 + 224 := toNat_byte (by omega)
    refine ⟨position + 3, ?_⟩
    have read : threeByteChar (UInt8.ofNat (char.toNat / 4096 % 16 + 224))
        (UInt8.ofNat (char.toNat / 64 % 64 + 128)) (UInt8.ofNat (char.toNat % 64 + 128)) =
          char := by
      have number_eq : (payload (UInt8.ofNat (char.toNat / 4096 % 16 + 224)) 0x10 * 0x40 +
          char.toNat / 64 % 0x40) * 0x40 + char.toNat % 0x40 = char.toNat := by
        rw [payload, value]
        omega
      rw [threeByteChar, payload_tail, payload_tail, number_eq, Char.ofNat_toNat]
    simp only [List.cons_append, List.nil_append]
    rw [decodeFrom_three (mayFollow_tail (by omega) (by omega) (by omega)) (by omega) (by omega)
      (isContinuation_tail _), read]
  · rename_i _ _ four
    have value : (UInt8.ofNat (char.toNat / 262144 % 8 + 240)).toNat =
        char.toNat / 262144 % 8 + 240 := toNat_byte (by omega)
    refine ⟨position + 4, ?_⟩
    have read : fourByteChar (UInt8.ofNat (char.toNat / 262144 % 8 + 240))
        (UInt8.ofNat (char.toNat / 4096 % 64 + 128)) (UInt8.ofNat (char.toNat / 64 % 64 + 128))
        (UInt8.ofNat (char.toNat % 64 + 128)) = char := by
      have number_eq : ((payload (UInt8.ofNat (char.toNat / 262144 % 8 + 240)) 0x08 * 0x40 +
          char.toNat / 4096 % 0x40) * 0x40 + char.toNat / 64 % 0x40) * 0x40 +
            char.toNat % 0x40 = char.toNat := by
        rw [payload, value]
        omega
      simp only [fourByteChar]
      rw [payload_tail, payload_tail, payload_tail, number_eq, Char.ofNat_toNat]
    simp only [List.cons_append, List.nil_append]
    rw [decodeFrom_four (mayFollow_tail (by omega) (by omega) (by omega)) (by omega) (by omega)
      (isContinuation_tail _) (isContinuation_tail _), read]

theorem decode_encode (text : String) : decode (encode text) = .ok text := by
  have read : ∀ (chars : List Char) (position : Nat),
      decodeFrom position (chars.flatMap String.utf8EncodeChar) = .ok chars := by
    intro chars
    induction chars with
    | nil =>
        intro position
        rfl
    | cons char others ih =>
        intro position
        rcases decodeFrom_utf8EncodeChar position (others.flatMap String.utf8EncodeChar) char with
          ⟨next, step⟩
        rw [List.flatMap_cons, step, ih next]
        rfl
  rw [decode, encode, read, Except.map, String.ofList_toList]

end TokenLint.Text
