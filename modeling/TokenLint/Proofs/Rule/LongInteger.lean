import TokenLint.Rule.ArrayKey

/-!
# Strings that write long integers

A string of an array literal that writes an integer in its canonical form is read as that integer.
Reading refuses an integer of more digits than the limit, so such a string has no key; every other
string has one.
-/

namespace TokenLint

/-- Whether characters write an integer in its canonical form, with more digits than can be read and
so many of them. -/
def WritesLongInteger (chars : List Char) (count : Nat) : Prop :=
  ∃ digits, (chars = digits ∨ chars = '-' :: digits) ∧ digits.head? ≠ some '0' ∧
    (∀ digit ∈ digits, digit.isDigit = true) ∧ digits.length = count ∧ maxDecimalDigits < count

/-- An ASCII digit by its code point. -/
theorem toNat_of_isDigit {char : Char} (digit : char.isDigit = true) :
    0x30 ≤ char.toNat ∧ char.toNat ≤ 0x39 := by
  simp only [Char.isDigit, Bool.and_eq_true, decide_eq_true_eq, ge_iff_le, UInt32.le_iff_toNat_le]
    at digit
  exact digit

theorem trimChars_of_none {inSet : Char → Bool} {chars : List Char}
    (outside : ∀ char ∈ chars, inSet char = false) : Text.trimChars inSet chars = chars := by
  have kept : ∀ chars : List Char, (∀ char ∈ chars, inSet char = false) →
      chars.dropWhile inSet = chars := by
    intro chars outside
    cases chars with
    | nil => rfl
    | cons char rest => simp [outside char]
  rw [Text.trimChars, kept chars outside, kept chars.reverse, List.reverse_reverse]
  exact fun char member => outside char (List.mem_reverse.mp member)

theorem baseDigit?_of_isDigit {char : Char} (digit : char.isDigit = true) :
    baseDigit? 10 char = some (char.toNat - 0x30) := by
  have bounds := toNat_of_isDigit digit
  simp only [baseDigit?, digit, if_true, Option.filter_eq_some_iff, decide_eq_true_eq, true_and]
  omega

/-- Each of some digits has a value. -/
theorem exists_digitValues? {digits : List Char} (nonempty : digits ≠ [])
    (digital : ∀ digit ∈ digits, digit.isDigit = true) :
    ∃ values, digitValues? 10 digits = some values ∧ values.length = digits.length := by
  induction digits with
  | nil => exact absurd rfl nonempty
  | cons first rest ih =>
      have firstValue := baseDigit?_of_isDigit (digital first (List.mem_cons_self ..))
      cases rest with
      | nil => exact ⟨[first.toNat - 0x30], by simp [digitValues?, firstValue], rfl⟩
      | cons second others =>
          rcases ih (List.cons_ne_nil _ _) (fun digit member =>
            digital digit (List.mem_cons_of_mem _ member)) with ⟨values, read, length_eq⟩
          refine ⟨(first.toNat - 0x30) :: values, ?_, by simp [length_eq]⟩
          have proper : second ≠ '_' := by
            rintro rfl
            exact absurd (digital '_' (by simp)) (by decide)
          rw [digitValues?, firstValue, read]
          · rfl
          · exact List.cons_ne_nil _ _
          · exact fun _ same => proper (List.cons.inj same).1

/-- An integer of nothing but digits, and perhaps a sign, is read unless it is too long. -/
theorem readInteger_of_digits {text : String} {digits : List Char} (nonempty : digits ≠ [])
    (digital : ∀ digit ∈ digits, digit.isDigit = true)
    (written : text.toList = digits ∨ text.toList = '-' :: digits) :
    if maxDecimalDigits < digits.length then
      readInteger 10 text = .error (.tooManyDigits digits.length)
    else ∃ number, readInteger 10 text = .ok number := by
  have signed : ∀ char ∈ text.toList, char.isDigit = true ∨ char = '-' := by
    intro char member
    rcases written with written | written
    · exact .inl (digital char (written ▸ member))
    · rcases List.mem_cons.mp (written ▸ member) with rfl | among
      · exact .inr rfl
      · exact .inl (digital char among)
  have ascii : numeralChars text = text.toList := by
    rw [numeralChars, if_pos]
    refine List.all_eq_true.mpr fun char member => decide_eq_true ?_
    rcases signed char member with digit | rfl
    · have := toNat_of_isDigit digit
      omega
    · decide
  have trimmed : Text.trimChars isNumeralSpace text.toList = text.toList := by
    refine trimChars_of_none fun char member => ?_
    rcases signed char member with digit | rfl
    · have := toNat_of_isDigit digit
      simp only [isNumeralSpace, Bool.or_eq_false_iff, Bool.and_eq_false_iff,
        decide_eq_false_iff_not, beq_eq_false_iff_ne]
      refine ⟨?_, by omega⟩
      rintro rfl
      exact absurd digit (by decide)
    · decide
  have split : ∃ negative, splitSign text.toList = (negative, digits) := by
    rcases written with written | written
    · refine ⟨false, ?_⟩
      rw [written, splitSign]
      · rintro rest rfl
        exact absurd (digital '-' (List.mem_cons_self ..)) (by decide)
      · rintro rest rfl
        exact absurd (digital '+' (List.mem_cons_self ..)) (by decide)
    · exact ⟨true, by rw [written, splitSign]⟩
  have unmarked : dropBaseMark 10 digits = digits := by
    unfold dropBaseMark
    split
    · simp
    · rfl
  rcases split with ⟨negative, split⟩
  rcases exists_digitValues? nonempty digital with ⟨values, read, length_eq⟩
  simp only [readInteger, ascii, trimmed, split, unmarked, read, length_eq]
  by_cases long : maxDecimalDigits < digits.length
  · simp [long, isUnlimitedBase]
  · simp [long]

namespace ArrayKey

theorem exists_digits_of_isCanonicalInteger {chars : List Char}
    (canonical : isCanonicalInteger chars = true) :
    ∃ digits, (chars = digits ∨ chars = '-' :: digits) ∧ digits ≠ [] ∧
      (∀ digit ∈ digits, digit.isDigit = true) ∧
        (digits.length = 1 ∨ digits.head? ≠ some '0') := by
  simp only [isCanonicalInteger, Bool.or_eq_true, beq_iff_eq] at canonical
  rcases canonical with rfl | canonical
  · exact ⟨['0'], .inl rfl, by simp, by simp, .inl rfl⟩
  · split at canonical
    · rename_i first rest digits_eq
      simp only [Bool.and_eq_true, decide_eq_true_eq, List.all_eq_true] at canonical
      refine ⟨first :: rest, ?_, by simp, ?_, .inr (by simpa using canonical.1.2)⟩
      · split at digits_eq
        · exact .inr (by rw [digits_eq])
        · exact .inl digits_eq
      · simpa using ⟨canonical.1.1, canonical.2⟩
    · cases canonical

theorem isCanonicalInteger_of_writesLongInteger {chars : List Char} {count : Nat}
    (long : WritesLongInteger chars count) : isCanonicalInteger chars = true := by
  rcases long with ⟨digits, written, proper, digital, length_eq, exceeds⟩
  cases digits with
  | nil =>
      rw [← length_eq] at exceeds
      cases exceeds
  | cons first rest =>
      have nonzero : first ≠ '0' := by simpa using proper
      have unsigned : first ≠ '-' := by
        rintro rfl
        exact absurd (digital '-' (List.mem_cons_self ..)) (by decide)
      rcases List.forall_mem_cons.mp digital with ⟨firstDigit, restDigits⟩
      rcases written with rfl | rfl
      · simpa [isCanonicalInteger, unsigned, nonzero] using ⟨firstDigit, restDigits⟩
      · simpa [isCanonicalInteger, nonzero] using ⟨firstDigit, restDigits⟩

/-- A string has no key exactly if it writes an integer that is too long to be read. -/
theorem ofString_eq_error_iff {content : String} {count : Nat} :
    ofString content = .error count ↔ WritesLongInteger content.toList count := by
  constructor
  · intro failed
    simp only [ofString] at failed
    split at failed
    · rename_i canonical
      rcases exists_digits_of_isCanonicalInteger canonical with
        ⟨digits, written, nonempty, digital, proper⟩
      have read := readInteger_of_digits nonempty digital written
      split at read
      · rename_i exceeds
        rw [read] at failed
        cases failed
        refine ⟨digits, written, proper.resolve_left ?_, digital, rfl, exceeds⟩
        intro single
        rw [single] at exceeds
        exact absurd exceeds (by decide)
      · rcases read with ⟨number, read⟩
        rw [read] at failed
        cases failed
    · cases failed
  · intro long
    have canonical := isCanonicalInteger_of_writesLongInteger long
    rcases long with ⟨digits, written, -, digital, rfl, exceeds⟩
    have nonempty : digits ≠ [] := by
      rintro rfl
      cases exceeds
    have read := readInteger_of_digits nonempty digital written
    rw [if_pos exceeds] at read
    simp only [ofString, canonical, if_true, read]

/-- A token has no key exactly if it is a string that writes an integer too long to be read. -/
theorem ofToken_eq_error_iff {token : Token} {count : Nat} :
    ofToken token = .error count ↔
      token.kind = .plainString ∧
        WritesLongInteger (withoutQuotes token.content).toList count := by
  rw [← ofString_eq_error_iff]
  unfold ofToken
  split <;> simp_all
  split <;> simp

end ArrayKey

end TokenLint
