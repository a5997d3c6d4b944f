import TokenLint.Text.LowerCase

/-!
# Characters with plain lower-case forms

Beyond ASCII only the Kelvin sign has an ASCII letter as its lower-case form, so for most letters
only the letter itself, large or small, is lowered to it.
-/

namespace TokenLint.Text

theorem toNat_ofNat_or (code : Nat) :
    (Char.ofNat code).toNat = code ∨ (Char.ofNat code).toNat = 0 := by
  by_cases valid : code.isValidChar
  · have char_eq : Char.ofNat code = Char.ofNatAux code valid := dif_pos valid
    rw [char_eq]
    exact .inl rfl
  · have char_eq : Char.ofNat code = '\x00' := dif_neg valid
    rw [char_eq]
    exact .inr rfl

/-- Whether some ASCII letters are lowered to each other, and no other character is to them. -/
structure LowersWithin (letters : List Char) : Prop where
  lowers : ∀ code < 0x80, (Char.ofNat code).toLower ∈ letters → Char.ofNat code ∈ letters
  codes : ∀ char ∈ letters, char.toNat ≠ 0 ∧ char.toNat ≠ 0x6b ∧ char.toNat < 0x80
  plain : 'ς' ∉ letters ∧ 'σ' ∉ letters ∧ 'i' ∉ letters

namespace LowersWithin

variable {letters : List Char}

/-- A character whose lower-case form is one of the letters is one of them. -/
theorem mem_of_lowerChar (within : LowersWithin letters) {char : Char}
    (lowered : lowerChar char ∈ letters) : char ∈ letters := by
  by_cases ascii : char.toNat < 0x80
  · have here := within.lowers char.toNat ascii
    rw [Char.ofNat_toNat] at here
    exact here (by simpa [lowerChar, ascii] using lowered)
  · rw [lowerChar, if_neg ascii] at lowered
    split at lowered
    · rename_i run found
      have far : ∀ run ∈ caseRuns, 0x80 ≤ run.first + run.distance ∨
          run.first = run.last ∧ run.first + run.distance = 0x6b := by decide +kernel
      have codes := within.codes _ lowered
      have inside := List.find?_some found
      simp only [CaseRun.contains, Bool.and_eq_true, decide_eq_true_eq] at inside
      have apart := far run (List.mem_of_find?_eq_some found)
      rcases toNat_ofNat_or (char.toNat + run.distance).toNat with same | none_left
      · rw [same] at codes
        omega
      · exact absurd none_left codes.1
    · exact lowered

/-- A text begins with one of the letters if its lower-case form does. -/
theorem head_mem_of_lower (within : LowersWithin letters) {text : String} {first letter : Char}
    {rest : List Char} (text_eq : text.toList = first :: rest)
    (head_eq : (lower text).toList.head? = some letter) (member : letter ∈ letters) :
    first ∈ letters := by
  rw [lower, String.toList_ofList, text_eq, lowerAfter] at head_eq
  have others := within.plain
  split at head_eq
  · simp only [List.singleton_append, List.head?_cons, Option.some.injEq] at head_eq
    split at head_eq
    · exact absurd (head_eq ▸ member) others.1
    · exact absurd (head_eq ▸ member) others.2.1
  · split at head_eq
    · simp only [List.cons_append, List.head?_cons, Option.some.injEq] at head_eq
      exact absurd (head_eq ▸ member) others.2.2
    · simp only [List.singleton_append, List.head?_cons, Option.some.injEq] at head_eq
      exact within.mem_of_lowerChar (head_eq ▸ member)

end LowersWithin

end TokenLint.Text
