import TokenLint.Proofs.Lexer.Steps
import TokenLint.Stream.Basic
import Mathlib.Data.List.TFAE
import Mathlib.Tactic.TFAE

/-!
# Casts that no cast is named after

The name of a cast is recognised with case ignored, and there the dotless and the dotted i
and the long s stand for letters; in the lower-case form of the name they do not. A source
therefore fails without being malformed exactly where its scan comes to a cast that is
spelled with one of them.
-/

namespace TokenLint

namespace Lexer

open Text

/-- Characters that stand for a letter of a cast name where case is ignored, and that are not
mapped to this letter. -/
def foldedLetters : List Char := ['ı', 'İ', 'ſ']

theorem castNames_plain : ∀ entry ∈ castNames, ∀ letter ∈ entry.1.toList,
    letter.isLower = true ∧ letter ≠ 'k' := by
  decide

/-- A spelling of a letter is a folded one, or the letter is its lower-case form. -/
theorem folded_or_lowerChar_of_spellsLetter {letter char : Char}
    (plain : letter.isLower = true ∧ letter ≠ 'k') (spells : spellsLetter letter char = true) :
    char ∈ foldedLetters ∨ char ≠ 'Σ' ∧ char ≠ 'İ' ∧ lowerChar char = letter := by
  simp only [spellsLetter, Bool.or_eq_true, Bool.and_eq_true, beq_iff_eq] at spells
  rcases spells with ((same | ⟨-, rfl | rfl⟩) | ⟨-, rfl⟩) | ⟨rfl, -⟩
  · right
    have ascii : char.toNat < 0x80 := by
      by_cases upper : char.val ≥ 'A'.val ∧ char.val ≤ 'Z'.val
      · have bound : char.toNat ≤ 'Z'.toNat := upper.2
        exact Nat.lt_of_le_of_lt bound (by decide)
      · have unchanged : char.toLower = char := dif_neg upper
        rw [unchanged] at same
        subst same
        have bound := (Bool.and_eq_true_iff.mp plain.1).2
        have bound : char.toNat ≤ 'z'.toNat := of_decide_eq_true bound
        exact Nat.lt_of_le_of_lt bound (by decide)
    refine ⟨?_, ?_, ?_⟩
    · rintro rfl
      exact absurd ascii (by decide)
    · rintro rfl
      exact absurd ascii (by decide)
    · rw [lowerChar, if_pos ascii, same]
  · left; decide
  · left; decide
  · left; decide
  · exact absurd rfl plain.2

theorem lowerAfter_of_spellsWord {name word : List Char} (before : List Char)
    (plain : ∀ letter ∈ name, letter.isLower = true ∧ letter ≠ 'k')
    (spells : spellsWord name word = true) (unfolded : ∀ char ∈ word, char ∉ foldedLetters) :
    lowerAfter before word = name := by
  induction name generalizing before word with
  | nil =>
      cases word with
      | nil => rfl
      | cons char rest => cases spells
  | cons letter name ih =>
      cases word with
      | nil => cases spells
      | cons char rest =>
          simp only [spellsWord, Bool.and_eq_true] at spells
          rcases folded_or_lowerChar_of_spellsLetter (plain letter (List.mem_cons_self ..)) spells.1
            with folded | ⟨notSigma, notDotted, lowered⟩
          · exact absurd folded (unfolded char (List.mem_cons_self ..))
          · have later := ih (char :: before) (fun other member =>
              plain other (List.mem_cons_of_mem _ member)) spells.2 fun other member =>
                unfolded other (List.mem_cons_of_mem _ member)
            simp [lowerAfter, notSigma, notDotted, lowered, later]

theorem exists_mem_lowerAfter {word : List Char} {char : Char} (before : List Char)
    (member : char ∈ word) (folded : char ∈ foldedLetters) :
    ∃ lowered ∈ lowerAfter before word, 0x80 ≤ lowered.toNat := by
  have dotless : lowerChar 'ı' = 'ı' := by decide
  have long : lowerChar 'ſ' = 'ſ' := by decide
  induction word generalizing before with
  | nil => cases member
  | cons first rest ih =>
      rw [lowerAfter]
      rcases List.mem_cons.mp member with rfl | member
      · simp only [foldedLetters, List.mem_cons, List.not_mem_nil, or_false] at folded
        rcases folded with rfl | rfl | rfl
        · exact ⟨'ı', List.mem_append_left _ (by simp [dotless]), by decide⟩
        · exact ⟨'\u0307', List.mem_append_left _ (by simp), by decide⟩
        · exact ⟨'ſ', List.mem_append_left _ (by simp [long]), by decide⟩
      · rcases ih (first :: before) member with ⟨lowered, among, beyond⟩
        exact ⟨lowered, List.mem_append_right _ among, beyond⟩

/-- A word that spells a cast name is found among the cast names just if no letter is folded. -/
theorem lookup_lower_eq_none_iff {word : List Char}
    (named : (castNames.map Prod.fst).any (fun name => spellsWord name.toList word) = true) :
    castNames.lookup (lower (String.ofList word)) = none ↔ ∃ char ∈ word, char ∈ foldedLetters := by
  rw [lower, String.toList_ofList]
  constructor
  · intro missing
    by_contra unfolded
    rcases List.any_eq_true.mp named with ⟨name, among, spells⟩
    rcases List.mem_map.mp among with ⟨entry, member, rfl⟩
    have lowered := lowerAfter_of_spellsWord [] (castNames_plain entry member) spells
      fun char inside folded => unfolded ⟨char, inside, folded⟩
    rw [lowered, String.ofList_toList, List.lookup_eq_none_iff] at missing
    simpa using missing entry member
  · rintro ⟨char, member, folded⟩
    rcases exists_mem_lowerAfter [] member folded with ⟨lowered, inside, beyond⟩
    rw [List.lookup_eq_none_iff]
    intro entry among
    rw [bne_iff_ne]
    intro same
    have letters := congrArg String.toList same
    rw [String.toList_ofList] at letters
    have lowerCase := (castNames_plain entry among lowered (letters ▸ inside)).1
    have bound : lowered.toNat ≤ 'z'.toNat :=
      of_decide_eq_true (Bool.and_eq_true_iff.mp lowerCase).2
    exact absurd (Nat.le_trans beyond bound) (by decide)

/-- A text that begins with a cast whose name spells a cast name by folded letters, and the form in
which this name is looked up. -/
def StartsFoldedCast (name : String) (text : List Char) : Prop :=
  ∃ leading word trailing rest, text = castText leading word trailing ++ rest ∧
    IsCast (castNames.map Prod.fst) leading word trailing ∧
    (∃ char ∈ word, char ∈ foldedLetters) ∧ name = lower (String.ofList word)

namespace Scanner

variable {scanner : Scanner} {rest : List Char} {name : String}

theorem unexpected_ne : scanner.unexpected rest ≠ .unknownCast name := by
  simp only [unexpected]
  split <;> simp [fault]

theorem plainMove_ne {kind : TokenKind} {length : Nat} :
    scanner.plainMove rest kind length ≠ .error (.unknownCast name) := by
  simp only [plainMove]
  split
  · simp
  · simpa using unexpected_ne

theorem operatorMove_ne {kind : TokenKind} {length : Nat} :
    scanner.operatorMove rest kind length ≠ .error (.unknownCast name) := by
  simp only [operatorMove]
  split
  · simp
  · simpa using unexpected_ne

theorem heredocMove_ne : scanner.heredocMove rest ≠ .error (.unknownCast name) := by
  simp only [heredocMove]
  split
  · exact operatorMove_ne
  · split
    · exact plainMove_ne
    · simp [fault]

theorem markupMove_ne : scanner.markupMove rest ≠ .error (.unknownCast name) := by
  simp only [markupMove]
  split
  · simp
  · split
    · simp
    · simpa using unexpected_ne

theorem castMove_eq_iff {word : String} {length : Nat} :
    scanner.castMove rest word length = .error (.unknownCast name) ↔
      castNames.lookup (lower word) = none ∧ name = lower word := by
  simp only [castMove]
  split
  · rename_i found
    simpa [found] using plainMove_ne
  · rename_i missing
    simp [missing, eq_comm]

theorem startsFoldedCast_of_wordMove (failed : scanner.wordMove rest = .error (.unknownCast name)) :
    StartsFoldedCast name rest := by
  simp only [wordMove] at failed
  split at failed
  · exact absurd failed plainMove_ne
  split at failed
  · rename_i word length found
    rcases exists_cast castNames_proper found with ⟨leading, word, trailing, after, rfl, parts⟩
    rw [cast?_castText parts] at found
    cases found
    rcases castMove_eq_iff.mp failed with ⟨missing, name_eq⟩
    exact ⟨leading, word, trailing, after, rfl, parts,
      (lookup_lower_eq_none_iff parts.named).mp missing, name_eq⟩
  split at failed
  · exact absurd failed plainMove_ne
  split at failed
  · exact absurd failed plainMove_ne
  split at failed
  · exact absurd failed plainMove_ne
  split at failed
  · exact absurd failed plainMove_ne
  split at failed
  · exact absurd failed plainMove_ne
  split at failed
  · exact absurd failed plainMove_ne
  split at failed
  · exact absurd failed operatorMove_ne
  · exact absurd (Except.error.inj failed) unexpected_ne

theorem startsFoldedCast_of_codeMove (failed : scanner.codeMove rest = .error (.unknownCast name)) :
    StartsFoldedCast name rest := by
  simp only [codeMove] at failed
  split at failed
  · cases failed
  split at failed
  · exact absurd failed heredocMove_ne
  split at failed
  · split at failed
    · cases failed
    · exact absurd failed plainMove_ne
  split at failed
  · exact absurd failed plainMove_ne
  split at failed
  · exact absurd failed plainMove_ne
  · exact startsFoldedCast_of_wordMove failed

theorem codeMove_of_startsFoldedCast (starts : StartsFoldedCast name rest) :
    scanner.codeMove rest = .error (.unknownCast name) := by
  rcases starts with ⟨leading, word, trailing, after, rfl, parts, folded, rfl⟩
  have found := cast?_castText parts after
  have missing := (lookup_lower_eq_none_iff parts.named).mpr folded
  -- No other shape begins with a parenthesis.
  rw [castText, List.cons_append] at found ⊢
  generalize leading ++ (word ++ (trailing ++ [')'])) ++ after = inside at found ⊢
  have noBlanks : whitespaceLength ('(' :: inside) = 0 := by
    simp [whitespaceLength, runLength, isSpaceOrTab, lineBreakLength]
  simp [codeMove, closeTagLength, noBlanks, lineCommentLength, wordMove, variableLength, found,
    castMove, missing]

/-- A step fails on an unknown cast just where a folded one stands in code. -/
theorem move_eq_unknownCast_iff :
    scanner.move rest = .error (.unknownCast name) ↔
      scanner.mode = .code ∧ StartsFoldedCast name rest := by
  rw [move]
  cases mode_eq : scanner.mode with
  | markup => simpa using markupMove_ne
  | code =>
      simp only [true_and]
      exact ⟨startsFoldedCast_of_codeMove, codeMove_of_startsFoldedCast⟩

end Scanner

/-- Whether the scan of a source comes, in code, to a folded cast. -/
def MeetsFoldedCast (name source : String) : Prop :=
  ∃ stopped left, Scanner.Steps (.start, source.toList) (stopped, left) ∧
    stopped.mode = .code ∧ StartsFoldedCast name left

/-- A source is cut into lexemes or is malformed, unless its scan comes to a folded cast. -/
theorem lex_eq_unknownCast_iff {name source : String} :
    lex source = .error (.unknownCast name) ↔ MeetsFoldedCast name source := by
  constructor
  · intro failed
    rcases Scanner.exists_stop .start source.toList with ⟨stopped, left, steps, outcome⟩
    simp only [lex, scan] at failed
    rcases outcome with ⟨-, scanned⟩ | ⟨failure, -, stuck, scanned⟩
    · simp [scanned] at failed
    · simp only [scanned, Except.error.injEq] at failed
      rw [failed] at stuck
      exact ⟨stopped, left, steps, Scanner.move_eq_unknownCast_iff.mp stuck⟩
  · rintro ⟨stopped, left, steps, folded⟩
    have stuck := Scanner.move_eq_unknownCast_iff.mpr folded
    have scanned := steps.run_eq
    rcases folded.2 with ⟨leading, word, trailing, after, rfl, -⟩
    rw [castText, List.cons_append] at stuck scanned
    rw [Scanner.run.eq_def stopped] at scanned
    simp only [stuck] at scanned
    simp only [lex, scan, scanned]

end Lexer

/-- Whether unmatched brackets are allowed or not, reading a source fails otherwise than by a fault
of the source just if its scan comes to a cast that is spelled with a dotless or dotted i or a
long s. -/
theorem unknownCast_tfae (name source : String) :
    List.TFAE [
      tokenize source = .error (.unknownCast name),
      tokenizeLenient source = .error (.unknownCast name),
      Lexer.MeetsFoldedCast name source] := by
  rw [← Lexer.lex_eq_unknownCast_iff]
  tfae_have 2 ↔ 3 := by
    rw [tokenizeLenient]
    cases Lexer.lex source <;> simp [Except.map]
  tfae_have 1 ↔ 3 := by
    simp only [tokenize, tokenizeLenient, bind, Except.bind]
    cases Lexer.lex source with
    | error failure => simp [Except.map]
    | ok lexemes =>
        simp only [Except.map, reduceCtorEq, iff_false]
        split <;> simp
  tfae_finish

/-- A cast that is spelled with a dotless i is not reported as a fault of the source. -/
theorem tokenize_dotlessCast :
    tokenize "<?php (ınt)$x;" = .error (.unknownCast "ınt") ∧
      tokenizeLenient "<?php (ınt)$x;" = .error (.unknownCast "ınt") ∧
      ¬∃ error, tokenize "<?php (ınt)$x;" = .error (.malformed error) := by
  have stuck : (Lexer.scan "<?php (ınt)$x;").failure = some (.unknownCast "ınt") := by
    decide +kernel
  have lexed : Lexer.lex "<?php (ınt)$x;" = .error (.unknownCast "ınt") := by
    simp only [Lexer.lex, stuck]
  have lenient : tokenizeLenient "<?php (ınt)$x;" = .error (.unknownCast "ınt") := by
    rw [tokenizeLenient, lexed]
    rfl
  have strict : tokenize "<?php (ınt)$x;" = .error (.unknownCast "ınt") := by
    rw [tokenize, lenient]
    rfl
  refine ⟨strict, lenient, ?_⟩
  rintro ⟨error, malformed⟩
  rw [strict] at malformed
  cases malformed

end TokenLint
