import TokenLint.Proofs.Lexer.Ends
import TokenLint.Proofs.Lexer.Steps
import TokenLint.Proofs.Rule.Endings

/-!
# A literal with one key

The source that holds nothing but an array literal with a single-quoted key of digits, and its
stream. The digits may be any number of them, so the key may be one that cannot be read.
-/

namespace TokenLint

open Lexer

/-- A key in single quotes. -/
def quotedKey (digits : List Char) : List Char := '\'' :: (digits ++ ['\''])

theorem length_quotedKey_pos (digits : List Char) : 0 < (quotedKey digits).length :=
  Nat.succ_pos _

/-- The source of an array literal with one key. -/
def keyLiteral (digits : List Char) : String :=
  String.ofList (['<', '?', 'p', 'h', 'p', ' '] ++ (['['] ++ (quotedKey digits ++ (['=', '>'] ++
    (['1'] ++ ([']'] ++ [';']))))))

/-- The lexemes of an array literal with one key, at some places. -/
def keyLexemes (key : String) (place : Nat → Position) : List Lexeme := [
  ⟨.openTag, "<?php ", place 0⟩, ⟨.openShortArray, "[", place 1⟩, ⟨.plainString, key, place 2⟩,
  ⟨.doubleArrow, "=>", place 3⟩, ⟨.integerNumber, "1", place 4⟩, ⟨.closeShortArray, "]", place 5⟩,
  ⟨.semicolon, ";", place 6⟩]

theorem stringLength_quotedKey {digits : List Char}
    (digital : ∀ digit ∈ digits, digit.isDigit = true) (rest : List Char) :
    stringLength '\'' (quotedKey digits ++ rest) = (quotedKey digits).length := by
  have reach : ∀ digits : List Char, (∀ digit ∈ digits, digit.isDigit = true) →
      lengthToQuote? '\'' (digits ++ '\'' :: rest) = some (digits.length + 1) := by
    intro digits digital
    induction digits with
    | nil => simp [lengthToQuote?_cons]
    | cons first others ih =>
        rcases List.forall_mem_cons.mp digital with ⟨firstDigit, othersDigits⟩
        have plain : first ≠ '\\' ∧ first ≠ '\'' := by
          constructor <;> (rintro rfl; exact absurd firstDigit (by decide))
        rw [List.cons_append, lengthToQuote?_cons _ plain.1, if_neg plain.2, ih othersDigits]
        rfl
  simp [quotedKey, stringLength, reach digits digital]

theorem run_of_move {scanner : Scanner} {piece rest : List Char} {move : Move}
    (moved : scanner.move (piece ++ rest) = .ok move) (length_eq : move.length = piece.length) :
    scanner.run (piece ++ rest) = (scanner.advance move piece).run rest := by
  have positive := length_eq ▸ move.length_pos
  cases piece with
  | nil => cases positive
  | cons char chars =>
      have step := (Scanner.Step.cut moved).run_eq
      rw [length_eq] at step
      simpa using step

theorem move_quotedKey {scanner : Scanner} (code : scanner.mode = .code) {digits : List Char}
    (digital : ∀ digit ∈ digits, digit.isDigit = true) (rest : List Char) :
    scanner.move (quotedKey digits ++ rest) =
      .ok ⟨.plainString, (quotedKey digits).length, .code, scanner.nesting,
        length_quotedKey_pos digits⟩ := by
  have length_eq := stringLength_quotedKey digital rest
  have word : scanner.move (quotedKey digits ++ rest) =
      if 0 < stringLength '\'' (quotedKey digits ++ rest) then
        scanner.plainMove (quotedKey digits ++ rest) .plainString
          (stringLength '\'' (quotedKey digits ++ rest))
      else .error (scanner.fault .unterminatedString) := by
    rw [Scanner.move, code]
    rfl
  have positive := length_quotedKey_pos digits
  rw [word, length_eq, if_pos positive, Scanner.plainMove, dif_pos positive]

/-- An array literal with one key is read into its lexemes. -/
theorem exists_lex_keyLiteral {digits : List Char}
    (digital : ∀ digit ∈ digits, digit.isDigit = true) :
    ∃ place, lex (keyLiteral digits) =
      .ok (keyLexemes (String.ofList (quotedKey digits)) place) := by
  let opened := Scanner.start.advance ⟨.openTag, 6, .code, .empty, by decide⟩
    ['<', '?', 'p', 'h', 'p', ' ']
  let listed := opened.advance ⟨.openShortArray, 1, .code, opened.nesting.push .shortArray,
    by decide⟩ ['[']
  let keyed := listed.advance ⟨.plainString, (quotedKey digits).length, .code, listed.nesting,
    length_quotedKey_pos digits⟩ (quotedKey digits)
  let pointed := keyed.advance ⟨.doubleArrow, 2, .code, keyed.nesting, by decide⟩ ['=', '>']
  let valued := pointed.advance ⟨.integerNumber, 1, .code, pointed.nesting, by decide⟩ ['1']
  let closed := valued.advance ⟨.closeShortArray, 1, .code, .empty, by decide⟩ [']']
  let ended := closed.advance ⟨.semicolon, 1, .code, .empty, by decide⟩ [';']
  have read : scan (keyLiteral digits) = ⟨ended.emitted.reverse, [], none⟩ := by
    rw [scan, keyLiteral, String.toList_ofList]
    calc
      _ = opened.run _ := run_of_move (by rfl) rfl
      _ = listed.run _ := run_of_move (by rfl) rfl
      _ = keyed.run _ := run_of_move (move_quotedKey rfl digital _) rfl
      _ = pointed.run _ := run_of_move (by rfl) rfl
      _ = valued.run _ := run_of_move (by rfl) rfl
      _ = closed.run _ := run_of_move (by rfl) rfl
      _ = ended.run [] := run_of_move (by rfl) rfl
      _ = _ := by rw [Scanner.run]
  refine ⟨fun index => ((ended.emitted.reverse.map Lexeme.position)[index]?).getD .start, ?_⟩
  rw [lex, read]
  rfl

theorem exists_tokenize_keyLiteral {digits : List Char}
    (digital : ∀ digit ∈ digits, digit.isDigit = true) :
    ∃ place, tokenize (keyLiteral digits) =
      .ok (.ofLexemes (keyLexemes (String.ofList (quotedKey digits)) place)) := by
  rcases exists_lex_keyLiteral digital with ⟨place, lexed⟩
  have matched : (TokenStream.ofLexemes
      (keyLexemes (String.ofList (quotedKey digits)) place)).unmatched = [] := List.mergeSort_nil
  refine ⟨place, ?_⟩
  simp only [tokenize, tokenizeLenient, lexed, Except.map, bind, Except.bind, matched,
    List.head?_nil, Option.bind_none]

section Stream

variable (key : String) (place : Nat → Position)

theorem arrayElements_keyLexemes :
    (TokenStream.ofLexemes (keyLexemes key place)).arrayElements 1 5 = [(2, 5)] := by
  have step : ∀ index ∈ [2, 3, 4], (TokenStream.ofLexemes (keyLexemes key place)).elementsFrom 5 2
      index = (TokenStream.ofLexemes (keyLexemes key place)).elementsFrom 5 2 (index + 1) := by
    intro index member
    rw [TokenStream.elementsFrom]
    simp only [List.mem_cons, List.not_mem_nil, or_false] at member
    rcases member with rfl | rfl | rfl <;> rfl
  rw [TokenStream.arrayElements, step 2 (by simp), step 3 (by simp), step 4 (by simp),
    TokenStream.elementsFrom]
  rfl

theorem keyArrow?_keyLexemes :
    (TokenStream.ofLexemes (keyLexemes key place)).keyArrow? ⟨1, 5⟩ (2, 5) = some 3 := by
  rw [TokenStream.keyArrow?, TokenStream.firstWith?, firstIndex?, firstIndex?]
  rfl

theorem exists_opener_keyLexemes :
    ∃ opener ∈ (TokenStream.ofLexemes (keyLexemes key place)).tokens.toList,
      opener.kind = .openShortArray ∧ opener.index = 1 := by
  have here : ∃ opener, (TokenStream.ofLexemes (keyLexemes key place)).token? 1 = some opener ∧
      opener.kind = .openShortArray ∧ opener.index = 1 := ⟨_, rfl, rfl, rfl⟩
  rcases here with ⟨opener, found, kind, index_eq⟩
  exact ⟨opener, Array.mem_toList_iff.mpr (Array.mem_of_getElem? found), kind, index_eq⟩

theorem exists_key_keyLexemes :
    ∃ token, (TokenStream.ofLexemes (keyLexemes key place)).token? 2 = some token ∧
      token.kind = .plainString ∧ token.content = key ∧
        (TokenStream.ofLexemes (keyLexemes key place)).textBetween 2 3 = key :=
  ⟨_, rfl, rfl, rfl, String.empty_append⟩

end Stream

theorem trim_quotedKey {digits : List Char} (digital : ∀ digit ∈ digits, digit.isDigit = true) :
    Text.trim (String.ofList (quotedKey digits)) = String.ofList (quotedKey digits) := by
  have solid : ∀ char ∈ quotedKey digits, Text.isBlank char = false := by
    intro char member
    simp only [quotedKey, List.mem_cons, List.mem_append, List.not_mem_nil, or_false] at member
    rcases member with rfl | member | rfl
    · decide
    · have := toNat_of_isDigit (digital char member)
      simp only [Text.isBlank, Bool.or_eq_false_iff, Bool.and_eq_false_iff, decide_eq_false_iff_not,
        beq_eq_false_iff_ne]
      omega
    · decide
  rw [Text.trim, Text.trimSet, String.toList_ofList, trimChars_of_none solid]

/-- The key of the literal is one string, so a long run of digits makes it one that cannot be
read. -/
theorem lacksKey_keyLexemes {digits : List Char} (place : Nat → Position)
    (digital : ∀ digit ∈ digits, digit.isDigit = true) (proper : digits.head? ≠ some '0')
    (long : maxDecimalDigits < digits.length) :
    (TokenStream.ofLexemes (keyLexemes (String.ofList (quotedKey digits)) place)).LacksKey := by
  rcases exists_opener_keyLexemes (String.ofList (quotedKey digits)) place with
    ⟨opener, member, kind, index_eq⟩
  rcases exists_key_keyLexemes (String.ofList (quotedKey digits)) place with
    ⟨token, found, isString, content_eq, text_eq⟩
  refine ⟨opener, member, .inr kind, ⟨1, 5⟩, (2, 5), 3, 2, token, digits.length, ?_, ?_,
    keyArrow?_keyLexemes _ place, rfl, found, ?_, isString, ?_⟩
  · rw [index_eq]
    rfl
  · rw [arrayElements_keyLexemes]
    exact List.mem_singleton_self _
  · rw [text_eq, content_eq, trim_quotedKey digital]
  · have unquoted : (ArrayKey.withoutQuotes token.content).toList = digits := by
      simp [content_eq, ArrayKey.withoutQuotes, quotedKey]
    exact ⟨digits, .inl unquoted, proper, digital, rfl, long⟩

end TokenLint
