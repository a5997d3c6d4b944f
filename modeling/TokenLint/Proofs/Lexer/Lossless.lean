import TokenLint.Stream.Basic

/-!
# Scanning loses nothing

A scan cuts its text and never changes it: what was read and what is left make up the
source at every step. Hence the tokens of a source, joined, are the source again.
-/

namespace TokenLint

namespace Lexer

/-- The texts of lexemes, one behind the other. -/
def spelled (lexemes : List Lexeme) : List Char :=
  lexemes.flatMap fun lexeme => lexeme.content.toList

@[simp]
theorem spelled_nil : spelled [] = [] := rfl

@[simp]
theorem spelled_cons (lexeme : Lexeme) (rest : List Lexeme) :
    spelled (lexeme :: rest) = lexeme.content.toList ++ spelled rest := rfl

@[simp]
theorem spelled_append (first second : List Lexeme) :
    spelled (first ++ second) = spelled first ++ spelled second := by
  simp [spelled]

/-- What a scan reads and what it leaves make up what was read before and its text. -/
theorem spelled_run (scanner : Scanner) (rest : List Char) :
    spelled (scanner.run rest).lexemes ++ (scanner.run rest).rest =
      spelled scanner.emitted.reverse ++ rest := by
  fun_induction Scanner.run scanner rest with
  | case1 scanner => rfl
  | case2 scanner char chars failure stopped => rfl
  | case3 scanner char chars move moved ih =>
      rw [ih]
      simp [Scanner.advance, List.take_append_drop]

/-- A scan that does not fail leaves no text. -/
theorem rest_run_of_failure_eq_none (scanner : Scanner) (rest : List Char)
    (completed : (scanner.run rest).failure = none) : (scanner.run rest).rest = [] := by
  fun_induction Scanner.run scanner rest with
  | case1 scanner => rfl
  | case2 scanner char chars failure stopped => simp at completed
  | case3 scanner char chars move moved ih => exact ih completed

@[simp]
theorem spelled_settle (lexemes : List Lexeme) : spelled (settle lexemes) = spelled lexemes := by
  induction lexemes with
  | nil => rfl
  | cons lexeme rest ih => simp [settle, ih]

theorem spelled_lex {source : String} {lexemes : List Lexeme}
    (lexed : lex source = .ok lexemes) : spelled lexemes = source.toList := by
  simp only [lex] at lexed
  split at lexed
  · cases lexed
  · rename_i completed
    cases lexed
    have kept := spelled_run .start source.toList
    have finished := rest_run_of_failure_eq_none .start source.toList completed
    rw [finished] at kept
    simpa [scan, Scanner.start] using kept

end Lexer

namespace TokenStream

theorem map_content_ofLexemes (lexemes : List Lexeme) :
    (ofLexemes lexemes).tokens.toList.map Token.content = lexemes.map Lexeme.content := by
  apply List.ext_getElem
  · simp [ofLexemes]
  · intro index _ _
    simp [ofLexemes]

end TokenStream

theorem exists_lex_of_tokenize {source : String} {stream : TokenStream}
    (read : tokenize source = .ok stream) :
    ∃ lexemes, Lexer.lex source = .ok lexemes ∧ stream = .ofLexemes lexemes := by
  simp only [tokenize, tokenizeLenient, bind, Except.bind, Except.map] at read
  split at read
  · cases read
  · rename_i lenient made
    split at made
    · cases made
    · rename_i lexemes lexed
      cases made
      split at read
      · cases read
      · cases read
        exact ⟨lexemes, lexed, rfl⟩

theorem source_of_tokenize {source : String} {stream : TokenStream}
    (read : tokenize source = .ok stream) : stream.source = source := by
  rcases exists_lex_of_tokenize read with ⟨lexemes, lexed, rfl⟩
  rw [← String.toList_inj, TokenStream.source, TokenStream.map_content_ofLexemes,
    String.toList_join, List.flatMap_map]
  exact Lexer.spelled_lex lexed

theorem exists_tokenize_of_map_toOption {source : String} {α : Type} {view : TokenStream → α}
    {seen : α} (outcome : (tokenize source).toOption.map view = some seen) :
    ∃ stream, tokenize source = .ok stream ∧ view stream = seen := by
  cases read : tokenize source with
  | ok stream =>
      rw [read] at outcome
      exact ⟨stream, rfl, Option.some.inj outcome⟩
  | error failure =>
      rw [read] at outcome
      cases outcome

instance decidableExistsOk {ε α : Type} (result : Except ε α) (property : α → Prop)
    [DecidablePred property] : Decidable (∃ value, result = .ok value ∧ property value) :=
  match result with
  | .ok value => decidable_of_iff (property value) (by simp)
  | .error _ => isFalse (by simp)

end TokenLint
