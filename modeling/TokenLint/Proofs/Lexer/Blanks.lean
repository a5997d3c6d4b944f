import TokenLint.Proofs.Lexer.Lossless
import TokenLint.Proofs.Lexer.Reads

/-!
# Whitespace is blank

Only one step of the scanner cuts off whitespace, and it takes in blanks and a line break. So the
text of a whitespace token holds nothing that trimming would leave.
-/

namespace TokenLint.Lexer

open Text

section Patterns

variable {rest : List Char} {char : Char}

theorem blank_of_mem_lineBreak (member : char ∈ rest.take (lineBreakLength rest)) :
    isBlank char = true := by
  revert member
  fun_cases lineBreakLength rest with
  | case1 tail =>
      intro member
      simp only [List.take_succ_cons, List.take_zero, List.mem_cons, List.not_mem_nil, or_false]
        at member
      rcases member with rfl | rfl <;> rfl
  | case2 tail alone =>
      intro member
      cases List.mem_singleton.mp member
      rfl
  | case3 tail =>
      intro member
      cases List.mem_singleton.mp member
      rfl
  | case4 => simp

theorem blank_of_mem_whitespace (member : char ∈ rest.take (whitespaceLength rest)) :
    isBlank char = true := by
  rw [whitespaceLength, List.take_add] at member
  rcases List.mem_append.mp member with inRun | inBreak
  · rw [runLength, ← List.prefix_iff_eq_take.mp (List.takeWhile_prefix isSpaceOrTab)] at inRun
    have space := List.mem_takeWhile_imp inRun
    simp only [isSpaceOrTab, Bool.or_eq_true, beq_iff_eq] at space
    rcases space with rfl | rfl <;> rfl
  · exact blank_of_mem_lineBreak inBreak

end Patterns

namespace Scanner

variable (scanner : Scanner) {rest : List Char} {move : Move}

/-- A step that cuts off whitespace cuts off blanks. -/
theorem blank_of_move (moved : scanner.move rest = .ok move)
    (isWhitespace : move.kind = .whitespace) :
    ∀ char ∈ rest.take move.length, isBlank char = true := by
  have isTrivia : move.kind.isTrivia = true := by
    rw [isWhitespace]
    rfl
  cases mode_eq : scanner.mode with
  | markup =>
      simp only [Scanner.move, mode_eq, markupMove] at moved
      split at moved
      · cases moved
        dsimp only at isWhitespace
        split at isWhitespace <;> cases isWhitespace
      · split at moved
        · cases moved
          cases isWhitespace
        · cases moved
  | code =>
      simp only [Scanner.move, mode_eq, codeMove] at moved
      split at moved
      · cases moved
        cases isWhitespace
      split at moved
      · rw [scanner.isTrivia_heredocMove moved] at isTrivia
        cases isTrivia
      split at moved
      · split at moved
        · cases moved
        · rw [(scanner.of_plainMove moved).1] at isWhitespace
          split at isWhitespace <;> cases isWhitespace
      split at moved
      · rw [(scanner.of_plainMove moved).2]
        exact fun char member => blank_of_mem_whitespace member
      split at moved
      · rw [(scanner.of_plainMove moved).1] at isWhitespace
        cases isWhitespace
      · rw [scanner.isTrivia_wordMove moved] at isTrivia
        cases isTrivia

end Scanner

/-- Whether the whitespace among some lexemes is blank. -/
def BlankSpaces (lexemes : List Lexeme) : Prop :=
  ∀ lexeme ∈ lexemes, lexeme.kind = .whitespace →
    ∀ char ∈ lexeme.content.toList, isBlank char = true

theorem BlankSpaces.run {scanner : Scanner} {rest : List Char}
    (blank : BlankSpaces scanner.emitted) : BlankSpaces (scanner.run rest).lexemes := by
  have reversed : ∀ {emitted : List Lexeme}, BlankSpaces emitted → BlankSpaces emitted.reverse :=
    fun blank lexeme member => blank lexeme (List.mem_reverse.mp member)
  fun_induction Scanner.run scanner rest with
  | case1 scanner => exact reversed blank
  | case2 scanner char chars failure stopped => exact reversed blank
  | case3 scanner char chars move moved ih =>
      apply ih
      intro lexeme member
      rcases List.mem_cons.mp member with rfl | earlier
      · intro isWhitespace
        rw [String.toList_ofList]
        exact scanner.blank_of_move moved isWhitespace
      · exact blank lexeme earlier

theorem BlankSpaces.settle {lexemes : List Lexeme} (blank : BlankSpaces lexemes) :
    BlankSpaces (settle lexemes) := by
  induction lexemes with
  | nil => exact blank
  | cons first rest ih =>
      intro lexeme member
      rcases List.mem_cons.mp member with rfl | later
      · intro isWhitespace
        refine blank first (List.mem_cons_self ..) ?_
        simp only [settledKind] at isWhitespace
        split at isWhitespace
        · split at isWhitespace <;> cases isWhitespace
        · split at isWhitespace <;> cases isWhitespace
        · exact isWhitespace
      · exact ih (fun other among => blank other (List.mem_cons_of_mem _ among)) lexeme later

theorem blankSpaces_of_lex {source : String} {lexemes : List Lexeme}
    (lexed : lex source = .ok lexemes) : BlankSpaces lexemes := by
  simp only [lex] at lexed
  split at lexed
  · cases lexed
  · cases lexed
    apply BlankSpaces.settle
    apply BlankSpaces.run
    intro lexeme member
    cases member

end TokenLint.Lexer
