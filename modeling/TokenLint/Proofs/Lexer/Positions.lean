import TokenLint.Proofs.Lexer.Steps
import Mathlib.Data.List.DropRight

/-!
# The places of lexemes and faults

A scan moves its place along with the text that it cuts off. The place that it reaches is the
one that the text so far determines: a line for every line feed in it, and a column for every
character behind the last one. Every lexeme is read at such a place, and so is the fault that
stops a scan.
-/

namespace TokenLint

namespace Position

/-- Whether a place is the one behind a text that begins a source. -/
structure IsBehind (position : Position) (text : List Char) : Prop where
  line_eq : position.line = 1 + text.count '\n'
  column_eq : position.column = 1 + (text.rtakeWhile (· ≠ '\n')).length

theorem isBehind_after_start (text : List Char) : (start.after text).IsBehind text := by
  induction text using List.reverseRecOn with
  | nil => exact ⟨rfl, rfl⟩
  | append_singleton text char ih =>
      rcases ih with ⟨line_eq, column_eq⟩
      have reached : start.after (text ++ [char]) = (start.after text).next char :=
        after_append start text [char]
      by_cases feed : char = '\n'
      · subst feed
        refine ⟨?_, ?_⟩
        · simp [reached, next, line_eq, Nat.add_assoc]
        · simp [reached, next]
      · refine ⟨?_, ?_⟩
        · simp [reached, next, feed, line_eq]
        · simp [reached, next, feed, column_eq, Nat.add_assoc]

/-- Texts of which one begins the other have different places behind them. -/
theorem IsBehind.eq_nil_of_append {position : Position} {text extra : List Char}
    (behind : position.IsBehind text) (further : position.IsBehind (text ++ extra)) :
    extra = [] := by
  have lines_eq := behind.line_eq.symm.trans further.line_eq
  have columns_eq := behind.column_eq.symm.trans further.column_eq
  rw [List.count_append] at lines_eq
  have sameLine : '\n' ∉ extra := List.count_eq_zero.mp (by omega)
  have extra_eq : (text ++ extra).rtakeWhile (· ≠ '\n') =
      text.rtakeWhile (· ≠ '\n') ++ extra := by
    rw [List.rtakeWhile, List.reverse_append, List.takeWhile_append_of_pos]
    · simp [List.rtakeWhile]
    · intro char member
      rw [List.mem_reverse] at member
      exact decide_eq_true fun same => sameLine (same ▸ member)
  rw [extra_eq, List.length_append] at columns_eq
  exact List.eq_nil_of_length_eq_zero (by omega)

end Position

namespace Lexer

/-- Whether each of some lexemes, which begin a source, is read at the place behind the text
before it. -/
def StandBehind (source : String) (lexemes : List Lexeme) : Prop :=
  ∀ before lexeme after, lexemes = before ++ lexeme :: after →
    (∃ rest, source.toList = spelled before ++ (lexeme.content.toList ++ rest)) ∧
      lexeme.position.IsBehind (spelled before)

theorem standBehind_of_placed {source : String} {lexemes : List Lexeme} {rest : List Char}
    (placed : Placed .start lexemes) (spelled_eq : source.toList = spelled lexemes ++ rest) :
    StandBehind source lexemes := by
  rintro before lexeme after rfl
  rcases placed_append.mp placed with ⟨-, position_eq, -⟩
  refine ⟨⟨spelled after ++ rest, by simpa using spelled_eq⟩, ?_⟩
  rw [position_eq]
  exact Position.isBehind_after_start (spelled before)

namespace Scanner

variable {scanner : Scanner}

/-- Whether a step, if it fails on a malformed text, does so at the place of the scan. -/
def FailsHere (scanner : Scanner) (step : Except LexFailure Move) : Prop :=
  ∀ error, step = .error (.malformed error) → error.position = scanner.position

theorem failsHere_ok (move : Move) : scanner.FailsHere (.ok move) := by
  intro error failed
  cases failed

theorem failsHere_fault (fault : SourceFault) :
    scanner.FailsHere (.error (scanner.fault fault)) := by
  intro error failed
  cases failed
  rfl

theorem failsHere_unexpected (rest : List Char) :
    scanner.FailsHere (.error (scanner.unexpected rest)) := by
  unfold unexpected
  split <;> exact failsHere_fault _

theorem failsHere_plainMove (rest : List Char) (kind : TokenKind) (length : Nat) :
    scanner.FailsHere (scanner.plainMove rest kind length) := by
  unfold plainMove
  split
  · exact failsHere_ok _
  · exact failsHere_unexpected rest

theorem failsHere_operatorMove (rest : List Char) (kind : TokenKind) (length : Nat) :
    scanner.FailsHere (scanner.operatorMove rest kind length) := by
  unfold operatorMove
  split
  · exact failsHere_ok _
  · exact failsHere_unexpected rest

theorem failsHere_castMove (rest : List Char) (name : String) (length : Nat) :
    scanner.FailsHere (scanner.castMove rest name length) := by
  unfold castMove
  split
  · exact failsHere_plainMove rest _ length
  · intro error failed
    cases failed

theorem failsHere_heredocMove (rest : List Char) :
    scanner.FailsHere (scanner.heredocMove rest) := by
  unfold heredocMove
  split
  · exact failsHere_operatorMove rest _ _
  · split
    · exact failsHere_plainMove rest _ _
    · exact failsHere_fault _

theorem failsHere_wordMove (rest : List Char) : scanner.FailsHere (scanner.wordMove rest) := by
  unfold wordMove
  split
  · exact failsHere_plainMove rest _ _
  split
  · exact failsHere_castMove rest _ _
  -- Numbers, strings and names, in the order in which they are tried.
  iterate 6
    split
    · exact failsHere_plainMove rest _ _
  split
  · exact failsHere_operatorMove rest _ _
  · exact failsHere_unexpected rest

theorem failsHere_codeMove (rest : List Char) : scanner.FailsHere (scanner.codeMove rest) := by
  unfold codeMove
  split
  · exact failsHere_ok _
  split
  · exact failsHere_heredocMove rest
  split
  · split
    · exact failsHere_fault _
    · exact failsHere_plainMove rest _ _
  split
  · exact failsHere_plainMove rest _ _
  split
  · exact failsHere_plainMove rest _ _
  · exact failsHere_wordMove rest

theorem failsHere_move (rest : List Char) : scanner.FailsHere (scanner.move rest) := by
  unfold move
  split
  · unfold markupMove
    split
    · exact failsHere_ok _
    split
    · exact failsHere_ok _
    · exact failsHere_unexpected rest
  · exact failsHere_codeMove rest

end Scanner

/-- The lexemes that a scan reads before it stops stand behind one another, and so does the fault
that stops it. -/
theorem standBehind_scan (source : String) :
    StandBehind source (scan source).lexemes ∧
      ∀ error, (scan source).failure = some (.malformed error) →
        error.position.IsBehind (spelled (scan source).lexemes) := by
  have kept : spelled (scan source).lexemes ++ (scan source).rest = source.toList :=
    spelled_run .start source.toList
  rcases Scanner.exists_stop .start source.toList with ⟨stopped, left, steps, outcome⟩
  have orderly := Scanner.orderly_start.steps steps
  have lexemes_eq : (scan source).lexemes = stopped.emitted.reverse := by
    rcases outcome with ⟨-, scanned⟩ | ⟨failure, -, -, scanned⟩ <;> rw [scan, scanned]
  refine ⟨standBehind_of_placed (lexemes_eq ▸ orderly.placed) kept.symm, ?_⟩
  intro error failed
  rcases outcome with ⟨-, scanned⟩ | ⟨failure, -, moved, scanned⟩
  · rw [scan, scanned] at failed
    cases failed
  · rw [scan, scanned] at failed
    cases failed
    rw [lexemes_eq, stopped.failsHere_move left error moved, orderly.position_eq]
    exact Position.isBehind_after_start _

/-- Every lexeme of a source is read at the place behind the text before it, on the line and in the
column that this text determines. Where a source is malformed, the same holds of the lexemes before
the fault, and the fault is at the place of the first character that none of them covers. -/
theorem positions_of_lex (source : String) :
    match lex source with
    | .ok lexemes => StandBehind source lexemes
    | .error failure =>
      StandBehind source (scan source).lexemes ∧
        ∀ error, failure = .malformed error →
          (∃ char rest, source.toList = spelled (scan source).lexemes ++ char :: rest) ∧
            error.position.IsBehind (spelled (scan source).lexemes) := by
  cases lexed : lex source with
  | ok lexemes =>
      have spelled_eq : source.toList = spelled lexemes ++ [] := by
        rw [List.append_nil, spelled_lex lexed]
      exact standBehind_of_placed (placed_of_lex lexed) spelled_eq
  | error failure =>
      have stopped : (scan source).failure = some failure := by
        simp only [lex] at lexed
        split at lexed
        · rename_i found failed
          cases lexed
          exact failed
        · cases lexed
      rcases standBehind_scan source with ⟨stand, behind⟩
      refine ⟨stand, ?_⟩
      rintro error rfl
      refine ⟨?_, behind error stopped⟩
      rcases exists_orderly_scan source with ⟨-, -, -, text_left⟩
      rcases List.exists_cons_of_ne_nil (text_left (by simp [stopped])) with ⟨char, rest, rest_eq⟩
      refine ⟨char, rest, ?_⟩
      rw [← rest_eq]
      exact (spelled_run .start source.toList).symm

end Lexer

end TokenLint
