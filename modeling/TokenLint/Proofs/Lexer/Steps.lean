import TokenLint.Proofs.Lexer.Stride
import Mathlib.Logic.Relation

/-!
# The steps of a scan

A scan goes from point to point, and at each step it cuts one lexeme off the text that is
left. What a step keeps therefore holds wherever the scan stops: the lexemes read and the
text left make up the source, no lexeme is empty, and each lexeme carries the place at
which the ones before it end.
-/

namespace TokenLint

namespace Position

/-- Whether a position stands before another one in its text. -/
def Before (first second : Position) : Prop :=
  first.line < second.line ∨ first.line = second.line ∧ first.column < second.column

theorem Before.trans {first second third : Position} (earlier : first.Before second)
    (later : second.Before third) : first.Before third := by
  simp only [Before] at *
  omega

theorem Before.ne {first second : Position} (before : first.Before second) : first ≠ second := by
  rintro rfl
  simp only [Before] at before
  omega

theorem before_next (position : Position) (char : Char) : position.Before (position.next char) := by
  simp only [Before, next]
  split <;> simp

theorem before_after (position : Position) {chars : List Char} (nonempty : chars ≠ []) :
    position.Before (position.after chars) := by
  induction chars generalizing position with
  | nil => exact absurd rfl nonempty
  | cons char rest ih =>
      have first := position.before_next char
      by_cases last : rest = []
      · subst last
        exact first
      · exact first.trans (ih (position.next char) last)

theorem after_append (position : Position) (first second : List Char) :
    position.after (first ++ second) = (position.after first).after second := by
  simp [after]

end Position

namespace Lexer

/-- Whether each of some lexemes stands where the ones before it end, the first at a given place. -/
def Placed (position : Position) : List Lexeme → Prop
  | [] => True
  | lexeme :: rest =>
    lexeme.position = position ∧ Placed (position.after lexeme.content.toList) rest

theorem placed_append {position : Position} {first second : List Lexeme} :
    Placed position (first ++ second) ↔
      Placed position first ∧ Placed (position.after (spelled first)) second := by
  induction first generalizing position with
  | nil => simp [Placed, Position.after]
  | cons lexeme rest ih => simp [Placed, ih, Position.after_append, and_assoc]

theorem placed_settle {position : Position} {lexemes : List Lexeme}
    (placed : Placed position lexemes) : Placed position (settle lexemes) := by
  induction lexemes generalizing position with
  | nil => exact placed
  | cons lexeme rest ih => exact ⟨placed.1, ih placed.2⟩

/-- Lexemes that are not empty stand one after the other. -/
theorem Placed.pairwise_before {position : Position} {lexemes : List Lexeme}
    (placed : Placed position lexemes) (nonempty : ∀ lexeme ∈ lexemes, lexeme.content ≠ "") :
    lexemes.Pairwise fun first second => first.position.Before second.position := by
  have reached : ∀ (lexemes : List Lexeme) (position start : Position), Placed position lexemes →
      start.Before position → (∀ lexeme ∈ lexemes, lexeme.content ≠ "") →
      ∀ lexeme ∈ lexemes, start.Before lexeme.position := by
    intro lexemes
    induction lexemes with
    | nil => simp
    | cons first rest ih =>
        intro position start placed before nonempty lexeme member
        rcases List.mem_cons.mp member with rfl | member
        · exact placed.1 ▸ before
        · have inside : first.content.toList ≠ [] := by
            simpa using nonempty first (List.mem_cons_self ..)
          refine ih _ start placed.2 (before.trans (position.before_after inside)) ?_ lexeme member
          intro other among
          exact nonempty other (List.mem_cons_of_mem _ among)
  induction lexemes generalizing position with
  | nil => exact .nil
  | cons first rest ih =>
      have restNonempty : ∀ lexeme ∈ rest, lexeme.content ≠ "" := fun other among =>
        nonempty other (List.mem_cons_of_mem _ among)
      have inside : first.content.toList ≠ [] := by
        simpa using nonempty first (List.mem_cons_self ..)
      refine .cons ?_ (ih placed.2 restNonempty)
      rw [placed.1]
      exact reached rest _ position placed.2 (position.before_after inside) restNonempty

namespace Scanner

/-- One step of a scan: a lexeme is cut off a text that is not empty. -/
inductive Step : Scanner × List Char → Scanner × List Char → Prop where
  | cut {scanner : Scanner} {char : Char} {chars : List Char} {move : Move}
      (moved : scanner.move (char :: chars) = .ok move) :
      Step (scanner, char :: chars)
        (scanner.advance move ((char :: chars).take move.length), (char :: chars).drop move.length)

/-- Any number of steps of a scan. -/
abbrev Steps : Scanner × List Char → Scanner × List Char → Prop := Relation.ReflTransGen Step

theorem Step.run_eq {point next : Scanner × List Char} (step : Step point next) :
    point.1.run point.2 = next.1.run next.2 := by
  cases step with
  | cut moved =>
      rw [run]
      simp only [moved]

theorem Steps.run_eq {point next : Scanner × List Char} (steps : Steps point next) :
    point.1.run point.2 = next.1.run next.2 := by
  induction steps with
  | refl => rfl
  | tail _ step ih => rw [ih, step.run_eq]

/-- A scan stops where the text ends or where the next step fails. -/
theorem exists_stop (scanner : Scanner) (rest : List Char) :
    ∃ stopped left, Steps (scanner, rest) (stopped, left) ∧
      (left = [] ∧ scanner.run rest = ⟨stopped.emitted.reverse, [], none⟩ ∨
        ∃ failure, left ≠ [] ∧ stopped.move left = .error failure ∧
          scanner.run rest = ⟨stopped.emitted.reverse, left, some failure⟩) := by
  fun_induction Scanner.run scanner rest with
  | case1 scanner => exact ⟨scanner, [], .refl, .inl ⟨rfl, rfl⟩⟩
  | case2 scanner char chars failure stopped =>
      exact ⟨scanner, char :: chars, .refl, .inr ⟨failure, by simp, stopped, rfl⟩⟩
  | case3 scanner char chars move moved ih =>
      rcases ih with ⟨stopped, left, steps, outcome⟩
      exact ⟨stopped, left, .head (.cut moved) steps, outcome⟩

/-- What holds of the lexemes that a scan has read: none is empty, and each stands where the ones
before it end. -/
structure Orderly (scanner : Scanner) : Prop where
  nonempty : ∀ lexeme ∈ scanner.emitted, lexeme.content ≠ ""
  position_eq : scanner.position = Position.start.after (spelled scanner.emitted.reverse)
  placed : Placed .start scanner.emitted.reverse

theorem orderly_start : Orderly start := ⟨by simp [start], rfl, trivial⟩

theorem Orderly.step {point next : Scanner × List Char} (orderly : point.1.Orderly)
    (step : Step point next) : next.1.Orderly := by
  cases step with
  | @cut scanner char chars move moved =>
      rcases orderly with ⟨nonempty, position_eq, placed⟩
      refine ⟨?_, ?_, ?_⟩
      · intro lexeme member
        rcases List.mem_cons.mp member with rfl | member
        · have positive := move.length_pos
          simp only [ne_eq, String.ofList_eq_empty_iff, List.take_eq_nil_iff]
          simp
          omega
        · exact nonempty lexeme member
      · simp only [advance, List.reverse_cons, spelled_append, Position.after_append, ← position_eq]
        simp
      · simp only [advance, List.reverse_cons]
        rw [placed_append]
        exact ⟨placed, position_eq, trivial⟩

theorem Orderly.steps {point next : Scanner × List Char} (orderly : point.1.Orderly)
    (steps : Steps point next) : next.1.Orderly := by
  induction steps with
  | refl => exact orderly
  | tail _ step ih => exact ih.step step

end Scanner

/-- The lexemes of a scan are those of an orderly scanner, and a failed scan leaves some text. -/
theorem exists_orderly_scan (source : String) :
    ∃ scanner : Scanner, scanner.Orderly ∧ (scan source).lexemes = scanner.emitted.reverse ∧
      ((scan source).failure ≠ none → (scan source).rest ≠ []) := by
  rcases Scanner.exists_stop .start source.toList with ⟨stopped, left, steps, outcome⟩
  have orderly := Scanner.orderly_start.steps steps
  rcases outcome with ⟨-, scanned⟩ | ⟨failure, text_left, -, scanned⟩
  · exact ⟨stopped, orderly, by rw [scan, scanned], by rw [scan, scanned]; simp⟩
  · exact ⟨stopped, orderly, by rw [scan, scanned], by rw [scan, scanned]; simpa using text_left⟩

theorem toList_join_content (lexemes : List Lexeme) :
    (String.join (lexemes.map Lexeme.content)).toList = spelled lexemes := by
  rw [String.toList_join, List.flatMap_map]
  rfl

theorem content_ne_empty_scan (source : String) :
    ∀ lexeme ∈ (scan source).lexemes, lexeme.content ≠ "" := by
  rcases exists_orderly_scan source with ⟨scanner, orderly, lexemes_eq, -⟩
  rw [lexemes_eq]
  intro lexeme member
  exact orderly.nonempty lexeme (List.mem_reverse.mp member)

theorem content_ne_empty_of_lex {source : String} {lexemes : List Lexeme}
    (lexed : lex source = .ok lexemes) : ∀ lexeme ∈ lexemes, lexeme.content ≠ "" := by
  simp only [lex] at lexed
  split at lexed
  · cases lexed
  · cases lexed
    intro lexeme member
    have among := List.mem_map_of_mem (f := Lexeme.content) member
    rw [map_content_settle] at among
    rcases List.mem_map.mp among with ⟨read, read_mem, content_eq⟩
    exact content_eq ▸ content_ne_empty_scan source read read_mem

/-- A source that can be cut into lexemes is made up of them, and where the cutting fails, those
read so far are made of a part of the source before its end. No lexeme is ever empty. -/
theorem lex_lossless (source : String) :
    match lex source with
    | .ok lexemes =>
      String.join (lexemes.map Lexeme.content) = source ∧ ∀ lexeme ∈ lexemes, lexeme.content ≠ ""
    | .error _ =>
      (∃ left ≠ "", String.join ((scan source).lexemes.map Lexeme.content) ++ left = source) ∧
        ∀ lexeme ∈ (scan source).lexemes, lexeme.content ≠ "" := by
  cases lexed : lex source with
  | ok lexemes =>
      refine ⟨?_, content_ne_empty_of_lex lexed⟩
      exact String.toList_inj.mp ((toList_join_content lexemes).trans (spelled_lex lexed))
  | error failure =>
      refine ⟨⟨String.ofList (scan source).rest, ?_, ?_⟩, content_ne_empty_scan source⟩
      · rcases exists_orderly_scan source with ⟨-, -, -, text_left⟩
        simp only [lex] at lexed
        split at lexed
        · rename_i failed
          simpa using text_left (by simp [failed])
        · cases lexed
      · rw [← String.toList_inj, String.toList_append, toList_join_content, String.toList_ofList]
        exact spelled_run .start source.toList

theorem placed_of_lex {source : String} {lexemes : List Lexeme} (lexed : lex source = .ok lexemes) :
    Placed .start lexemes := by
  simp only [lex] at lexed
  split at lexed
  · cases lexed
  · cases lexed
    rcases exists_orderly_scan source with ⟨scanner, orderly, lexemes_eq, -⟩
    rw [lexemes_eq]
    exact placed_settle orderly.placed

end Lexer

namespace TokenStream

theorem map_position_ofLexemes (lexemes : List Lexeme) :
    (ofLexemes lexemes).tokens.toList.map Token.position = lexemes.map Lexeme.position := by
  apply List.ext_getElem
  · simp [ofLexemes]
  · intro index _ _
    simp [ofLexemes]

/-- The tokens of a source stand one after the other. -/
theorem pairwise_before_of_tokenize {source : String} {stream : TokenStream}
    (read : tokenize source = .ok stream) :
    (stream.tokens.toList.map Token.position).Pairwise Position.Before := by
  rcases exists_lex_of_tokenize read with ⟨lexemes, lexed, rfl⟩
  rw [map_position_ofLexemes, List.pairwise_map]
  exact (Lexer.placed_of_lex lexed).pairwise_before (Lexer.content_ne_empty_of_lex lexed)

end TokenStream

end TokenLint
