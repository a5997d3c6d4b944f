import TokenLint.Proofs.Lexer.Swap

/-!
# Steps in front of square brackets and negations

A step that ends before the word of an array literal, before a closing parenthesis or before a
negation ends at the same place if a square bracket, a parenthesis or another negation stands there
instead. None of these characters completes a sign, a tag or a number, and a comment that ends
before them has ended at something else. Only the closing label of a heredoc can need the word: a
label whose last character is not that of a word ends in front of one, but not in front of a
bracket.
-/

namespace TokenLint.Lexer

open Text

/-- What is exchanged: the first letter of `array`, a closing parenthesis or a negation. -/
def turnedChars : List Char := ['a', 'A', ')', '!']

/-- What stands there instead: a square bracket, a parenthesis or a negation. -/
def turningChars : List Char := ['[', ']', '(', '!']

/-- Whether one text begins with a character that is exchanged, and another one with a character
that takes its place. -/
structure Turns (rest other : List Char) : Prop where
  rest_head : ∃ char ∈ turnedChars, rest.head? = some char
  other_head : ∃ char ∈ turningChars, other.head? = some char

/-- All characters that a rest begins with before or after an exchange. -/
def turnChars : List Char := turnedChars ++ turningChars

variable {text rest other : List Char}

namespace Turns

theorem rest_begins (turns : Turns rest other) : BeginsWith turnChars rest := by
  rcases turns.rest_head with ⟨first, member, head_eq⟩
  intro char found
  rw [head_eq] at found
  exact Option.some.inj found ▸ List.mem_append_left _ member

theorem other_begins (turns : Turns rest other) : BeginsWith turningChars other := by
  rcases turns.other_head with ⟨first, member, head_eq⟩
  intro char found
  rw [head_eq] at found
  exact Option.some.inj found ▸ member

theorem other_turn (turns : Turns rest other) : BeginsWith turnChars other :=
  fun char found => List.mem_append_right _ (turns.other_begins char found)

end Turns

theorem noTag_of_turn (begins : BeginsWith turnChars rest) : BeginsNoTag rest :=
  begins.noTag (by decide)

namespace Turns

variable (turns : Turns rest other)

include turns

theorem exists_head_rest : ∃ first ∈ rest.head?, first ≠ '?' := by
  rcases turns.rest_head with ⟨first, member, head_eq⟩
  have noMark : ∀ char ∈ turnedChars, char ≠ '?' := by decide
  exact ⟨first, head_eq, noMark first member⟩

theorem swap (nonempty : text ≠ []) : Swap text rest other where
  nonempty := nonempty
  heredocSign := by
    rw [turns.rest_begins.isPrefixOf_append (by decide) nonempty,
      turns.other_turn.isPrefixOf_append (by decide) nonempty]
  commentSign := by
    rw [turns.rest_begins.isPrefixOf_append (by decide) nonempty,
      turns.other_turn.isPrefixOf_append (by decide) nonempty]
  closeTag := by
    rw [turns.rest_begins.closeTagLength_append (by decide) (by decide) nonempty,
      turns.other_turn.closeTagLength_append (by decide) (by decide) nonempty]
  whitespace := by
    rw [turns.rest_begins.whitespaceLength_append (by decide) (by decide),
      turns.other_turn.whitespaceLength_append (by decide) (by decide)]
  lineComment := turns.rest_begins.lineCommentLength_eq (by decide) turns.other_turn (by decide)
    turns.exists_head_rest nonempty
  name := turns.other_begins.stops (by decide)
  starts _ := turns.other_begins.prefix_of_start (by decide) nonempty
  float _ := by
    rw [floatLength_append_of_stops (turns.rest_begins.stops (by decide +kernel)),
      floatLength_append_of_stops (turns.other_turn.stops (by decide +kernel))]
  integer := turns.other_begins.integerLength_append (by decide +kernel) (by decide)
  operator length _ found := by
    rwa [turns.other_turn.operatorLength?_append (by decide) nonempty,
      ← turns.rest_begins.operatorLength?_append (by decide) nonempty]

/-- A piece is cut off in front of the other rest as well, unless it is a heredoc whose label ends
in front of a word. -/
theorem stride?_append {mode next : Mode} {piece : List Char} (nonempty : piece ≠ [])
    (ends : mode = .markup ∨ heredocStart? (piece ++ (text ++ rest)) = none ∨ text ≠ [] ∨
      Stops isWord rest)
    (cut : stride? mode (piece ++ (text ++ rest)) = some (piece.length, next)) :
    stride? mode (piece ++ (text ++ other)) = some (piece.length, next) := by
  cases mode with
  | code =>
      refine (turns.swap (by simp [nonempty])).stride?_append (fun present label => ?_) cut
      rcases ends with markup | absent | ends
      · cases markup
      · exact absurd absent present
      · exact labelEnds_append_of_stops ends (turns.other_begins.stops (by decide +kernel))
  | markup =>
      have noTag := noTag_of_turn turns.rest_begins
      have otherNoTag := noTag_of_turn turns.other_turn
      have goesOn : rest ≠ [] := by
        rcases turns.rest_head with ⟨first, -, head_eq⟩
        rintro rfl
        cases head_eq
      refine stride?_markup_append noTag otherNoTag goesOn ?_ cut
      rw [← List.append_assoc, ← List.append_assoc,
        turns.rest_begins.openTagLength_append (by decide) (by decide) noTag,
        turns.other_turn.openTagLength_append (by decide) (by decide) otherNoTag]

end Turns

end TokenLint.Lexer
