import TokenLint.Fix.Ledger
import TokenLint.Proofs.Lexer.Steps
import TokenLint.Proofs.Stream.Span

/-!
# Reading an edited stream in pieces

As long as no two pieces of an edited stream run together, each token that was left alone is read
again as it was, and what stands in place of another one is read as it is read alone. The lexemes of
the new source can then be told apart by the tokens that they come from.
-/

namespace TokenLint

open Lexer

/-- A lexeme without its place. -/
def Lexeme.sign (lexeme : Lexeme) : TokenKind × String := (lexeme.kind, lexeme.content)

namespace Lexer

/-- How a piece of code is read alone. -/
def signsInCode (text : String) : List (TokenKind × String) :=
  (({ Scanner.start with mode := .code } : Scanner).run text.toList).lexemes.map Lexeme.sign

theorem signsInCode_empty : signsInCode "" = [] := by
  rw [signsInCode, String.toList_empty, Scanner.run]
  rfl

theorem spelled_eq_flatMap_sign (lexemes : List Lexeme) :
    spelled lexemes = (lexemes.map Lexeme.sign).flatMap fun sign => sign.2.toList := by
  rw [List.flatMap_map]
  rfl

theorem eq_nil_of_spelled_eq_nil {lexemes : List Lexeme}
    (solid : ∀ lexeme ∈ lexemes, lexeme.content ≠ "") (empty : spelled lexemes = []) :
    lexemes = [] := by
  rcases lexemes with _ | ⟨lexeme, rest⟩
  · rfl
  · rw [spelled_cons, List.append_eq_nil_iff, String.toList_eq_nil_iff] at empty
    exact absurd empty.1 (solid lexeme (List.mem_cons_self ..))

/-- A source tells where its lexemes divide. -/
theorem eq_length_of_spelled_take {front back : List Lexeme} {count : Nat}
    (solid : ∀ lexeme ∈ front ++ back, lexeme.content ≠ "")
    (count_le : count ≤ (front ++ back).length)
    (same : spelled ((front ++ back).take count) = spelled front) : count = front.length := by
  rcases Nat.le_total count front.length with short | long
  · rw [List.take_append_of_le_length short] at same
    have whole := congrArg spelled (List.take_append_drop count front)
    rw [spelled_append, same, List.append_right_eq_self] at whole
    have nothing := eq_nil_of_spelled_eq_nil (fun lexeme member =>
      solid lexeme (List.mem_append_left _ (List.mem_of_mem_drop member))) whole
    exact Nat.le_antisymm short (List.drop_eq_nil_iff.mp nothing)
  · rw [List.take_append, List.take_of_length_le long, spelled_append,
      List.append_right_eq_self] at same
    have nothing := eq_nil_of_spelled_eq_nil (fun lexeme member =>
      solid lexeme (List.mem_append_right _ (List.mem_of_mem_take member))) same
    rw [List.length_append] at count_le
    rcases List.take_eq_nil_iff.mp nothing with none_taken | empty
    · omega
    · rw [empty, List.length_nil] at count_le
      omega

end Lexer

namespace Ledger

variable (ledger : Ledger) (stream : TokenStream)

/-- The text after the edits of the tokens from `start` up to but not including `stop`. -/
def textBetween (start stop : Nat) : List Char :=
  (stream.tokensBetween start stop).flatMap fun token => (ledger.tokenText token).toList

/-- How a token is read after the edits if it stands alone. -/
def signs (token : Token) : List (TokenKind × String) :=
  if ledger.isTouched token.index then signsInCode (ledger.tokenText token)
  else [(token.kind, token.content)]

/-- How the tokens from `start` up to but not including `stop` are read after the edits if each of
them stands alone. -/
def signsBetween (start stop : Nat) : List (TokenKind × String) :=
  (stream.tokensBetween start stop).flatMap ledger.signs

/-- The kinds that these tokens are read with. -/
def kindsBetween (start stop : Nat) : List TokenKind :=
  (ledger.signsBetween stream start stop).map Prod.fst

/-- Whether the edited stream is read token by token. -/
def ReadsAsWritten (found : List Lexeme) : Prop :=
  found.map Lexeme.sign = ledger.signsBetween stream 0 stream.size

instance (found : List Lexeme) : Decidable (ledger.ReadsAsWritten stream found) :=
  inferInstanceAs (Decidable (_ = _))

variable {ledger stream} {start middle stop index : Nat} {token : Token}

theorem signsBetween_split (after : start ≤ middle) (before : middle ≤ stop) :
    ledger.signsBetween stream start stop =
      ledger.signsBetween stream start middle ++ ledger.signsBetween stream middle stop := by
  rw [signsBetween, TokenStream.tokensBetween_split after before, List.flatMap_append]
  rfl

theorem kindsBetween_split (after : start ≤ middle) (before : middle ≤ stop) :
    ledger.kindsBetween stream start stop =
      ledger.kindsBetween stream start middle ++ ledger.kindsBetween stream middle stop := by
  rw [kindsBetween, signsBetween_split after before, List.map_append]
  rfl

theorem kindsBetween_self : ledger.kindsBetween stream index index = [] := by
  simp [kindsBetween, signsBetween, TokenStream.tokensBetween]

theorem kindsBetween_one (here : stream.token? index = some token) :
    ledger.kindsBetween stream index (index + 1) = (ledger.signs token).map Prod.fst := by
  rw [kindsBetween, signsBetween, TokenStream.tokensBetween_one here, List.flatMap_singleton]

theorem mem_kindsBetween_iff {kind : TokenKind} : kind ∈ ledger.kindsBetween stream start stop ↔
    ∃ index, start ≤ index ∧ index < stop ∧
      kind ∈ ledger.kindsBetween stream index (index + 1) := by
  rw [kindsBetween, signsBetween, List.map_flatMap, List.mem_flatMap]
  constructor
  · rintro ⟨token, among, member⟩
    rcases TokenStream.mem_tokensBetween_iff.mp among with ⟨index, after, before, here⟩
    exact ⟨index, after, before, by rw [kindsBetween_one here]; exact member⟩
  · rintro ⟨index, after, before, member⟩
    rw [kindsBetween, signsBetween, List.map_flatMap, List.mem_flatMap] at member
    rcases member with ⟨token, among, member⟩
    rcases TokenStream.mem_tokensBetween_iff.mp among with ⟨place, after_, before_, here⟩
    exact ⟨token, TokenStream.mem_tokensBetween_iff.mpr ⟨place, by omega, by omega, here⟩, member⟩

/-- The texts of the pieces make up the text of the tokens. -/
theorem flatMap_signsBetween (spells : ∀ token ∈ stream.tokens.toList,
      ((ledger.signs token).flatMap fun sign => sign.2.toList) = (ledger.tokenText token).toList) :
    ((ledger.signsBetween stream start stop).flatMap fun sign => sign.2.toList) =
      ledger.textBetween stream start stop := by
  rw [signsBetween, List.flatMap_assoc]
  refine List.flatMap_congr fun token member => spells token ?_
  exact List.mem_of_mem_drop (List.mem_of_mem_take member)

/-- The lexemes of the new source, divided at two tokens. -/
theorem ReadsAsWritten.exists_parts {found : List Lexeme}
    (reads : ledger.ReadsAsWritten stream found) (ordered : start ≤ stop)
    (inside : stop ≤ stream.size) :
    ∃ front middle back, found = front ++ middle ++ back ∧
      front.map Lexeme.sign = ledger.signsBetween stream 0 start ∧
      middle.map Lexeme.sign = ledger.signsBetween stream start stop ∧
      back.map Lexeme.sign = ledger.signsBetween stream stop stream.size := by
  rw [ReadsAsWritten, signsBetween_split (Nat.zero_le stop) inside,
    signsBetween_split (Nat.zero_le start) ordered, List.map_eq_append_iff] at reads
  rcases reads with ⟨lead, back, rfl, lead_eq, back_eq⟩
  rcases List.map_eq_append_iff.mp lead_eq with ⟨front, middle, rfl, front_eq, middle_eq⟩
  exact ⟨front, middle, back, rfl, front_eq, middle_eq, back_eq⟩

end Ledger

end TokenLint
