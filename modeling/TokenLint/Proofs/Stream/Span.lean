import TokenLint.Proofs.Lexer.Blanks
import TokenLint.Proofs.Stream.Bounds
import TokenLint.Proofs.Text.Trim

/-!
# The text of a range of tokens

Where no token but whitespace begins or ends with a blank, a range of tokens is the text of one of
them, apart from blanks around it, exactly if all the others are whitespace.
-/

namespace TokenLint

open Text Lexer

/-- The lexeme that a token is made from. -/
def Token.lexeme (token : Token) : Lexeme := ⟨token.kind, token.content, token.position⟩

theorem spelled_map_lexeme (tokens : List Token) :
    spelled (tokens.map Token.lexeme) = (tokens.map fun token => token.content.toList).flatten := by
  rw [spelled, List.flatMap_map]
  rfl

namespace TokenStream

theorem map_lexeme_ofLexemes (lexemes : List Lexeme) :
    (ofLexemes lexemes).tokens.toList.map Token.lexeme = lexemes := by
  apply List.ext_getElem
  · simp [ofLexemes]
  · intro index _ _
    simp [ofLexemes, Token.lexeme]

/-- The tokens from one index up to another. -/
def lexemesBetween (stream : TokenStream) (start stop : Nat) : List Lexeme :=
  ((stream.tokens.toList.drop start).take (stop - start)).map Token.lexeme

theorem lexemesBetween_ofLexemes (lexemes : List Lexeme) (start stop : Nat) :
    (ofLexemes lexemes).lexemesBetween start stop =
      (lexemes.drop start).take (stop - start) := by
  rw [lexemesBetween, List.map_take, List.map_drop, map_lexeme_ofLexemes]

variable {stream : TokenStream} {start middle stop index other : Nat} {token : Token}

/-- The tokens from `start` up to but not including `stop`. -/
def tokensBetween (stream : TokenStream) (start stop : Nat) : List Token :=
  (stream.tokens.toList.drop start).take (stop - start)

theorem tokensBetween_split (after : start ≤ middle) (before : middle ≤ stop) :
    stream.tokensBetween start stop =
      stream.tokensBetween start middle ++ stream.tokensBetween middle stop := by
  have stop_eq : stop - start = middle - start + (stop - middle) := by omega
  have middle_eq : start + (middle - start) = middle := by omega
  rw [tokensBetween, tokensBetween, tokensBetween, stop_eq, List.take_add, List.drop_drop,
    middle_eq]

theorem tokensBetween_one (here : stream.token? index = some token) :
    stream.tokensBetween index (index + 1) = [token] := by
  have found : stream.tokens.toList[index]? = some token := by
    rw [Array.getElem?_toList]
    exact here
  rw [tokensBetween, Nat.add_sub_cancel_left, List.take_one, List.head?_drop, found]
  rfl

theorem mem_tokensBetween_iff : token ∈ stream.tokensBetween start stop ↔
    ∃ index, start ≤ index ∧ index < stop ∧ stream.token? index = some token := by
  rw [tokensBetween, List.mem_iff_getElem?]
  simp only [List.getElem?_take, List.getElem?_drop, Array.getElem?_toList]
  constructor
  · rintro ⟨offset, found⟩
    split at found
    · exact ⟨start + offset, by omega, by omega, found⟩
    · cases found
  · rintro ⟨index, after, before, here⟩
    have index_eq : start + (index - start) = index := by omega
    refine ⟨index - start, ?_⟩
    rw [if_pos (by omega), index_eq]
    exact here

/-- Whether a token is the only one of a range that is no whitespace. -/
structure IsLone (stream : TokenStream) (start stop index : Nat) : Prop where
  after : start ≤ index
  before : index < stop
  solid : stream.hasKind index .whitespace = false
  alone : ∀ other, start ≤ other → other < stop → other ≠ index →
    stream.hasKind other .whitespace = true

theorem IsLone.eq_of_solid (lone : stream.IsLone start stop index) (after : start ≤ other)
    (before : other < stop) (solid : stream.hasKind other .whitespace = false) :
    other = index := by
  by_contra differs
  rw [lone.alone other after before differs] at solid
  cases solid

/-- Whether the tokens of a range that are no whitespace neither begin nor end with a blank. -/
def IsTidy (stream : TokenStream) (start stop : Nat) : Prop :=
  ∀ index token, start ≤ index → index < stop → stream.token? index = some token →
    token.kind ≠ .whitespace → IsSolid isBlank token.content.toList

theorem toList_textBetween (stream : TokenStream) (start stop : Nat) :
    (stream.textBetween start stop).toList =
      (stream.tokensBetween start stop).flatMap fun token => token.content.toList := by
  rw [textBetween, Array.toList_extract, List.extract_eq_take_drop, String.toList_join,
    List.flatMap_map, tokensBetween]

theorem spelled_lexemesBetween (stream : TokenStream) (start stop : Nat) :
    spelled (stream.lexemesBetween start stop) = (stream.textBetween start stop).toList := by
  rw [lexemesBetween, spelled_map_lexeme, toList_textBetween, List.flatMap_def, tokensBetween]

theorem toList_textBetween_split (after : start ≤ middle) (before : middle ≤ stop) :
    (stream.textBetween start stop).toList =
      (stream.textBetween start middle).toList ++ (stream.textBetween middle stop).toList := by
  rw [toList_textBetween, toList_textBetween, toList_textBetween,
    tokensBetween_split after before, List.flatMap_append]

theorem toList_textBetween_one (here : stream.token? index = some token) :
    (stream.textBetween index (index + 1)).toList = token.content.toList := by
  rw [toList_textBetween, tokensBetween_one here, List.flatMap_singleton]

theorem mem_textBetween_iff {char : Char} :
    char ∈ (stream.textBetween start stop).toList ↔
      ∃ index token, start ≤ index ∧ index < stop ∧ stream.token? index = some token ∧
        char ∈ token.content.toList := by
  rw [toList_textBetween, List.mem_flatMap]
  constructor
  · rintro ⟨token, member, inside⟩
    rcases mem_tokensBetween_iff.mp member with ⟨index, after, before, here⟩
    exact ⟨index, token, after, before, here, inside⟩
  · rintro ⟨index, token, after, before, here, inside⟩
    exact ⟨token, mem_tokensBetween_iff.mpr ⟨index, after, before, here⟩, inside⟩

/-- Whether the text of every whitespace token is blank. -/
def HasBlankSpaces (stream : TokenStream) : Prop :=
  ∀ index token, stream.token? index = some token → token.kind = .whitespace →
    ∀ char ∈ token.content.toList, isBlank char = true

theorem hasBlankSpaces_of_tokenize {source : String} (read : tokenize source = .ok stream) :
    stream.HasBlankSpaces := by
  rcases exists_lex_of_tokenize read with ⟨lexemes, lexed, rfl⟩
  intro index token here isSpace
  simp only [token?, ofLexemes, List.getElem?_toArray, List.getElem?_mapIdx,
    Option.map_eq_some_iff] at here
  rcases here with ⟨lexeme, found, rfl⟩
  exact Lexer.blankSpaces_of_lex lexed lexeme (List.mem_of_getElem? found) isSpace

/-- The text of a tidy range is blank exactly if all its tokens are whitespace. -/
theorem IsTidy.blank_iff (tidy : stream.IsTidy start stop) (blank : stream.HasBlankSpaces)
    (inside : stop ≤ stream.size) :
    (∀ char ∈ (stream.textBetween start stop).toList, isBlank char = true) ↔
      ∀ other, start ≤ other → other < stop → stream.hasKind other .whitespace = true := by
  constructor
  · intro allBlank other after before
    rcases exists_token?_of_lt (before.trans_le inside) with ⟨token, here⟩
    by_contra solid
    have differs : token.kind ≠ .whitespace := by
      intro isSpace
      apply solid
      rw [hasKind, kind?, here, Option.map_some, isSpace]
      rfl
    rcases (tidy other _ after before here differs).first with ⟨char, head_eq, outside⟩
    have member := List.mem_of_mem_head? (Option.mem_def.mpr head_eq)
    have among := mem_textBetween_iff.mpr ⟨other, _, after, before, here, member⟩
    rw [allBlank char among] at outside
    cases outside
  · intro spaces char member
    rcases mem_textBetween_iff.mp member with ⟨other, token, after, before, here, within⟩
    have isSpace := spaces other after before
    rw [hasKind, kind?, here, Option.map_some, beq_iff_eq, Option.some.injEq] at isSpace
    exact blank other token here isSpace char within

theorem isTidy_mono {low high : Nat} (tidy : stream.IsTidy start stop) (low_ge : start ≤ low)
    (high_le : high ≤ stop) : stream.IsTidy low high :=
  fun index token after before => tidy index token (low_ge.trans after) (before.trans_le high_le)

/-- A token is the only one of a tidy range exactly if trimming the range leaves its text. -/
theorem IsTidy.isLone_iff (tidy : stream.IsTidy start stop) (blank : stream.HasBlankSpaces)
    (inside : stop ≤ stream.size) (after : start ≤ index) (before : index < stop)
    (here : stream.token? index = some token) (differs : token.kind ≠ .whitespace) :
    stream.IsLone start stop index ↔ trim (stream.textBetween start stop) = token.content := by
  have solid := tidy index token after before here differs
  have text_eq : (stream.textBetween start stop).toList =
      (stream.textBetween start index).toList ++ token.content.toList ++
        (stream.textBetween (index + 1) stop).toList := by
    rw [toList_textBetween_split after before.le,
      toList_textBetween_split (Nat.le_succ index) before, Nat.succ_eq_add_one,
      toList_textBetween_one here, List.append_assoc]
  have front := (isTidy_mono tidy (Nat.le_refl start) before.le).blank_iff blank
    (before.le.trans inside)
  have back := (isTidy_mono tidy (after.trans (Nat.le_succ index)) (Nat.le_refl stop)).blank_iff
    blank inside
  rw [trim, trimSet, text_eq, ← String.toList_inj, String.toList_ofList, solid.trimChars_eq_iff,
    front, back]
  constructor
  · intro lone
    refine ⟨?_, ?_⟩
    · intro other other_after other_before
      exact lone.alone other other_after (other_before.trans before) other_before.ne
    · intro other other_after other_before
      exact lone.alone other (by omega) other_before (by omega)
  · rintro ⟨front_spaces, back_spaces⟩
    refine ⟨after, before, ?_, ?_⟩
    · rw [hasKind, kind?, here, Option.map_some, beq_eq_false_iff_ne]
      simpa using differs
    · intro other other_after other_before other_ne
      rcases Nat.lt_or_gt_of_ne other_ne with earlier | later
      · exact front_spaces other other_after earlier
      · exact back_spaces other later other_before

end TokenStream

end TokenLint
