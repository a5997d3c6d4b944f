import TokenLint.Proofs.Lexer.Core
import TokenLint.Proofs.Navigation.TernaryExtent
import TokenLint.Proofs.Rule.RepeatedKeys
import TokenLint.Proofs.Stream.Span
import TokenLint.Rule.Elvis

/-!
# What repeats a condition

The comparison of a condition with its branch strips blanks and parentheses from the ends of their
texts, whether they match or not. So a report says that both hold the same code apart from
parentheses at the ends. This takes that no token shares a character with what is stripped, except
for a cast that both begin with.
-/

namespace TokenLint

open Lexer Text

/-- Stripping takes loose characters from both ends. -/
theorem exists_stripParentheses (text : String) :
    ∃ before after, text.toList = before ++ (stripParentheses text).toList ++ after ∧
      AllLoose before ∧ AllLoose after := by
  have blank : ∀ {char : Char}, isBlank char = true → isLoose char = true := by
    intro char isBlank
    simp [isLoose, isBlank]
  have parenthesis : ∀ {char : Char}, (char = '(' || char = ')') = true → isLoose char = true := by
    intro char isParenthesis
    simp only [Bool.or_eq_true, decide_eq_true_eq] at isParenthesis
    rcases isParenthesis with rfl | rfl <;> rfl
  rcases exists_trimChars isBlank text.toList with ⟨before, after, text_eq, blanks, blanks'⟩
  rcases exists_trimChars (fun char => char = '(' || char = ')') (trimChars isBlank text.toList)
    with ⟨opening, closing, trimmed_eq, opens, closes⟩
  rcases exists_trimChars isBlank (trimChars (fun char => char = '(' || char = ')')
    (trimChars isBlank text.toList)) with ⟨leading, trailing, inner_eq, leads, trails⟩
  refine ⟨before ++ opening ++ leading, trailing ++ closing ++ after, ?_, ?_, ?_⟩
  · rw [stripParentheses, trim, trim, trimSet, trimSet, trimSet, String.toList_ofList,
      String.toList_ofList, String.toList_ofList]
    conv_lhs => rw [text_eq, trimmed_eq, inner_eq]
    simp only [List.append_assoc]
  · intro char member
    rcases List.mem_append.mp member with member | member
    · rcases List.mem_append.mp member with member | member
      · exact blank (blanks char member)
      · exact parenthesis (opens char member)
    · exact blank (leads char member)
  · intro char member
    rcases List.mem_append.mp member with member | member
    · rcases List.mem_append.mp member with member | member
      · exact blank (trails char member)
      · exact parenthesis (closes char member)
    · exact blank (blanks' char member)

namespace TokenStream

variable {lexemes : List Lexeme} {mode : Mode} {start mark : Nat} {sign : String}

/-- A walk to a sign that passes no open tag begins in code. -/
theorem code_of_walk (walk : Walk (lexemes.map Lexeme.kind) startsStatement start mark)
    (reads : Reads mode (lexemes.drop start)) {kind : TokenKind}
    (found : (lexemes.map Lexeme.kind)[mark]? = some kind) (marks : signOf? kind = some sign) :
    mode = .code := by
  have here : ∀ {index : Nat} {kind : TokenKind}, (lexemes.map Lexeme.kind)[index]? = some kind →
      ∃ lexeme, lexeme.kind = kind ∧ lexemes.drop index = lexeme :: lexemes.drop (index + 1) := by
    intro index kind found
    rw [List.getElem?_map, Option.map_eq_some_iff] at found
    rcases found with ⟨lexeme, found, kind_eq⟩
    rcases List.getElem?_eq_some_iff.mp found with ⟨inside, rfl⟩
    exact ⟨_, kind_eq, List.drop_eq_getElem_cons inside⟩
  induction walk generalizing mode with
  | stay index =>
      rcases here found with ⟨lexeme, rfl, drop_eq⟩
      rw [drop_eq] at reads
      exact (reads.code_of_sign marks).1
  | pass there notOpens notCloses avoided rest ih =>
      rcases here there with ⟨lexeme, rfl, drop_eq⟩
      rw [drop_eq] at reads
      rcases reads with _ | ⟨cut, fits, later⟩
      have next_eq := ih later found
      subst next_eq
      cases mode with
      | code => rfl
      | markup =>
          -- Text in markup does not lead into code without an open tag.
          rcases fits.markup rfl with ⟨-, absent⟩ | opens | opens
          · simp only [stride?] at cut
            split at cut
            · simp only [Option.some.injEq, Prod.mk.injEq, and_true] at cut
              have same := openTagLength_of_append cut.le
              omega
            · split at cut <;> simp at cut
          · rw [opens] at avoided
            cases avoided
          · rw [opens] at avoided
            cases avoided
  | cross member rest ih =>
      rcases BracketPair.exists_shape member with ⟨shape, there, -⟩
      rcases here there with ⟨lexeme, kind_eq, drop_eq⟩
      rw [drop_eq] at reads
      rcases reads with _ | ⟨cut, fits, later⟩
      cases mode with
      | code => rfl
      | markup =>
          rcases fits.markup rfl with ⟨isKind, -⟩ | isKind | isKind <;> rw [isKind] at kind_eq <;>
            cases shape <;> cases kind_eq

theorem exists_reads_drop (reads : Reads .markup lexemes) (start : Nat) :
    ∃ mode, Reads mode (lexemes.drop start) := by
  rw [← List.take_append_drop start lexemes] at reads
  exact reads.exists_mode

/-- The tokens in front of a soft sign are read without what follows them. -/
theorem reads_lexemesBetween (reads : Reads mode (lexemes.drop start)) {stop : Nat}
    {kind : TokenKind} (ordered : start ≤ stop)
    (found : (lexemes.map Lexeme.kind)[stop]? = some kind) (marks : signOf? kind = some sign)
    (soft : ∀ tail, Soft (sign.toList ++ tail)) :
    Reads mode ((ofLexemes lexemes).lexemesBetween start stop) := by
  rw [List.getElem?_map, Option.map_eq_some_iff] at found
  rcases found with ⟨lexeme, found, rfl⟩
  rcases List.getElem?_eq_some_iff.mp found with ⟨inside, here⟩
  have split := List.take_append_drop (stop - start) (lexemes.drop start)
  rw [List.drop_drop, Nat.add_sub_cancel' ordered, List.drop_eq_getElem_cons inside, here] at split
  rw [lexemesBetween_ofLexemes]
  rw [← split] at reads
  exact reads.of_append marks soft

theorem soft_question (tail : List Char) : Soft ("?".toList ++ tail) := by
  rintro char ⟨⟩
  decide

theorem soft_colon (tail : List Char) : Soft (":".toList ++ tail) := by
  rintro char ⟨⟩
  decide

/-- Behind the question mark of a ternary stands code. -/
theorem reads_behind_question (reads : Reads .markup lexemes)
    (isThen : (lexemes.map Lexeme.kind)[mark]? = some .ternaryThen) :
    Reads .code (lexemes.drop (mark + 1)) := by
  rw [List.getElem?_map, Option.map_eq_some_iff] at isThen
  rcases isThen with ⟨lexeme, found, isThen⟩
  rcases List.getElem?_eq_some_iff.mp found with ⟨inside, here⟩
  rcases exists_reads_drop reads mark with ⟨mode, reads⟩
  rw [List.drop_eq_getElem_cons inside, here] at reads
  rcases reads with _ | ⟨cut, fits, later⟩
  rename_i next
  rcases fits.sign "?" (by rw [isThen]; rfl) with ⟨rfl, content_eq⟩
  cases next with
  | code => exact later
  | markup =>
      have long := (closesTag_of_stride?_markup cut).2
      rw [content_eq] at long
      exact absurd long (by decide)

/-- The scan of a source whose brackets all match. -/
theorem exists_reads_of_tokenize {source : String} {stream : TokenStream}
    (read : tokenize source = .ok stream) :
    ∃ lexemes, stream = ofLexemes lexemes ∧ Strict (lexemes.map Lexeme.kind) ∧
      Reads .markup lexemes := by
  rcases exists_lex_of_tokenize read with ⟨lexemes, lexed, rfl⟩
  rcases strict_of_tokenize read with ⟨other, same, strict⟩
  refine ⟨lexemes, rfl, ?_, reads_of_lex lexed⟩
  rw [← map_lexeme_ofLexemes lexemes, same, map_lexeme_ofLexemes]
  exact strict

/-- The contents of the code tokens of a range. -/
def codeBetween (stream : TokenStream) (start stop : Nat) : List String :=
  codeContents (stream.lexemesBetween start stop)

end TokenStream

/-- Lexemes of texts that are equal once they are stripped have a common core. -/
theorem exists_core_of_stripped {first second : List Lexeme} {firstText secondText : String}
    (firstReads : Reads .code first) (secondReads : Reads .code second)
    (alike : BeginAlike first second) (firstBare : BareLast first) (secondBare : BareLast second)
    (firstSpelled : spelled first = firstText.toList)
    (secondSpelled : spelled second = secondText.toList)
    (same : stripParentheses firstText = stripParentheses secondText) :
    ∃ core, Strips (codeContents first) core ∧ Strips (codeContents second) core := by
  rcases exists_stripParentheses firstText with ⟨firstLead, firstTrail, first_eq, firstLoose⟩
  rcases exists_stripParentheses secondText with ⟨secondLead, secondTrail, second_eq, secondLoose⟩
  rcases exists_trimChars isLoose (stripParentheses firstText).toList with
    ⟨lead, trail, inner_eq, leads, trails⟩
  rw [inner_eq] at first_eq
  rw [← same, inner_eq] at second_eq
  have joined : ∀ {before after : List Char}, AllLoose before → AllLoose after →
      AllLoose (before ++ after) := by
    intro before after before_loose after_loose char member
    rcases List.mem_append.mp member with inside | inside
    · exact before_loose char inside
    · exact after_loose char inside
  have firstFront := joined firstLoose.1 leads
  have firstBack := joined trails firstLoose.2
  have secondFront := joined secondLoose.1 leads
  have secondBack := joined trails secondLoose.2
  by_cases solid : trimChars isLoose (stripParentheses firstText).toList = []
  · have alone : ∀ {lexemes : List Lexeme} {before after : List Char}, Reads .code lexemes →
        BareLast lexemes → AllLoose (before ++ lead) → AllLoose (trail ++ after) →
        spelled lexemes = before ++ (lead ++ [] ++ trail) ++ after →
        Strips (codeContents lexemes) [] := by
      intro lexemes before after reads bare front back text_eq
      have loose : AllLoose (spelled lexemes) := by
        rw [text_eq]
        simpa using joined front back
      refine ⟨codeContents lexemes, [], by simp, ?_⟩
      simpa using parenthesis_of_not_core reads (List.Subset.refl _)
        (not_core_of_loose reads bare loose)
    rw [solid] at first_eq second_eq
    exact ⟨[], alone firstReads firstBare firstFront firstBack (firstSpelled.trans first_eq),
      alone secondReads secondBare secondFront secondBack (secondSpelled.trans second_eq)⟩
  · refine exists_core firstReads secondReads alike firstBare secondBare (isSolid_trimChars solid)
      ⟨firstFront, firstBack⟩ ⟨secondFront, secondBack⟩ ?_ ?_
    · rw [firstSpelled, first_eq]
      simp only [List.append_assoc]
    · rw [secondSpelled, second_eq]
      simp only [List.append_assoc]

namespace Rule

open TokenStream

variable {source : String} {stream : TokenStream} {index : Nat} {options : Table} {made : Report}

/-- The condition and the branch of a ternary that is reported hold the same code apart from
parentheses at the ends, if they begin alike and in neither the last token that is neither trivia
nor a parenthesis ends with a blank or a parenthesis. -/
theorem strips_of_makes (read : tokenize source = .ok stream)
    (isThen : stream.hasKind index .ternaryThen = true)
    (makes : (elvisOperator.process stream index options).Makes made) :
    made.index = index ∧ ∃ start colon, stream.conditionStart? index = some start ∧
      stream.ternaryElse? index = some colon ∧
      (BeginAlike (stream.lexemesBetween start index) (stream.lexemesBetween (index + 1) colon) →
        BareLast (stream.lexemesBetween start index) →
        BareLast (stream.lexemesBetween (index + 1) colon) →
        ∃ core, Strips (stream.codeBetween start index) core ∧
          Strips (stream.codeBetween (index + 1) colon) core) := by
  simp only [elvisOperator] at makes
  split at makes
  · rename_i start colon started answered
    split at makes
    · exact makes.elim
    rename_i same
    rw [makes_reportAndFix_iff] at makes
    simp only [Bool.or_eq_true, decide_eq_true_eq, not_or, not_not] at same
    refine ⟨by rw [makes]; rfl, start, colon, started, answered, fun alike condition branch => ?_⟩
    have isElse := hasKind_of_ternaryElse? answered
    have after := (ternaryElse?_bounds answered).1
    rcases exists_reads_of_tokenize read with ⟨lexemes, rfl, strict, reads⟩
    rw [hasKind_ofLexemes] at isThen isElse
    rcases walk_of_conditionStart? strict started with ⟨before, walk, -⟩
    rcases exists_reads_drop reads start with ⟨mode, later⟩
    have mode_eq := code_of_walk walk later isThen rfl
    subst mode_eq
    have conditionReads := reads_lexemesBetween later before.le isThen rfl soft_question
    have branchReads := reads_lexemesBetween (reads_behind_question reads isThen) after isElse rfl
      soft_colon
    exact exists_core_of_stripped conditionReads branchReads alike condition branch
      (spelled_lexemesBetween _ _ _) (spelled_lexemesBetween _ _ _) same.2
  · exact makes.elim

/-- A call and the same call in parentheses. -/
theorem strips_of_makes_call :
    ∃ stream made, tokenize "<?php f($a) ? (f($a)) : 1;" = .ok stream ∧
      (elvisOperator.process stream 6 []).Makes made ∧ made.index = 6 ∧
      BeginAlike (stream.lexemesBetween 1 6) (stream.lexemesBetween 7 15) ∧
      BareLast (stream.lexemesBetween 1 6) ∧ BareLast (stream.lexemesBetween 7 15) ∧
      ∃ core, Strips ["f", "(", "$a", ")"] core ∧ Strips ["(", "f", "(", "$a", ")", ")"] core := by
  have outcome : (tokenize "<?php f($a) ? (f($a)) : 1;").toOption.map (fun stream =>
      ((elvisOperator.process stream 6 []).firstReport?.map Report.index,
        [stream.conditionStart? 6, stream.ternaryElse? 6],
        [stream.hasKind 6 .ternaryThen, decide (BareFirst (stream.lexemesBetween 1 6)),
          decide (BareLast (stream.lexemesBetween 1 6)),
          decide (BareFirst (stream.lexemesBetween 7 15)),
          decide (BareLast (stream.lexemesBetween 7 15))],
        [stream.codeBetween 1 6, stream.codeBetween 7 15])) =
      some (some 6, [some 1, some 15], [true, true, true, true, true],
        [["f", "(", "$a", ")"], ["(", "f", "(", "$a", ")", ")"]]) := by
    decide +kernel
  rcases exists_tokenize_of_map_toOption outcome with ⟨stream, read, seen⟩
  simp only [Prod.mk.injEq, List.cons.injEq, Option.map_eq_some_iff, decide_eq_true_eq, and_true]
    at seen
  rcases seen with ⟨⟨made, first, index_eq⟩, ⟨started, answered⟩,
    ⟨isThen, conditionFirst, conditionLast, branchFirst, branchLast⟩, condition, branch⟩
  have makes := RuleProgram.makes_of_firstReport? first
  have alike : BeginAlike (stream.lexemesBetween 1 6) (stream.lexemesBetween 7 15) :=
    .inl ⟨conditionFirst, branchFirst⟩
  rcases strips_of_makes read isThen makes with ⟨-, start, colon, started', answered', strips⟩
  cases started.symm.trans started'
  cases answered.symm.trans answered'
  have common := strips alike conditionLast branchLast
  rw [condition, branch] at common
  exact ⟨stream, made, read, makes, index_eq, alike, conditionLast, branchLast, common⟩

-- A cast in the condition alone: no parentheses at the ends make up for it.
example : (tokenize "<?php (int)$a ? (\nint)$a : 1;").toOption.map (fun stream =>
    ((elvisOperator.process stream 4 []).firstReport?.map Report.index,
      stream.codeBetween 1 4, stream.codeBetween 5 12)) =
    some (some 4, ["(int)", "$a"], ["(", "int", ")", "$a"]) := by
  decide +kernel

/-- Whether a list of tokens can be turned into another one by removing matching parentheses that
enclose all of it. -/
inductive Unwraps (stream : TokenStream) : List Nat → List Nat → Prop where
  | stay (whole : List Nat) : Unwraps stream whole whole
  | peel {opener closer : Nat} {inner core : List Nat}
      (opens : stream.hasKind opener .openParenthesis = true)
      (closes : stream.partner? opener = some closer) (rest : Unwraps stream inner core) :
      Unwraps stream (opener :: (inner ++ [closer])) core

/-- The code tokens of a range. -/
def codeIndexes (stream : TokenStream) (start stop : Nat) : List Nat :=
  (List.range' start (stop - start)).filter fun index =>
    stream.kindIs index fun kind => !kind.isTrivia

/-- A call repeats a name for this rule, although no parentheses enclose the call. -/
theorem makes_report_of_called_name :
    ∃ stream made, tokenize "<?php f() ? f : 1;" = .ok stream ∧
      stream.hasKind 5 .ternaryThen = true ∧ (elvisOperator.process stream 5 []).Makes made ∧
      made.index = 5 ∧ stream.conditionStart? 5 = some 1 ∧ stream.ternaryElse? 5 = some 9 ∧
      ¬∃ condition branch, Unwraps stream (codeIndexes stream 1 5) condition ∧
        Unwraps stream (codeIndexes stream 6 9) branch ∧
        condition.map stream.contentAt = branch.map stream.contentAt := by
  have outcome : (tokenize "<?php f() ? f : 1;").toOption.map (fun stream =>
      ((elvisOperator.process stream 5 []).firstReport?.map Report.index,
        [stream.conditionStart? 5, stream.ternaryElse? 5],
        [stream.hasKind 5 .ternaryThen, stream.hasKind 1 .openParenthesis,
          stream.hasKind 7 .openParenthesis],
        [codeIndexes stream 1 5, codeIndexes stream 6 9])) =
      some (some 5, [some 1, some 9], [true, false, false], [[1, 2, 3], [7]]) := by
    decide +kernel
  rcases exists_tokenize_of_map_toOption outcome with ⟨stream, read, seen⟩
  simp only [Prod.mk.injEq, List.cons.injEq, Option.map_eq_some_iff, and_true] at seen
  rcases seen with ⟨⟨made, first, index_eq⟩, ⟨started, answered⟩,
    ⟨isThen, unopened, unopened'⟩, condition, branch⟩
  refine ⟨stream, made, read, isThen, RuleProgram.makes_of_firstReport? first, index_eq, started,
    answered, ?_⟩
  rw [condition, branch]
  rintro ⟨_, _, unwraps, unwraps', same⟩
  have whole : ∀ {opener : Nat} {rest core : List Nat},
      stream.hasKind opener .openParenthesis = false →
      Unwraps stream (opener :: rest) core → core = opener :: rest := by
    rintro opener rest core unopened unwraps
    cases unwraps with
    | stay => rfl
    | peel opens closes rest => rw [opens] at unopened; cases unopened
  rw [whole unopened unwraps, whole unopened' unwraps'] at same
  cases congrArg List.length same

end Rule

end TokenLint
