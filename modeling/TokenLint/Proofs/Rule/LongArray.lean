import TokenLint.Proofs.Rule.Rendering
import TokenLint.Proofs.Run.Mending
import TokenLint.Proofs.Run.Rewritten
import TokenLint.Proofs.Stream.ShortArray
import TokenLint.Rule.LongArray

/-!
# Fixes of long array literals

The rule for array literals reports every literal and makes one batch of edits for it. The batches
never meet, however the literals are nested, so one pass writes all of them in square brackets, and
the next pass has nothing to report. The closing label of a heredoc may need the word behind it: a
fix of a literal that stands there would undo the heredoc.
-/

namespace TokenLint

open Lexer Ledger

namespace TokenStream

/-- The edits for the array literal whose word stands at an index. -/
def shortArrayBatch (stream : TokenStream) (index : Nat) : List Edit :=
  match stream.arrayLiteral? index with
  | some pair => Rule.shortBracketEdits index pair
  | none => []

end TokenStream

/-- Whether a place belongs to the head of a literal or is its closing parenthesis. -/
def BelongsTo (index : Nat) (pair : BracketPair) (place : Nat) : Prop :=
  index ≤ place ∧ place ≤ pair.opener ∨ place = pair.closer

theorem belongsTo_of_mem {index : Nat} {pair : BracketPair} (after : index < pair.opener)
    {edit : Edit} (member : edit ∈ Rule.shortBracketEdits index pair) :
    BelongsTo index pair edit.index := by
  simp only [Rule.shortBracketEdits, Rule.removals, List.mem_append, List.mem_map,
    List.mem_range'_1, List.mem_cons, List.not_mem_nil, or_false] at member
  rcases member with ⟨place, within, rfl⟩ | rfl | rfl
  · exact .inl ⟨within.1, show place ≤ pair.opener by omega⟩
  · exact .inl ⟨Nat.le_of_lt after, Nat.le_refl _⟩
  · exact .inr rfl

namespace IsArrayLiteral

variable {kinds : List TokenKind} {index other place : Nat} {pair otherPair : BracketPair}

theorem closer_apart (literal : IsArrayLiteral kinds index pair)
    (otherLiteral : IsArrayLiteral kinds other otherPair) (from_word : index ≤ otherPair.closer)
    (to_opener : otherPair.closer ≤ pair.opener) : False := by
  rcases literal.outside otherLiteral.closes (by decide) rfl with before | behind
  · omega
  · have same : pair.opener = otherPair.closer := Nat.le_antisymm behind to_opener
    have opens := literal.opens
    rw [same, otherLiteral.closes] at opens
    cases opens

/-- No place belongs to two literals. -/
theorem eq_of_belongsTo (literal : IsArrayLiteral kinds index pair)
    (otherLiteral : IsArrayLiteral kinds other otherPair) (belongs : BelongsTo index pair place)
    (belongsToo : BelongsTo other otherPair place) : index = other := by
  rcases belongs with ⟨from_word, to_opener⟩ | rfl
  · rcases belongsToo with ⟨from_other, to_other⟩ | rfl
    · rcases Nat.lt_trichotomy index other with before | same | behind
      · have apart := literal.opener_lt_of_lt otherLiteral before
        omega
      · exact same
      · have apart := otherLiteral.opener_lt_of_lt literal behind
        omega
    · exact (literal.closer_apart otherLiteral from_word to_opener).elim
  · rcases belongsToo with ⟨from_other, to_other⟩ | same
    · exact (otherLiteral.closer_apart literal from_other to_other).elim
    · exact literal.index_eq_of_closer_eq otherLiteral same

end IsArrayLiteral

section Pass

variable {scanned : List Lexeme} (strict : Strict ((settle scanned).map Lexeme.kind))
  {index : Nat} {pair : BracketPair} {token : Token}

include strict

theorem exists_literal_of_mem {edit : Edit}
    (member : edit ∈ (TokenStream.ofLexemes (settle scanned)).shortArrayBatch index) :
    ∃ pair, IsArrayLiteral ((settle scanned).map Lexeme.kind) index pair ∧
      BelongsTo index pair edit.index := by
  simp only [TokenStream.shortArrayBatch] at member
  split at member
  · rename_i pair found
    have literal := (arrayLiteral?_settle_iff strict).mp found
    exact ⟨pair, literal, belongsTo_of_mem literal.after member⟩
  · cases member

/-- What the batch of a literal does to a token that belongs to it. -/
theorem editsAt_shortArrayBatch
    (literal : IsArrayLiteral ((settle scanned).map Lexeme.kind) index pair)
    (belongs : BelongsTo index pair token.index) :
    editsAt ((TokenStream.ofLexemes (settle scanned)).shortArrayBatch index) token.index =
      [⟨.replace, token.index,
        (TokenStream.ofLexemes (settle scanned)).shortArrayText token⟩] := by
  have after := literal.after
  have rises := literal.rises
  have batch_eq : (TokenStream.ofLexemes (settle scanned)).shortArrayBatch index =
      Rule.shortBracketEdits index pair := by
    simp only [TokenStream.shortArrayBatch, literal.arrayLiteral?_eq]
  rw [batch_eq, Rule.shortBracketEdits, editsAt_append, editsAt_removals]
  rcases belongs with ⟨from_word, to_opener⟩ | here
  · rcases Nat.eq_or_lt_of_le to_opener with here | before
    · rw [TokenStream.shortArrayText_of_opener strict literal here, if_neg (by omega), here]
      simp [editsAt, Nat.ne_of_gt rises]
    · rw [TokenStream.shortArrayText_of_head strict literal from_word before,
        if_pos ⟨from_word, before⟩]
      have opener_ne : pair.opener ≠ token.index := by omega
      have closer_ne : pair.closer ≠ token.index := by omega
      simp [editsAt, opener_ne, closer_ne, Rule.removal]
  · rw [TokenStream.shortArrayText_of_closer strict literal here, if_neg (by omega), here]
    simp [editsAt, Nat.ne_of_lt rises]

theorem longArray_cases (token : Token)
    (here : (TokenStream.ofLexemes (settle scanned)).token? token.index = some token) :
    (token.kind = .kwArray ∧ ∃ pair,
      IsArrayLiteral ((settle scanned).map Lexeme.kind) token.index pair ∧
      (TokenStream.ofLexemes (settle scanned)).shortArrayBatch token.index =
        Rule.shortBracketEdits token.index pair) ∨
    token.kind ≠ .kwArray ∧
      (TokenStream.ofLexemes (settle scanned)).shortArrayBatch token.index = [] := by
  have found : ((settle scanned).map Lexeme.kind)[token.index]? = some token.kind := by
    rw [← TokenStream.kind?_ofLexemes, TokenStream.kind?, here]
    rfl
  by_cases word : token.kind = .kwArray
  · rw [word] at found
    rcases exists_arrayLiteral strict found with ⟨pair, literal⟩
    refine .inl ⟨word, pair, literal, ?_⟩
    simp only [TokenStream.shortArrayBatch, literal.arrayLiteral?_eq]
  · refine .inr ⟨word, ?_⟩
    have absent : (TokenStream.ofLexemes (settle scanned)).arrayLiteral? token.index = none := by
      rw [Option.eq_none_iff_forall_ne_some]
      intro pair literal
      rw [arrayLiteral?_settle_iff strict] at literal
      exact word (Option.some.inj (found.symm.trans literal.word))
    simp only [TokenStream.shortArrayBatch, absent]

/-- The rule for array literals fixes every literal by its own batch. -/
theorem mends_longArray {dispatcher : Dispatcher} {context : RuleContext}
    (sole : dispatcher.contexts = [context]) (rule_eq : context.rule = .longArray) :
    dispatcher.Mends (.ofLexemes (settle scanned))
      (TokenStream.ofLexemes (settle scanned)).shortArrayBatch where
  said token member := by
    have here := (TokenStream.bounded_ofLexemes (settle scanned)).token?_of_mem member
    rcases longArray_cases strict token here with
      ⟨word, pair, literal, batch_eq⟩ | ⟨other, batch_eq⟩
    · have nonempty : Rule.shortBracketEdits token.index pair ≠ [] := by
        simp [Rule.shortBracketEdits]
      rw [batch_eq]
      refine .inr ⟨nonempty, [], context, [], sole, ?_, by simp⟩
      rw [rule_eq]
      refine ⟨by rw [word]; rfl, fun options => ?_⟩
      simp only [Rule.longArray, here, Option.bind_some, literal.parenthesis_eq strict here]
      exact .together rfl rfl (Report.renders_of_nil rfl) nonempty
    · refine .inl ⟨batch_eq, ?_⟩
      rw [sole]
      intro only among interested
      rw [List.mem_singleton.mp among, rule_eq] at interested
      exact absurd (eq_of_contains_singleton interested) other
  covers token member edit made := by
    rcases exists_literal_of_mem strict made with ⟨pair, literal, belongs⟩
    have closer_lt := (List.getElem?_eq_some_iff.mp literal.closes).1
    rw [List.length_map, ← TokenStream.size_ofLexemes] at closer_lt
    have rises := literal.rises
    rcases belongs with ⟨-, to_opener⟩ | same
    · omega
    · omega
  apart first _ second _ differs edit made other made_too same := by
    rcases exists_literal_of_mem strict made with ⟨pair, literal, belongs⟩
    rcases exists_literal_of_mem strict made_too with ⟨otherPair, otherLiteral, belongsToo⟩
    rw [same] at belongs
    exact differs (literal.eq_of_belongsTo otherLiteral belongs belongsToo)

/-- A pass of the rule leaves of a token what the literals written in square brackets leave. -/
theorem tokenText_longArray {dispatcher : Dispatcher} {context : RuleContext}
    (sole : dispatcher.contexts = [context]) (rule_eq : context.rule = .longArray)
    (member : token ∈ (TokenStream.ofLexemes (settle scanned)).tokens.toList) :
    (dispatcher.dispatch (.ofLexemes (settle scanned)) true).2.pass.ledger.tokenText token =
      (TokenStream.ofLexemes (settle scanned)).shortArrayText token := by
  have mends := mends_longArray strict sole rule_eq
  have bounded := TokenStream.bounded_ofLexemes (settle scanned)
  have inside := bounded.index_lt member
  by_cases literal_here : ∃ index pair,
    IsArrayLiteral ((settle scanned).map Lexeme.kind) index pair ∧ BelongsTo index pair token.index
  · rcases literal_here with ⟨index, pair, literal, belongs⟩
    have edits_eq := editsAt_shortArrayBatch strict literal belongs
    have word_lt := (List.getElem?_eq_some_iff.mp literal.word).1
    rw [List.length_map, ← TokenStream.size_ofLexemes] at word_lt
    rcases TokenStream.exists_token?_of_lt word_lt with ⟨word, word_at⟩
    have word_eq := bounded.index_eq word_at
    subst word_eq
    have among := List.mem_of_getElem? (Array.getElem?_toList.trans word_at)
    have patched := mends.patch?_of_touched bounded among inside (by simp [edits_eq])
    rw [edits_eq] at patched
    simp [tokenText, patched, enter, Patch.add, Patch.empty, Patch.render]
  · have untouched := mends.patch?_of_untouched bounded inside fun other _ => by
      rw [editsAt, List.filter_eq_nil_iff]
      intro edit made same
      rcases exists_literal_of_mem strict made with ⟨pair, literal, belongs⟩
      rw [of_decide_eq_true same] at belongs
      exact literal_here ⟨_, pair, literal, belongs⟩
    rw [tokenText, untouched, TokenStream.shortArrayText_of_free strict]
    intro index pair literal
    exact ⟨fun within => literal_here ⟨index, pair, literal, .inl within⟩,
      fun same => literal_here ⟨index, pair, literal, .inr same.symm⟩⟩

end Pass

/-- The tokens for which there are batches are the words of the literals. -/
theorem concerned_shortArrayBatch {stream : TokenStream} (bounded : stream.Bounded) :
    concerned stream.shortArrayBatch stream.tokens.toList = stream.arrayLiterals.map Prod.fst := by
  rw [concerned_eq_filter bounded, TokenStream.arrayLiterals, List.map_filterMap,
    ← List.filterMap_eq_filter]
  apply List.filterMap_congr
  intro index _
  cases found : stream.arrayLiteral? index with
  | none => simp [Option.guard, TokenStream.shortArrayBatch, found]
  | some pair => simp [Option.guard, TokenStream.shortArrayBatch, found, Rule.shortBracketEdits]

/-- The rule for array literals has nothing to say about a stream without them. -/
theorem quiet_longArray {dispatcher : Dispatcher} {context : RuleContext} {after : TokenStream}
    (sole : dispatcher.contexts = [context]) (rule_eq : context.rule = .longArray)
    (wordless : ∀ token ∈ after.tokens.toList, token.kind ≠ .kwArray) :
    dispatcher.Mends after fun _ => [] := by
  apply Dispatcher.mends_of_quiet
  rw [sole]
  intro token member only among interested
  rw [List.mem_singleton.mp among, rule_eq] at interested
  exact absurd (eq_of_contains_singleton interested) (wordless token member)

namespace LintSettings

/-- Where no heredoc ends directly in front of an array literal, fixing by the rule for array
literals ends with nothing left to report after two passes at most. Every literal is fixed, no fix
is refused, and the fixed source is the source with all literals written in square brackets. -/
theorem lint_longArray {source : String} {stream : TokenStream} {maxIterations : Nat}
    (allowed : 2 ≤ maxIterations) (read : tokenize source = .ok stream)
    (apart : ∀ index, stream.hasKind index .heredoc = true →
      stream.hasKind (index + 1) .kwArray = false)
    (options : List (String × Table)) (path : String) :
    ∃ run, (ofOptions [.longArray] options true maxIterations).lint path source = .ok run ∧
      run.result.state = .done ∧ run.result.converged = true ∧ run.result.passes ≤ 2 ∧
      run.result.diagnostics = [] ∧
      (∀ record ∈ run.records, record.trace.pass.ledger.conflicts = []) ∧
      run.result.fixed.map Diagnostic.tokenIndex =
        stream.arrayLiterals.map (fun literal => (literal.1 : Int)) ∧
      run.result.fixedSource = String.join (stream.tokens.toList.map stream.shortArrayText) := by
  let dispatcher := Dispatcher.ofOptions [.longArray] fun id => (options.lookup id).getD []
  have distinct : ([Rule.longArray].map Rule.id).Nodup := by decide
  have fixes : (ofOptions [.longArray] options true maxIterations).fix = true := rfl
  have made : Dispatcher.ofRules [.longArray] (.ofOptions options) = .ok dispatcher :=
    Dispatcher.ofRules_of_optionsFor distinct (Dispatcher.optionsFor_ofOptions options)
  have sole : dispatcher.contexts =
      [⟨.longArray, (options.lookup Rule.longArray.id).getD [], []⟩] := by
    simp [dispatcher, Dispatcher.ofOptions]
  have bounded := TokenStream.bounded_of_tokenize read
  rcases TokenStream.exists_tokenize_shortArrays read apart with ⟨after, readAgain, wordless⟩
  rcases TokenStream.exists_settle_of_tokenize read with ⟨scanned, rfl, -, strict, -⟩
  have mends := mends_longArray strict sole rfl
  have contents_eq :
      (dispatcher.dispatch (.ofLexemes (settle scanned)) true).2.pass.contents =
        String.join ((TokenStream.ofLexemes (settle scanned)).tokens.toList.map
          (TokenStream.ofLexemes (settle scanned)).shortArrayText) := by
    rw [Pass.contents, (mends.dispatch bounded).stream_eq, Ledger.contents]
    exact congrArg String.join (List.map_congr_left fun token member =>
      tokenText_longArray strict sole rfl member)
  rw [← contents_eq] at readAgain
  have moves : concerned (TokenStream.ofLexemes (settle scanned)).shortArrayBatch
      (TokenStream.ofLexemes (settle scanned)).tokens.toList ≠ [] →
        (dispatcher.dispatch (.ofLexemes (settle scanned)) true).2.pass.contents ≠ source := by
    intro something same
    rw [same, read] at readAgain
    cases readAgain
    rcases List.exists_mem_of_ne_nil _ something with ⟨index, listed⟩
    rcases mem_concerned_iff.mp listed with ⟨batch_ne, token, member, rfl⟩
    rcases longArray_cases strict token (bounded.token?_of_mem member) with ⟨word, -⟩ | ⟨-, nothing⟩
    · exact wordless token member word
    · exact batch_ne nothing
  rcases lint_of_mends fixes allowed made read mends readAgain (quiet_longArray sole rfl wordless)
    moves path with ⟨run, finished, settles⟩
  refine ⟨run, finished, settles.done, settles.converged, settles.passes_le, settles.clean,
    settles.settled, ?_, settles.fixedSource_eq.trans contents_eq⟩
  rw [settles.fixed_eq, concerned_shortArrayBatch bounded, List.map_map]
  rfl

/-- Nested literals, with a comment in front of a parenthesis. -/
theorem lint_longArray_nested :
    ∃ run, (ofOptions [.longArray] [] true 2).lint "a" "<?php f(Array/**/(1, array()), array ());" =
        .ok run ∧
      run.result.state = .done ∧ run.result.converged = true ∧ run.result.passes ≤ 2 ∧
      run.result.diagnostics = [] ∧
      (∀ record ∈ run.records, record.trace.pass.ledger.conflicts = []) ∧
      run.result.fixed.map Diagnostic.tokenIndex = [3, 9, 15] ∧
      run.result.fixedSource = "<?php f([1, []], []);" := by
  have reads : (tokenize "<?php f(Array/**/(1, array()), array ());").toOption.map
      (fun stream => (stream.arrayLiterals.map fun literal => (literal.1 : Int),
        String.join (stream.tokens.toList.map stream.shortArrayText),
        (List.range stream.size).any fun index => stream.hasKind index .heredoc)) =
      some ([3, 9, 15], "<?php f([1, []], []);", false) := by decide +kernel
  rcases exists_tokenize_of_map_toOption reads with ⟨stream, read, view_eq⟩
  simp only [Prod.mk.injEq] at view_eq
  rcases view_eq with ⟨indexes_eq, text_eq, none_here⟩
  have apart : ∀ index, stream.hasKind index .heredoc = true →
      stream.hasKind (index + 1) .kwArray = false := by
    intro index heredoc
    have inside := TokenStream.lt_size_of_hasKind heredoc
    rw [List.any_eq_false] at none_here
    exact absurd heredoc (none_here index (List.mem_range.mpr inside))
  have fixed := lint_longArray (Nat.le_refl 2) read apart [] "a"
  rwa [indexes_eq, text_eq] at fixed

/-- The closing label of a heredoc may end in a blank that is part of the label. A bracket behind
it is no boundary of a word, so the fix would leave the heredoc open, and is taken back. -/
theorem lint_longArray_heredoc :
    ∃ stream run, tokenize "<?php $x = <<<A\u00a0\nhi\nA\u00a0array(1);" = .ok stream ∧
      (ofOptions [.longArray] [] true 2).lint "a" "<?php $x = <<<A\u00a0\nhi\nA\u00a0array(1);" =
        .ok run ∧
      stream.arrayLiterals.length = 1 ∧ run.result.converged = false ∧
      run.result.diagnostics.length = 1 ∧ run.result.fixed = [] ∧
      run.result.fixedSource = "<?php $x = <<<A\u00a0\nhi\nA\u00a0array(1);" := by
  have reads : (tokenize "<?php $x = <<<A\u00a0\nhi\nA\u00a0array(1);").toOption.map
      (fun stream => stream.arrayLiterals.length) = some 1 := by decide +kernel
  have outcome : ((ofOptions [.longArray] [] true 2).lint "a"
      "<?php $x = <<<A\u00a0\nhi\nA\u00a0array(1);").toOption.map (fun run =>
        (run.result.converged, run.result.diagnostics.length, run.result.fixed.length,
          run.result.fixedSource)) =
      some (false, 1, 0, "<?php $x = <<<A\u00a0\nhi\nA\u00a0array(1);") := by decide +kernel
  rcases exists_tokenize_of_map_toOption reads with ⟨stream, read, count_eq⟩
  cases linted : (ofOptions [.longArray] [] true 2).lint "a"
      "<?php $x = <<<A\u00a0\nhi\nA\u00a0array(1);" with
  | error failure =>
      rw [linted] at outcome
      cases outcome
  | ok run =>
      rw [linted] at outcome
      simp only [Except.toOption, Option.map_some, Option.some.injEq, Prod.mk.injEq] at outcome
      rcases outcome with ⟨open_left, left, none_fixed, kept⟩
      exact ⟨stream, run, read, rfl, count_eq, open_left, left,
        List.length_eq_zero_iff.mp none_fixed, kept⟩

end LintSettings

end TokenLint
