import TokenLint.Proofs.Run.Idle
import TokenLint.Proofs.Run.Rewritten
import Mathlib.Data.List.Nodup
import Mathlib.Data.List.TFAE
import Mathlib.Tactic.TFAE

/-!
# What a fixing pass leaves of the tokens that it does not touch

A fixing pass edits the text of some tokens, and its output is read anew. A token that no
changeset touched should then be read again, and not as part of another one. The rules
whose fixes are rewrites guarantee this. Each of the others spoils some source, so sets of
rules that keep the untouched tokens of every source are exactly the ones without them.
-/

namespace TokenLint

open Lexer

namespace Pass

variable (pass : Pass)

/-- The tokens other than whitespace that no committed changeset touched. -/
def untouched : List Token :=
  pass.stream.tokens.toList.filter fun token =>
    token.kind != .whitespace && !pass.ledger.isTouched token.index

/-- Whether the output of a pass is read with all untouched tokens among its lexemes, in order. -/
def KeepsOrder : Prop :=
  ∃ lexemes, lex pass.contents = .ok lexemes ∧
    (pass.untouched.map Token.content).Sublist (lexemes.map Lexeme.content)

/-- Whether moreover each untouched token is read where the output has its text: behind what the
pass made of the tokens before it. -/
def KeepsTokens : Prop :=
  ∃ lexemes, lex pass.contents = .ok lexemes ∧
    (pass.untouched.map Token.content).Sublist (lexemes.map Lexeme.content) ∧
    ∀ token ∈ pass.untouched, ∃ before lexeme after, lexemes = before ++ lexeme :: after ∧
      lexeme.content = token.content ∧
      String.join (before.map Lexeme.content) = String.join
        ((pass.stream.tokens.toList.take token.index).map pass.ledger.tokenText)

theorem KeepsTokens.keepsOrder {pass : Pass} (keeps : pass.KeepsTokens) : pass.KeepsOrder := by
  rcases keeps with ⟨lexemes, lexed, inOrder, -⟩
  exact ⟨lexemes, lexed, inOrder⟩

end Pass

instance (pass : Pass) : Decidable pass.KeepsOrder :=
  inferInstanceAs (Decidable (∃ lexemes, lex pass.contents = .ok lexemes ∧
    (pass.untouched.map Token.content).Sublist (lexemes.map Lexeme.content)))

/-- For each rule whose fixes are unguarded, a source in which they spoil an untouched token. -/
def Rule.spoiledSources : List (Rule × String) := [
  (.concatenationSpacing, "<?php.$a;"),
  (.strictTypes, "<?php declare(strict_types=-1);"),
  (.oldConstructor, "<?php class A \x7b function 1A()\x7b\x7d \x7d"),
  (.nullCheck, "<?php return!is_null($x);"),
  (.notChain, "<?php !!! = 1;"),
  (.incrementByOne, "<?php $i // c\n+= 1;"),
  (.selfAssignment, "<?php // c\n$a = $a; $b = 1;"),
  (.constantTernary, "<?php return(true)?1:2;"),
  (.longArray, "<?php $x = <<<A\u00a0\nhi\nA\u00a0array(1);")]

/-- On the source of a rule no other rule has anything to do, but the one about strict types, which
every source concerns. -/
theorem Rule.spoil_of_mem_spoiledSources : ∀ entry ∈ Rule.spoiledSources,
    ∃ stream, tokenize entry.2 = .ok stream ∧
      (∀ other ∈ Rule.builtin, other.id = entry.1.id ∨ other.id = Rule.strictTypes.id ∨
        other.isIdle stream = true) ∧
      ¬((⟨[⟨entry.1, [], []⟩]⟩ : Dispatcher).dispatch stream true).2.pass.KeepsOrder := by
  decide +kernel

namespace Pass

variable {pass : Pass}

theorem patch?_of_mem_untouched {token : Token} (member : token ∈ pass.untouched) :
    pass.ledger.patch? token.index = none := by
  simp only [untouched, List.mem_filter, Bool.and_eq_true, Bool.not_eq_true', Ledger.isTouched,
    Option.isSome_eq_false_iff, Option.isNone_iff_eq_none] at member
  exact member.2.2

/-- The untouched tokens of a pass are among the pieces of its output, in order. -/
theorem sublist_pieces
    (solid : ∀ token ∈ pass.stream.tokens.toList, token.content.toList ≠ []) :
    (pass.untouched.map fun token => token.content.toList).Sublist
      (pass.ledger.pieces pass.stream.tokens.toList) := by
  have text_eq : ∀ token ∈ pass.untouched, pass.ledger.tokenText token = token.content := by
    intro token member
    simp only [Ledger.tokenText, patch?_of_mem_untouched member]
  have texts : (pass.untouched.map fun token => token.content.toList) =
      pass.untouched.map fun token => (pass.ledger.tokenText token).toList :=
    List.map_congr_left fun token member => by rw [text_eq token member]
  have among : pass.untouched.Sublist (pass.stream.tokens.toList.filter fun token =>
      (pass.ledger.tokenText token).toList ≠ []) := by
    have kept : pass.untouched.filter (fun token => (pass.ledger.tokenText token).toList ≠ []) =
        pass.untouched := by
      rw [List.filter_eq_self]
      intro token member
      rw [text_eq token member]
      exact decide_eq_true (solid token (List.mem_of_mem_filter member))
    rw [← kept]
    exact List.filter_sublist.filter _
  rw [texts, Ledger.pieces, List.filter_map]
  exact among.map _

/-- A pass whose patches are those of rewrites keeps the tokens that it does not touch. -/
theorem keepsTokens_of_rewritten {lexemes : List Lexeme} (reads : Reads .markup lexemes)
    (stream_eq : pass.stream = .ofLexemes lexemes)
    (rewritten : pass.stream.Rewritten pass.ledger.patches) : pass.KeepsTokens := by
  have bounded := TokenStream.bounded_ofLexemes lexemes
  have solid : ∀ token ∈ pass.stream.tokens.toList, token.content.toList ≠ [] := by
    intro token member
    have among : token.lexeme ∈ lexemes := by
      rw [← TokenStream.map_lexeme_ofLexemes lexemes, ← stream_eq]
      exact List.mem_map_of_mem member
    exact reads.content_ne_nil among
  rw [stream_eq] at rewritten
  rcases rewritten.exists_lex reads with ⟨found, lexed, contents_eq⟩
  rw [← stream_eq] at contents_eq lexed bounded
  refine ⟨found, lexed, ?_, ?_⟩
  · have kept := (sublist_pieces solid).map String.ofList
    rw [← contents_eq] at kept
    simpa [Function.comp_def] using kept
  · intro token member
    have here := bounded.token?_of_mem (List.mem_of_mem_filter member)
    rw [TokenStream.token?, ← Array.getElem?_toList, List.getElem?_eq_some_iff] at here
    rcases here with ⟨inside, here⟩
    -- The pieces divide at the token as the tokens do.
    rw [← List.take_append_drop token.index pass.stream.tokens.toList,
      List.drop_eq_getElem_cons inside, here, Ledger.pieces_append, Ledger.pieces_of_leaves
        (patch?_of_mem_untouched member) (solid token (List.mem_of_mem_filter member)),
      List.map_eq_append_iff] at contents_eq
    rcases contents_eq with ⟨before, fromHere, rfl, before_eq, rest_eq⟩
    rcases List.map_eq_cons_iff.mp rest_eq with ⟨lexeme, after, rfl, content_eq, -⟩
    refine ⟨before, lexeme, after, rfl, String.toList_inj.mp content_eq, ?_⟩
    rw [← String.toList_inj, String.toList_join, String.toList_join, List.flatMap_map,
      List.flatMap_map, List.flatMap_def, before_eq, Ledger.flatten_pieces]

end Pass

/-- A fixing pass of rules whose fixes are rewrites keeps the tokens that it does not touch. -/
theorem Dispatcher.keepsTokens_dispatch {dispatcher : Dispatcher} {source : String}
    {stream : TokenStream} (builtin : ∀ rule ∈ dispatcher.rules, rule ∈ Rule.builtin)
    (guarded : ∀ rule ∈ dispatcher.rules, rule ∉ Rule.unguarded)
    (read : tokenize source = .ok stream) :
    (dispatcher.dispatch stream true).2.pass.KeepsTokens := by
  have bounded := TokenStream.bounded_of_tokenize read
  rcases exists_lex_of_tokenize read with ⟨lexemes, lexed, made⟩
  have proposes : ∀ rule ∈ dispatcher.rules, rule.ProposesOn stream stream.Rewrites :=
    fun rule member =>
      Rule.proposesOn_rewrites (builtin rule member) (guarded rule member) bounded
  have keeps := dispatch_keeps proposes
    TokenStream.rewritten_keptBy (fun edits rewrites => rewrites.covers)
    (TokenStream.rewritten_replicate stream.size) true
  refine Pass.keepsTokens_of_rewritten (reads_of_lex lexed) (keeps.stream_eq.trans made) ?_
  rw [keeps.stream_eq]
  exact keeps.patches

/-- A set of rules that holds one with a spoiled source spoils this source, unless the rule about
strict types is another member of the set. -/
theorem Dispatcher.exists_spoiled_of_lone {rules : List Rule} {rule : Rule} {source : String}
    (builtin : ∀ rule ∈ rules, rule ∈ Rule.builtin) (distinct : (rules.map Rule.id).Nodup)
    (spoiled : (rule, source) ∈ Rule.spoiledSources) (member : rule ∈ rules)
    (lone : ∀ other ∈ rules, other.id = Rule.strictTypes.id → other.id = rule.id) :
    ∃ stream dispatcher, tokenize source = .ok stream ∧
      Dispatcher.ofRules rules .null = .ok dispatcher ∧
      ¬(dispatcher.dispatch stream true).2.pass.KeepsOrder := by
  rcases Rule.spoil_of_mem_spoiledSources _ spoiled with ⟨stream, read, idle, broken⟩
  refine ⟨stream, _, read, ofRules_null distinct, ?_⟩
  have perm := List.mergeSort_perm rules fun left right => left.id ≤ right.id
  rcases List.append_of_mem (perm.mem_iff.mpr member) with ⟨before, after, sorted_eq⟩
  have sortedDistinct := (perm.map Rule.id).nodup_iff.mpr distinct
  rw [sorted_eq, List.map_append, List.map_cons, pass_dispatch_of_idle]
  · exact broken
  · rw [sorted_eq, List.map_append, List.map_cons, List.nodup_middle, List.nodup_cons,
      ← List.map_append] at sortedDistinct
    rw [← List.map_append]
    intro context among
    rcases List.mem_map.mp among with ⟨other, other_mem, rfl⟩
    have other_rules : other ∈ rules := by
      rw [← perm.mem_iff, sorted_eq]
      rcases List.mem_append.mp other_mem with before_mem | after_mem
      · exact List.mem_append_left _ before_mem
      · exact List.mem_append_right _ (List.mem_cons_of_mem _ after_mem)
    have differs : other.id ≠ rule.id := fun same =>
      sortedDistinct.1 (List.mem_map.mpr ⟨other, other_mem, same⟩)
    rcases idle other (builtin other other_rules) with same | strict | quiet
    · exact absurd same differs
    · exact absurd (lone other other_rules strict) differs
    · exact ⟨quiet, rfl⟩

/-- Rules with an unguarded one among them spoil some source. -/
theorem exists_spoiled {rules : List Rule} {rule : Rule}
    (builtin : ∀ rule ∈ rules, rule ∈ Rule.builtin) (distinct : (rules.map Rule.id).Nodup)
    (member : rule ∈ rules) (unguarded : rule ∈ Rule.unguarded) :
    ∃ source stream dispatcher, tokenize source = .ok stream ∧
      Dispatcher.ofRules rules .null = .ok dispatcher ∧
      ¬(dispatcher.dispatch stream true).2.pass.KeepsOrder := by
  have unguarded_eq : Rule.unguarded = Rule.spoiledSources.map Prod.fst := rfl
  rw [unguarded_eq] at unguarded
  rcases List.mem_map.mp unguarded with ⟨⟨_, source⟩, spoiled, rfl⟩
  by_cases strict : Rule.strictTypes ∈ rules
  · have strictSpoiled : (Rule.strictTypes, "<?php declare(strict_types=-1);") ∈
        Rule.spoiledSources := List.mem_cons_of_mem _ (List.mem_cons_self ..)
    exact ⟨_, Dispatcher.exists_spoiled_of_lone builtin distinct strictSpoiled strict
      fun other _ same => same⟩
  · refine ⟨source, Dispatcher.exists_spoiled_of_lone builtin distinct spoiled member ?_⟩
    intro other among same
    have ids : (Rule.builtin.map Rule.id).Nodup := by decide
    have isStrict := List.inj_on_of_nodup_map ids (builtin other among)
      (by simp [Rule.builtin] : Rule.strictTypes ∈ Rule.builtin) same
    exact absurd (isStrict ▸ among) strict

/-- The built-in rules whose fixing passes keep the tokens that they do not touch, in order and in
their places, are those whose fixes are guarded. -/
theorem keepsTokens_tfae {rules : List Rule} (builtin : ∀ rule ∈ rules, rule ∈ Rule.builtin)
    (distinct : (rules.map Rule.id).Nodup) :
    List.TFAE [
      ∀ options source stream dispatcher, tokenize source = .ok stream →
        Dispatcher.ofRules rules options = .ok dispatcher →
        (dispatcher.dispatch stream true).2.pass.KeepsTokens,
      ∀ options source stream dispatcher, tokenize source = .ok stream →
        Dispatcher.ofRules rules options = .ok dispatcher →
        (dispatcher.dispatch stream true).2.pass.KeepsOrder,
      ∀ rule ∈ rules, rule ∉ Rule.unguarded] := by
  tfae_have 1 → 2
  | keeps => fun options source stream dispatcher read made =>
      (keeps options source stream dispatcher read made).keepsOrder
  tfae_have 2 → 3 := by
    intro keeps rule member bad
    rcases exists_spoiled builtin distinct member bad with
      ⟨source, stream, dispatcher, read, made, broken⟩
    exact broken (keeps .null source stream dispatcher read made)
  tfae_have 3 → 1 := by
    intro guarded options source stream dispatcher read made
    have rules_eq := Dispatcher.rules_of_ofRules made
    refine Dispatcher.keepsTokens_dispatch ?_ ?_ read
    · intro rule member
      exact builtin rule (List.mem_mergeSort.mp (rules_eq ▸ member))
    · intro rule member
      exact guarded rule (List.mem_mergeSort.mp (rules_eq ▸ member))
  tfae_finish

/-- The repeated condition of a ternary is dropped and everything else is read again. -/
theorem keepsTokens_elvisOperator :
    ∃ stream, tokenize "<?php $b = $a ? $a : rand();" = .ok stream ∧
      ∃ dispatcher, Dispatcher.ofRules [.elvisOperator] .null = .ok dispatcher ∧
        (dispatcher.dispatch stream true).2.pass.contents = "<?php $b = $a ?: rand();" ∧
        (dispatcher.dispatch stream true).2.pass.KeepsTokens := by
  have edited : ∃ stream, tokenize "<?php $b = $a ? $a : rand();" = .ok stream ∧
      ∃ dispatcher, Dispatcher.ofRules [.elvisOperator] .null = .ok dispatcher ∧
        (dispatcher.dispatch stream true).2.pass.contents = "<?php $b = $a ?: rand();" := by
    decide +kernel
  have builtin : ∀ rule ∈ [Rule.elvisOperator], rule ∈ Rule.builtin := by simp [Rule.builtin]
  have guarded : ∀ rule ∈ [Rule.elvisOperator], rule ∉ Rule.unguarded := by
    intro rule member unguarded
    rw [List.mem_singleton.mp member] at unguarded
    have ids : Rule.elvisOperator.id ∉ Rule.unguarded.map Rule.id := by decide
    exact ids (List.mem_map_of_mem unguarded)
  rcases edited with ⟨stream, read, dispatcher, made, contents_eq⟩
  have keeps := ((keepsTokens_tfae builtin (by decide)).out 2 0 rfl rfl).mp guarded
  exact ⟨stream, read, dispatcher, made, contents_eq,
    keeps .null _ stream dispatcher read made⟩

/-- The branch of a constant ternary is joined with the keyword before the condition. -/
theorem not_keepsOrder_constantTernary :
    ∃ stream, tokenize "<?php return(true)?1:2;" = .ok stream ∧
      ∃ dispatcher, Dispatcher.ofRules [.constantTernary] .null = .ok dispatcher ∧
        (dispatcher.dispatch stream true).2.pass.contents = "<?php return1;" ∧
        ¬(dispatcher.dispatch stream true).2.pass.KeepsOrder := by
  decide +kernel

end TokenLint
