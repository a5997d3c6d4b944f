import TokenLint.Proofs.Lexer.ReadKinds
import TokenLint.Proofs.Navigation.SameKinds
import TokenLint.Proofs.Rule.Rendering
import TokenLint.Proofs.Run.Mending
import TokenLint.Proofs.Run.Rewritten
import TokenLint.Proofs.Stream.Ternary
import Mathlib.Data.List.Nodup

/-!
# Fixes that change nothing but names

Three rules put another name in the place of that of a function. Their names are words that no
neighbour can spoil and that no lookup knows, so the fixed source has the same tokens but for the
names, and the three rules have nothing to say about it.
-/

namespace TokenLint

open Lexer

namespace Rule

/-- The rules that exchange names of functions, with the names that they exchange. -/
def renamers : List (Rule × List (String × String)) :=
  [(argumentlessTime, timeReplacements), (olderRandom, randomReplacements),
    (caselessSearch, searchReplacements)]

variable {renamer other : Rule × List (String × String)} {entry : String × String}
  {stream after : TokenStream} {token : Token}

theorem mem_nameReplacements (listed : renamer ∈ renamers) (member : entry ∈ renamer.2) :
    entry ∈ nameReplacements := by
  have included : ∀ renamer ∈ renamers, ∀ entry ∈ renamer.2, entry ∈ nameReplacements := by decide
  exact included renamer listed entry member

/-- No two rules exchange one name. -/
theorem id_eq_of_shared {shared : String × String} (listed : renamer ∈ renamers)
    (member : entry ∈ renamer.2) (otherListed : other ∈ renamers) (otherMember : shared ∈ other.2)
    (same : entry.1 = shared.1) : renamer.1.id = other.1.id := by
  have apart : ∀ renamer ∈ renamers, ∀ other ∈ renamers, ∀ entry ∈ renamer.2, ∀ shared ∈ other.2,
      entry.1 = shared.1 → renamer.1.id = other.1.id := by decide
  exact apart renamer listed other otherListed entry member shared otherMember same

/-- No name that is put in the place of another one is exchanged in its turn. -/
theorem lower_ne_of_mem {again : String × String} (listed : renamer ∈ renamers)
    (member : entry ∈ renamer.2) (otherListed : other ∈ renamers) (otherMember : again ∈ other.2) :
    Text.lower entry.2 ≠ again.1 := by
  have final : ∀ renamer ∈ renamers, ∀ entry ∈ renamer.2, ∀ other ∈ renamers, ∀ again ∈ other.2,
      Text.lower entry.2 ≠ again.1 := by decide +kernel
  exact final renamer listed entry member other otherListed again otherMember

/-- What is put in the place of a name is an identifier wherever it stands. -/
theorem isPlainName_of_mem (member : entry ∈ nameReplacements) : IsPlainName entry.2.toList := by
  have plain : ∀ entry ∈ nameReplacements, IsPlainName entry.2.toList := by decide +kernel
  exact plain entry member

theorem interest_of_mem_renamers (listed : renamer ∈ renamers) :
    renamer.1.interest = [.identifier] := by
  simp only [renamers, List.mem_cons, List.not_mem_nil, or_false] at listed
  rcases listed with rfl | rfl | rfl <;> rfl

theorem mends_renameCall {index : Nat} {template name replacement : String}
    {arguments : List Value}
    (takes : takesArguments template.toList (.text name :: arguments) = true) :
    (renameCall index template name replacement arguments).Mends index
      [⟨.replace, index, replacement⟩] :=
  .alone rfl rfl (Report.renders_of_takes takes)

theorem hasCaselessNeedle_eq (same : stream.SameKinds after)
    (strings : ∀ place, stream.hasKind place .plainString = true →
      stream.contentAt place = after.contentAt place) (opener : Nat) :
    hasCaselessNeedle stream opener = hasCaselessNeedle after opener := by
  simp only [hasCaselessNeedle, ← same.callArguments_eq, ← same.hasKind_eq]
  split
  · rename_i first last _ _
    by_cases plain : stream.hasKind first .plainString = true
    · rw [strings first plain]
    · simp [plain]
  · rfl

/-- A rule that exchanges names is one way of replacing functions, whatever its options. -/
theorem exists_renameCalls_of_mem (listed : renamer ∈ renamers) :
    ∃ suits template arguments,
      (renamer.1.process = fun stream index _ =>
        renameCalls renamer.2 suits template arguments stream index) ∧
      (∀ name replacement,
        takesArguments template.toList (.text name :: arguments replacement) = true) ∧
      ∀ stream after : TokenStream, stream.SameKinds after →
        (∀ place, stream.hasKind place .plainString = true →
          stream.contentAt place = after.contentAt place) → suits stream = suits after := by
  simp only [renamers, List.mem_cons, List.not_mem_nil, or_false] at listed
  rcases listed with rfl | rfl | rfl
  · refine ⟨hasNoArguments, _, _, rfl, fun _ _ => by simp [takesArguments], ?_⟩
    intro stream after same _
    funext opener
    simp only [hasNoArguments, same.nextCode?_eq, same.partner?_eq]
  · exact ⟨fun _ _ => true, _, _, rfl, fun _ _ => by simp [takesArguments], fun _ _ _ _ => rfl⟩
  · refine ⟨hasCaselessNeedle, _, _, rfl, fun _ _ => by simp [takesArguments], ?_⟩
    intro stream after same strings
    funext opener
    exact hasCaselessNeedle_eq same strings opener

/-- What a rule that exchanges names does on a token is the same for all options. -/
theorem done_or_mends_of_mem_renamers (listed : renamer ∈ renamers) (stream : TokenStream)
    (index : Nat) :
    (∀ options, renamer.1.process stream index options = .done none) ∨
    ∃ name, (Text.lower (stream.contentAt index), name) ∈ renamer.2 ∧
      ∀ options, (renamer.1.process stream index options).Mends index
        [⟨.replace, index, name⟩] := by
  rcases exists_renameCalls_of_mem listed with ⟨suits, template, arguments, process_eq, takes, -⟩
  simp only [process_eq, forall_const]
  rcases renameCalls_eq_done_or renamer.2 suits template arguments stream index with
    silent | ⟨name, named, renames⟩
  · exact .inl silent
  · refine .inr ⟨name, named, ?_⟩
    rw [renames]
    exact mends_renameCall (takes _ _)

/-- A rule that exchanges names is silent about a token, or exchanges its name for one of its
own. -/
theorem quiet_or_mends_of_mem_renamers (listed : renamer ∈ renamers) (stream : TokenStream)
    (token : Token) :
    renamer.1.Quiet stream token ∨ ∃ name,
      (Text.lower (stream.contentAt token.index), name) ∈ renamer.2 ∧
      renamer.1.Mends stream token [⟨.replace, token.index, name⟩] := by
  by_cases interested : renamer.1.interest.contains token.kind = true
  · rcases done_or_mends_of_mem_renamers listed stream token.index with done | ⟨name, named, mends⟩
    · exact .inl fun _ => done
    · exact .inr ⟨name, named, interested, mends⟩
  · exact .inl fun asked => absurd asked interested

/-- A rule that exchanges names is silent about names that are not its own. -/
theorem quiet_of_unlisted (listed : renamer ∈ renamers)
    (unlisted : ∀ entry ∈ renamer.2, Text.lower (stream.contentAt token.index) ≠ entry.1) :
    renamer.1.Quiet stream token := by
  rcases quiet_or_mends_of_mem_renamers listed stream token with quiet | ⟨name, named, -⟩
  · exact quiet
  · exact absurd rfl (unlisted _ named)

/-- A rule that exchanges names looks at nothing but the kinds, the name and plain strings. -/
theorem process_eq_of_sameKinds (listed : renamer ∈ renamers) (same : stream.SameKinds after)
    {index : Nat} (content_eq : stream.contentAt index = after.contentAt index)
    (strings : ∀ place, stream.hasKind place .plainString = true →
      stream.contentAt place = after.contentAt place) (options : Table) :
    renamer.1.process stream index options = renamer.1.process after index options := by
  rcases exists_renameCalls_of_mem listed with ⟨suits, template, arguments, process_eq, -, suits_eq⟩
  rw [process_eq]
  simp only [renameCalls, content_eq, same.callOpener?_eq, suits_eq stream after same strings]

end Rule

/-- What rules that exchange names have to say about a token: at most one of them exchanges its
name. -/
inductive Dispatcher.Renames (dispatcher : Dispatcher) (stream : TokenStream) (token : Token) :
    List Edit → Prop where
  | nothing (quiet : ∀ context ∈ dispatcher.contexts, context.rule.Quiet stream token) :
      Renames dispatcher stream token []
  | exchange {name : String} {renamer : Rule × List (String × String)} {context : RuleContext}
      {before after : List RuleContext} (listed : renamer ∈ Rule.renamers)
      (named : (Text.lower (stream.contentAt token.index), name) ∈ renamer.2)
      (contexts_eq : dispatcher.contexts = before ++ context :: after)
      (rule_eq : renamer.1 = context.rule)
      (mends : context.rule.Mends stream token [⟨.replace, token.index, name⟩])
      (quiet : ∀ other ∈ before ++ after, other.rule.Quiet stream token) :
      Renames dispatcher stream token [⟨.replace, token.index, name⟩]

/-- Whether all rules exchange names, each of them another one. -/
structure Dispatcher.RenamesOnly (dispatcher : Dispatcher) : Prop where
  renamers : ∀ context ∈ dispatcher.contexts, ∃ renamer ∈ Rule.renamers, renamer.1 = context.rule
  distinct : (dispatcher.contexts.map fun context => context.rule.id).Nodup

namespace Dispatcher

variable {dispatcher : Dispatcher} {stream : TokenStream} {token : Token}

theorem RenamesOnly.exists_renames (sole : dispatcher.RenamesOnly) (stream : TokenStream)
    (token : Token) : ∃ edits, dispatcher.Renames stream token edits := by
  by_cases quiet : ∀ context ∈ dispatcher.contexts, context.rule.Quiet stream token
  · exact ⟨[], .nothing quiet⟩
  · simp only [not_forall] at quiet
    rcases quiet with ⟨context, member, speaks⟩
    rcases sole.renamers context member with ⟨renamer, listed, rule_eq⟩
    rcases List.append_of_mem member with ⟨before, after, contexts_eq⟩
    rcases Rule.quiet_or_mends_of_mem_renamers listed stream token with
      silent | ⟨name, named, mends⟩
    · exact absurd (rule_eq ▸ silent) speaks
    refine ⟨_, .exchange listed named contexts_eq rule_eq (rule_eq ▸ mends) ?_⟩
    intro other among
    have other_mem : other ∈ dispatcher.contexts := by
      rw [contexts_eq]
      rcases List.mem_append.mp among with before_mem | after_mem
      · exact List.mem_append_left _ before_mem
      · exact List.mem_append_right _ (List.mem_cons_of_mem _ after_mem)
    rcases sole.renamers other other_mem with ⟨second, secondListed, second_eq⟩
    rw [← second_eq]
    refine Rule.quiet_of_unlisted secondListed fun entry entry_mem same => ?_
    have ids := Rule.id_eq_of_shared listed named secondListed entry_mem same
    have distinct := sole.distinct
    rw [contexts_eq, List.map_append, List.map_cons, List.nodup_middle, List.nodup_cons,
      ← List.map_append] at distinct
    rw [rule_eq, second_eq] at ids
    exact distinct.1 (List.mem_map.mpr ⟨other, among, ids.symm⟩)

/-- For every token there is a batch of what is to be said about it. -/
theorem RenamesOnly.exists_batch (sole : dispatcher.RenamesOnly) (bounded : stream.Bounded) :
    ∃ batch : Nat → List Edit, ∀ token ∈ stream.tokens.toList,
      dispatcher.Renames stream token (batch token.index) := by
  have chosen : ∀ index, ∃ edits, ∀ token, stream.token? index = some token →
      dispatcher.Renames stream token edits := by
    intro index
    cases found : stream.token? index with
    | none => exact ⟨[], fun _ absent => by cases absent⟩
    | some token =>
        rcases sole.exists_renames stream token with ⟨edits, renames⟩
        exact ⟨edits, fun _ same => Option.some.inj same ▸ renames⟩
  choose batch renames using chosen
  exact ⟨batch, fun token member => renames _ token (bounded.token?_of_mem member)⟩

theorem Renames.index_eq {edits : List Edit} (renames : dispatcher.Renames stream token edits)
    {edit : Edit} (member : edit ∈ edits) : edit.index = token.index := by
  cases renames with
  | nothing quiet => cases member
  | exchange => rw [List.mem_singleton.mp member]

/-- The batches of rules that exchange names never meet. -/
theorem mends_of_renames {batch : Nat → List Edit} (bounded : stream.Bounded)
    (renames : ∀ token ∈ stream.tokens.toList,
      dispatcher.Renames stream token (batch token.index)) : dispatcher.Mends stream batch where
  said token member := by
    cases said : batch token.index with
    | nil =>
        have here := renames token member
        rw [said] at here
        cases here with
        | nothing quiet => exact .inl ⟨rfl, quiet⟩
    | cons edit edits =>
        have here := renames token member
        rw [said] at here
        cases here with
        | exchange listed named contexts_eq rule_eq mends quiet =>
            exact .inr ⟨List.cons_ne_nil _ _, _, _, _, contexts_eq, mends, quiet⟩
  covers token member edit made := by
    rw [(renames token member).index_eq made]
    exact bounded.index_lt member
  apart first first_lt second second_lt differs edit made other made_too same := by
    have own : ∀ index < stream.size, ∀ edit ∈ batch index, edit.index = index := by
      intro index inside edit made
      have found : stream.token? index = some stream.tokens[index] :=
        Array.getElem?_eq_getElem inside
      have index_eq := bounded.index_eq found
      have member : stream.tokens[index] ∈ stream.tokens.toList :=
        Array.mem_toList_iff.mpr (Array.getElem_mem inside)
      rw [← index_eq] at made ⊢
      exact (renames _ member).index_eq (by simpa [index_eq] using made)
    exact differs ((own first first_lt edit made).symm.trans
      (same.trans (own second second_lt other made_too)))

end Dispatcher

theorem TokenStream.contentAt_ofLexemes (lexemes : List Lexeme) (index : Nat) :
    (ofLexemes lexemes).contentAt index = (lexemes.map Lexeme.content)[index]?.getD "" := by
  rw [← map_content_ofLexemes, List.getElem?_map, Array.getElem?_toList]
  rfl

/-- If a text is read as one piece for each token of a stream, it has these pieces at their
places. -/
theorem TokenStream.contentAt_of_map_content {stream : TokenStream} {found : List Lexeme}
    {text : Token → String}
    (texts_eq : found.map Lexeme.content = stream.tokens.toList.map text) (index : Nat) :
    (ofLexemes found).contentAt index = ((stream.token? index).map text).getD "" := by
  rw [contentAt_ofLexemes, texts_eq, List.getElem?_map, Array.getElem?_toList]
  rfl

section Pass

variable {dispatcher : Dispatcher} {stream : TokenStream} {batch : Nat → List Edit} {token : Token}
  (bounded : stream.Bounded)
  (renames : ∀ token ∈ stream.tokens.toList, dispatcher.Renames stream token (batch token.index))

include bounded renames

namespace Dispatcher

/-- A pass of rules that exchange names leaves a token alone if nothing is to be said about it. -/
theorem patch?_of_nothing (member : token ∈ stream.tokens.toList)
    (nothing : batch token.index = []) :
    (dispatcher.dispatch stream true).2.pass.ledger.patch? token.index = none := by
  refine (mends_of_renames bounded renames).patch?_of_untouched bounded (bounded.index_lt member) ?_
  intro other among
  rw [Ledger.editsAt, List.filter_eq_nil_iff]
  intro edit made
  have own := (renames other among).index_eq made
  rw [decide_eq_true_eq, own]
  intro same
  rw [same, nothing] at made
  cases made

/-- A pass of rules that exchange names puts the new name in the place of the old one. -/
theorem patch?_of_exchange {name : String} (member : token ∈ stream.tokens.toList)
    (exchanged : batch token.index = [⟨.replace, token.index, name⟩]) :
    (dispatcher.dispatch stream true).2.pass.ledger.patch? token.index =
      some (.exchanged name) := by
  have here : Ledger.editsAt (batch token.index) token.index =
      [⟨.replace, token.index, name⟩] := by
    simp [exchanged, Ledger.editsAt]
  rw [(mends_of_renames bounded renames).patch?_of_touched bounded member (bounded.index_lt member)
    (by rw [here]; exact List.cons_ne_nil _ _), here]
  simp [Ledger.enter, Patch.exchanged, Patch.add, Patch.empty]

/-- What such a pass makes of a token: nothing, or an exchange of its name. -/
theorem patch?_cases (member : token ∈ stream.tokens.toList) :
    (batch token.index = [] ∧
      (dispatcher.dispatch stream true).2.pass.ledger.patch? token.index = none) ∨
    batch token.index ≠ [] ∧ token.kind = .identifier ∧
      ∃ renamer ∈ Rule.renamers, (∃ context ∈ dispatcher.contexts, renamer.1 = context.rule) ∧
        ∃ name, (Text.lower token.content, name) ∈ renamer.2 ∧
          (dispatcher.dispatch stream true).2.pass.ledger.patch? token.index =
            some (.exchanged name) := by
  cases said : batch token.index with
  | nil => exact .inl ⟨rfl, patch?_of_nothing bounded renames member said⟩
  | cons edit edits =>
      have here := renames token member
      rw [said] at here
      cases here with
      | @exchange name renamer context before after listed named contexts_eq rule_eq mends quiet =>
          have interested := mends.1
          rw [← rule_eq, Rule.interest_of_mem_renamers listed] at interested
          rw [TokenStream.contentAt_index bounded member] at named
          have among : context ∈ dispatcher.contexts := by simp [contexts_eq]
          exact .inr ⟨List.cons_ne_nil _ _, eq_of_contains_singleton interested, renamer, listed,
            ⟨context, among, rule_eq⟩, name, named,
            patch?_of_exchange bounded renames member said⟩

theorem rewritten_of_renames :
    stream.Rewritten (dispatcher.dispatch stream true).2.pass.ledger.patches := by
  intro index patch touched
  have inside : index < stream.size := by
    have here := Ledger.lt_size_of_patch? touched
    rwa [((mends_of_renames bounded renames).dispatch bounded).size_eq] at here
  have found : stream.token? index = some stream.tokens[index] := Array.getElem?_eq_getElem inside
  have index_eq := bounded.index_eq found
  have member : stream.tokens[index] ∈ stream.tokens.toList :=
    Array.mem_toList_iff.mpr (Array.getElem_mem inside)
  have touched : (dispatcher.dispatch stream true).2.pass.ledger.patch? stream.tokens[index].index =
      some patch := index_eq.symm ▸ touched
  rcases patch?_cases bounded renames member with
    ⟨-, untouched⟩ | ⟨-, word, renamer, listed, -, name, named, exchanged⟩
  · rw [untouched] at touched
    cases touched
  · rw [exchanged] at touched
    rw [← TokenStream.hasKind_index bounded member, index_eq] at word
    rw [← TokenStream.contentAt_index bounded member, index_eq] at named
    exact .inl ⟨name, word, Rule.mem_nameReplacements listed named, (Option.some.inj touched).symm⟩

/-- A token keeps its text, or its name is exchanged. -/
theorem tokenText_cases (member : token ∈ stream.tokens.toList) :
    (batch token.index = [] ∧
      (dispatcher.dispatch stream true).2.pass.ledger.tokenText token = token.content) ∨
    batch token.index ≠ [] ∧ token.kind = .identifier ∧
      ∃ renamer ∈ Rule.renamers, (∃ context ∈ dispatcher.contexts, renamer.1 = context.rule) ∧
        (Text.lower token.content,
          (dispatcher.dispatch stream true).2.pass.ledger.tokenText token) ∈ renamer.2 := by
  rcases patch?_cases bounded renames member with
    ⟨nothing, untouched⟩ | ⟨something, word, renamer, listed, active, name, named, exchanged⟩
  · exact .inl ⟨nothing, by rw [Ledger.tokenText, untouched]⟩
  · refine .inr ⟨something, word, renamer, listed, active, ?_⟩
    simp only [Ledger.tokenText, exchanged, Patch.render_exchanged]
    exact named

end Dispatcher

end Pass

/-- Whether one stream is another one with some of its names exchanged by some rules: all kinds and
partners are the same, and so are the contents but for these names. -/
structure TokenStream.Renamed (rules : List Rule) (names : List Nat)
    (stream after : TokenStream) : Prop extends stream.SameKinds after where
  kept : ∀ index ∉ names, after.contentAt index = stream.contentAt index
  exchanged : ∀ index ∈ names, stream.hasKind index .identifier = true ∧
    ∃ renamer ∈ Rule.renamers, renamer.1 ∈ rules ∧
      (Text.lower (stream.contentAt index), after.contentAt index) ∈ renamer.2

namespace Dispatcher

variable {dispatcher : Dispatcher} {source : String} {stream after : TokenStream}
  {batch : Nat → List Edit} {token : Token}

/-- The output of a pass of rules that exchange names is read as the texts of its tokens. -/
theorem exists_lex_of_renames (read : tokenize source = .ok stream)
    (renames : ∀ token ∈ stream.tokens.toList,
      dispatcher.Renames stream token (batch token.index)) :
    ∃ found, lex (dispatcher.dispatch stream true).2.pass.contents = .ok found ∧
      found.map Lexeme.content = stream.tokens.toList.map
        (dispatcher.dispatch stream true).2.pass.ledger.tokenText := by
  have bounded := TokenStream.bounded_of_tokenize read
  have rewritten := rewritten_of_renames bounded renames
  have cases := fun (token : Token) (member : token ∈ stream.tokens.toList) =>
    tokenText_cases bounded renames member
  have mended := (mends_of_renames bounded renames).dispatch bounded
  rw [Pass.contents, mended.stream_eq]
  rcases exists_lex_of_tokenize read with ⟨lexemes, lexed, rfl⟩
  have reads := reads_of_lex lexed
  rcases rewritten.exists_lex reads with ⟨found, again, pieces_eq⟩
  refine ⟨found, again, ?_⟩
  -- No text is empty, so every token is read again.
  rw [Ledger.pieces, List.filter_eq_self.mpr] at pieces_eq
  · have strings_eq := congrArg (List.map String.ofList) pieces_eq
    simpa [Function.comp_def] using strings_eq
  · intro text member
    rcases List.mem_map.mp member with ⟨token, among, rfl⟩
    rw [decide_eq_true_eq]
    rcases cases token among with ⟨-, text_eq⟩ | ⟨-, -, renamer, listed, -, named⟩
    · rw [text_eq]
      have lexeme_mem : token.lexeme ∈ lexemes := by
        rw [← TokenStream.map_lexeme_ofLexemes lexemes]
        exact List.mem_map_of_mem among
      exact reads.content_ne_nil lexeme_mem
    · exact (Rule.isPlainName_of_mem (Rule.mem_nameReplacements listed named)).isName.ne_nil

/-- The pieces of such an output are of the same kinds as the tokens. -/
theorem map_kind_of_renames {lexemes found : List Lexeme} (lexed : lex source = .ok lexemes)
    (renames : ∀ token ∈ (TokenStream.ofLexemes lexemes).tokens.toList,
      dispatcher.Renames (.ofLexemes lexemes) token (batch token.index))
    (again : lex (dispatcher.dispatch (.ofLexemes lexemes) true).2.pass.contents = .ok found)
    (texts_eq : found.map Lexeme.content = (TokenStream.ofLexemes lexemes).tokens.toList.map
      (dispatcher.dispatch (.ofLexemes lexemes) true).2.pass.ledger.tokenText) :
    lexemes.map Lexeme.kind = found.map Lexeme.kind := by
  refine map_kind_eq_of_exchanged lexed again ?_ ?_
  · have lengths := congrArg List.length texts_eq
    rw [List.length_map, List.length_map, Array.length_toList] at lengths
    exact (TokenStream.size_ofLexemes lexemes).symm.trans lengths.symm
  · intro index lexeme new lexeme_at new_at
    rw [← TokenStream.map_lexeme_ofLexemes lexemes, List.getElem?_map,
      Option.map_eq_some_iff] at lexeme_at
    rcases lexeme_at with ⟨token, here, rfl⟩
    have text_eq : new.content =
        (dispatcher.dispatch (.ofLexemes lexemes) true).2.pass.ledger.tokenText token := by
      have both := congrArg (fun texts : List String => texts[index]?) texts_eq
      simpa [List.getElem?_map, here, new_at] using both
    rw [text_eq]
    rcases tokenText_cases (TokenStream.bounded_ofLexemes lexemes) renames
        (List.mem_of_getElem? here) with
      ⟨-, text_eq⟩ | ⟨-, word, renamer, listed, -, named⟩
    · exact .inl text_eq.symm
    · have plain := Rule.isPlainName_of_mem (Rule.mem_nameReplacements listed named)
      exact .inr ⟨word, plain⟩

/-- What a pass of rules that exchange names leaves is read as the same tokens but for the names. -/
theorem exists_renamed (read : tokenize source = .ok stream)
    (renames : ∀ token ∈ stream.tokens.toList,
      dispatcher.Renames stream token (batch token.index)) :
    ∃ after, tokenize (dispatcher.dispatch stream true).2.pass.contents = .ok after ∧
      stream.Renamed dispatcher.rules (concerned batch stream.tokens.toList) after := by
  have bounded := TokenStream.bounded_of_tokenize read
  have cases := fun (token : Token) (member : token ∈ stream.tokens.toList) =>
    tokenText_cases bounded renames member
  have complete := TokenStream.unmatched_of_tokenize read
  rcases exists_lex_of_renames read renames with ⟨found, again, texts_eq⟩
  rcases exists_lex_of_tokenize read with ⟨lexemes, lexed, rfl⟩
  have kinds_eq := map_kind_of_renames lexed renames again texts_eq
  have content_at := TokenStream.contentAt_of_map_content texts_eq
  refine ⟨.ofLexemes found, tokenize_of_lex again
    (TokenStream.unmatched_ofLexemes_congr kinds_eq ▸ complete),
    TokenStream.sameKinds_ofLexemes kinds_eq, ?_, ?_⟩
  · intro index unnamed
    rw [content_at]
    cases found_at : (TokenStream.ofLexemes lexemes).token? index with
    | none =>
        rw [TokenStream.contentAt, found_at]
        rfl
    | some token =>
        have index_eq := bounded.index_eq found_at
        have member := List.mem_of_getElem? (Array.getElem?_toList.trans found_at)
        rw [← index_eq] at unnamed ⊢
        rw [TokenStream.contentAt_index bounded member]
        rcases cases token member with ⟨-, text_eq⟩ | ⟨something, -⟩
        · exact text_eq
        · exact absurd (mem_concerned_iff.mpr ⟨something, token, member, rfl⟩) unnamed
  · intro index named
    rcases mem_concerned_iff.mp named with ⟨something, token, member, rfl⟩
    rcases cases token member with ⟨nothing, -⟩ | ⟨-, word, renamer, listed, active, entry⟩
    · exact absurd nothing something
    · rcases active with ⟨context, among, rule_eq⟩
      rw [content_at, bounded.token?_of_mem member, TokenStream.contentAt_index bounded member]
      exact ⟨(TokenStream.hasKind_index bounded member _).mpr word, renamer, listed,
        List.mem_map.mpr ⟨context, among, rule_eq.symm⟩, entry⟩

/-- Rules that exchange names have nothing to say about what their fixes leave. -/
theorem quiet_of_renamed {names : List Nat} (sole : dispatcher.RenamesOnly)
    (bounded : stream.Bounded) (boundedAfter : after.Bounded)
    (renamed : stream.Renamed dispatcher.rules names after)
    (quiet : ∀ token ∈ stream.tokens.toList, token.index ∉ names →
      ∀ context ∈ dispatcher.contexts, context.rule.Quiet stream token) :
    dispatcher.Mends after fun _ => [] := by
  apply Dispatcher.mends_of_quiet
  intro token member context among
  rcases sole.renamers context among with ⟨renamer, listed, rule_eq⟩
  by_cases named : token.index ∈ names
  · rcases renamed.exchanged _ named with ⟨-, other, otherListed, -, entry⟩
    rw [← rule_eq]
    refine Rule.quiet_of_unlisted listed fun again again_mem => ?_
    have final := Rule.lower_ne_of_mem otherListed entry listed again_mem
    exact final
  · have found := boundedAfter.token?_of_mem member
    have kind_eq := renamed.kind?_eq token.index
    rw [TokenStream.kind?, TokenStream.kind?, found, Option.map_some,
      Option.map_eq_some_iff] at kind_eq
    rcases kind_eq with ⟨old, old_at, kind_eq⟩
    have old_index := bounded.index_eq old_at
    have still := quiet old (List.mem_of_getElem? (Array.getElem?_toList.trans old_at))
      (old_index ▸ named) context among
    intro interested options
    have done := still (kind_eq ▸ interested) options
    have strings : ∀ place, stream.hasKind place .plainString = true →
        stream.contentAt place = after.contentAt place := by
      intro place plain
      refine (renamed.kept place fun among => ?_).symm
      have word := (renamed.exchanged place among).1
      simp only [TokenStream.hasKind, beq_iff_eq] at plain word
      rw [plain] at word
      cases word
    rw [old_index, ← rule_eq, Rule.process_eq_of_sameKinds listed renamed.toSameKinds
      (renamed.kept _ named).symm strings] at done
    rw [← rule_eq]
    exact done

/-- A dispatcher of some of the rules that exchange names has no others, and each once. -/
theorem renamesOnly_ofOptions {rules : List Rule} {own : String → Table}
    (chosen : ∀ rule ∈ rules, rule ∈ Rule.renamers.map Prod.fst)
    (distinct : (rules.map Rule.id).Nodup) : (ofOptions rules own).RenamesOnly where
  renamers context member := by
    rcases List.mem_map.mp member with ⟨rule, among, rfl⟩
    exact List.mem_map.mp (chosen rule (List.mem_mergeSort.mp among))
  distinct := by
    have sorted := nodup_map_id_mergeSort distinct
    simpa [ofOptions, Function.comp_def] using sorted

end Dispatcher

namespace LintSettings

variable {rules : List Rule} {options : List (String × Table)} {maxIterations : Nat}
  {source : String} {stream : TokenStream}

/-- Fixing by rules that exchange names ends with nothing left to report after two passes at most,
and changes nothing but the names of the tokens that were reported. -/
theorem lint_renames
    (chosen : ∀ rule ∈ rules, rule ∈ [Rule.argumentlessTime, .olderRandom, .caselessSearch])
    (distinct : (rules.map Rule.id).Nodup) (allowed : 2 ≤ maxIterations)
    (read : tokenize source = .ok stream) (path : String) :
    ∃ run after names, (ofOptions rules options true maxIterations).lint path source = .ok run ∧
      run.result.state = .done ∧ run.result.converged = true ∧ run.result.passes ≤ 2 ∧
      run.result.diagnostics = [] ∧
      run.result.fixed.map Diagnostic.tokenIndex = names.map (fun (index : Nat) => (index : Int)) ∧
      tokenize run.result.fixedSource = .ok after ∧ stream.Renamed rules names after := by
  let dispatcher := Dispatcher.ofOptions rules fun id => (options.lookup id).getD []
  have made : Dispatcher.ofRules rules (.ofOptions options) = .ok dispatcher :=
    Dispatcher.ofRules_of_optionsFor distinct (Dispatcher.optionsFor_ofOptions options)
  have sole : dispatcher.RenamesOnly := Dispatcher.renamesOnly_ofOptions chosen distinct
  have bounded := TokenStream.bounded_of_tokenize read
  rcases sole.exists_batch bounded with ⟨batch, renames⟩
  rcases Dispatcher.exists_renamed read renames with ⟨after, readAgain, renamed⟩
  have quiet : ∀ token ∈ stream.tokens.toList,
      token.index ∉ concerned batch stream.tokens.toList →
        ∀ context ∈ dispatcher.contexts, context.rule.Quiet stream token := by
    intro token member unnamed
    have nothing : batch token.index = [] := by
      by_contra something
      exact unnamed (mem_concerned_iff.mpr ⟨something, token, member, rfl⟩)
    have here := renames token member
    rw [nothing] at here
    cases here with
    | nothing quiet => exact quiet
  have clean := Dispatcher.quiet_of_renamed sole bounded
    (TokenStream.bounded_of_tokenize readAgain) renamed quiet
  have moves : concerned batch stream.tokens.toList ≠ [] →
      (dispatcher.dispatch stream true).2.pass.contents ≠ source := by
    intro something same
    rw [same, read] at readAgain
    cases readAgain
    rcases List.exists_mem_of_ne_nil _ something with ⟨index, named⟩
    rcases renamed.exchanged index named with ⟨-, renamer, listed, -, entry⟩
    exact Rule.lower_ne_of_mem listed entry listed entry rfl
  have fixes : (ofOptions rules options true maxIterations).fix = true := rfl
  rcases lint_of_mends fixes allowed made read (Dispatcher.mends_of_renames bounded renames)
    readAgain clean moves path with ⟨run, finished, settles⟩
  refine ⟨run, after, _, finished, settles.done, settles.converged, settles.passes_le,
    settles.clean, settles.fixed_eq, settles.fixedSource_eq ▸ readAgain, renamed.toSameKinds,
    renamed.kept, ?_⟩
  intro index named
  rcases renamed.exchanged index named with ⟨word, renamer, listed, active, entry⟩
  have rules_eq := Dispatcher.rules_of_ofRules made
  exact ⟨word, renamer, listed, List.mem_mergeSort.mp (rules_eq ▸ active), entry⟩

/-- A call behind a namespace separator is renamed. -/
theorem lint_renames_qualified :
    ∃ stream run after, tokenize "<?php echo 1 .\\Rand(2);" = .ok stream ∧
      (ofOptions [.olderRandom] [] true 2).lint "a" "<?php echo 1 .\\Rand(2);" = .ok run ∧
      run.result.state = .done ∧ run.result.converged = true ∧ run.result.passes = 2 ∧
      run.result.diagnostics = [] ∧ run.result.fixedSource = "<?php echo 1 .\\mt_rand(2);" ∧
      tokenize run.result.fixedSource = .ok after ∧ stream.Renamed [.olderRandom] [7] after := by
  have reads : (tokenize "<?php echo 1 .\\Rand(2);").toOption.map TokenStream.size =
      some 12 := by decide +kernel
  have outcome : ((ofOptions [.olderRandom] [] true 2).lint "a"
      "<?php echo 1 .\\Rand(2);").toOption.map (fun run => (run.result.passes,
        run.result.fixedSource, run.result.fixed.map Diagnostic.tokenIndex)) =
        some (2, "<?php echo 1 .\\mt_rand(2);", [7]) := by decide +kernel
  rcases exists_tokenize_of_map_toOption reads with ⟨stream, read, -⟩
  rcases @lint_renames [.olderRandom] [] 2 _ _ (by simp) (by decide) (Nat.le_refl 2) read "a" with
    ⟨run, after, names, finished, done, converged, -, nothing_left, indexes_eq, readAgain, renamed⟩
  rw [finished] at outcome
  simp only [Except.toOption, Option.map_some, Option.some.injEq, Prod.mk.injEq] at outcome
  rcases outcome with ⟨passes_eq, fixed_eq, indexes⟩
  have names_eq : names = [7] := by
    rw [indexes] at indexes_eq
    rcases List.map_eq_singleton_iff.mp indexes_eq.symm with ⟨index, rfl, index_eq⟩
    exact congrArg (fun index => [index]) (Int.ofNat.inj index_eq)
  exact ⟨stream, run, after, read, finished, done, converged, passes_eq, nothing_left, fixed_eq,
    readAgain, names_eq ▸ renamed⟩

end LintSettings

end TokenLint
