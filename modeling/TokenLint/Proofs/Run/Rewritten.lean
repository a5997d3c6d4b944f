import TokenLint.Proofs.Rule.Rewrite
import TokenLint.Proofs.Stream.Span
import Mathlib.Data.List.Chain

/-!
# What rewrites leave behind

A pass in which all rules propose rewrites leaves every token untouched, gives it another
name, or drops it, and what it drops are whole stretches between the marks of ternaries.
Its output is therefore made from its tokens by the edits that no neighbour can spoil, and
is read as the texts that the tokens have after the pass.
-/

namespace TokenLint

open Lexer

/-- The patch of a token whose text is exchanged for another one, or taken away. -/
def Patch.exchanged (text : String) : Patch := ⟨"", some text, ""⟩

@[simp]
theorem Patch.render_exchanged (text content : String) :
    (Patch.exchanged text).render content = text := by
  simp [exchanged, render]

theorem Ledger.editsAt_map_removal {indexes : List Nat} (distinct : indexes.Nodup) (index : Nat) :
    editsAt (indexes.map Rule.removal) index =
      if index ∈ indexes then [Rule.removal index] else [] := by
  have same : ((fun edit : Edit => decide (edit.index = index)) ∘ Rule.removal) =
      (fun other => decide (other = index)) := rfl
  rw [editsAt, List.filter_map, same, List.filter_eq, distinct.count]
  split <;> rfl

theorem Ledger.editsAt_removals (start stop index : Nat) :
    editsAt (Rule.removals start stop) index =
      if start ≤ index ∧ index < stop then [Rule.removal index] else [] := by
  rw [Rule.removals, editsAt_map_removal (List.nodup_range' 1)]
  refine if_congr ?_ rfl rfl
  rw [List.mem_range'_1]
  omega

theorem Ledger.patch?_commit_removals {ledger : Ledger} {start stop index : Nat}
    (offer : Option Offer) (noClash : ledger.clashing (Rule.removals start stop) = [])
    (inside : stop ≤ ledger.size) (within : start ≤ index ∧ index < stop) :
    (ledger.commit (Rule.removals start stop) offer).ledger.patch? index =
      some (.exchanged "") := by
  have member : Rule.removal index ∈ Rule.removals start stop :=
    List.mem_map_of_mem (List.mem_range'_1.mpr (by omega))
  have untouched : ledger.isTouched index = false :=
    ledger.clashing_eq_nil_iff.mp noClash _ member (Nat.lt_of_lt_of_le within.2 inside)
  rw [isTouched, Option.isSome_eq_false_iff, Option.isNone_iff_eq_none] at untouched
  rw [patch?_commit_of_clear offer (Nat.lt_of_lt_of_le within.2 inside) noClash, editsAt_removals,
    if_pos within, untouched]
  rfl

namespace TokenStream

variable {stream : TokenStream}

/-- Whether the patches of a pass are those of rewrites: names that are exchanged, and whole
stretches between the marks of ternaries that are dropped. -/
def Rewritten (stream : TokenStream) (patches : Array (Option Patch)) : Prop :=
  ∀ index patch, patches.getD index none = some patch →
    (∃ name, stream.hasKind index .identifier = true ∧
      (Text.lower (stream.contentAt index), name) ∈ Rule.nameReplacements ∧
      patch = .exchanged name) ∨
    ∃ start stop, stream.hasKind start .ternaryThen = true ∧
      stream.hasKind stop .ternaryElse = true ∧ start < index ∧ index < stop ∧
      ∀ inner, start < inner → inner < stop → patches.getD inner none = some (.exchanged "")

theorem rewritten_replicate (size : Nat) : stream.Rewritten (Array.replicate size none) := by
  intro index patch touched
  rw [Array.getD_eq_getD_getElem?, Array.getElem?_replicate] at touched
  split at touched <;> cases touched

/-- Commits of rewrites leave patches of rewrites. -/
theorem rewritten_keptBy : stream.KeptBy stream.Rewrites stream.Rewritten := by
  intro ledger edits offer size_eq rewrites rewritten index patch touched
  cases before : ledger.patch? index with
  | some earlier =>
      have stays : (ledger.commit edits offer).ledger.patch? index = some earlier :=
        Ledger.patch?_commit_of_touched edits offer before
      have same : earlier = patch := Option.some.inj (stays.symm.trans touched)
      rcases rewritten index earlier before with
        renamed | ⟨start, stop, opens, closes, after, until_, dropped⟩
      · exact .inl (same ▸ renamed)
      · refine .inr ⟨start, stop, opens, closes, after, until_, ?_⟩
        intro inner inner_after inner_until
        exact Ledger.patch?_commit_of_touched edits offer (dropped inner inner_after inner_until)
  | none =>
      rcases Ledger.patch?_commit_of_untouched before touched with ⟨noClash, made⟩
      cases rewrites with
      | @rename renamed name word listed =>
          by_cases here : renamed = index
          · subst here
            have patch_eq : Patch.exchanged name = patch := by
              simpa [Ledger.editsAt, Ledger.enter, Patch.exchanged, Patch.add, Patch.empty]
                using made
            exact .inl ⟨name, word, listed, patch_eq.symm⟩
          · simp [Ledger.editsAt, here] at made
      | @contract start stop opens closes =>
          rw [Ledger.editsAt_removals] at made
          split at made
          · rename_i within
            refine .inr ⟨start, stop, opens, closes, by omega, within.2, ?_⟩
            intro inner after until_
            have stop_lt := lt_size_of_hasKind closes
            exact Ledger.patch?_commit_removals offer noClash (by omega) ⟨by omega, until_⟩
          · cases made

end TokenStream

namespace Ledger

variable (ledger : Ledger)

/-- Whether nothing is left of a token. -/
def Drops (token : Token) : Prop := ledger.patch? token.index = some (.exchanged "")

/-- What rewrites can make of a token. -/
inductive Treats (token : Token) : Prop where
  | leaves (untouched : ledger.patch? token.index = none)
  | renames {name : String} (word : token.kind = .identifier)
      (listed : (Text.lower token.content, name) ∈ Rule.nameReplacements)
      (touched : ledger.patch? token.index = some (.exchanged name))
  | drops (dropped : ledger.Drops token)

/-- How far two neighbours share their fate: what is dropped begins after a mark of a ternary and
ends before the other one. -/
def Joins (token next : Token) : Prop :=
  (ledger.Drops next → ledger.Drops token ∨ token.kind = .ternaryThen) ∧
    (ledger.Drops token → ledger.Drops next ∨ next.kind = .ternaryElse)

/-- The text of each token, where it is not empty. -/
def pieces (tokens : List Token) : List (List Char) :=
  (tokens.map fun token => (ledger.tokenText token).toList).filter (· ≠ [])

theorem pieces_append (first second : List Token) :
    ledger.pieces (first ++ second) = ledger.pieces first ++ ledger.pieces second := by
  simp [pieces]

theorem flatten_pieces (tokens : List Token) :
    (ledger.pieces tokens).flatten = tokens.flatMap fun token =>
      (ledger.tokenText token).toList := by
  rw [pieces, List.flatten_filter_ne_nil]
  rfl

end Ledger

namespace Ledger

variable {ledger : Ledger} {token : Token} {rest : List Token}

theorem pieces_of_leaves (untouched : ledger.patch? token.index = none)
    (nonempty : token.content.toList ≠ []) :
    ledger.pieces (token :: rest) = token.content.toList :: ledger.pieces rest := by
  simp [pieces, tokenText, untouched, nonempty]

theorem pieces_of_exchanges {text : String}
    (touched : ledger.patch? token.index = some (.exchanged text)) (nonempty : text.toList ≠ []) :
    ledger.pieces (token :: rest) = text.toList :: ledger.pieces rest := by
  simp [pieces, tokenText, touched, nonempty]

theorem pieces_of_drops (dropped : ledger.Drops token) :
    ledger.pieces (token :: rest) = ledger.pieces rest := by
  have touched : ledger.patch? token.index = some (.exchanged "") := dropped
  simp [pieces, tokenText, touched]

theorem Treats.untouched (treats : ledger.Treats token) (stays : ¬ledger.Drops token)
    (named : token.kind ≠ .identifier) : ledger.patch? token.index = none := by
  cases treats with
  | leaves untouched => exact untouched
  | renames word listed touched => exact absurd word named
  | drops dropped => exact absurd dropped stays

/-- Whether of some tokens the first ones are dropped up to a colon, and edited from there on. -/
def DropsToColon (ledger : Ledger) (tokens : List Token) : Prop :=
  ∃ dropped old new, (tokens.map fun token => token.content.toList) = dropped ++ [':'] :: old ∧
    ledger.pieces tokens = [':'] :: new ∧ Edited .code ([':'] :: old) ([':'] :: new)

theorem DropsToColon.cons (drops : ledger.DropsToColon rest) (dropped : ledger.Drops token) :
    ledger.DropsToColon (token :: rest) := by
  rcases drops with ⟨gone, old, new, contents_eq, pieces_eq, edited⟩
  refine ⟨token.content.toList :: gone, old, new, ?_, ?_, edited⟩
  · rw [List.map_cons, contents_eq, List.cons_append]
  · rw [pieces_of_drops dropped, pieces_eq]

variable {mode next : Mode}

/-- The last token of a stretch that is dropped stands in front of the colon. -/
theorem dropsToColon_of_last {colon : Token} (dropped : ledger.Drops token)
    (answers : colon.kind = .ternaryElse)
    (fits : Fits next colon.kind colon.content.toList) (treats : ledger.Treats colon)
    (stays : ¬ledger.Drops colon)
    (edited : Edited next ((colon :: rest).map fun token => token.content.toList)
      (ledger.pieces (colon :: rest))) : ledger.DropsToColon (token :: colon :: rest) := by
  have untouched := treats.untouched stays (by simp [answers])
  rcases fits.sign ":" (by simp [answers, signOf?]) with ⟨rfl, content_eq⟩
  have content_eq : colon.content.toList = [':'] := content_eq
  have pieces_eq : ledger.pieces (colon :: rest) = [':'] :: ledger.pieces rest := by
    rw [pieces_of_leaves untouched (by simp [content_eq]), content_eq]
  rw [List.map_cons, content_eq, pieces_eq] at edited
  refine ⟨[token.content.toList], _, _, ?_, ?_, edited⟩
  · simp [content_eq]
  · rw [pieces_of_drops dropped, pieces_eq]

/-- A stretch that is dropped begins behind a question mark. -/
theorem DropsToColon.edited_cons (drops : ledger.DropsToColon rest)
    (cut : stride? mode (token.content.toList ++
      (rest.map fun token => token.content.toList).flatten) =
        some (token.content.toList.length, next))
    (fits : Fits mode token.kind token.content.toList) (asks : token.kind = .ternaryThen)
    (treats : ledger.Treats token) (stays : ¬ledger.Drops token) :
    Edited mode ((token :: rest).map fun token => token.content.toList)
      (ledger.pieces (token :: rest)) := by
  rcases drops with ⟨gone, old, new, contents_eq, pieces_eq, edited⟩
  have untouched := treats.untouched stays (by simp [asks])
  rcases fits.sign "?" (by simp [asks, signOf?]) with ⟨rfl, content_eq⟩
  have content_eq : token.content.toList = ['?'] := content_eq
  rw [pieces_of_leaves untouched (by simp [content_eq]), List.map_cons, contents_eq, pieces_eq,
    content_eq]
  rw [contents_eq, content_eq] at cut
  have cut : stride? .code ('?' :: (gone ++ [':'] :: old).flatten) = some (1, next) := cut
  rw [eq_code_of_stride?_one cut] at cut
  exact .drop cut edited

/-- A token that is not dropped is kept, or exchanged for another name. -/
theorem Treats.edited_cons (treats : ledger.Treats token) (stays : ¬ledger.Drops token)
    (cut : stride? mode (token.content.toList ++
      (rest.map fun token => token.content.toList).flatten) =
        some (token.content.toList.length, next))
    (fits : Fits mode token.kind token.content.toList)
    (edited : Edited next (rest.map fun token => token.content.toList) (ledger.pieces rest)) :
    Edited mode ((token :: rest).map fun token => token.content.toList)
      (ledger.pieces (token :: rest)) := by
  rw [List.map_cons]
  cases treats with
  | leaves untouched =>
      rw [pieces_of_leaves untouched (List.length_pos_iff.mp (stride?_pos cut))]
      exact .keep cut edited
  | renames word listed touched =>
      rcases fits.word word with ⟨rfl, isName⟩
      have names := Rule.exchange_of_mem_nameReplacements isName listed
      rw [pieces_of_exchanges touched names.new_name.ne_nil]
      rcases names.stops_of_stride? cut with ⟨-, rfl⟩
      exact .exchange names cut edited
  | drops dropped => exact absurd dropped stays

/-- Rewrites edit the tokens of a source in a way that no neighbour can spoil. -/
theorem edited_of_treats {tokens : List Token} (reads : Reads mode (tokens.map Token.lexeme))
    (treats : ∀ token ∈ tokens, ledger.Treats token) (joins : tokens.IsChain ledger.Joins)
    (ends : ∀ token ∈ tokens.getLast?, ¬ledger.Drops token) :
    ((∀ token ∈ tokens.head?, ¬ledger.Drops token) →
      Edited mode (tokens.map fun token => token.content.toList) (ledger.pieces tokens)) ∧
    ((∃ token ∈ tokens.head?, ledger.Drops token) → ledger.DropsToColon tokens) := by
  induction tokens generalizing mode with
  | nil => exact ⟨fun _ => .nil mode, by simp⟩
  | cons token rest ih =>
      rcases reads with _ | ⟨cut, fits, later⟩
      rename_i next
      rw [spelled_map_lexeme] at cut
      have here := treats token (List.mem_cons_self ..)
      have restEnds : ∀ token ∈ rest.getLast?, ¬ledger.Drops token := by
        intro last member
        refine ends last ?_
        rw [List.getLast?_cons]
        simp [Option.mem_def.mp member]
      rcases List.isChain_cons.mp joins with ⟨joined, restJoins⟩
      rcases ih later (fun other member => treats other (List.mem_cons_of_mem _ member)) restJoins
        restEnds with ⟨kept, opened⟩
      by_cases followed : ∃ follower ∈ rest.head?, ledger.Drops follower
      · have drops := opened followed
        constructor
        · intro stays
          -- The token is the mark behind which the stretch begins.
          have stays := stays token rfl
          rcases followed with ⟨follower, head_eq, follower_drops⟩
          have asks := ((joined follower head_eq).1 follower_drops).resolve_left stays
          exact drops.edited_cons cut fits asks here stays
        · rintro ⟨first, first_eq, dropped⟩
          cases Option.some.inj first_eq
          exact drops.cons dropped
      · have edited := kept fun follower member drops => followed ⟨follower, member, drops⟩
        constructor
        · intro stays
          exact here.edited_cons (stays token rfl) cut fits edited
        · rintro ⟨first, first_eq, dropped⟩
          cases Option.some.inj first_eq
          -- The token after the last one of a stretch is the other mark.
          cases rest with
          | nil => exact absurd dropped (ends token rfl)
          | cons colon others =>
              have stays : ¬ledger.Drops colon := fun drops => followed ⟨colon, rfl, drops⟩
              have answers := ((joined colon rfl).2 dropped).resolve_left stays
              rcases later with _ | ⟨-, colonFits, -⟩
              exact dropsToColon_of_last dropped answers colonFits
                (treats colon (List.mem_cons_of_mem _ (List.mem_cons_self ..))) stays edited

end Ledger

namespace TokenStream

variable {stream : TokenStream}

theorem hasKind_index (bounded : stream.Bounded) {token : Token}
    (member : token ∈ stream.tokens.toList) (kind : TokenKind) :
    stream.hasKind token.index kind = true ↔ token.kind = kind := by
  simp [hasKind, kind?, bounded.token?_of_mem member]

theorem contentAt_index (bounded : stream.Bounded) {token : Token}
    (member : token ∈ stream.tokens.toList) : stream.contentAt token.index = token.content := by
  simp [contentAt, bounded.token?_of_mem member]

namespace Rewritten

variable {ledger : Ledger}

/-- A token that was dropped belongs to a stretch between two marks. -/
theorem exists_stretch (rewritten : stream.Rewritten ledger.patches) {index : Nat}
    (dropped : ledger.patch? index = some (.exchanged "")) :
    ∃ start stop, stream.hasKind start .ternaryThen = true ∧
      stream.hasKind stop .ternaryElse = true ∧ start < index ∧ index < stop ∧
      ∀ inner, start < inner → inner < stop → ledger.patch? inner = some (.exchanged "") := by
  rcases rewritten index _ dropped with ⟨name, -, listed, patch_eq⟩ | stretch
  · have named : ∀ entry ∈ Rule.nameReplacements, entry.2 ≠ "" := by decide
    have empty : "" = name := by simpa [Patch.exchanged] using patch_eq
    exact absurd empty.symm (named _ listed)
  · exact stretch

theorem treats (bounded : stream.Bounded) (rewritten : stream.Rewritten ledger.patches)
    {token : Token} (member : token ∈ stream.tokens.toList) : ledger.Treats token := by
  cases touched : ledger.patch? token.index with
  | none => exact .leaves touched
  | some patch =>
      rcases rewritten token.index patch touched with
        ⟨name, word, listed, rfl⟩ | ⟨start, stop, -, -, after, until_, dropped⟩
      · rw [hasKind_index bounded member] at word
        rw [contentAt_index bounded member] at listed
        exact .renames word listed touched
      · exact .drops (dropped token.index after until_)

theorem joins (bounded : stream.Bounded) (rewritten : stream.Rewritten ledger.patches) :
    stream.tokens.toList.IsChain ledger.Joins := by
  rw [List.isChain_iff_getElem]
  intro index inside
  have here := List.getElem_mem (Nat.lt_of_succ_lt inside)
  have there := List.getElem_mem inside
  have here_eq : stream.tokens.toList[index].index = index := bounded.index_eq (by simp [token?])
  have there_eq : stream.tokens.toList[index + 1].index = index + 1 :=
    bounded.index_eq (by simp [token?])
  simp only [Ledger.Joins, Ledger.Drops, ← hasKind_index bounded here,
    ← hasKind_index bounded there, here_eq, there_eq]
  constructor
  · intro dropped
    rcases rewritten.exists_stretch dropped with ⟨start, stop, opens, -, after, until_, whole⟩
    by_cases inner : start < index
    · exact .inl (whole index inner (by omega))
    · have start_eq : start = index := by omega
      exact .inr (start_eq ▸ opens)
  · intro dropped
    rcases rewritten.exists_stretch dropped with ⟨start, stop, -, closes, after, until_, whole⟩
    by_cases inner : index + 1 < stop
    · exact .inl (whole (index + 1) (by omega) inner)
    · have stop_eq : stop = index + 1 := by omega
      exact .inr (stop_eq ▸ closes)

theorem ends (bounded : stream.Bounded) (rewritten : stream.Rewritten ledger.patches)
    {token : Token} (last : token ∈ stream.tokens.toList.getLast?) : ¬ledger.Drops token := by
  intro dropped
  rcases rewritten.exists_stretch dropped with ⟨start, stop, -, closes, -, until_, -⟩
  have stop_lt := lt_size_of_hasKind closes
  rw [Option.mem_def, List.getLast?_eq_getElem?] at last
  have here : stream.token? (stream.size - 1) = some token := by
    simpa [token?, size] using last
  have index_eq := bounded.index_eq here
  omega

/-- The tokens of a source are edited in a way that no neighbour can spoil. -/
theorem edited {lexemes : List Lexeme} (reads : Reads .markup lexemes)
    (rewritten : (ofLexemes lexemes).Rewritten ledger.patches) :
    Edited .markup ((ofLexemes lexemes).tokens.toList.map fun token => token.content.toList)
      (ledger.pieces (ofLexemes lexemes).tokens.toList) := by
  have bounded := bounded_ofLexemes lexemes
  refine (Ledger.edited_of_treats ?_ (fun token member => rewritten.treats bounded member)
    (rewritten.joins bounded) (fun token last => rewritten.ends bounded last)).1 ?_
  · rw [map_lexeme_ofLexemes]
    exact reads
  · intro token first dropped
    rcases rewritten.exists_stretch dropped with ⟨start, stop, -, -, after, -, -⟩
    have here : (ofLexemes lexemes).token? 0 = some token := by
      simpa [token?, List.head?_eq_getElem?] using first
    have index_eq := bounded.index_eq here
    omega

/-- A source in which only rewrites were committed is read as the texts of its tokens. -/
theorem exists_lex {lexemes : List Lexeme} (reads : Reads .markup lexemes)
    (rewritten : (ofLexemes lexemes).Rewritten ledger.patches) :
    ∃ found, lex (ledger.contents (ofLexemes lexemes)) = .ok found ∧
      found.map (fun lexeme => lexeme.content.toList) =
        ledger.pieces (ofLexemes lexemes).tokens.toList := by
  rcases (rewritten.edited reads).cuts.exists_lex with ⟨found, lexed, contents_eq⟩
  have text_eq : String.ofList (ledger.pieces (ofLexemes lexemes).tokens.toList).flatten =
      ledger.contents (ofLexemes lexemes) := by
    rw [← String.toList_inj, String.toList_ofList, Ledger.contents, String.toList_join,
      List.flatMap_map, Ledger.flatten_pieces]
  refine ⟨found, text_eq ▸ lexed, ?_⟩
  have same := congrArg (List.map String.toList) contents_eq
  simpa [Function.comp_def] using same

end Rewritten

end TokenStream

end TokenLint
