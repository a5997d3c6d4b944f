import TokenLint.Proofs.Lexer.Positions
import TokenLint.Proofs.Navigation.Parameters
import TokenLint.Proofs.Rule.Rendering
import TokenLint.Proofs.Run.Mending
import TokenLint.Proofs.Run.Rewritten
import TokenLint.Proofs.Stream.Gaps
import TokenLint.Rule.Concatenation

/-!
# Spaces around concatenation operators

Every operator without whitespace around it gets the spaces that it misses, so a pass writes the
pieces of the source spread once. Behind an open tag without a blank the first space becomes part of
the tag, so such an operator is reported once more and gets another space, and then no space is
missing. The second pass reports other places than the first one, so it is no repetition.
-/

namespace TokenLint

open Lexer Ledger

namespace TokenStream

variable (stream : TokenStream)

/-- The edits for an index: the spaces that a concatenation operator misses. -/
def concatBatch (index : Nat) : List Edit :=
  if stream.hasKind index .concat then stream.spacingEdits index else []

/-- The number of spaces that are missing in front of an index. -/
def spacesAhead (index : Nat) : Nat :=
  if stream.hasKind index .concat && !stream.hasSpaceBefore index then 1 else 0

/-- The number of spaces that are missing behind an index. -/
def spacesBehind (index : Nat) : Nat :=
  if stream.hasKind index .concat && !stream.hasSpaceAfter index then 1 else 0

/-- The source with some spaces in front of and behind each token. -/
def padded (ahead behind : Nat → Nat) : String :=
  String.join (stream.tokens.toList.map fun token =>
    String.ofList (List.replicate (ahead token.index) ' ') ++ token.content ++
      String.ofList (List.replicate (behind token.index) ' '))

variable {stream} {index : Nat}

theorem index_eq_of_mem_concatBatch {edit : Edit} (member : edit ∈ stream.concatBatch index) :
    edit.index = index := by
  rw [concatBatch] at member
  split at member
  · rw [spacingEdits, List.mem_append] at member
    rcases member with here | here
    all_goals
      split at here
      · cases here
      · rw [List.mem_singleton.mp here]
  · cases member

theorem spacingEdits_eq_nil_iff : stream.spacingEdits index = [] ↔
    stream.hasSpaceBefore index = true ∧ stream.hasSpaceAfter index = true := by
  rw [spacingEdits, List.append_eq_nil_iff]
  simp only [ite_eq_left_iff, List.cons_ne_self, imp_false, not_not]

theorem concatBatch_eq_nil_iff : stream.concatBatch index = [] ↔
    (stream.hasKind index .concat = true →
      stream.hasSpaceBefore index = true ∧ stream.hasSpaceAfter index = true) := by
  rw [concatBatch]
  split
  · rename_i concat
    rw [spacingEdits_eq_nil_iff]
    exact ⟨fun spaced _ => spaced, fun spaced => spaced concat⟩
  · rename_i other
    exact ⟨fun _ concat => absurd concat other, fun _ => rfl⟩

end TokenStream

section Pass

variable {stream : TokenStream} {dispatcher : Dispatcher} {context : RuleContext} {token : Token}

/-- The rule fixes every operator that misses a space. -/
theorem mends_concatenationSpacing (bounded : stream.Bounded)
    (sole : dispatcher.contexts = [context]) (rule_eq : context.rule = .concatenationSpacing) :
    dispatcher.Mends stream stream.concatBatch where
  said token member := by
    have kind_iff := TokenStream.hasKind_index bounded member .concat
    by_cases batch_eq : stream.concatBatch token.index = []
    · refine .inl ⟨batch_eq, ?_⟩
      rw [sole]
      intro only among interested options
      rw [List.mem_singleton.mp among, rule_eq] at interested ⊢
      have concat := eq_of_contains_singleton interested
      have spaced := TokenStream.concatBatch_eq_nil_iff.mp batch_eq (kind_iff.mpr concat)
      simp only [Rule.concatenationSpacing, spaced.1, spaced.2, Bool.and_self, if_true]
    · have missing := mt TokenStream.concatBatch_eq_nil_iff.mpr batch_eq
      rw [Classical.not_imp] at missing
      rcases missing with ⟨concat, missing⟩
      refine .inr ⟨batch_eq, [], context, [], sole, ?_, by simp⟩
      rw [rule_eq, TokenStream.concatBatch, if_pos concat]
      rw [TokenStream.concatBatch, if_pos concat] at batch_eq
      refine ⟨by rw [kind_iff.mp concat]; rfl, fun options => ?_⟩
      simp only [Rule.concatenationSpacing, Bool.and_eq_true, missing, if_false]
      exact .together rfl rfl (Report.renders_of_nil rfl) batch_eq
  covers token member edit made := by
    rw [TokenStream.index_eq_of_mem_concatBatch made]
    exact bounded.index_lt member
  apart first _ second _ differs edit made other made_too same :=
    differs ((TokenStream.index_eq_of_mem_concatBatch made).symm.trans
      (same.trans (TokenStream.index_eq_of_mem_concatBatch made_too)))

/-- A pass of the rule puts the missing spaces around a token. -/
theorem tokenText_concatenationSpacing (bounded : stream.Bounded)
    (sole : dispatcher.contexts = [context]) (rule_eq : context.rule = .concatenationSpacing)
    (member : token ∈ stream.tokens.toList) :
    (dispatcher.dispatch stream true).2.pass.ledger.tokenText token =
      String.ofList (List.replicate (stream.spacesAhead token.index) ' ') ++ token.content ++
        String.ofList (List.replicate (stream.spacesBehind token.index) ' ') := by
  have mends := mends_concatenationSpacing bounded sole rule_eq
  have inside := bounded.index_lt member
  have here : editsAt (stream.concatBatch token.index) token.index =
      stream.concatBatch token.index := by
    rw [editsAt, List.filter_eq_self]
    exact fun edit made => decide_eq_true (TokenStream.index_eq_of_mem_concatBatch made)
  by_cases batch_eq : stream.concatBatch token.index = []
  · have untouched := mends.patch?_of_untouched bounded inside fun other _ => by
      rw [editsAt, List.filter_eq_nil_iff]
      intro edit made same
      have index_eq := TokenStream.index_eq_of_mem_concatBatch made
      rw [index_eq.symm.trans (of_decide_eq_true same), batch_eq] at made
      cases made
    have spaced := TokenStream.concatBatch_eq_nil_iff.mp batch_eq
    have ahead_eq : stream.spacesAhead token.index = 0 := by
      rw [TokenStream.spacesAhead, if_neg]
      simpa using fun concat => (spaced concat).1
    have behind_eq : stream.spacesBehind token.index = 0 := by
      rw [TokenStream.spacesBehind, if_neg]
      simpa using fun concat => (spaced concat).2
    rw [tokenText, untouched, ahead_eq, behind_eq]
    simp
  · have patched := mends.patch?_of_touched bounded member inside (by rwa [here])
    have concat : stream.hasKind token.index .concat = true := by
      by_contra other
      exact batch_eq (TokenStream.concatBatch_eq_nil_iff.mpr fun concat => absurd concat other)
    rw [here, TokenStream.concatBatch, if_pos concat, TokenStream.spacingEdits] at patched
    rw [tokenText, patched, TokenStream.spacesAhead, TokenStream.spacesBehind, concat]
    cases stream.hasSpaceBefore token.index <;> cases stream.hasSpaceAfter token.index <;>
      simp [enter, Patch.add, Patch.empty, Patch.render]

/-- The rule writes the source with the missing spaces. -/
theorem contents_concatenationSpacing (bounded : stream.Bounded)
    (sole : dispatcher.contexts = [context]) (rule_eq : context.rule = .concatenationSpacing) :
    (dispatcher.dispatch stream true).2.pass.contents =
      stream.padded stream.spacesAhead stream.spacesBehind := by
  have mends := mends_concatenationSpacing bounded sole rule_eq
  rw [Pass.contents, (mends.dispatch bounded).stream_eq, Ledger.contents]
  exact congrArg String.join (List.map_congr_left fun token member =>
    tokenText_concatenationSpacing bounded sole rule_eq member)

end Pass

/-! ### Pieces of a stream -/

section Pieces

open TokenStream (hasKind_piece isSettled)

variable {scanned : List Lexeme} {index : Nat} {piece next : Piece}

theorem spacesAhead_eq (here : (scanned.map pieceOf)[index]? = some piece)
    (there : (scanned.map pieceOf)[index + 1]? = some next) :
    (TokenStream.ofLexemes (settle scanned)).spacesAhead (index + 1) =
      if next.kind = .concat ∧ piece.kind ≠ .whitespace then 1 else 0 := by
  have concat_iff := hasKind_piece (rfl : isSettled .concat = false) there
  have blank_iff := hasKind_piece (rfl : isSettled .whitespace = false) here
  simp only [TokenStream.spacesAhead, TokenStream.hasSpaceBefore, Bool.and_eq_true, concat_iff,
    Bool.not_eq_true', ← Bool.not_eq_true, blank_iff, ne_eq]

theorem spacesBehind_eq (here : (scanned.map pieceOf)[index]? = some piece)
    (there : (scanned.map pieceOf)[index + 1]? = some next) :
    (TokenStream.ofLexemes (settle scanned)).spacesBehind index =
      if piece.kind = .concat ∧ next.kind ≠ .whitespace then 1 else 0 := by
  have concat_iff := hasKind_piece (rfl : isSettled .concat = false) here
  have blank_iff := hasKind_piece (rfl : isSettled .whitespace = false) there
  have inside : ¬(TokenStream.ofLexemes (settle scanned)).size ≤ index + 1 := by
    rw [TokenStream.size_ofLexemes, length_settle, Nat.not_le]
    simpa using (List.getElem?_eq_some_iff.mp there).1
  simp only [TokenStream.spacesBehind, TokenStream.hasSpaceAfter, inside, decide_false,
    Bool.false_or, Bool.and_eq_true, concat_iff, Bool.not_eq_true', ← Bool.not_eq_true, blank_iff,
    ne_eq]

theorem spacesBehind_last (outside : scanned.length ≤ index + 1) :
    (TokenStream.ofLexemes (settle scanned)).spacesBehind index = 0 := by
  have outside : (TokenStream.ofLexemes (settle scanned)).size ≤ index + 1 := by
    rwa [TokenStream.size_ofLexemes, length_settle]
  simp only [TokenStream.spacesBehind, TokenStream.hasSpaceAfter, outside, decide_true,
    Bool.true_or, Bool.not_true, Bool.and_false, Bool.false_eq_true, if_false]

theorem spaces_add (here : (scanned.map pieceOf)[index]? = some piece)
    (there : (scanned.map pieceOf)[index + 1]? = some next) :
    (TokenStream.ofLexemes (settle scanned)).spacesBehind index +
      (TokenStream.ofLexemes (settle scanned)).spacesAhead (index + 1) = gap piece next := by
  rw [spacesBehind_eq here there, spacesAhead_eq here there, gap]

theorem padded_settle (scanned : List Lexeme) (ahead behind : Nat → Nat) :
    (TokenStream.ofLexemes (settle scanned)).padded ahead behind =
      String.ofList (((scanned.map pieceOf).mapIdx fun index piece =>
        List.replicate (ahead index) ' ' ++
          (piece.text ++ List.replicate (behind index) ' ')).flatten) := by
  rw [← String.toList_inj, TokenStream.padded, String.toList_join, String.toList_ofList,
    List.flatMap_map, List.flatMap_def]
  congr 1
  apply List.ext_getElem?
  intro index
  rw [List.getElem?_map, List.getElem?_mapIdx, List.getElem?_map]
  cases here : scanned[index]? with
  | none =>
      have outside : (TokenStream.ofLexemes (settle scanned)).tokens.toList.length ≤ index := by
        rw [Array.length_toList, ← TokenStream.size, TokenStream.size_ofLexemes, length_settle]
        exact List.getElem?_eq_none_iff.mp here
      rw [List.getElem?_eq_none outside]
      rfl
  | some lexeme =>
      rcases TokenStream.exists_token_settle here with ⟨token, token_at, index_eq, content_eq⟩
      have token_at : (TokenStream.ofLexemes (settle scanned)).tokens.toList[index]? =
          some token := Array.getElem?_toList.trans token_at
      rw [token_at]
      simp [index_eq, content_eq, pieceOf]

/-- With the spaces that pieces shall have between them, the source is their text spaced so. -/
theorem padded_eq_spacedBy {width : Piece → Piece → Nat} {ahead behind : Nat → Nat}
    (inner : ∀ index piece next, (scanned.map pieceOf)[index]? = some piece →
      (scanned.map pieceOf)[index + 1]? = some next →
      behind index + ahead (index + 1) = width piece next)
    (first : ahead 0 = 0) (last : behind (scanned.length - 1) = 0) :
    (TokenStream.ofLexemes (settle scanned)).padded ahead behind =
      String.ofList (spacedBy width (scanned.map pieceOf)) := by
  rw [padded_settle]
  by_cases empty : scanned.map pieceOf = []
  · rw [empty]
    rfl
  · rw [← List.length_map (f := pieceOf)] at last
    rw [spacedBy_eq ahead behind inner last empty, first]
    rfl

theorem not_hasSpaceBefore_iff (inside : index ≤ scanned.length) :
    ¬(TokenStream.ofLexemes (settle scanned)).hasSpaceBefore index = true ↔
      ∃ place before, index = place + 1 ∧ (scanned.map pieceOf)[place]? = some before ∧
        before.kind ≠ .whitespace := by
  cases index with
  | zero => simp [TokenStream.hasSpaceBefore]
  | succ place =>
      have here : (scanned.map pieceOf)[place]? = some (pieceOf scanned[place]) := by
        rw [List.getElem?_map, List.getElem?_eq_getElem inside]
        rfl
      rw [TokenStream.hasSpaceBefore,
        hasKind_piece (rfl : isSettled .whitespace = false) here]
      constructor
      · exact fun solid => ⟨place, _, rfl, here, solid⟩
      · rintro ⟨_, before, same, found, solid⟩
        cases same
        cases here.symm.trans found
        exact solid

theorem not_hasSpaceAfter_iff :
    ¬(TokenStream.ofLexemes (settle scanned)).hasSpaceAfter index = true ↔
      ∃ behind, (scanned.map pieceOf)[index + 1]? = some behind ∧ behind.kind ≠ .whitespace := by
  rw [TokenStream.hasSpaceAfter, TokenStream.size_ofLexemes, length_settle, Bool.or_eq_true,
    decide_eq_true_eq, not_or, Nat.not_le]
  constructor
  · rintro ⟨inside, solid⟩
    have there : (scanned.map pieceOf)[index + 1]? = some (pieceOf scanned[index + 1]) := by
      rw [List.getElem?_map, List.getElem?_eq_getElem inside]
      rfl
    rw [hasKind_piece (rfl : isSettled .whitespace = false) there] at solid
    exact ⟨_, there, solid⟩
  · rintro ⟨behind, there, solid⟩
    have inside := (List.getElem?_eq_some_iff.mp there).1
    rw [List.length_map] at inside
    refine ⟨inside, ?_⟩
    rwa [hasKind_piece (rfl : isSettled .whitespace = false) there]

/-- There is something to be done about an index if its piece has a gap. -/
theorem concatBatch_ne_nil_iff :
    (TokenStream.ofLexemes (settle scanned)).concatBatch index ≠ [] ↔
      ∃ piece, (scanned.map pieceOf)[index]? = some piece ∧
        HasGap ((scanned.map pieceOf).take index) piece
          ((scanned.map pieceOf).drop (index + 1)) := by
  have at_iff : (∃ piece, (scanned.map pieceOf)[index]? = some piece ∧ piece.kind = .concat) ↔
      (TokenStream.ofLexemes (settle scanned)).hasKind index .concat = true := by
    constructor
    · rintro ⟨piece, here, concat⟩
      exact (hasKind_piece (rfl : isSettled .concat = false) here).mpr concat
    · intro concat
      have inside := TokenStream.lt_size_of_hasKind concat
      rw [TokenStream.size_ofLexemes, length_settle, ← List.length_map (f := pieceOf)] at inside
      have here := List.getElem?_eq_getElem inside
      exact ⟨_, here, (hasKind_piece (rfl : isSettled .concat = false) here).mp concat⟩
  rw [ne_eq, TokenStream.concatBatch_eq_nil_iff, Classical.not_imp, not_and_or,
    not_hasSpaceAfter_iff]
  constructor
  · rintro ⟨concat, missing⟩
    have inside := TokenStream.lt_size_of_hasKind concat
    rw [TokenStream.size_ofLexemes, length_settle] at inside
    rw [not_hasSpaceBefore_iff (Nat.le_of_lt inside)] at missing
    rcases at_iff.mpr concat with ⟨piece, here, concat⟩
    exact ⟨piece, here, (hasGap_at_iff here).mpr ⟨concat, missing⟩⟩
  · rintro ⟨piece, here, has_gap⟩
    have inside := (List.getElem?_eq_some_iff.mp here).1
    rw [List.length_map] at inside
    rw [hasGap_at_iff here] at has_gap
    rw [not_hasSpaceBefore_iff (Nat.le_of_lt inside)]
    exact ⟨at_iff.mp ⟨piece, here, has_gap.1⟩, has_gap.2⟩

end Pieces

section Run

variable {dispatcher : Dispatcher} {context : RuleContext} {scanned : List Lexeme}

/-- The tokens that are reported are the operators with gaps. -/
theorem mem_concerned_concatBatch_iff {index : Nat} :
    index ∈ concerned (TokenStream.ofLexemes (settle scanned)).concatBatch
        (TokenStream.ofLexemes (settle scanned)).tokens.toList ↔
      ∃ front piece back, scanned.map pieceOf = front ++ piece :: back ∧ front.length = index ∧
        HasGap front piece back := by
  have bounded := TokenStream.bounded_ofLexemes (settle scanned)
  rw [concerned_eq_filter bounded, List.mem_filter, List.mem_range, decide_eq_true_eq,
    concatBatch_ne_nil_iff, TokenStream.size_ofLexemes, length_settle]
  constructor
  · rintro ⟨-, piece, here, has_gap⟩
    rcases List.getElem?_eq_some_iff.mp here with ⟨inside, here⟩
    refine ⟨_, piece, _, ?_, ?_, has_gap⟩
    · rw [← here, ← List.drop_eq_getElem_cons inside, List.take_append_drop]
    · exact List.length_take_of_le (Nat.le_of_lt inside)
  · rintro ⟨front, piece, back, pieces_eq, rfl, has_gap⟩
    have length_eq := congrArg List.length pieces_eq
    rw [List.length_map, List.length_append, List.length_cons] at length_eq
    refine ⟨by omega, piece, ?_, ?_⟩
    · simp [pieces_eq]
    · simpa [pieces_eq] using has_gap

/-- Nothing is to be done about pieces without gaps. -/
theorem concerned_concatBatch_eq_nil_iff :
    concerned (TokenStream.ofLexemes (settle scanned)).concatBatch
      (TokenStream.ofLexemes (settle scanned)).tokens.toList = [] ↔
      (scanned.map pieceOf).IsChain fun piece next => gap piece next = 0 := by
  constructor
  · intro nothing
    by_contra some_gap
    rcases exists_first_gap some_gap with ⟨front, piece, back, pieces_eq, has_gap, -⟩
    have listed := mem_concerned_concatBatch_iff.mpr ⟨front, piece, back, pieces_eq, rfl, has_gap⟩
    rw [nothing] at listed
    cases listed
  · intro chain
    rw [List.eq_nil_iff_forall_not_mem]
    intro index listed
    rcases mem_concerned_concatBatch_iff.mp listed with ⟨front, piece, back, pieces_eq, -, has_gap⟩
    exact has_gap.not_isChain (pieces_eq ▸ chain)

/-- A pass of the rule writes the pieces of its source spread once. -/
theorem contents_eq_spread (sole : dispatcher.contexts = [context])
    (rule_eq : context.rule = .concatenationSpacing) :
    (dispatcher.dispatch (.ofLexemes (settle scanned)) true).2.pass.contents =
      String.ofList (written (spread (scanned.map pieceOf))) := by
  have bounded := TokenStream.bounded_ofLexemes (settle scanned)
  rw [contents_concatenationSpacing bounded sole rule_eq, written_spread]
  refine padded_eq_spacedBy (fun index piece next here there => spaces_add here there) ?_ ?_
  · simp [TokenStream.spacesAhead, TokenStream.hasSpaceBefore]
  · exact spacesBehind_last (by omega)

/-- A token stands at the place behind the pieces in front of it. -/
theorem isBehind_positionOf {source : String} {pass : Pass} {front back : List Piece}
    {piece : Piece} (lexed : lex source = .ok (settle scanned))
    (stream_eq : pass.stream = .ofLexemes (settle scanned))
    (pieces_eq : scanned.map pieceOf = front ++ piece :: back) :
    (pass.positionOf (front.length : Int)).IsBehind (written front) := by
  have placed := positions_of_lex source
  rw [lexed] at placed
  rcases List.map_eq_append_iff.mp pieces_eq with ⟨before, others, rfl, rfl, others_eq⟩
  rcases List.map_eq_cons_iff.mp others_eq with ⟨lexeme, after, rfl, rfl, -⟩
  have inside : before.length < (settle (before ++ lexeme :: after)).length := by
    simp [length_settle]
  have settled_eq := (List.take_append_drop before.length (settle (before ++ lexeme :: after))).symm
  rw [List.drop_eq_getElem_cons inside] at settled_eq
  have behind := (placed _ _ _ settled_eq).2
  have text_eq : spelled ((settle (before ++ lexeme :: after)).take before.length) =
      written (before.map pieceOf) := by
    have contents_eq := congrArg (List.take before.length)
      (map_content_settle (before ++ lexeme :: after))
    rw [← List.map_take, ← List.map_take, List.take_left] at contents_eq
    have chars_eq := congrArg (List.flatMap String.toList) contents_eq
    rw [List.flatMap_map, List.flatMap_map] at chars_eq
    rw [written_map_pieceOf]
    exact chars_eq
  have position_eq : pass.positionOf ((before.map pieceOf).length : Int) =
      (settle (before ++ lexeme :: after))[before.length].position := by
    simp [Pass.positionOf, stream_eq, TokenStream.token?, TokenStream.ofLexemes, length_settle]
  rw [position_eq, ← text_eq]
  exact behind

/-- Where spaces are still missing after a pass, the next pass reports other places. -/
theorem signature_ne {source next : String} {found : List Lexeme}
    (sole : dispatcher.contexts = [context]) (rule_eq : context.rule = .concatenationSpacing)
    (lexed : lex source = .ok (settle scanned)) (lexedNext : lex next = .ok (settle found))
    (found_eq : found.map pieceOf = spread (scanned.map pieceOf))
    (tags : ∀ piece ∈ scanned.map pieceOf, IsBareTag piece.text → piece.kind = .openTag)
    (some_gap : ¬(scanned.map pieceOf).IsChain fun piece next => gap piece next = 0) :
    (dispatcher.dispatch (.ofLexemes (settle scanned)) true).2.pass.signature ≠
      (dispatcher.dispatch (.ofLexemes (settle found)) true).2.pass.signature := by
  intro same
  have mended := (mends_concatenationSpacing (TokenStream.bounded_ofLexemes (settle scanned)) sole
    rule_eq).dispatch (TokenStream.bounded_ofLexemes _)
  have mendedNext := (mends_concatenationSpacing (TokenStream.bounded_ofLexemes (settle found)) sole
    rule_eq).dispatch (TokenStream.bounded_ofLexemes _)
  rcases exists_first_hasGap tags some_gap with ⟨front, piece, back, pieces_eq, has_gap, later⟩
  have listed := mem_concerned_concatBatch_iff.mpr ⟨front, piece, back, pieces_eq, rfl, has_gap⟩
  have behind := isBehind_positionOf lexed mended.stream_eq pieces_eq
  have among := mended.mem_map_position_signature.mpr ⟨_, listed, rfl⟩
  rw [same, mendedNext.mem_map_position_signature] at among
  rcases among with ⟨index, listedNext, position_eq⟩
  rcases mem_concerned_concatBatch_iff.mp listedNext with
    ⟨before, middle, after, next_eq, rfl, left⟩
  have further := isBehind_positionOf lexedNext mendedNext.stream_eq next_eq
  rcases later before middle after (found_eq.symm.trans next_eq) left with
    ⟨extra, some_extra, text_eq⟩
  rw [position_eq, text_eq] at further
  exact some_extra (behind.eq_nil_of_append further)

/-- A source without gaps is left alone. -/
theorem settling_of_isChain (sole : dispatcher.contexts = [context])
    (rule_eq : context.rule = .concatenationSpacing)
    (chain : (scanned.map pieceOf).IsChain fun piece next => gap piece next = 0)
    (seen : List String) (previous : Option (List Diagnostic.Signature)) :
    dispatcher.Settling seen previous (.ofLexemes (settle scanned)) 1 []
      (TokenStream.ofLexemes (settle scanned)).source := by
  have bounded := TokenStream.bounded_ofLexemes (settle scanned)
  have mended := (mends_concatenationSpacing bounded sole rule_eq).dispatch bounded
  rw [concerned_concatBatch_eq_nil_iff.mpr chain] at mended
  exact .still mended

/-- A source with gaps is passed over again with its pieces spread. -/
theorem settling_of_not_isChain {seen : List String}
    {previous : Option (List Diagnostic.Signature)} {after : TokenStream} {passes : Nat}
    {later : List Nat} {text : String} (sole : dispatcher.contexts = [context])
    (rule_eq : context.rule = .concatenationSpacing)
    (some_gap : ¬(scanned.map pieceOf).IsChain fun piece next => gap piece next = 0)
    (differs : previous ≠
      some (dispatcher.dispatch (.ofLexemes (settle scanned)) true).2.pass.signature)
    (new : String.ofList (written (spread (scanned.map pieceOf))) ∉ seen)
    (read : tokenize (String.ofList (written (spread (scanned.map pieceOf)))) = .ok after)
    (rest : dispatcher.Settling (String.ofList (written (spread (scanned.map pieceOf))) :: seen)
      (some (dispatcher.dispatch (.ofLexemes (settle scanned)) true).2.pass.signature) after passes
      later text) :
    ∃ reported, dispatcher.Settling seen previous (.ofLexemes (settle scanned)) (passes + 1)
      reported text := by
  have bounded := TokenStream.bounded_ofLexemes (settle scanned)
  have mended := (mends_concatenationSpacing bounded sole rule_eq).dispatch bounded
  have something := mt concerned_concatBatch_eq_nil_iff.mp some_gap
  rw [← contents_eq_spread sole rule_eq] at new read rest
  exact ⟨_, .moved mended something differs new read rest⟩

/-- After three passes at most, the pieces of the source are spread twice. -/
theorem exists_settling {source : String} (sole : dispatcher.contexts = [context])
    (rule_eq : context.rule = .concatenationSpacing)
    (read : tokenize source = .ok (.ofLexemes (settle scanned)))
    (lexed : lex source = .ok (settle scanned))
    (strict : Strict ((settle scanned).map Lexeme.kind)) (scans : Scans .start scanned) :
    ∃ passes reported found, passes ≤ 3 ∧
      dispatcher.Settling [source] none (.ofLexemes (settle scanned)) passes reported
        (String.ofList (written (spread (spread (scanned.map pieceOf))))) ∧
      tokenize (String.ofList (written (spread (spread (scanned.map pieceOf))))) =
        .ok (.ofLexemes (settle found)) ∧
      found.map pieceOf = spread (spread (scanned.map pieceOf)) := by
  have source_eq : source = String.ofList (written (scanned.map pieceOf)) := by
    rw [← String.toList_inj, ← spelled_lex lexed, spelled_settle, String.toList_ofList,
      written_map_pieceOf]
  have reads := scans.readsPieces
  have tags : ∀ piece ∈ scanned.map pieceOf, IsBareTag piece.text → piece.kind = .openTag :=
    fun piece member bare => reads.openTag_of_mem member bare
  have readsOnce := reads.spread ⟨rfl, rfl, rfl⟩
  have signsOnce := filterMap_signOf?_spread (scanned.map pieceOf)
  rw [map_kind_pieceOf] at signsOnce
  rcases TokenStream.exists_tokenize_of_reads strict readsOnce signsOnce with
    ⟨once, readOnce, lexedOnce, once_eq, scansOnce, strictOnce⟩
  have signsTwice := filterMap_signOf?_spread (once.map pieceOf)
  rw [once_eq, ← once_eq, map_kind_pieceOf, once_eq] at signsTwice
  rcases TokenStream.exists_tokenize_of_reads strictOnce (readsOnce.spread ⟨rfl, rfl, rfl⟩)
    signsTwice with ⟨twice, readTwice, -, twice_eq, -, -⟩
  have chainTwice : (twice.map pieceOf).IsChain fun piece next => gap piece next = 0 := by
    rw [twice_eq]
    exact isChain_spread_spread _
  by_cases chain : (scanned.map pieceOf).IsChain fun piece next => gap piece next = 0
  · have settling := settling_of_isChain sole rule_eq chain [source] none
    have same : spread (spread (scanned.map pieceOf)) = scanned.map pieceOf := by
      rw [spread_eq_self chain, spread_eq_self chain]
    rw [source_of_tokenize read, source_eq] at settling
    rw [source_eq] at read
    rw [same]
    exact ⟨1, [], scanned, by omega, source_eq ▸ settling, read, rfl⟩
  have first : (none : Option (List Diagnostic.Signature)) ≠
      some (dispatcher.dispatch (.ofLexemes (settle scanned)) true).2.pass.signature := nofun
  have grows := length_written_lt chain
  have new : String.ofList (written (spread (scanned.map pieceOf))) ∉ [source] := by
    rw [List.mem_singleton, source_eq, String.ofList_inj]
    exact fun same => absurd (congrArg List.length same) (Nat.ne_of_gt grows)
  by_cases chainOnce : (once.map pieceOf).IsChain fun piece next => gap piece next = 0
  · have last := settling_of_isChain sole rule_eq chainOnce
    rw [source_of_tokenize readOnce] at last
    have same := spread_eq_self (once_eq ▸ chainOnce)
    rw [same]
    rcases settling_of_not_isChain sole rule_eq chain first new readOnce (last _ _) with
      ⟨reported, settling⟩
    exact ⟨2, reported, once, by omega, settling, readOnce, once_eq⟩
  · have growsAgain := length_written_lt (once_eq ▸ chainOnce)
    have newAgain : String.ofList (written (spread (once.map pieceOf))) ∉
        [String.ofList (written (spread (scanned.map pieceOf))), source] := by
      rw [List.mem_pair, source_eq, String.ofList_inj, String.ofList_inj, once_eq]
      rintro (same | same)
      · exact absurd (congrArg List.length same) (Nat.ne_of_gt growsAgain)
      · exact absurd (congrArg List.length same) (Nat.ne_of_gt (Nat.lt_trans grows growsAgain))
    have differs := signature_ne sole rule_eq lexed lexedOnce once_eq tags chain
    have last := settling_of_isChain sole rule_eq chainTwice
    rw [source_of_tokenize readTwice] at last
    rcases settling_of_not_isChain sole rule_eq chainOnce
      (fun same => differs (Option.some.inj same)) newAgain (once_eq ▸ readTwice)
      (last _ _) with ⟨reported, rest⟩
    rcases settling_of_not_isChain sole rule_eq chain first new readOnce rest with
      ⟨reported, settling⟩
    exact ⟨3, reported, twice, Nat.le_refl 3, settling, readTwice, twice_eq⟩

end Run

namespace TokenStream

/-- The number of spaces that come in front of an index in all passes: an open tag without a blank
absorbs the first one. -/
def spacesWithin (stream : TokenStream) : Nat → Nat
  | 0 => 0
  | index + 1 =>
    if IsBareTag (stream.contentAt index).toList then 2 * stream.spacesAhead (index + 1)
    else stream.spacesAhead (index + 1)

theorem spaces_eq_zero {stream : TokenStream} {index : Nat}
    (other : stream.hasKind index .concat = false) :
    stream.spacesWithin index = 0 ∧ stream.spacesBehind index = 0 := by
  have behind_eq : stream.spacesBehind index = 0 := by simp [spacesBehind, other]
  have ahead_eq : stream.spacesAhead index = 0 := by simp [spacesAhead, other]
  refine ⟨?_, behind_eq⟩
  cases index with
  | zero => rfl
  | succ index => simp [spacesWithin, ahead_eq]

end TokenStream

/-- All passes together write the pieces of the source spread twice. -/
theorem padded_spacesWithin {scanned : List Lexeme}
    (reads : ReadsPieces .start (scanned.map pieceOf)) :
    (TokenStream.ofLexemes (settle scanned)).padded
        (TokenStream.ofLexemes (settle scanned)).spacesWithin
        (TokenStream.ofLexemes (settle scanned)).spacesBehind =
      String.ofList (spacedBy gapTwice (scanned.map pieceOf)) := by
  refine padded_eq_spacedBy ?_ rfl (spacesBehind_last (by omega))
  intro index piece next here there
  have sum_eq := spaces_add here there
  have here_eq := here
  rw [List.getElem?_map, Option.map_eq_some_iff] at here_eq
  rcases here_eq with ⟨lexeme, lexeme_at, rfl⟩
  have content_eq : (TokenStream.ofLexemes (settle scanned)).contentAt index = lexeme.content := by
    rcases TokenStream.exists_token_settle lexeme_at with ⟨token, token_at, -, content_eq⟩
    rw [TokenStream.contentAt, token_at, ← content_eq]
    rfl
  rw [TokenStream.spacesWithin, content_eq, gapTwice]
  by_cases bare : IsBareTag lexeme.content.toList
  · have tag : lexeme.kind = .openTag :=
      reads.openTag_of_mem (List.mem_of_getElem? here) bare
    have none_behind : (TokenStream.ofLexemes (settle scanned)).spacesBehind index = 0 := by
      rw [spacesBehind_eq here there, if_neg]
      exact fun about => by simp [pieceOf, tag] at about
    have bare_piece : IsBareTag (pieceOf lexeme).text := bare
    rw [if_pos bare, if_pos bare_piece, ← sum_eq, none_behind]
    omega
  · have plain : ¬IsBareTag (pieceOf lexeme).text := bare
    rw [if_neg bare, if_neg plain, ← sum_eq]

namespace LintSettings

/-- Fixing by the rule for concatenation ends with nothing left to report after three passes at
most. The fixed source is the source with spaces in front of and behind concatenation operators. It
can be read, there is whitespace around each of its operators, and apart from whitespace its tokens
are those of the source, where an open tag may have absorbed a space. -/
theorem lint_concatenationSpacing {source : String} {stream : TokenStream} {maxIterations : Nat}
    (allowed : 3 ≤ maxIterations) (read : tokenize source = .ok stream)
    (options : List (String × Table)) (path : String) :
    ∃ (run : FileRun) (fixed : TokenStream) (ahead behind : Nat → Nat),
      (ofOptions [.concatenationSpacing] options true maxIterations).lint path source = .ok run ∧
      run.result.state = .done ∧ run.result.converged = true ∧ run.result.passes ≤ 3 ∧
      run.result.diagnostics = [] ∧
      (∀ index, stream.hasKind index .concat = false → ahead index = 0 ∧ behind index = 0) ∧
      run.result.fixedSource = stream.padded ahead behind ∧
      tokenize run.result.fixedSource = .ok fixed ∧
      (∀ index, fixed.hasKind index .concat = true →
        fixed.hasSpaceBefore index = true ∧ fixed.hasSpaceAfter index = true) ∧
      List.Forall₂
        (fun old new : Token => new.kind = old.kind ∧ (new.content = old.content ∨
          old.kind = .openTag ∧ new.content = old.content ++ " "))
        (stream.tokens.toList.filter fun token => token.kind ≠ .whitespace)
        (fixed.tokens.toList.filter fun token => token.kind ≠ .whitespace) := by
  let dispatcher := Dispatcher.ofOptions [.concatenationSpacing] fun id =>
    (options.lookup id).getD []
  have distinct : ([Rule.concatenationSpacing].map Rule.id).Nodup := by decide
  have fixes : (ofOptions [.concatenationSpacing] options true maxIterations).fix = true := rfl
  have made : Dispatcher.ofRules [.concatenationSpacing] (.ofOptions options) = .ok dispatcher :=
    Dispatcher.ofRules_of_optionsFor distinct (Dispatcher.optionsFor_ofOptions options)
  have sole : dispatcher.contexts = [⟨.concatenationSpacing,
      (options.lookup Rule.concatenationSpacing.id).getD [], []⟩] := by
    simp [dispatcher, Dispatcher.ofOptions]
  rcases TokenStream.exists_settle_of_tokenize read with ⟨scanned, rfl, lexed, strict, scans⟩
  have reads := scans.readsPieces
  rcases exists_settling sole rfl read lexed strict scans with
    ⟨passes, reported, found, few, settling, readFixed, found_eq⟩
  rcases lint_of_settling fixes made read settling few allowed path with ⟨run, finished, settles⟩
  refine ⟨run, _, (TokenStream.ofLexemes (settle scanned)).spacesWithin,
    (TokenStream.ofLexemes (settle scanned)).spacesBehind, finished, settles.done,
    settles.converged, settles.passes_le, settles.clean, ?_, ?_,
    settles.fixedSource_eq ▸ readFixed, ?_, ?_⟩
  · exact fun index other => TokenStream.spaces_eq_zero other
  · rw [settles.fixedSource_eq, padded_spacesWithin reads, written_spread_spread]
  · have chain := isChain_spread_spread (scanned.map pieceOf)
    rw [← found_eq, ← concerned_concatBatch_eq_nil_iff] at chain
    intro index concat
    by_contra missing
    have listed : index ∈ concerned (TokenStream.ofLexemes (settle found)).concatBatch
        (TokenStream.ofLexemes (settle found)).tokens.toList := by
      rw [concerned_eq_filter (TokenStream.bounded_ofLexemes _), List.mem_filter, List.mem_range,
        decide_eq_true_eq, ne_eq, TokenStream.concatBatch_eq_nil_iff]
      exact ⟨TokenStream.lt_size_of_hasKind concat, fun spaced => missing (spaced concat)⟩
    rw [chain] at listed
    cases listed
  · have tags : ∀ piece ∈ scanned.map pieceOf, IsBareTag piece.text → piece.kind = .openTag :=
      fun piece member bare => reads.openTag_of_mem member bare
    have sprinkled := sprinkled_spread_spread tags
    rw [← found_eq] at sprinkled
    have kept := sprinkled.forall₂_settle
    rw [← TokenStream.map_lexeme_ofLexemes (settle scanned),
      ← TokenStream.map_lexeme_ofLexemes (settle found), List.filter_map, List.filter_map,
      List.forall₂_map_left_iff, List.forall₂_map_right_iff] at kept
    exact kept

/-- A tag that absorbs the space in front of an operator takes one more pass. -/
theorem lint_concatenationSpacing_tag :
    ∃ (run : FileRun) (fixed : TokenStream),
      (ofOptions [.concatenationSpacing] [] true 3).lint "a" "<?php.$x;" = .ok run ∧
      run.result.state = .done ∧ run.result.converged = true ∧ run.result.passes ≤ 3 ∧
      run.result.diagnostics = [] ∧ run.result.fixedSource = "<?php  . $x;" ∧
      tokenize run.result.fixedSource = .ok fixed ∧
      ∀ index, fixed.hasKind index .concat = true →
        fixed.hasSpaceBefore index = true ∧ fixed.hasSpaceAfter index = true := by
  have reads : (tokenize "<?php.$x;").toOption.map (fun _ => ()) = some () := by
    decide +kernel
  have outcome : ((ofOptions [.concatenationSpacing] [] true 3).lint "a"
      "<?php.$x;").toOption.map (fun run => run.result.fixedSource) =
        some "<?php  . $x;" := by decide +kernel
  rcases exists_tokenize_of_map_toOption reads with ⟨stream, read, -⟩
  rcases lint_concatenationSpacing (Nat.le_refl 3) read [] "a" with
    ⟨run, fixed, -, -, finished, done, converged, passes_le, clean, -, -, readFixed, spaced, -⟩
  rw [finished] at outcome
  exact ⟨run, fixed, finished, done, converged, passes_le, clean, Option.some.inj outcome,
    readFixed, spaced⟩

end LintSettings

end TokenLint
