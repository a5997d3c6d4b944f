import TokenLint.Proofs.Navigation.Negations
import TokenLint.Proofs.Run.Rewritten
import TokenLint.Proofs.Run.Strides
import TokenLint.Proofs.Stream.Collapsed

/-!
# Chains of negations and their short forms

The rule for chains of negations reports each chain once, where it begins, and goes on behind it. A
fixing pass puts a negation or a cast in the place of every chain. The new text has no chains, so
the next pass has nothing to report.
-/

namespace TokenLint

open Lexer Ledger

namespace TokenStream

/-- Whether some texts of the tokens are what is left of them when each chain of negations is
exchanged for a negation or a cast, together with the whitespace and the comments up to its
operand. -/
structure IsCollapsedText (stream : TokenStream) (text : Nat → String) : Prop where
  first : ∀ first count stop, stream.IsNegationChain first count stop →
    text first = if count % 2 = 0 then "(bool)" else "!"
  inside : ∀ first count stop place, stream.IsNegationChain first count stop → first < place →
    place < stop → text place = ""
  free : ∀ place, (∀ first count stop, stream.IsNegationChain first count stop →
    place < first ∨ stop ≤ place) → text place = stream.contentAt place

variable {scanned : List Lexeme} {index start : Nat} {text : Nat → String}

/-! ### Chains among pieces -/

theorem piece_at (inside : index < scanned.length) :
    (scanned.map pieceOf)[index]? = some (pieceOf scanned[index]) := by
  rw [List.getElem?_map, List.getElem?_eq_getElem inside]
  rfl

/-- The first code behind some blanks is a negation. -/
theorem firstCode_drop_eq_iff :
    firstCode ((scanned.map pieceOf).drop start) = some .booleanNot ↔
      ∃ next, start ≤ next ∧ (ofLexemes (settle scanned)).Blank start next ∧
        (ofLexemes (settle scanned)).hasKind next .booleanNot = true := by
  rw [firstCode, List.find?_eq_some_iff_getElem]
  constructor
  · rintro ⟨-, offset, inside, here, blank⟩
    rw [List.length_map, List.length_drop, List.length_map] at inside
    have there := piece_at (show start + offset < scanned.length by omega)
    refine ⟨start + offset, Nat.le_add_right _ _, ?_, ?_⟩
    · intro place after before
      have earlier := blank (place - start) (by omega)
      have there := piece_at (show place < scanned.length by omega)
      rw [kindIs_isTrivia_piece there]
      simpa [Nat.add_sub_cancel' after] using earlier
    · rw [hasKind_piece rfl there]
      simpa using here
  · rintro ⟨next, after, blank, negation⟩
    have inside := lt_size_of_hasKind negation
    rw [size_ofLexemes, length_settle] at inside
    refine ⟨rfl, next - start, by simp; omega, ?_, ?_⟩
    · have kind_eq := (hasKind_piece rfl (piece_at inside)).mp negation
      simpa [Nat.add_sub_cancel' after] using kind_eq
    · intro offset before
      have there := piece_at (show start + offset < scanned.length by omega)
      have trivia := blank (start + offset) (Nat.le_add_right _ _) (by omega)
      rw [kindIs_isTrivia_piece there] at trivia
      simpa using trivia

/-- Between pieces without chains no negation follows another one. -/
theorem not_nextNegation_of_unchained (unchained : Unchained (scanned.map pieceOf))
    (next : Nat) : ¬(ofLexemes (settle scanned)).NextNegation index next := by
  intro follows
  have inside := lt_size_of_hasKind follows.here
  rw [size_ofLexemes, length_settle] at inside
  have negation := (hasKind_piece rfl (piece_at inside)).mp follows.here
  refine unchained.not_followed (piece_at inside) negation ?_
  exact firstCode_drop_eq_iff.mpr ⟨next, follows.after, follows.blank, follows.there⟩

/-! ### The text that is left -/

/-- What is left of the tokens from an index on. -/
def leftFrom (stream : TokenStream) (text : Nat → String) (index : Nat) : List Char :=
  (List.range' index (stream.size - index)).flatMap fun place => (text place).toList

variable {stream : TokenStream} {first count stop : Nat}

theorem leftFrom_size : stream.leftFrom text stream.size = [] := by simp [leftFrom]

theorem leftFrom_cons (inside : index < stream.size) :
    stream.leftFrom text index = (text index).toList ++ stream.leftFrom text (index + 1) := by
  rw [leftFrom, show stream.size - index = stream.size - (index + 1) + 1 by omega,
    List.range'_succ, List.flatMap_cons]
  rfl

/-- What leaves no text may be left out. -/
theorem leftFrom_of_empty (after : start ≤ stop) (within : stop ≤ stream.size)
    (empty : ∀ place, start ≤ place → place < stop → text place = "") :
    stream.leftFrom text start = stream.leftFrom text stop := by
  induction count_eq : stop - start generalizing start with
  | zero => rw [show start = stop by omega]
  | succ count ih =>
      rw [leftFrom_cons (by omega), empty start (Nat.le_refl _) (by omega),
        ih (by omega) (fun place later => empty place (by omega)) (by omega)]
      rfl

/-- The tokens from an index on leave their pieces with each chain exchanged for its short form. -/
def CollapsedFrom (scanned : List Lexeme) (text : Nat → String) (index : Nat) : Prop :=
  ∃ news, Collapsed ((scanned.map pieceOf).drop index) news ∧
    written news = (ofLexemes (settle scanned)).leftFrom text index

namespace CollapsedFrom

theorem atEnd (scanned : List Lexeme) (text : Nat → String) :
    CollapsedFrom scanned text scanned.length := by
  refine ⟨[], ?_, ?_⟩
  · rw [List.drop_of_length_le (by simp)]
    exact .nil
  · have size_eq : (ofLexemes (settle scanned)).size = scanned.length := by
      rw [size_ofLexemes, length_settle]
    rw [← size_eq, leftFrom_size]
    rfl

/-- A chain leaves its short form. -/
theorem chain (collapsed : (ofLexemes (settle scanned)).IsCollapsedText text)
    (isChain : (ofLexemes (settle scanned)).IsNegationChain first count stop)
    (rest : CollapsedFrom scanned text stop) : CollapsedFrom scanned text first := by
  rcases rest with ⟨news, rest, news_eq⟩
  have negations := isChain.negations
  have after := negations.index_lt
  have within := negations.stop_le
  rw [size_ofLexemes, length_settle] at within
  have inside : first < scanned.length := Nat.lt_of_lt_of_le after within
  let run := ((scanned.map pieceOf).drop (first + 1)).take (stop - (first + 1))
  let short : Piece := if count % 2 = 0 then ⟨.boolCast, "(bool)".toList⟩ else ⟨.booleanNot, ['!']⟩
  have listed : short ∈ shortForms := by
    simp only [short, shortForms]
    split <;> simp
  have split : (scanned.map pieceOf).drop first =
      pieceOf scanned[first] :: (run ++ (scanned.map pieceOf).drop stop) := by
    rw [List.drop_eq_getElem_cons (by simpa using inside)]
    have parts := List.take_append_drop (stop - (first + 1))
      ((scanned.map pieceOf).drop (first + 1))
    rw [List.drop_drop, Nat.add_sub_cancel' after] at parts
    rw [parts, List.getElem_map]
  have negation := (hasKind_piece rfl (piece_at inside)).mp negations.negation
  refine ⟨short :: news, ?_, ?_⟩
  · rw [split]
    refine .chain negation ?_ ?_ listed rest
    · intro piece member
      rcases List.mem_iff_getElem?.mp member with ⟨offset, found⟩
      rw [List.getElem?_take, List.getElem?_drop] at found
      split at found
      · rw [goesOnChain, Bool.or_eq_true, beq_iff_eq, ← kindIs_isTrivia_piece found,
          ← hasKind_piece rfl found]
        rcases negations.between (show first < first + 1 + offset by omega) (by omega) with
          blank | ⟨_, _, follows⟩
        · exact .inl blank
        · exact .inr follows.there
      · cases found
    · intro next found
      rw [Option.mem_def, List.head?_drop] at found
      rcases negations.operand with ⟨code, other⟩
      rw [kindIs_isTrivia_piece found] at code
      rw [Bool.eq_false_iff, ne_eq, hasKind_piece rfl found] at other
      rw [goesOnChain, code, Bool.false_or]
      exact beq_eq_false_iff_ne.mpr other
  · have first_lt : first < (ofLexemes (settle scanned)).size :=
      lt_size_of_hasKind negations.negation
    rw [leftFrom_cons first_lt, collapsed.first first count stop isChain,
      leftFrom_of_empty after negations.stop_le fun place later before =>
        collapsed.inside first count stop place isChain later before, ← news_eq, written_cons]
    simp only [short]
    split <;> rfl

/-- A token in no chain is kept. -/
theorem keep (collapsed : (ofLexemes (settle scanned)).IsCollapsedText text)
    (inside : index < scanned.length)
    (free : ∀ first count stop, (ofLexemes (settle scanned)).IsNegationChain first count stop →
      index < first ∨ stop ≤ index)
    (alone : ∀ next, ¬(ofLexemes (settle scanned)).NextNegation index next)
    (rest : CollapsedFrom scanned text (index + 1)) : CollapsedFrom scanned text index := by
  rcases rest with ⟨news, rest, news_eq⟩
  have content_eq : (ofLexemes (settle scanned)).contentAt index = scanned[index].content := by
    rcases exists_token_settle (List.getElem?_eq_getElem inside) with
      ⟨token, token_at, -, content_eq⟩
    rw [contentAt, token_at, ← content_eq]
    rfl
  have index_lt : index < (ofLexemes (settle scanned)).size := by
    rwa [size_ofLexemes, length_settle]
  refine ⟨pieceOf scanned[index] :: news, ?_, ?_⟩
  · rw [List.drop_eq_getElem_cons (by simpa using inside), List.getElem_map]
    refine .keep (fun negation again => ?_) rest
    rcases firstCode_drop_eq_iff.mp again with ⟨next, after, blank, there⟩
    exact alone next ⟨after, (hasKind_piece rfl (piece_at inside)).mpr negation, there, blank⟩
  · rw [leftFrom_cons index_lt, collapsed.free index free, content_eq, ← news_eq]
    rfl

end CollapsedFrom

/-- From every token on that stands inside no chain, the chains leave their short forms. -/
theorem collapsedFrom (collapsed : (ofLexemes (settle scanned)).IsCollapsedText text)
    (within : index ≤ scanned.length)
    (outside : ∀ first count stop, (ofLexemes (settle scanned)).IsNegationChain first count stop →
      ¬(first < index ∧ index < stop)) : CollapsedFrom scanned text index := by
  induction left : scanned.length - index using Nat.strong_induction_on generalizing index with
  | _ left ih =>
      rcases Nat.eq_or_lt_of_le within with rfl | inside
      · exact .atEnd scanned text
      by_cases begins : ∃ count stop,
        (ofLexemes (settle scanned)).IsNegationChain index count stop
      · rcases begins with ⟨count, stop, isChain⟩
        have after := isChain.negations.index_lt
        have stop_le := isChain.negations.stop_le
        rw [size_ofLexemes, length_settle] at stop_le
        refine .chain collapsed isChain (ih _ (by omega) stop_le ?_ rfl)
        -- The operand of a chain stands inside no other one.
        rintro other otherCount otherStop otherChain ⟨before, behind⟩
        have operand := isChain.negations.operand
        rcases otherChain.negations.between before behind with trivia | ⟨_, _, follows⟩
        · rw [operand.1] at trivia
          cases trivia
        · have negation := follows.there
          rw [operand.2] at negation
          cases negation
      · have free : ∀ first count stop,
            (ofLexemes (settle scanned)).IsNegationChain first count stop →
              index < first ∨ stop ≤ index := by
          intro first count stop isChain
          rcases Nat.lt_trichotomy index first with before | rfl | behind
          · exact .inl before
          · exact absurd ⟨count, stop, isChain⟩ begins
          · exact .inr (Nat.le_of_not_lt fun inside =>
              outside first count stop isChain ⟨behind, inside⟩)
        refine .keep collapsed inside free ?_ (ih _ (by omega) inside ?_ rfl)
        · intro next follows
          rcases exists_chain follows with ⟨first, count, stop, isChain, from_first, before⟩
          have apart := free first count stop isChain
          omega
        · rintro first count stop isChain ⟨before, behind⟩
          have apart := free first count stop isChain
          omega

/-! ### The batches of the rule -/

/-- The edits for an index: those that exchange the chain that begins there. -/
def negationBatch (stream : TokenStream) (index : Nat) : List Edit :=
  if stream.leadsNegations index && 1 < (stream.notChain index).count then
    (stream.notChain index).edits index
  else []

variable {edit : Edit}

theorem IsNegationChain.negationBatch_eq (isChain : stream.IsNegationChain first count stop) :
    stream.negationBatch first = (⟨count, stop⟩ : NotChain).edits first := by
  rcases isNegationChain_iff.mp isChain with ⟨leads, several, chain_eq⟩
  rw [negationBatch, leadsNegations_iff.mpr leads, chain_eq, Bool.true_and, if_pos]
  exact decide_eq_true several

theorem isNegationChain_of_mem (member : edit ∈ stream.negationBatch index) :
    stream.IsNegationChain index (stream.notChain index).count (stream.notChain index).stop := by
  rw [negationBatch] at member
  split at member
  · rename_i begins
    rw [Bool.and_eq_true, leadsNegations_iff, decide_eq_true_eq] at begins
    exact isNegationChain_iff.mpr ⟨begins.1, begins.2, rfl⟩
  · cases member

theorem negationBatch_ne_nil_iff :
    stream.negationBatch index ≠ [] ↔ ∃ count stop, stream.IsNegationChain index count stop := by
  constructor
  · intro something
    rcases List.exists_mem_of_ne_nil _ something with ⟨edit, member⟩
    exact ⟨_, _, isNegationChain_of_mem member⟩
  · rintro ⟨count, stop, isChain⟩
    rw [isChain.negationBatch_eq]
    simp [NotChain.edits]

/-- What a chain is exchanged by touches its tokens up to the operand. -/
theorem between_of_mem_negationBatch (member : edit ∈ stream.negationBatch index) :
    index ≤ edit.index ∧ edit.index < (stream.notChain index).stop := by
  have isChain := isNegationChain_of_mem member
  have after := isChain.negations.index_lt
  rw [isChain.negationBatch_eq, NotChain.edits, Rule.removals, List.mem_append] at member
  rcases member with removed | replaced
  · rcases List.mem_map.mp removed with ⟨place, within, rfl⟩
    have within : index + 1 ≤ place ∧
        place < index + 1 + ((stream.notChain index).stop - (index + 1)) :=
      List.mem_range'_1.mp within
    exact ⟨show index ≤ place by omega, show place < (stream.notChain index).stop by omega⟩
  · rw [List.mem_singleton.mp replaced]
    exact ⟨Nat.le_refl _, after⟩

/-- What is done to a place of a chain. -/
theorem editsAt_negationBatch (isChain : stream.IsNegationChain first count stop) (place : Nat) :
    editsAt (stream.negationBatch first) place =
      (if first + 1 ≤ place ∧ place < stop then [Rule.removal place] else []) ++
        if first = place then [⟨.replace, first, (⟨count, stop⟩ : NotChain).shortForm⟩]
        else [] := by
  rw [isChain.negationBatch_eq, NotChain.edits, editsAt_append, editsAt_removals]
  congr 1
  by_cases here : first = place <;> simp [editsAt, here]

theorem separates_negationBatch (stream : TokenStream) :
    stream.Separates stream.negationBatch where
  covers token _ edit made :=
    Nat.lt_of_lt_of_le (between_of_mem_negationBatch made).2
      (isNegationChain_of_mem made).negations.stop_le
  apart index _ other _ differs edit made otherEdit madeToo same := by
    have chain := isNegationChain_of_mem made
    have otherChain := isNegationChain_of_mem madeToo
    have within := between_of_mem_negationBatch made
    have withinToo := between_of_mem_negationBatch madeToo
    rw [same] at within
    exact differs (index_eq_of_between ⟨chain.negations.negation, chain.leads⟩ chain.negations
      ⟨otherChain.negations.negation, otherChain.leads⟩ otherChain.negations within.1 within.2
      withinToo.1 withinToo.2)

/-- A pass that makes all batches leaves the short forms of the chains. -/
theorem isCollapsedText_of_mended (bounded : stream.Bounded) {pass : Pass} {reported : List Nat}
    (mended : pass.Mended stream reported (allEdits stream.negationBatch stream.tokens.toList)) :
    stream.IsCollapsedText fun index =>
      ((stream.token? index).map pass.ledger.tokenText).getD "" := by
  have separates := separates_negationBatch stream
  -- What is done to a token of a chain is decided by the batch of this chain.
  have patched : ∀ {first count stop place}, stream.IsNegationChain first count stop →
      first ≤ place → place < stop → ∃ token, stream.token? place = some token ∧
        token.index = place ∧ pass.ledger.patch? place =
          (editsAt (stream.negationBatch first) place).foldl enter none := by
    intro first count stop place isChain after before
    have inside := Nat.lt_of_lt_of_le before isChain.negations.stop_le
    rcases exists_token?_of_lt inside with ⟨token, here⟩
    rcases exists_token?_of_lt (lt_size_of_hasKind isChain.negations.negation) with
      ⟨leader, leader_at⟩
    have leader_eq := bounded.index_eq leader_at
    have member := List.mem_of_getElem? (Array.getElem?_toList.trans leader_at)
    refine ⟨token, here, bounded.index_eq here, ?_⟩
    rw [← leader_eq]
    refine mended.patch?_of_touched separates bounded member inside ?_
    rw [leader_eq, editsAt_negationBatch isChain]
    rcases Nat.eq_or_lt_of_le after with same | later
    · simp [same]
    · rw [if_pos ⟨later, before⟩]
      exact List.append_ne_nil_of_left_ne_nil (List.cons_ne_nil _ _) _
  constructor
  · intro first count stop isChain
    rcases patched isChain (Nat.le_refl _) isChain.negations.index_lt with
      ⟨token, here, index_eq, patch_eq⟩
    rw [editsAt_negationBatch isChain, if_neg (by omega), if_pos rfl] at patch_eq
    simp [here, tokenText, index_eq, patch_eq, enter, Patch.add, Patch.empty, Patch.render,
      NotChain.shortForm]
  · intro first count stop place isChain after before
    rcases patched isChain (Nat.le_of_lt after) before with ⟨token, here, index_eq, patch_eq⟩
    rw [editsAt_negationBatch isChain, if_pos ⟨after, before⟩, if_neg (Nat.ne_of_lt after)]
      at patch_eq
    simp [here, tokenText, index_eq, patch_eq, enter, Patch.add, Patch.empty, Patch.render,
      Rule.removal]
  · intro place free
    cases here : stream.token? place with
    | none => simp [contentAt, here]
    | some token =>
        have index_eq := bounded.index_eq here
        have untouched : pass.ledger.patch? place = none := by
          refine mended.patch?_of_untouched (lt_size_of_token? here) fun other _ => ?_
          rw [editsAt, List.filter_eq_nil_iff]
          intro edit made same
          have within := between_of_mem_negationBatch made
          have apart := free _ _ _ (isNegationChain_of_mem made)
          rw [of_decide_eq_true same] at within
          omega
        simp [contentAt, here, tokenText, index_eq, untouched]

end TokenStream

/-! ### Passes of the rule -/

/-- The report about a chain of negations. -/
def negationReport (index : Nat) : Report :=
  Rule.fixableErrorAt index "NotAllowed" "Nested not operator detected." []

section Pass

variable {stream : TokenStream} {dispatcher : Dispatcher} {context : RuleContext}

/-- The rule is called where negations begin, and goes on at their operand. -/
theorem strides_notChain (bounded : stream.Bounded) :
    Rule.notChain.Strides stream stream.LeadsNegations (fun index => (stream.notChain index).stop)
      negationReport stream.negationBatch where
  wanted token member leads := by
    rw [(TokenStream.hasKind_index bounded member .booleanNot).mp leads.1]
    rfl
  after index leads := (TokenStream.negationsFrom_notChain leads.1).index_lt
  apart index other leads otherLeads before :=
    (TokenStream.negationsFrom_notChain leads.1).stop_le_of_leads otherLeads before
  covered token member interested other := by
    have negation := (TokenStream.hasKind_index bounded member .booleanNot).mpr
      (eq_of_contains_singleton interested)
    rw [TokenStream.LeadsNegations, not_and, not_forall_not] at other
    rcases other negation with ⟨before, follows⟩
    rcases TokenStream.exists_leading follows with
      ⟨first, count, stop, leads, negations, first_lt, lt_stop⟩
    refine ⟨first, first_lt, leads, ?_⟩
    rwa [negations.notChain_eq]
  quiet index other := by
    rw [TokenStream.negationBatch, if_neg]
    rw [Bool.and_eq_true, TokenStream.leadsNegations_iff]
    exact fun leads => other leads.1
  said index leads options := by
    rw [TokenStream.negationBatch, TokenStream.leadsNegations_iff.mpr leads, Bool.true_and]
    by_cases several : 1 < (stream.notChain index).count
    · refine .inr ⟨by simp [several, NotChain.edits], ?_⟩
      simp only [Rule.notChain, if_neg (Nat.not_le.mpr several), decide_eq_true several, if_true]
      rfl
    · refine .inl ⟨by simp [several], ?_⟩
      simp only [Rule.notChain, if_pos (Nat.le_of_not_lt several)]
  about index := rfl
  fixable index := rfl
  renders index := Report.renders_of_nil rfl

theorem concerned_negationBatch_eq_nil
    (alone : ∀ index next, ¬stream.NextNegation index next) :
    concerned stream.negationBatch stream.tokens.toList = [] := by
  rw [List.eq_nil_iff_forall_not_mem]
  intro index listed
  rcases TokenStream.negationBatch_ne_nil_iff.mp (mem_concerned_iff.mp listed).1 with
    ⟨count, stop, several, negations, -⟩
  cases negations with
  | last => exact absurd several (by decide)
  | next follows => exact alone _ _ follows

theorem mem_concerned_negationBatch_iff (bounded : stream.Bounded) {index : Nat} :
    index ∈ concerned stream.negationBatch stream.tokens.toList ↔
      ∃ count stop, stream.IsNegationChain index count stop := by
  rw [concerned_eq_filter bounded, List.mem_filter, List.mem_range, decide_eq_true_eq,
    TokenStream.negationBatch_ne_nil_iff, and_iff_right_iff_imp]
  rintro ⟨count, stop, isChain⟩
  exact TokenStream.lt_size_of_hasKind isChain.negations.negation

/-- What a pass of the rule writes is what the chains leave. -/
theorem contents_eq_join (bounded : stream.Bounded) {pass : Pass} {reported : List Nat}
    {edits : List Edit} (mended : pass.Mended stream reported edits) :
    pass.contents = String.join (stream.tokens.toList.map fun token =>
      ((stream.token? token.index).map pass.ledger.tokenText).getD "") := by
  rw [Pass.contents, mended.stream_eq, Ledger.contents]
  refine congrArg String.join (List.map_congr_left fun token member => ?_)
  rw [bounded.token?_of_mem member]
  rfl

theorem toList_join_eq_leftFrom (bounded : stream.Bounded) (text : Nat → String) :
    (String.join (stream.tokens.toList.map fun token => text token.index)).toList =
      stream.leftFrom text 0 := by
  have indexed : (stream.tokens.toList.map fun token => text token.index) =
      (List.range stream.size).map text := by
    rw [← bounded.map_index, List.map_map]
    rfl
  rw [indexed, String.toList_join, TokenStream.leftFrom, Nat.sub_zero, List.flatMap_map,
    List.range_eq_range']

/-- The text that the chains of a source leave can be read, and has no chains. -/
theorem exists_tokenize_of_isCollapsedText {source : String} {text : Nat → String}
    (read : tokenize source = .ok stream) (collapsed : stream.IsCollapsedText text) :
    ∃ fixed, tokenize (String.join (stream.tokens.toList.map fun token => text token.index)) =
      .ok fixed ∧ ∀ index next, ¬fixed.NextNegation index next := by
  have bounded := TokenStream.bounded_of_tokenize read
  rcases TokenStream.exists_settle_of_tokenize read with ⟨scanned, rfl, -, strict, scans⟩
  rcases TokenStream.collapsedFrom collapsed (Nat.zero_le _) (fun _ _ _ _ inside =>
    absurd inside.1 (Nat.not_lt_zero _)) with ⟨news, exchanged, news_eq⟩
  rw [List.drop_zero] at exchanged
  rcases exchanged.rereadFrom scans.readsPieces with ⟨pieces, reread, reads⟩
  have signs := reread.signs
  rw [map_kind_pieceOf] at signs
  rcases TokenStream.exists_tokenize_of_reads strict (reads .start ⟨rfl, rfl, rfl⟩) signs with
    ⟨found, readAgain, -, found_eq, -, -⟩
  have text_eq : String.ofList (written pieces) =
      String.join ((TokenStream.ofLexemes (settle scanned)).tokens.toList.map fun token =>
        text token.index) := by
    rw [← String.toList_inj, String.toList_ofList, toList_join_eq_leftFrom bounded,
      reread.written_eq, news_eq]
  rw [text_eq] at readAgain
  refine ⟨_, readAgain, fun index next => ?_⟩
  exact TokenStream.not_nextNegation_of_unchained (found_eq ▸ reread.unchained) next

end Pass

namespace LintSettings

variable {source : String} {stream : TokenStream}

/-- A check with the rule for chains of negations finds one problem for each chain, at its first
negation. -/
theorem exists_findings_notChain (read : tokenize source = .ok stream)
    (options : List (String × Table)) (maxIterations : Nat) (path : String) :
    ∃ found, (checking [.notChain] options maxIterations).findings path source = .ok found ∧
      (∀ diagnostic ∈ found, diagnostic.code = "nested_not_operator_usage.NotAllowed" ∧
        ∃ first count stop, stream.IsNegationChain first count stop ∧
          diagnostic.tokenIndex = (first : Int)) ∧
      ∀ first count stop, stream.IsNegationChain first count stop →
        (found.countP fun diagnostic => diagnostic.tokenIndex = (first : Int)) = 1 := by
  have bounded := TokenStream.bounded_of_tokenize read
  have known : Rule.notChain.BuiltinOrFailing := ⟨.notChain, by simp [Rule.builtin], .refl _⟩
  rcases (strides_notChain bounded).exists_findings known read options maxIterations path with
    ⟨found, found_eq, perm⟩
  refine ⟨found, found_eq, ?_, ?_⟩
  · intro diagnostic member
    have listed := perm.mem_iff.mp (List.mem_map_of_mem member)
    rcases List.mem_map.mp listed with ⟨index, concerned, same⟩
    rcases (mem_concerned_negationBatch_iff bounded).mp concerned with ⟨count, stop, isChain⟩
    rw [Prod.mk.injEq] at same
    exact ⟨same.1.symm, index, count, stop, isChain, same.2.symm⟩
  · intro first count stop isChain
    have listed := (mem_concerned_negationBatch_iff bounded).mpr ⟨count, stop, isChain⟩
    have counted := (perm.map Prod.snd).countP_eq fun index => index = (first : Int)
    rw [List.map_map, List.map_map, List.countP_map, List.countP_map] at counted
    have at_first : (concerned stream.negationBatch stream.tokens.toList).countP
        (fun index => index = first) = 1 :=
      List.count_eq_one_of_mem (nodup_concerned bounded _) listed
    rw [← at_first]
    refine counted.trans (List.countP_congr fun index _ => ?_)
    simp only [Function.comp_apply, decide_eq_true_eq, Int.ofNat_inj]

/-- Both in a check and where it fixes, the rule for chains of negations deals with every chain. A
check finds one problem for each chain, at its first negation. Fixing ends with nothing left to
report after two passes at most, of which the first one exchanges all chains for their short forms.
No negation of the fixed source follows another one. -/
theorem lint_notChain (read : tokenize source = .ok stream) (options : List (String × Table))
    (path : String) :
    (∀ maxIterations, ∃ found,
      (checking [.notChain] options maxIterations).findings path source = .ok found ∧
      (∀ diagnostic ∈ found, diagnostic.code = "nested_not_operator_usage.NotAllowed" ∧
        ∃ first count stop, stream.IsNegationChain first count stop ∧
          diagnostic.tokenIndex = (first : Int)) ∧
      ∀ first count stop, stream.IsNegationChain first count stop →
        (found.countP fun diagnostic => diagnostic.tokenIndex = (first : Int)) = 1) ∧
    ∀ maxIterations, 2 ≤ maxIterations →
      ∃ (run : FileRun) (text : Nat → String) (fixed : TokenStream),
        (ofOptions [.notChain] options true maxIterations).lint path source = .ok run ∧
        run.result.state = .done ∧ run.result.converged = true ∧ run.result.passes ≤ 2 ∧
        run.result.diagnostics = [] ∧ stream.IsCollapsedText text ∧
        run.result.fixedSource =
          String.join (stream.tokens.toList.map fun token => text token.index) ∧
        (∃ record later, run.records = record :: later ∧
          record.output = run.result.fixedSource) ∧
        tokenize run.result.fixedSource = .ok fixed ∧
        ∀ index next, ¬fixed.NextNegation index next := by
  refine ⟨fun maxIterations => exists_findings_notChain read options maxIterations path, ?_⟩
  intro maxIterations allowed
  let dispatcher := Dispatcher.ofOptions [.notChain] fun id => (options.lookup id).getD []
  have distinct : ([Rule.notChain].map Rule.id).Nodup := by decide
  have fixes : (ofOptions [.notChain] options true maxIterations).fix = true := rfl
  have made : Dispatcher.ofRules [.notChain] (.ofOptions options) = .ok dispatcher :=
    Dispatcher.ofRules_of_optionsFor distinct (Dispatcher.optionsFor_ofOptions options)
  have sole : dispatcher.contexts =
      [⟨.notChain, (options.lookup Rule.notChain.id).getD [], []⟩] := by
    simp [dispatcher, Dispatcher.ofOptions]
  have mends : ∀ {stream : TokenStream}, stream.Bounded →
      (dispatcher.dispatch stream true).2.pass.Mended stream
        (concerned stream.negationBatch stream.tokens.toList)
        (allEdits stream.negationBatch stream.tokens.toList) := fun bounded =>
    (strides_notChain bounded).dispatch (TokenStream.separates_negationBatch _) bounded sole rfl
  have bounded := TokenStream.bounded_of_tokenize read
  have mended := mends bounded
  have collapsed := TokenStream.isCollapsedText_of_mended bounded mended
  have contents_eq := contents_eq_join bounded mended
  rcases exists_tokenize_of_isCollapsedText read collapsed with ⟨fixed, readAgain, alone⟩
  rw [← contents_eq] at readAgain
  have still := mends (TokenStream.bounded_of_tokenize readAgain)
  rw [concerned_negationBatch_eq_nil alone] at still
  have moves : concerned stream.negationBatch stream.tokens.toList ≠ [] →
      (dispatcher.dispatch stream true).2.pass.contents ≠ source := by
    intro something same
    rw [same, read] at readAgain
    cases readAgain
    exact something (concerned_negationBatch_eq_nil alone)
  rcases lint_of_mended fixes allowed made read mended readAgain still moves path with
    ⟨run, finished, settles⟩
  rcases exists_records_lint fixes made read finished with ⟨later, records_eq⟩
  refine ⟨run, _, fixed, finished, settles.done, settles.converged, settles.passes_le,
    settles.clean, collapsed, settles.fixedSource_eq.trans contents_eq,
    ⟨_, later, records_eq, settles.fixedSource_eq.symm⟩, settles.fixedSource_eq ▸ readAgain, alone⟩

/-- Two negations with a comment between them become a cast in the first pass. -/
theorem lint_notChain_comment :
    ∃ (stream : TokenStream) (found : List Diagnostic) (run : FileRun) (fixed : TokenStream),
      tokenize "<?php ! /* a */ !$x;" = .ok stream ∧ stream.IsNegationChain 1 2 6 ∧
      (checking [.notChain] [] 2).findings "a" "<?php ! /* a */ !$x;" = .ok found ∧
      (found.countP fun diagnostic => diagnostic.tokenIndex = ((1 : Nat) : Int)) = 1 ∧
      (ofOptions [.notChain] [] true 2).lint "a" "<?php ! /* a */ !$x;" = .ok run ∧
      run.result.state = .done ∧ run.result.converged = true ∧ run.result.passes ≤ 2 ∧
      run.result.diagnostics = [] ∧ run.result.fixedSource = "<?php (bool)$x;" ∧
      tokenize run.result.fixedSource = .ok fixed ∧
      ∀ index next, ¬fixed.NextNegation index next := by
  have reads : (tokenize "<?php ! /* a */ !$x;").toOption.map (fun stream =>
      (stream.leadsNegations 1, stream.notChain 1)) = some (true, ⟨2, 6⟩) := by decide +kernel
  have outcome : ((ofOptions [.notChain] [] true 2).lint "a"
      "<?php ! /* a */ !$x;").toOption.map (fun run => run.result.fixedSource) =
        some "<?php (bool)$x;" := by decide +kernel
  rcases exists_tokenize_of_map_toOption reads with ⟨stream, read, seen⟩
  rw [Prod.mk.injEq] at seen
  have isChain : stream.IsNegationChain 1 2 6 :=
    TokenStream.isNegationChain_iff.mpr
      ⟨TokenStream.leadsNegations_iff.mp seen.1, Nat.le_refl 2, seen.2⟩
  rcases lint_notChain read [] "a" with ⟨checks, fixes⟩
  rcases checks 2 with ⟨found, found_eq, -, once⟩
  rcases fixes 2 (Nat.le_refl 2) with
    ⟨run, text, fixed, finished, done, converged, passes_le, clean, -, -, -, readFixed, alone⟩
  rw [finished] at outcome
  exact ⟨stream, found, run, fixed, read, isChain, found_eq, once 1 2 6 isChain, finished, done,
    converged, passes_le, clean, Option.some.inj outcome, readFixed, alone⟩

end LintSettings

end TokenLint
