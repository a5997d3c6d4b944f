import TokenLint.Proofs.Lexer.Lossless

/-!
# Indexes inside a stream

Every index that a stream's annotations name is an index of the stream: each token knows
its own place, and its partner and the parentheses it controls are tokens as well.
-/

namespace TokenLint

/-- A pair that a scan of brackets reports ends within the kinds scanned and begins before its
end. -/
theorem bounds_of_mem_matchBracketsFrom {stack : List (Nat × BracketShape)} {index : Nat}
    {kinds : List TokenKind} {pair : BracketPair}
    (open_lt : ∀ entry ∈ stack, entry.1 < index)
    (member : pair ∈ (matchBracketsFrom stack index kinds).pairs) :
    pair.opener < pair.closer ∧ pair.closer < index + kinds.length := by
  fun_induction matchBracketsFrom stack index kinds with
  | case1 => simp at member
  | case2 stack index kind rest shape opens ih =>
      have later : ∀ entry ∈ (index, shape) :: stack, entry.1 < index + 1 := by
        intro entry among
        rcases List.mem_cons.mp among with rfl | among
        · exact Nat.lt_succ_self index
        · exact Nat.lt_succ_of_lt (open_lt entry among)
      have bounds := ih later member
      simp only [List.length_cons]
      omega
  | case3 index kind rest opener shape outer notOpens closes ih =>
      have outer_lt : ∀ entry ∈ outer, entry.1 < index + 1 := fun entry among =>
        Nat.lt_succ_of_lt (open_lt entry (List.mem_cons_of_mem _ among))
      have opener_lt : opener < index := open_lt (opener, shape) (List.mem_cons_self ..)
      simp only [List.length_cons]
      rcases List.mem_cons.mp member with rfl | member
      · exact ⟨opener_lt, by dsimp only; omega⟩
      · have bounds := ih outer_lt member
        omega
  | case4 index kind rest shape opener innermost outer closes notOpens differ ih =>
      have bounds := ih (fun entry among => Nat.lt_succ_of_lt (open_lt entry among)) member
      simp only [List.length_cons]
      omega
  | case5 index kind rest shape closes notOpens ih =>
      have bounds := ih (by simp) member
      simp only [List.length_cons]
      omega
  | case6 stack index kind rest notCloses notOpens ih =>
      have bounds := ih (fun entry among => Nat.lt_succ_of_lt (open_lt entry among)) member
      simp only [List.length_cons]
      omega

namespace PartnerTable

/-- Whether all partners lie below an index. -/
def Below (size : Nat) (table : PartnerTable) : Prop :=
  ∀ index partner, table.partner? index = some partner → partner < size

theorem below_insert {size : Nat} {table : PartnerTable} {pair : BracketPair}
    (below : table.Below size) (opener_lt : pair.opener < size) (closer_lt : pair.closer < size) :
    (table.insert pair).Below size := by
  intro index partner found
  have kept := below index partner
  simp only [partner?, insert, Array.getD_eq_getD_getElem?, Array.getElem?_setIfInBounds]
    at found kept
  split at found
  · split at found
    · simp only [Option.getD_some, Option.some.injEq] at found
      omega
    · simp at found
  · split at found
    · split at found
      · simp only [Option.getD_some, Option.some.injEq] at found
        omega
      · simp at found
    · exact kept found

/-- All partners in the table of some kinds are indexes of these kinds. -/
theorem below_ofKinds (kinds : List TokenKind) : (ofKinds kinds).Below kinds.length := by
  have entered : ∀ (pairs : List BracketPair) (table : PartnerTable), table.Below kinds.length →
      (∀ pair ∈ pairs, pair.opener < pair.closer ∧ pair.closer < kinds.length) →
        (pairs.foldl insert table).Below kinds.length := by
    intro pairs
    induction pairs with
    | nil =>
        intro table below _
        exact below
    | cons pair rest ih =>
        intro table below bounds
        have first := bounds pair (List.mem_cons_self ..)
        exact ih _ (below_insert below (by omega) first.2) fun other among =>
          bounds other (List.mem_cons_of_mem _ among)
  apply entered
  · intro index partner found
    simp only [partner?, Array.getD_eq_getD_getElem?, Array.getElem?_replicate] at found
    split at found <;> simp at found
  · intro pair member
    have bounds := bounds_of_mem_matchBracketsFrom (by simp) member
    exact ⟨bounds.1, by omega⟩

end PartnerTable

namespace TokenStream

/-- What holds of the indexes that a stream's annotations name: each token knows its own place, and
the brackets it refers to are tokens as well. -/
structure Bounded (stream : TokenStream) : Prop where
  index_eq : ∀ {index token}, stream.token? index = some token → token.index = index
  partner_lt : ∀ {index partner}, stream.partner? index = some partner → partner < stream.size
  parenthesis_lt : ∀ {index token pair}, stream.token? index = some token →
    token.parenthesis = some pair → pair.opener < stream.size ∧ pair.closer < stream.size

theorem lt_size_of_token? {stream : TokenStream} {index : Nat} {token : Token}
    (found : stream.token? index = some token) : index < stream.size :=
  (Array.getElem?_eq_some_iff.mp found).1

theorem exists_token?_of_lt {stream : TokenStream} {index : Nat} (inside : index < stream.size) :
    ∃ token, stream.token? index = some token :=
  ⟨_, Array.getElem?_eq_getElem inside⟩

theorem lt_size_of_hasKind {stream : TokenStream} {index : Nat} {kind : TokenKind}
    (has : stream.hasKind index kind = true) : index < stream.size := by
  simp only [hasKind, beq_iff_eq, kind?, Option.map_eq_some_iff] at has
  rcases has with ⟨token, found, -⟩
  exact lt_size_of_token? found

theorem Bounded.token?_of_mem {stream : TokenStream} (bounded : stream.Bounded) {token : Token}
    (member : token ∈ stream.tokens.toList) : stream.token? token.index = some token := by
  rcases List.mem_iff_getElem?.mp member with ⟨index, found⟩
  have here : stream.token? index = some token := by
    rw [token?, ← Array.getElem?_toList]
    exact found
  rw [bounded.index_eq here]
  exact here

theorem Bounded.index_lt {stream : TokenStream} (bounded : stream.Bounded) {token : Token}
    (member : token ∈ stream.tokens.toList) : token.index < stream.size :=
  lt_size_of_token? (bounded.token?_of_mem member)

theorem Bounded.pairwise_index {stream : TokenStream} (bounded : stream.Bounded) :
    stream.tokens.toList.Pairwise fun first second => first.index < second.index := by
  have index_eq : ∀ index (here : index < stream.tokens.toList.length),
      stream.tokens.toList[index].index = index := by
    intro index here
    apply bounded.index_eq
    rw [token?, ← Array.getElem?_toList]
    exact List.getElem?_eq_getElem here
  refine List.pairwise_iff_getElem.mpr ?_
  intro first second first_lt second_lt less
  rw [index_eq, index_eq]
  exact less

@[simp]
theorem size_ofLexemes (lexemes : List Lexeme) : (ofLexemes lexemes).size = lexemes.length := by
  simp [size, ofLexemes]

theorem bounded_ofLexemes (lexemes : List Lexeme) : (ofLexemes lexemes).Bounded := by
  have partners := PartnerTable.below_ofKinds (lexemes.map Lexeme.kind)
  rw [List.length_map] at partners
  have inside : ∀ {index token}, (ofLexemes lexemes).token? index = some token →
      token.index = index ∧
        token.partner = (PartnerTable.ofKinds (lexemes.map Lexeme.kind)).partner? index ∧
        token.parenthesis = ownedParenthesis? (lexemes.map Lexeme.kind).toArray
          (PartnerTable.ofKinds (lexemes.map Lexeme.kind)) index := by
    intro index token found
    simp only [token?, ofLexemes, List.getElem?_toArray, List.getElem?_mapIdx,
      Option.map_eq_some_iff] at found
    rcases found with ⟨lexeme, -, rfl⟩
    exact ⟨rfl, rfl, rfl⟩
  refine ⟨fun found => (inside found).1, ?_, ?_⟩
  · intro index partner found
    simp only [partner?, Option.bind_eq_some_iff] at found
    rcases found with ⟨token, found, matched⟩
    rw [(inside found).2.1] at matched
    rw [size_ofLexemes]
    exact partners index partner matched
  · intro index token pair found owned
    rw [(inside found).2.2, ownedParenthesis?] at owned
    split at owned
    · simp only [Option.bind_eq_some_iff] at owned
      rcases owned with ⟨opener, -, owned⟩
      split at owned
      · rename_i opens
        simp only [Option.map_eq_some_iff] at owned
        rcases owned with ⟨closer, matched, rfl⟩
        have opener_lt : opener < (lexemes.map Lexeme.kind).toArray.size := by
          simp only [TokenLint.hasKind, beq_iff_eq] at opens
          exact (Array.getElem?_eq_some_iff.mp opens).1
        rw [size_ofLexemes]
        exact ⟨by simpa using opener_lt, partners opener closer matched⟩
      · cases owned
    · cases owned

theorem bounded_of_tokenize {source : String} {stream : TokenStream}
    (read : tokenize source = .ok stream) : stream.Bounded := by
  rcases exists_lex_of_tokenize read with ⟨lexemes, -, rfl⟩
  exact bounded_ofLexemes lexemes

end TokenStream

end TokenLint
