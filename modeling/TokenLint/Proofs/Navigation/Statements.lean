import TokenLint.Proofs.Navigation.TernaryExtent

/-!
# Statement bounds

The search back for the start of a statement and the search on for its end are two scans with
boundaries of their own. Both walk along the level of the token they set out from, and whatever the
first passes, the second passes too. So from the start of a statement the scans come to the same two
bounds as from any of its tokens, and only a bracket without a partner leaves a bound undefined.
-/

namespace TokenLint

open Lexer

namespace TokenStream

section Scans

variable {stream : TokenStream} {first last start other index stop mark : Nat} {token : Token}

/-- Whether only whitespace and comments stand from `index` on and in front of `stop`. -/
def Blank (stream : TokenStream) (index stop : Nat) : Prop :=
  ∀ place, index ≤ place → place < stop → stream.kindIs place TokenKind.isTrivia = true

theorem exists_token_of_kindIs {inClass : TokenKind → Bool}
    (isKind : stream.kindIs index inClass = true) :
    ∃ token, stream.token? index = some token ∧ inClass token.kind = true := by
  simp only [kindIs, kind?, Option.any_map, Option.any_eq_true] at isKind
  exact isKind

theorem plain_of_isTrivia {kind : TokenKind} (trivia : kind.isTrivia = true) :
    kind.isOpener = false ∧ kind.isCloser = false ∧ startsStatement kind = false := by
  cases kind <;> first | exact ⟨rfl, rfl, rfl⟩ | cases trivia

theorem plain_of_isStatementTerminator {kind : TokenKind}
    (stops : kind.isStatementTerminator = true) : kind.opens? = none ∧ kind.closes? = none := by
  cases kind <;> first | exact ⟨rfl, rfl⟩ | cases stops

theorem statementStartFrom?_of_blank (after : index ≤ stop) (blank : stream.Blank index stop) :
    stream.statementStartFrom? first stop = stream.statementStartFrom? first index := by
  induction stop, after using Nat.le_induction with
  | base => rfl
  | succ stop after ih =>
      rcases exists_token_of_kindIs (blank stop after (Nat.lt_succ_self stop)) with
        ⟨token, here, trivia⟩
      rcases plain_of_isTrivia trivia with ⟨notOpens, notCloses, goesOn⟩
      rw [statementStartFrom?]
      simp only [here, notCloses, notOpens, goesOn, Token.isTrivia, trivia, if_true,
        Bool.or_self, Bool.false_eq_true, if_false]
      exact ih fun place after before => blank place after (Nat.lt_succ_of_lt before)

theorem statementEndFrom?_of_blank (after : index ≤ stop) (blank : stream.Blank index stop) :
    stream.statementEndFrom? start last index = stream.statementEndFrom? start last stop := by
  induction stop, after using Nat.le_induction with
  | base => rfl
  | succ stop after ih =>
      rw [ih fun place after before => blank place after (Nat.lt_succ_of_lt before)]
      rcases exists_token_of_kindIs (blank stop after (Nat.lt_succ_self stop)) with
        ⟨token, here, trivia⟩
      rcases plain_of_isTrivia trivia with ⟨notOpens, notCloses, goesOn⟩
      simp only [startsStatement, Bool.or_eq_false_iff] at goesOn
      rw [statementEndFrom?, if_pos (lt_size_of_token? here)]
      simp only [here, notCloses, notOpens, goesOn, Token.isTrivia, trivia, if_true,
        Bool.false_eq_true, false_and, if_false]

/-- Once past it, the scan for the end of a statement has forgotten where it set out. -/
theorem statementEndFrom?_congr (after : start < index) (otherAfter : other < index) :
    stream.statementEndFrom? start last index = stream.statementEndFrom? other last index := by
  induction distance : stream.size - index using Nat.strong_induction_on
    generalizing last index with
  | _ distance ih =>
    unfold statementEndFrom?
    simp only [ne_eq, Nat.ne_of_gt after, Nat.ne_of_gt otherAfter, not_false_eq_true, and_true]
    split
    · cases here : stream.token? index with
      | none => rfl
      | some token =>
        dsimp only
        split
        · cases matched : token.partner with
          | none => rfl
          | some closer =>
            dsimp only
            split
            · rfl
            · split
              · exact ih _ (by omega) (by omega) (by omega) rfl
              · rfl
        · split
          · rfl
          · split
            · rfl
            · exact ih _ (by omega) (by omega) (by omega) rfl
    · rfl

/-- Code that closes no bracket. -/
def bearsCode (kind : TokenKind) : Bool := !kind.isTrivia && !kind.isCloser

theorem bearsCode_of_isOpener {kind : TokenKind} (opens : kind.isOpener = true) :
    bearsCode kind = true := by
  cases kind <;> first | rfl | cases opens

theorem bearsCode_iff {kind : TokenKind} :
    bearsCode kind = true ↔ kind.isTrivia = false ∧ kind.isCloser = false := by
  simp [bearsCode]

theorem closes?_of_bearsCode {kind : TokenKind} (code : bearsCode kind = true) :
    kind.closes? = none :=
  Option.not_isSome_iff_eq_none.mp (Bool.eq_false_iff.mp (bearsCode_iff.mp code).2)

/-- At code that closes no bracket the scan for the end goes on as if it had set out there. -/
theorem statementEndFrom?_of_bearsCode (isCode : stream.kindIs mark bearsCode = true)
    (after : start < mark) :
    stream.statementEndFrom? start last mark = stream.statementEnd? mark := by
  rcases exists_token_of_kindIs isCode with ⟨token, here, code⟩
  rw [bearsCode_iff] at code
  have inside := lt_size_of_token? here
  rw [statementEnd?, if_pos inside]
  unfold statementEndFrom?
  simp only [here, inside, code, Token.isTrivia, Bool.false_eq_true, false_and, if_false, if_true]
  rw [statementEndFrom?_congr (Nat.lt_succ_of_lt after) (Nat.lt_succ_self mark)]
  split
  · cases matched : token.partner with
    | none => rfl
    | some closer =>
      dsimp only
      split
      · rfl
      · split
        · rename_i rises
          rw [statementEndFrom?_congr (by omega) (Nat.lt_succ_of_le rises)]
        · rfl
  · rfl

/-- A token that is no boundary has the same end as the code behind it. -/
theorem statementEnd?_eq_of_passed (here : stream.token? index = some token)
    (notOpens : token.kind.isOpener = false) (notCloses : token.kind.isCloser = false)
    (goesOn : startsStatement token.kind = false) (after : index < mark)
    (blank : stream.Blank (index + 1) mark) (isCode : stream.kindIs mark bearsCode = true) :
    stream.statementEnd? index = stream.statementEnd? mark := by
  simp only [startsStatement, Bool.or_eq_false_iff] at goesOn
  rw [statementEnd?, if_pos (lt_size_of_token? here), statementEndFrom?,
    if_pos (lt_size_of_token? here)]
  simp only [here, notOpens, notCloses, goesOn, Bool.false_eq_true, false_and, if_false, ite_self]
  rw [statementEndFrom?_of_blank after blank, statementEndFrom?_of_bearsCode isCode after]

/-- An opener whose pair is crossed has the same end as the code behind the pair. -/
theorem statementEnd?_eq_of_crossed (here : stream.token? index = some token)
    (opens : token.kind.isOpener = true) (matched : token.partner = some stop)
    (crossed : ¬(token.kind = .openCurly ∧ !stream.isExpressionBody index))
    (rises : index ≤ stop) (after : stop < mark) (blank : stream.Blank (stop + 1) mark)
    (isCode : stream.kindIs mark bearsCode = true) :
    stream.statementEnd? index = stream.statementEnd? mark := by
  rw [statementEnd?, if_pos (lt_size_of_token? here), statementEndFrom?,
    if_pos (lt_size_of_token? here)]
  simp only [here, opens, matched, crossed, rises, if_true, if_false]
  rw [statementEndFrom?_of_blank after blank,
    statementEndFrom?_of_bearsCode isCode (Nat.lt_of_le_of_lt rises after)]

end Scans

section Bounds

variable {lexemes : List Lexeme} {first last start index stop mark : Nat} {token : Token}

theorem isOpener_of_mem {pair : BracketPair}
    (member : pair ∈ bracketPairs (lexemes.map Lexeme.kind))
    (here : (ofLexemes lexemes).token? pair.opener = some token) : token.kind.isOpener = true := by
  have opens := BracketPair.opens_of_mem member (kind_of_token? here)
  rwa [TokenKind.isOpener, Option.isSome_iff_ne_none]

/-- Both braces of a pair are curly, or neither is. -/
theorem openCurly_iff_closeCurly {pair : BracketPair} {kinds : List TokenKind}
    {opening closing : TokenKind} (member : pair ∈ bracketPairs kinds)
    (opener : kinds[pair.opener]? = some opening) (closer : kinds[pair.closer]? = some closing) :
    opening = .openCurly ↔ closing = .closeCurly := by
  have braces := BracketPair.opener_iff_closer member .curly
  rwa [opener, closer, Option.some.injEq, Option.some.injEq] at braces

theorem SameNesting.trans {stream : TokenStream} {first second third : Nat}
    (same : stream.SameNesting first second) (next : stream.SameNesting second third) :
    stream.SameNesting first third :=
  ⟨same.1.trans next.1, same.2.trans next.2⟩

/-- Whether a token ends the statement in front of it: a terminator, `<?=`, or the closing brace of
a block. -/
def isBoundary (stream : TokenStream) (place : Nat) : Bool :=
  stream.holdsAt (fun token => startsStatement token.kind ||
    (token.kind = .closeCurly && token.partner.any fun opener => !stream.isExpressionBody opener))
    place

theorem isBoundary_iff {stream : TokenStream} {place : Nat} : stream.isBoundary place = true ↔
    ∃ token, stream.token? place = some token ∧ (startsStatement token.kind = true ∨
      token.kind = .closeCurly ∧
        ∃ opener, token.partner = some opener ∧ stream.isExpressionBody opener = false) := by
  simp [isBoundary, holdsAt, Option.any_eq_true]

theorem isBoundary_eq_false {stream : TokenStream} {place : Nat}
    (here : stream.token? place = some token) (goesOn : startsStatement token.kind = false)
    (crossed : ∀ opener, token.kind = .closeCurly → token.partner = some opener →
      stream.isExpressionBody opener = true) : stream.isBoundary place = false := by
  rw [← Bool.not_eq_true, isBoundary_iff]
  rintro ⟨other, found, starts | ⟨isBrace, opener, matched, block⟩⟩
  · cases here.symm.trans found
    rw [goesOn] at starts
    cases starts
  · cases here.symm.trans found
    rw [crossed opener isBrace matched] at block
    cases block

theorem plain_of_startsStatement {kind : TokenKind} (starts : startsStatement kind = true) :
    kind.opens? = none ∧ kind.closes? = none := by
  cases kind <;> first | exact ⟨rfl, rfl⟩ | cases starts

theorem startsStatement_eq_false {kind : TokenKind}
    (bracket : kind.isOpener = true ∨ kind.isCloser = true) : startsStatement kind = false := by
  rw [← Bool.not_eq_true]
  intro starts
  simp [TokenKind.isOpener, TokenKind.isCloser, plain_of_startsStatement starts] at bracket

/-- A boundary inside of a pair has not the nesting of what stands outside. -/
theorem not_isBoundary_of_inside {pair : BracketPair} {place : Nat}
    (member : pair ∈ bracketPairs (lexemes.map Lexeme.kind)) (after : pair.opener < place)
    (before : place < pair.closer)
    (outside : level (lexemes.map Lexeme.kind) mark =
      level (lexemes.map Lexeme.kind) pair.opener)
    (isCode : (ofLexemes lexemes).kindIs mark bearsCode = true)
    (beside : (ofLexemes lexemes).SameNesting place mark) :
    (ofLexemes lexemes).isBoundary place = false := by
  rw [← Bool.not_eq_true, isBoundary_iff]
  rintro ⟨token, here, boundary⟩
  rcases exists_token_of_kindIs isCode with ⟨own, there, code⟩
  have level_ne : ∀ inner, pair.opener < inner → inner < pair.closer →
      level (lexemes.map Lexeme.kind) inner ≠ level (lexemes.map Lexeme.kind) mark := by
    intro inner after before
    rw [outside]
    exact level_ne_of_inside member after before.le (.inl (Nat.le_refl _))
  rcases boundary with starts | ⟨isBrace, opener, matched, -⟩
  · apply level_ne place after before
    exact (sameNesting_iff (kind_of_token? here) (plain_of_startsStatement starts).2
      (kind_of_token? there) (closes?_of_bearsCode code)).mp beside
  · have block := mem_of_partner_closer here (by rw [isBrace]; rfl) matched
    have laminar := BracketPair.laminar_of_mem member block
    simp only [BracketPair.Laminar, BracketPair.Contains] at laminar
    have rises : opener < place := BracketPair.lt_of_mem block
    have inner : pair.opener < opener := by
      rcases laminar with rfl | apart
      · exact absurd before (Nat.lt_irrefl _)
      · omega
    rcases exists_token?_of_lt (rises.trans (lt_size_of_token? here)) with ⟨opening, found⟩
    have opens : opening.kind.isOpener = true := isOpener_of_mem block found
    apply level_ne opener inner (rises.trans before)
    exact (sameNesting_iff (kind_of_token? found)
      (closes?_of_bearsCode (bearsCode_of_isOpener opens)) (kind_of_token? there)
      (closes?_of_bearsCode code)).mp ((sameNesting_closer block).trans beside)

/-- What the scan back knows when it has come down to `index` and `first` is the earliest token that
it has found: only blanks stand in front of that, from there the statement ends where it should, and
no boundary on the way has the nesting of `mark`. -/
structure Leads (lexemes : List Lexeme) (first index mark : Nat) : Prop where
  index_le : index ≤ first
  blank : (ofLexemes lexemes).Blank index first
  isCode : (ofLexemes lexemes).kindIs first bearsCode = true
  end_eq : (ofLexemes lexemes).statementEnd? first = (ofLexemes lexemes).statementEnd? mark
  walk : Walk (lexemes.map Lexeme.kind) startsStatement index mark
  within : ∀ place, index ≤ place → place < mark → (ofLexemes lexemes).SameNesting place mark →
    (ofLexemes lexemes).isBoundary place = false

/-- Whether the scan back stops above an index, whatever it has found. -/
def Halts (stream : TokenStream) (index : Nat) : Prop :=
  index = 0 ∨ ∃ place, index = place + 1 ∧
    (stream.kindIs place TokenKind.isOpener = true ∨ stream.isBoundary place = true)

theorem Halts.statementStartFrom?_eq {stream : TokenStream} (halts : stream.Halts index)
    (first : Nat) : stream.statementStartFrom? first index = some first := by
  rcases halts with rfl | ⟨place, rfl, opens | boundary⟩
  · rw [statementStartFrom?]
  · rcases exists_token_of_kindIs opens with ⟨token, here, opens⟩
    have notCloses := (bearsCode_iff.mp (bearsCode_of_isOpener opens)).2
    rw [statementStartFrom?]
    simp only [here, notCloses, opens, Bool.true_or, if_true, Bool.false_eq_true, if_false]
  · rcases isBoundary_iff.mp boundary with ⟨token, here, starts | ⟨isBrace, opener, matched, block⟩⟩
    · have notCloses : token.kind.isCloser = false := by
        simp [TokenKind.isCloser, (plain_of_startsStatement starts).2]
      rw [statementStartFrom?]
      simp only [here, notCloses, starts, Bool.or_true, if_true, Bool.false_eq_true, if_false]
    · have closes : token.kind.isCloser = true := by rw [isBrace]; rfl
      rw [statementStartFrom?, here]
      dsimp only
      rw [if_pos closes, matched]
      dsimp only
      rw [if_pos ⟨isBrace, by rw [block]; rfl⟩]

/-- From a closing bracket that ends no statement the scan back goes on at its opening one. -/
theorem Leads.cross {opener : Nat} (leads : Leads lexemes first (index + 1) mark)
    (mark_isCode : (ofLexemes lexemes).kindIs mark bearsCode = true)
    (here : (ofLexemes lexemes).token? index = some token) (closes : token.kind.isCloser = true)
    (matched : token.partner = some opener)
    (crossed : ¬(token.kind = .closeCurly ∧ !(ofLexemes lexemes).isExpressionBody opener))
    (rises : opener ≤ index) : Leads lexemes opener opener mark := by
  have member := mem_of_partner_closer here closes matched
  have lower : opener < index := BracketPair.lt_of_mem member
  have walk : Walk (lexemes.map Lexeme.kind) startsStatement opener mark :=
    .cross member leads.walk
  rcases exists_token?_of_lt (lower.trans (lt_size_of_token? here)) with ⟨opening, there⟩
  have opens : opening.kind.isOpener = true := isOpener_of_mem member there
  have curly := openCurly_iff_closeCurly member (kind_of_token? there) (kind_of_token? here)
  refine ⟨Nat.le_refl _, ?_, ?_, ?_, walk, ?_⟩
  · intro place after before
    omega
  · rw [kindIs, kind?, there]
    exact bearsCode_of_isOpener opens
  · rw [← leads.end_eq]
    exact statementEnd?_eq_of_crossed there opens ((partner_eq_some_iff there opens).mpr member)
      (by rwa [curly]) rises leads.index_le leads.blank leads.isCode
  · intro place after before beside
    rcases Nat.lt_trichotomy place index with inner | rfl | outer
    · rcases Nat.eq_or_lt_of_le after with rfl | later
      · apply isBoundary_eq_false there (startsStatement_eq_false (.inl opens))
        intro other isBrace
        rw [isBrace] at opens
        cases opens
      · exact not_isBoundary_of_inside member later inner walk.level_eq.symm mark_isCode beside
    · apply isBoundary_eq_false here (startsStatement_eq_false (.inr closes))
      intro other isBrace matched'
      cases matched.symm.trans matched'
      by_contra block
      exact crossed ⟨isBrace, by simpa using block⟩
    · exact leads.within place outer before beside

/-- A token that is no bracket and no boundary is the earliest one found from there on, unless it is
blank. -/
theorem Leads.pass (leads : Leads lexemes first (index + 1) mark)
    (here : (ofLexemes lexemes).token? index = some token) (notCloses : token.kind.isCloser = false)
    (notOpens : token.kind.isOpener = false) (goesOn : startsStatement token.kind = false) :
    Leads lexemes (if token.isTrivia then first else index) index mark := by
  have walk : Walk (lexemes.map Lexeme.kind) startsStatement index mark :=
    .pass (kind_of_token? here) (opens?_eq_none (by simp [notOpens]))
      (closes?_eq_none (by simp [notCloses])) goesOn leads.walk
  have within : ∀ place, index ≤ place → place < mark →
      (ofLexemes lexemes).SameNesting place mark →
        (ofLexemes lexemes).isBoundary place = false := by
    intro place after before beside
    rcases Nat.eq_or_lt_of_le after with rfl | later
    · apply isBoundary_eq_false here goesOn
      intro other isBrace
      rw [isBrace] at notCloses
      cases notCloses
    · exact leads.within place later before beside
  split
  · rename_i trivia
    refine ⟨Nat.le_of_succ_le leads.index_le, ?_, leads.isCode, leads.end_eq, walk, within⟩
    intro place after before
    rcases Nat.eq_or_lt_of_le after with rfl | later
    · rw [kindIs, kind?, here]
      exact trivia
    · exact leads.blank place later before
  · rename_i code
    refine ⟨Nat.le_refl _, ?_, ?_, ?_, walk, within⟩
    · intro place after before
      omega
    · simpa [kindIs, kind?, here, bearsCode_iff, notCloses, Token.isTrivia] using code
    · rw [← leads.end_eq]
      exact statementEnd?_eq_of_passed here notOpens notCloses goesOn leads.index_le leads.blank
        leads.isCode

/-- The token that the scan back returns is the one where it would set out again, and stay. -/
theorem leads_of_statementStartFrom?
    (mark_isCode : (ofLexemes lexemes).kindIs mark bearsCode = true)
    (leads : Leads lexemes first index mark)
    (found : (ofLexemes lexemes).statementStartFrom? first index = some start) :
    ∃ index, Leads lexemes start index mark ∧ (ofLexemes lexemes).Halts index := by
  fun_induction statementStartFrom? (ofLexemes lexemes) first index with
  | case1 first =>
      cases found
      exact ⟨0, leads, .inl rfl⟩
  | case2 | case3 | case6 => cases found
  | case4 first index token here closes opener matched block =>
      cases found
      refine ⟨index + 1, leads, .inr ⟨index, rfl, .inr (isBoundary_iff.mpr ⟨token, here, ?_⟩)⟩⟩
      exact .inr ⟨block.1, opener, matched, by simpa using block.2⟩
  | case5 first index token here closes opener matched crossed rises ih =>
      exact ih (leads.cross mark_isCode here closes matched crossed rises) found
  | case7 first index token here goesOn stops =>
      cases found
      refine ⟨index + 1, leads, .inr ⟨index, rfl, ?_⟩⟩
      rcases Bool.or_eq_true_iff.mp stops with opens | starts
      · left
        rw [kindIs, kind?, here]
        exact opens
      · exact .inr (isBoundary_iff.mpr ⟨token, here, .inl starts⟩)
  | case8 first index token here notCloses passes ih =>
      simp only [Bool.or_eq_true, not_or, Bool.not_eq_true] at notCloses passes
      exact ih (leads.pass here notCloses passes.1 passes.2) found

theorem leads_of_statementStart? (isCode : (ofLexemes lexemes).kindIs mark bearsCode = true)
    (found : (ofLexemes lexemes).statementStart? mark = some start) :
    ∃ index, Leads lexemes start index mark ∧ (ofLexemes lexemes).Halts index := by
  rw [statementStart?] at found
  split at found
  · have leads : Leads lexemes mark mark mark := by
      refine ⟨Nat.le_refl _, ?_, isCode, rfl, .stay mark, ?_⟩
      · intro place after before
        omega
      · intro place after before
        omega
    exact leads_of_statementStartFrom? isCode leads found
  · cases found

theorem of_statementStart? (isCode : (ofLexemes lexemes).kindIs index bearsCode = true)
    (found : (ofLexemes lexemes).statementStart? index = some start) :
    (ofLexemes lexemes).kindIs start bearsCode = true ∧
      (ofLexemes lexemes).statementStart? start = some start ∧
      (ofLexemes lexemes).statementEnd? start = (ofLexemes lexemes).statementEnd? index := by
  rcases leads_of_statementStart? isCode found with ⟨scanned, leads, halts⟩
  refine ⟨leads.isCode, ?_, leads.end_eq⟩
  rcases exists_token_of_kindIs leads.isCode with ⟨token, here, -⟩
  rw [statementStart?, if_pos (lt_size_of_token? here),
    statementStartFrom?_of_blank leads.index_le leads.blank, halts.statementStartFrom?_eq]

/-- What stands in front of a statement at its level is separated from it by a boundary, and what
stands in it is not. -/
theorem lt_statementStart_iff (strict : Strict (lexemes.map Lexeme.kind))
    (isCode : (ofLexemes lexemes).kindIs mark bearsCode = true)
    (found : (ofLexemes lexemes).statementStart? mark = some start)
    (index_isCode : (ofLexemes lexemes).kindIs index bearsCode = true)
    (beside : (ofLexemes lexemes).SameNesting index mark) :
    index < start ↔ ∃ place, index ≤ place ∧ place < mark ∧
      (ofLexemes lexemes).SameNesting place mark ∧
        (ofLexemes lexemes).isBoundary place = true := by
  rcases leads_of_statementStart? isCode found with ⟨scanned, leads, halts⟩
  rcases exists_token_of_kindIs isCode with ⟨own, here, code⟩
  rcases exists_token_of_kindIs index_isCode with ⟨token, there, index_code⟩
  constructor
  · intro outside
    have lower : index < scanned := by
      by_contra inside
      have trivia := leads.blank index (Nat.le_of_not_lt inside) outside
      rw [kindIs, kind?, there, Option.map_some, Option.any_some,
        (bearsCode_iff.mp index_code).1] at trivia
      cases trivia
    rcases halts with rfl | ⟨place, rfl, opens | boundary⟩
    · cases lower
    · rcases exists_token_of_kindIs opens with ⟨opening, found, opens⟩
      rcases strict.opener (kind_of_token? found) opens with ⟨closer, member⟩
      have level_eq := (level_opener_succ member).symm.trans leads.walk.level_eq
      have same := (sameNesting_iff (kind_of_token? there) (closes?_of_bearsCode index_code)
        (kind_of_token? here) (closes?_of_bearsCode code)).mp beside
      have around : ⟨place, closer⟩ ∈ level (lexemes.map Lexeme.kind) index := by
        rw [same, ← level_eq]
        exact List.mem_append_right _ (List.mem_singleton.mpr rfl)
      exact absurd (mem_level_iff.mp around).2.1 (Nat.not_lt_of_le (Nat.le_of_lt_succ lower))
    · rcases isBoundary_iff.mp boundary with ⟨other, found, ends⟩
      have notOpens : other.kind.opens? = none := by
        rcases ends with starts | ⟨isBrace, -⟩
        · exact (plain_of_startsStatement starts).1
        · rw [isBrace]
          rfl
      have same := sameNesting_of_level_succ strict (kind_of_token? here)
        (closes?_of_bearsCode code) (kind_of_token? found) notOpens leads.walk.level_eq
      exact ⟨place, Nat.le_of_lt_succ lower, leads.walk.le, ⟨same.1.symm, same.2.symm⟩, boundary⟩
  · rintro ⟨place, after, earlier, same, boundary⟩
    by_contra inside
    have low : scanned ≤ place := by
      have index_le := leads.index_le
      omega
    rw [leads.within place low earlier same] at boundary
    cases boundary

/-- Where the end of a statement stands: a walk leads there, or to the opener of its pair. -/
structure Ends (kinds : List TokenKind) (mark place stop : Nat) : Prop where
  walk : Walk kinds TokenKind.isStatementTerminator mark place
  stands : ∃ kind, kinds[place]? = some kind ∧ kind.closes? = none
  reaches : stop = place ∨ ⟨place, stop⟩ ∈ bracketPairs kinds

/-- The scan for the end of a statement walks along the level. -/
theorem ends_of_statementEndFrom?
    (walk : Walk (lexemes.map Lexeme.kind) TokenKind.isStatementTerminator mark index)
    (isCode : (ofLexemes lexemes).kindIs mark bearsCode = true)
    (known : ∃ place, Ends (lexemes.map Lexeme.kind) mark place last)
    (found : (ofLexemes lexemes).statementEndFrom? mark last index = some stop) :
    ∃ place, Ends (lexemes.map Lexeme.kind) mark place stop := by
  fun_induction statementEndFrom? (ofLexemes lexemes) mark last index with
  | case1 | case2 | case5 => cases found
  | case3 last index inside token here opens closer matched block =>
      cases found
      have member := (partner_eq_some_iff here opens).mp matched
      have notCloses := closes?_of_bearsCode (bearsCode_of_isOpener opens)
      exact ⟨index, walk, ⟨_, kind_of_token? here, notCloses⟩, .inr member⟩
  | case4 last index inside token here opens closer matched crossed rises ih =>
      have member := (partner_eq_some_iff here opens).mp matched
      have notCloses := closes?_of_bearsCode (bearsCode_of_isOpener opens)
      refine ih (walk.trans (.cross member (.stay _))) ?_ found
      exact ⟨index, walk, ⟨_, kind_of_token? here, notCloses⟩, .inr member⟩
  | case6 last index inside token here notOpens closes =>
      cases found
      exact known
  | case7 last index inside token here notOpens goesOn stops =>
      obtain rfl := Option.some.inj found
      have notCloses := (plain_of_isStatementTerminator stops).2
      exact ⟨index, walk, ⟨_, kind_of_token? here, notCloses⟩, .inl rfl⟩
  | case8 last index inside token here notOpens goesOn passes ih =>
      have notCloses : token.kind.closes? = none := by
        apply closes?_eq_none
        intro closes
        have moved : index = mark := by
          by_contra moved
          exact goesOn ⟨closes, moved⟩
        subst moved
        rcases exists_token_of_kindIs isCode with ⟨other, there, code⟩
        cases here.symm.trans there
        rw [(bearsCode_iff.mp code).2] at closes
        cases closes
      have kind_eq := kind_of_token? here
      have avoided : token.kind.isStatementTerminator = false := by simpa using passes
      have further := walk.trans
        (.pass kind_eq (opens?_eq_none notOpens) notCloses avoided (.stay _))
      refine ih further ?_ found
      split
      · exact known
      · exact ⟨index, walk, ⟨_, kind_eq, notCloses⟩, .inl rfl⟩
  | case9 last index outside =>
      cases found
      exact known

namespace Ends

variable {place : Nat} (ends : Ends (lexemes.map Lexeme.kind) mark place stop)

include ends

theorem le : mark ≤ stop := by
  have walked := ends.walk.le
  rcases ends.reaches with rfl | member
  · exact walked
  · exact walked.trans (BracketPair.lt_of_mem member).le

theorem sameNesting (isCode : (ofLexemes lexemes).kindIs mark bearsCode = true) :
    (ofLexemes lexemes).SameNesting mark stop := by
  rcases exists_token_of_kindIs isCode with ⟨token, here, code⟩
  rcases ends.stands with ⟨kind, found, notCloses⟩
  have beside : (ofLexemes lexemes).SameNesting mark place :=
    (sameNesting_iff (kind_of_token? here) (closes?_of_bearsCode code) found notCloses).mpr
      ends.walk.level_eq
  rcases ends.reaches with rfl | member
  · exact beside
  · exact beside.trans (sameNesting_closer member)

/-- No terminator of its level stands in front of the end of a statement. -/
theorem not_terminator {between : Nat} (isCode : (ofLexemes lexemes).kindIs mark bearsCode = true)
    (after : mark ≤ between) (before : between < stop)
    (beside : (ofLexemes lexemes).SameNesting between mark) :
    (ofLexemes lexemes).kindIs between TokenKind.isStatementTerminator = false := by
  by_contra stops
  rw [Bool.not_eq_false] at stops
  rcases exists_token_of_kindIs isCode with ⟨token, here, code⟩
  rcases exists_token_of_kindIs stops with ⟨terminator, there, stops⟩
  have plain := plain_of_isStatementTerminator stops
  have found := kind_of_token? there
  have same := (sameNesting_iff found plain.2 (kind_of_token? here)
    (closes?_of_bearsCode code)).mp beside
  rcases Nat.lt_or_ge between place with earlier | later
  · have avoided := ends.walk.avoided_of_level after earlier same found plain.1
    rw [stops] at avoided
    cases avoided
  · rcases ends.reaches with rfl | member
    · omega
    · rcases Nat.eq_or_lt_of_le later with rfl | inner
      · exact BracketPair.opens_of_mem member found plain.1
      · apply level_ne_of_inside member inner before.le (.inl (Nat.le_refl _))
        exact same.trans ends.walk.level_eq

end Ends

section WellFormed

variable (wellFormed : (ofLexemes lexemes).isWellFormed = true)

include wellFormed

/-- In a well-formed stream every bracket has a partner. -/
theorem partner_ne_none (here : (ofLexemes lexemes).token? index = some token)
    (bracket : (token.kind.isOpener || token.kind.isCloser) = true) : token.partner ≠ none := by
  intro alone
  have unmatched : index ∈ (ofLexemes lexemes).unmatched := by
    refine mem_unmatched_iff.mpr ⟨?_, ?_⟩
    · rw [kindIs, kind?, here]
      exact bracket
    · rw [partner?, here, Option.bind_some, alone]
  rw [isWellFormed, List.isEmpty_iff] at wellFormed
  rw [wellFormed] at unmatched
  cases unmatched

theorem isSome_statementStartFrom? (index_le : index ≤ (ofLexemes lexemes).size) :
    ((ofLexemes lexemes).statementStartFrom? first index).isSome = true := by
  fun_induction statementStartFrom? (ofLexemes lexemes) first index with
  | case1 | case4 | case7 => rfl
  | case2 first index missing =>
      exact absurd (Array.getElem?_eq_none_iff.mp missing) (Nat.not_le.mpr index_le)
  | case3 first index token here closes alone =>
      exact absurd alone (partner_ne_none wellFormed here (by simp [closes]))
  | case5 first index token here closes opener matched crossed rises ih =>
      exact ih (by omega)
  | case6 first index token here closes opener matched crossed falls =>
      have lower := BracketPair.lt_of_mem (mem_of_partner_closer here closes matched)
      exact absurd lower.le falls
  | case8 first index token here notCloses passes ih => exact ih (Nat.le_of_succ_le index_le)

theorem isSome_statementEndFrom? :
    ((ofLexemes lexemes).statementEndFrom? start last index).isSome = true := by
  fun_induction statementEndFrom? (ofLexemes lexemes) start last index with
  | case3 | case6 | case7 | case9 => rfl
  | case1 last index inside missing =>
      exact absurd (Array.getElem?_eq_none_iff.mp missing) (Nat.not_le.mpr inside)
  | case2 last index inside token here opens alone =>
      exact absurd alone (partner_ne_none wellFormed here (by simp [opens]))
  | case4 last index inside token here opens closer matched crossed rises ih => exact ih
  | case5 last index inside token here opens closer matched crossed falls =>
      have higher := BracketPair.lt_of_mem ((partner_eq_some_iff here opens).mp matched)
      exact absurd higher.le falls
  | case8 last index inside token here notOpens goesOn passes ih => exact ih

end WellFormed

/-- The two bounds of the statement around a token of code that closes no bracket, in any stream.
The start has the nesting of the token, is its own start and has the same end; the end has that
nesting too, and no terminator of it stands before it. If every bracket is matched, both exist. -/
theorem statement_bounds_coherent (isCode : (ofLexemes lexemes).kindIs index bearsCode = true) :
    (∀ start, (ofLexemes lexemes).statementStart? index = some start →
      start ≤ index ∧ (ofLexemes lexemes).kindIs start bearsCode = true ∧
        (ofLexemes lexemes).SameNesting start index ∧
        (ofLexemes lexemes).statementStart? start = some start ∧
        (ofLexemes lexemes).statementEnd? start = (ofLexemes lexemes).statementEnd? index) ∧
    (∀ stop, (ofLexemes lexemes).statementEnd? index = some stop →
      index ≤ stop ∧ (ofLexemes lexemes).SameNesting stop index ∧
        ∀ between, index ≤ between → between < stop →
          (ofLexemes lexemes).SameNesting between index →
            (ofLexemes lexemes).kindIs between TokenKind.isStatementTerminator = false) ∧
    ((ofLexemes lexemes).isWellFormed = true →
      ((ofLexemes lexemes).statementStart? index).isSome = true ∧
        ((ofLexemes lexemes).statementEnd? index).isSome = true) := by
  rcases exists_token_of_kindIs isCode with ⟨token, here, code⟩
  have inside := lt_size_of_token? here
  have notCloses := closes?_of_bearsCode code
  refine ⟨?_, ?_, ?_⟩
  · intro start found
    have walk := walk_of_statementStart? found
    rcases of_statementStart? isCode found with ⟨start_isCode, again, end_eq⟩
    rcases exists_token_of_kindIs start_isCode with ⟨first, there, start_code⟩
    have same : (ofLexemes lexemes).SameNesting start index :=
      (sameNesting_iff (kind_of_token? there) (closes?_of_bearsCode start_code)
        (kind_of_token? here) notCloses).mpr walk.level_eq
    exact ⟨walk.le, start_isCode, same, again, end_eq⟩
  · intro stop found
    rw [statementEnd?, if_pos inside] at found
    have known : Ends (lexemes.map Lexeme.kind) index index index :=
      ⟨.stay index, ⟨_, kind_of_token? here, notCloses⟩, .inl rfl⟩
    rcases ends_of_statementEndFrom? (.stay index) isCode ⟨index, known⟩ found with ⟨place, ends⟩
    have same := ends.sameNesting isCode
    refine ⟨ends.le, ⟨same.1.symm, same.2.symm⟩, ?_⟩
    intro between after before beside
    exact ends.not_terminator isCode after before beside
  · intro wellFormed
    rw [statementStart?, statementEnd?, if_pos inside, if_pos inside]
    exact ⟨isSome_statementStartFrom? wellFormed inside.le, isSome_statementEndFrom? wellFormed⟩

/-- An unmatched bracket behind a statement leaves its bounds as they are. -/
theorem statement_bounds_coherent_stray :
    ∃ lexemes, lex "<?php $a=f([1])+2;)" = .ok lexemes ∧
      (ofLexemes lexemes).isWellFormed = false ∧
      (ofLexemes lexemes).statementStart? 9 = some 1 ∧
      (ofLexemes lexemes).statementEnd? 9 = some 11 ∧
      (ofLexemes lexemes).SameNesting 1 9 ∧
      (ofLexemes lexemes).statementEnd? 1 = (ofLexemes lexemes).statementEnd? 9 ∧
      ∀ between, 9 ≤ between → between < 11 → (ofLexemes lexemes).SameNesting between 9 →
        (ofLexemes lexemes).kindIs between TokenKind.isStatementTerminator = false := by
  cases lexed : lex "<?php $a=f([1])+2;)" with
  | error failure =>
      have read : (lex "<?php $a=f([1])+2;)").isOk = true := by decide +kernel
      rw [lexed] at read
      cases read
  | ok lexemes =>
      have outcome : (lex "<?php $a=f([1])+2;)").toOption.map (fun lexemes =>
          ((ofLexemes lexemes).isWellFormed, (ofLexemes lexemes).kindIs 9 bearsCode,
            (ofLexemes lexemes).statementStart? 9, (ofLexemes lexemes).statementEnd? 9)) =
          some (false, true, some 1, some 11) := by decide +kernel
      simp only [lexed, Except.toOption, Option.map_some, Option.some.injEq, Prod.mk.injEq]
        at outcome
      rcases outcome with ⟨malformed, isCode, started, ended⟩
      rcases statement_bounds_coherent isCode with ⟨starts, ends, -⟩
      rcases starts 1 started with ⟨-, -, same, -, end_eq⟩
      exact ⟨lexemes, rfl, malformed, started, ended, same, end_eq, (ends 11 ended).2.2⟩

end Bounds

end TokenStream

end TokenLint
