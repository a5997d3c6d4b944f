import TokenLint.Navigation.Call
import TokenLint.Proofs.Navigation.Ternary
import TokenLint.Proofs.Stream.Walk

/-!
# Elements of a list in brackets

A list between two brackets is divided by its commas that stand in no other pair between the two,
and its elements are the parts in front of, between and behind these commas. They begin at the level
of the brackets' inside and follow each other. Inside of an element, the annotation of a token names
the brackets around the list exactly if no parenthesis and no square bracket is open between the
start of the element and the token.
-/

namespace TokenLint

/-- Whether ranges follow each other from `start` up to `stop`, each up to but not including a
divider, and none of them contains one. The last one, if it is empty, is left out. -/
inductive Parts (divides : Nat → Prop) (stop : Nat) : Nat → List (Nat × Nat) → Prop where
  | done : Parts divides stop stop []
  | last {start : Nat} (before : start < stop)
      (whole : ∀ index, start ≤ index → index < stop → ¬divides index) :
      Parts divides stop start [(start, stop)]
  | part {start divider : Nat} {rest : List (Nat × Nat)} (after : start ≤ divider)
      (before : divider < stop) (whole : ∀ index, start ≤ index → index < divider → ¬divides index)
      (divided : divides divider) (more : Parts divides stop (divider + 1) rest) :
      Parts divides stop start ((start, divider) :: rest)

namespace Parts

variable {divides : Nat → Prop} {start stop : Nat} {ranges : List (Nat × Nat)}

/-- Every part begins at the start or behind a divider. -/
theorem bounds (parts : Parts divides stop start ranges) :
    ∀ range ∈ ranges, start ≤ range.1 ∧ range.1 ≤ range.2 ∧ range.2 ≤ stop ∧
      (range.1 = start ∨ ∃ divider, divides divider ∧ range.1 = divider + 1) := by
  induction parts with
  | done => simp
  | last before whole =>
      rw [List.forall_mem_singleton]
      exact ⟨Nat.le_refl _, before.le, Nat.le_refl _, .inl rfl⟩
  | @part start divider rest after before whole divided more ih =>
      refine List.forall_mem_cons.mpr ⟨⟨Nat.le_refl _, after, before.le, .inl rfl⟩, ?_⟩
      intro range member
      rcases ih range member with ⟨lower, ordered, upper, begins⟩
      refine ⟨by omega, ordered, upper, .inr ?_⟩
      exact begins.elim (fun here => ⟨divider, divided, here⟩) id

theorem pairwise (parts : Parts divides stop start ranges) :
    ranges.Pairwise fun first second => first.2 < second.1 := by
  induction parts with
  | done => exact .nil
  | last before whole => exact List.pairwise_singleton _ _
  | part after before whole divided more ih =>
      exact .cons (fun range member => (more.bounds range member).1) ih

end Parts

namespace TokenStream

open Lexer

variable {lexemes : List Lexeme} {brackets : BracketPair} {start index : Nat}
  {element : Nat × Nat}

/-- Whether a bracket of some kinds that opens from `start` on surrounds a token. -/
def Surrounded (stream : TokenStream) (opens : TokenKind → Bool) (start index : Nat) : Prop :=
  ∃ opener < index, start ≤ opener ∧ stream.kindIs opener opens = true ∧
    (stream.partner? opener).any (index < ·) = true

instance (stream : TokenStream) (opens : TokenKind → Bool) (start index : Nat) :
    Decidable (stream.Surrounded opens start index) :=
  inferInstanceAs (Decidable (∃ opener < index, _))

theorem surrounded_iff {opens : TokenKind → Bool} :
    (ofLexemes lexemes).Surrounded opens start index ↔
      ∃ pair ∈ bracketPairs (lexemes.map Lexeme.kind), start ≤ pair.opener ∧ pair.opener < index ∧
        index < pair.closer ∧ (lexemes.map Lexeme.kind)[pair.opener]?.any opens = true := by
  simp only [Surrounded, kindIs, kind?_ofLexemes]
  constructor
  · rintro ⟨opener, before, after, isOpen, around⟩
    rcases (Option.any_eq_true _ _).mp around with ⟨closer, matched, behind⟩
    have isPair : (ofLexemes lexemes).Matches opener closer :=
      ⟨before.trans (of_decide_eq_true behind), matched⟩
    exact ⟨⟨opener, closer⟩, matches_iff.mp isPair, after, before, of_decide_eq_true behind, isOpen⟩
  · rintro ⟨pair, member, after, before, behind, isOpen⟩
    refine ⟨pair.opener, before, after, isOpen, ?_⟩
    rw [(matches_iff.mpr member).2]
    exact decide_eq_true behind

/-- Whether a range of tokens is an element of the list between two brackets. -/
structure IsElement (kinds : List TokenKind) (brackets : BracketPair) (element : Nat × Nat) :
    Prop where
  after : brackets.opener < element.1
  ordered : element.1 ≤ element.2
  before : element.2 ≤ brackets.closer
  inside : level kinds element.1 = level kinds brackets.closer

/-- Where a scan goes on that crosses pairs of brackets: the partner of an opener at an index. -/
def crossing? (stream : TokenStream) (index : Nat) : Option Nat :=
  ((stream.token? index).filter fun token => token.kind.isOpener).bind Token.partner

/-- A pair of brackets is closed before a later token of its level. -/
theorem closes_before_of_matched {stop : Nat} (within : index < stop)
    (same : level (lexemes.map Lexeme.kind) index = level (lexemes.map Lexeme.kind) stop)
    {inner : Nat} (matched : (ofLexemes lexemes).crossing? index = some inner) :
    ⟨index, inner⟩ ∈ bracketPairs (lexemes.map Lexeme.kind) ∧ inner < stop := by
  rcases Option.bind_eq_some_iff.mp matched with ⟨opener, found, matched⟩
  rcases Option.filter_eq_some_iff.mp found with ⟨here, isOpener⟩
  have member := (partner_eq_some_iff here isOpener).mp matched
  refine ⟨member, ?_⟩
  by_contra around
  apply level_ne_of_inside member within (Nat.le_of_not_lt around) (.inl (Nat.le_refl _))
  exact same.symm

/-- A token inside of brackets that opens no pair leaves the level as it is. -/
theorem level_succ_of_unmatched
    (among : brackets ∈ bracketPairs (lexemes.map Lexeme.kind)) (within : index < brackets.closer)
    (inside : level (lexemes.map Lexeme.kind) index =
      level (lexemes.map Lexeme.kind) brackets.closer)
    (unmatched : (ofLexemes lexemes).crossing? index = none) :
    level (lexemes.map Lexeme.kind) (index + 1) = level (lexemes.map Lexeme.kind) index := by
  apply level_succ_of_apart
  intro pair member
  constructor
  · rintro rfl
    rcases BracketPair.exists_shape member with ⟨shape, found, -⟩
    rw [← kind?_ofLexemes, kind?, Option.map_eq_some_iff] at found
    rcases found with ⟨token, here, kind_eq⟩
    have isOpener : token.kind.isOpener = true := by simp [kind_eq, TokenKind.isOpener]
    have matched := (partner_eq_some_iff here isOpener).mpr member
    simp [crossing?, here, isOpener, matched] at unmatched
  · rintro rfl
    rw [eq_of_level_closer_eq member among inside] at within
    exact Nat.lt_irrefl _ within

/-- Whether a token stands between two brackets and in no pair between them. -/
def StandsIn (stream : TokenStream) (brackets : BracketPair) (index : Nat) : Prop :=
  brackets.opener < index ∧ index < brackets.closer ∧
    ∀ inner : BracketPair, stream.Matches inner.opener inner.closer → brackets.Contains inner →
      ¬(inner.opener < index ∧ index < inner.closer)

/-- Whether a comma divides the list between two brackets. -/
def Divides (stream : TokenStream) (brackets : BracketPair) (index : Nat) : Prop :=
  stream.hasKind index .comma = true ∧ stream.StandsIn brackets index

/-- A token that closes nothing stands in a pair exactly if it is at the level of its inside. -/
theorem standsIn_iff {kind : TokenKind}
    (among : brackets ∈ bracketPairs (lexemes.map Lexeme.kind))
    (found : (lexemes.map Lexeme.kind)[index]? = some kind) (notCloses : kind.closes? = none) :
    (ofLexemes lexemes).StandsIn brackets index ↔
      brackets.opener < index ∧ index < brackets.closer ∧
        level (lexemes.map Lexeme.kind) index =
          level (lexemes.map Lexeme.kind) brackets.closer := by
  refine and_congr_right fun after => and_congr_right fun before => ?_
  constructor
  · intro alone
    rw [level_closer among]
    apply level_congr
    intro pair member
    have closer_iff := le_closer_iff (by rw [found]; exact notCloses) member
    have outside := alone pair (matches_iff.mpr member)
    have laminar := BracketPair.laminar_of_mem among member
    have rises := BracketPair.lt_of_mem member
    simp only [BracketPair.Laminar, BracketPair.Contains] at laminar outside
    rcases laminar with rfl | apart
    · omega
    · omega
  · intro inside inner matched contains around
    apply level_ne_of_inside (matches_iff.mp matched) around.1 around.2.le (.inr contains.2)
    exact inside

/-- No comma in a pair inside of brackets divides their list. -/
theorem not_divides_of_inner {inner : BracketPair}
    (member : inner ∈ bracketPairs (lexemes.map Lexeme.kind)) (contains : brackets.Contains inner)
    (after : inner.opener ≤ index) (before : index ≤ inner.closer) :
    ¬(ofLexemes lexemes).Divides brackets index := by
  rintro ⟨isComma, -, -, alone⟩
  rcases BracketPair.exists_shape member with ⟨shape, opens, closes⟩
  rw [hasKind_ofLexemes] at isComma
  have opener_ne : inner.opener ≠ index := by
    rintro rfl
    cases shape <;> cases isComma.symm.trans opens
  have closer_ne : inner.closer ≠ index := by
    rintro rfl
    cases shape <;> cases isComma.symm.trans closes
  exact alone inner (matches_iff.mpr member) contains (by omega)

/-- A comma at the level of the inside of brackets divides their list. -/
theorem divides_of_level (among : brackets ∈ bracketPairs (lexemes.map Lexeme.kind))
    (found : (lexemes.map Lexeme.kind)[index]? = some .comma) (after : brackets.opener < index)
    (before : index < brackets.closer)
    (inside : level (lexemes.map Lexeme.kind) index =
      level (lexemes.map Lexeme.kind) brackets.closer) :
    (ofLexemes lexemes).Divides brackets index :=
  ⟨hasKind_ofLexemes.mpr found, (standsIn_iff among found rfl).mpr ⟨after, before, inside⟩⟩

/-- The elements that are still to come are the parts of what is left of the list. -/
theorem parts_elementsFrom (among : brackets ∈ bracketPairs (lexemes.map Lexeme.kind))
    (after : brackets.opener < start) (start_le : start ≤ index)
    (index_le : index ≤ brackets.closer)
    (inside : level (lexemes.map Lexeme.kind) index =
      level (lexemes.map Lexeme.kind) brackets.closer)
    (whole : ∀ place, start ≤ place → place < index →
      ¬(ofLexemes lexemes).Divides brackets place) :
    Parts ((ofLexemes lexemes).Divides brackets) brackets.closer start
      ((ofLexemes lexemes).elementsFrom brackets.closer start index) := by
  -- The scan stays at the level of the closer and has passed no divider since `start`.
  fun_induction elementsFrom (ofLexemes lexemes) brackets.closer start index with
  | case1 start index within token inner opens later ih =>
      rcases closes_before_of_matched within inside opens with ⟨member, inner_lt⟩
      refine ih after (by omega) inner_lt ((level_closer_succ member).trans inside) ?_
      intro place lower upper
      by_cases earlier : place < index
      · exact whole place lower earlier
      · have contains : brackets.Contains ⟨index, inner⟩ := ⟨by dsimp only; omega, inner_lt⟩
        exact not_divides_of_inner member contains (Nat.le_of_not_lt earlier)
          (Nat.le_of_lt_succ upper)
  | case2 start index within token inner opens crossed =>
      have member := (closes_before_of_matched within inside opens).1
      exact absurd (BracketPair.lt_of_mem member).le crossed
  | case3 start index within token unmatched isComma ih =>
      rcases (Option.any_eq_true _ _).mp isComma with ⟨comma, here, kind_eq⟩
      have found := kind_of_token? here
      rw [of_decide_eq_true kind_eq] at found
      have divided := divides_of_level among found (by omega) within inside
      refine .part start_le within whole divided ?_
      exact ih (by omega) (Nat.le_refl _) within ((level_succ found rfl rfl).trans inside)
        fun place lower upper => by omega
  | case4 start index within token unmatched noComma ih =>
      have same := level_succ_of_unmatched among within inside unmatched
      refine ih after (by omega) within (same.trans inside) ?_
      intro place lower upper
      rcases Nat.lt_succ_iff_lt_or_eq.mp upper with earlier | rfl
      · exact whole place lower earlier
      · rintro ⟨isComma, -⟩
        rw [hasKind, kind?, beq_iff_eq, Option.map_eq_some_iff] at isComma
        rcases isComma with ⟨comma, here, kind_eq⟩
        exact noComma (by simp [token, here, kind_eq])
  | case5 start index outside nonempty =>
      cases Nat.le_antisymm index_le (Nat.le_of_not_lt outside)
      exact .last nonempty whole
  | case6 start index outside finished =>
      have start_eq : start = brackets.closer := by omega
      rw [start_eq]
      exact .done

theorem parts_arrayElements (among : brackets ∈ bracketPairs (lexemes.map Lexeme.kind)) :
    Parts ((ofLexemes lexemes).Divides brackets) brackets.closer (brackets.opener + 1)
      ((ofLexemes lexemes).arrayElements brackets.opener brackets.closer) :=
  parts_elementsFrom among (Nat.lt_succ_self _) (Nat.le_refl _) (BracketPair.lt_of_mem among)
    (level_closer among).symm fun place lower upper => by omega

/-- Elements begin at the level of the brackets' inside and follow each other. -/
theorem isElement_of_mem_arrayElements (among : brackets ∈ bracketPairs (lexemes.map Lexeme.kind)) :
    (∀ element ∈ (ofLexemes lexemes).arrayElements brackets.opener brackets.closer,
      IsElement (lexemes.map Lexeme.kind) brackets element) ∧
    ((ofLexemes lexemes).arrayElements brackets.opener brackets.closer).Pairwise
      fun first second => first.2 < second.1 := by
  have parts := parts_arrayElements among
  refine ⟨?_, parts.pairwise⟩
  intro element member
  rcases parts.bounds element member with ⟨after, ordered, before, begins⟩
  refine ⟨after, ordered, before, ?_⟩
  rcases begins with first | ⟨comma, ⟨isComma, stands⟩, behind⟩
  · rw [first, level_closer among]
  · have found := hasKind_ofLexemes.mp isComma
    rw [behind, level_succ found rfl rfl]
    exact ((standsIn_iff among found rfl).mp stands).2.2

/-- Inside of an element the annotation of a token names the brackets of the list exactly if no
other bracket of their class that opens in the element is around it. -/
theorem enclosingBracket_eq_iff
    (among : brackets ∈ bracketPairs (lexemes.map Lexeme.kind))
    (isGroup : (lexemes.map Lexeme.kind)[brackets.opener]?.any opensGroup = true)
    (isElement : IsElement (lexemes.map Lexeme.kind) brackets element)
    (after : element.1 ≤ index) (before : index < element.2) {token : Token}
    (here : (ofLexemes lexemes).token? index = some token) :
    token.enclosingBracket = some brackets ↔
      ¬(ofLexemes lexemes).Surrounded opensGroup element.1 index := by
  have opener_lt := isElement.after
  have closer_ge := isElement.before
  have bracket_eq := (annotations_ofLexemes here).2.2.2.1
  have order := (nested_groups (lexemes.map Lexeme.kind)).pairwise_pairsAround index
  have mem_iff : ∀ pair : BracketPair,
      pair ∈ pairsAround (closerIn? (lexemes.map Lexeme.kind) opensGroup) index ↔
        ((lexemes.map Lexeme.kind)[pair.opener]?.any opensGroup = true ∧
          pair ∈ bracketPairs (lexemes.map Lexeme.kind)) ∧
            pair.opener < index ∧ index < pair.closer := by
    intro pair
    rw [mem_pairsAround_iff, closerIn?_eq_some_iff isOpener_of_opensGroup]
  have around := (mem_iff brackets).mpr ⟨⟨isGroup, among⟩, by omega, by omega⟩
  rcases List.eq_nil_or_concat
    (pairsAround (closerIn? (lexemes.map Lexeme.kind) opensGroup) index) with
    nothing | ⟨outer, innermost, list_eq⟩
  · rw [nothing] at around
    cases around
  rw [list_eq, List.concat_eq_append] at around order
  rw [bracket_eq, list_eq, List.concat_eq_append, List.getLast?_concat, Option.some.injEq,
    surrounded_iff]
  have contains := (List.pairwise_append.mp order).2.2
  constructor
  · rintro rfl ⟨pair, member, opens_after, opens_before, behind, isGroup⟩
    have inside := (mem_iff pair).mpr ⟨⟨isGroup, member⟩, opens_before, behind⟩
    rw [list_eq, List.concat_eq_append, List.mem_append, List.mem_singleton] at inside
    rcases inside with outside | rfl
    · have contains := contains pair outside innermost (List.mem_singleton.mpr rfl)
      simp only [BracketPair.Contains] at contains
      omega
    · omega
  · intro alone
    rcases List.mem_append.mp around with outside | same
    · have contains := contains brackets outside innermost (List.mem_singleton.mpr rfl)
      have inner := (mem_iff innermost).mp (by simp [list_eq])
      simp only [BracketPair.Contains] at contains
      exfalso
      apply alone
      refine ⟨innermost, inner.1.2, ?_, inner.2.1, inner.2.2, inner.1.1⟩
      -- A bracket that opens in an earlier element would be around the start of this one.
      by_contra earlier
      have here := mem_level_iff.mpr ⟨inner.1.2, Nat.lt_of_not_le earlier, by omega⟩
      rw [isElement.inside, level_closer among] at here
      have bounds := mem_level_iff.mp here
      omega
    · exact (List.mem_singleton.mp same).symm

end TokenStream

end TokenLint
