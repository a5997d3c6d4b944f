import TokenLint.Proofs.Navigation.Bounds
import TokenLint.Proofs.Stream.Ternary

/-!
# Parentheses with an owner

The parentheses that a keyword controls are a pair of brackets behind it.
-/

namespace TokenLint

variable {lexemes : List Lexeme} {kinds : List TokenKind} {index : Nat} {pair : BracketPair}
  {token : Token}

theorem of_ownedParenthesis?
    (owned : ownedParenthesis? kinds.toArray (.ofKinds kinds) index = some pair) :
    parenthesisPlace? kinds.toArray index = some pair.opener ∧
      kinds[pair.opener]? = some .openParenthesis ∧ pair ∈ bracketPairs kinds := by
  rw [ownedParenthesis?] at owned
  split at owned
  · rcases Option.bind_eq_some_iff.mp owned with ⟨opener, place, owned⟩
    split at owned
    · rename_i opens
      rcases Option.map_eq_some_iff.mp owned with ⟨closer, matched, rfl⟩
      have found : kinds[opener]? = some .openParenthesis := by simpa [hasKind] using opens
      exact ⟨place, found, (PartnerTable.partner?_of_isOpener found rfl).mp matched⟩
    · cases owned
  · cases owned

theorem isTrivia_of_isParenthesisOwner {kind : TokenKind}
    (isOwner : kind.isParenthesisOwner = true) : kind.isTrivia = false := by
  cases kind <;> first | rfl | cases isOwner

theorem exists_owner_of_ownedParenthesis?
    (owned : ownedParenthesis? kinds.toArray (.ofKinds kinds) index = some pair) :
    ∃ kind, kinds[index]? = some kind ∧ kind.isParenthesisOwner = true := by
  rw [ownedParenthesis?] at owned
  split at owned
  · rename_i isOwner
    rw [List.getElem?_toArray] at isOwner
    exact (Option.any_eq_true _ _).mp isOwner
  · cases owned

/-- Between a keyword and its parenthesis there are blanks, comments and the sign of a reference,
and behind the keyword `function` also names. -/
theorem of_parenthesisPlace? {opener : Nat}
    (place : parenthesisPlace? kinds.toArray index = some opener) :
    index < opener ∧ ∀ between kind, index < between → between < opener →
      kinds[between]? = some kind → kind.isTrivia = true ∨ kind = .bitwiseAnd ∨
        kind = .identifier ∧ kinds[index]? = some .kwFunction := by
  have of_next : ∀ {start found}, nextCodeIndex? kinds.toArray start = some found →
      start ≤ found ∧ ∀ between kind, start ≤ between → between < found →
        kinds[between]? = some kind → kind.isTrivia = true := by
    intro start found next
    rcases firstIndex?_eq_some next with ⟨after, -, -, nearest⟩
    refine ⟨after, ?_⟩
    intro between kind lower upper here
    simpa [here] using nearest between lower upper
  rw [parenthesisPlace?] at place
  split at place
  · rename_i isFunction
    rcases firstIndex?_eq_some place with ⟨after, -, -, nearest⟩
    refine ⟨after, ?_⟩
    intro between kind lower upper here
    have passed := nearest between lower upper
    simp only [List.getElem?_toArray, here, Option.any_some, Bool.and_eq_false_iff,
      Bool.not_eq_false', decide_eq_false_iff_not, not_not, or_assoc] at passed
    rw [List.getElem?_toArray] at isFunction
    simpa [isFunction] using passed
  · rcases Option.bind_eq_some_iff.mp place with ⟨first, next, place⟩
    rcases of_next next with ⟨after, blanks⟩
    split at place
    · rename_i isReference
      rcases of_next place with ⟨later, further⟩
      refine ⟨by omega, ?_⟩
      intro between kind lower upper here
      rcases Nat.lt_trichotomy between first with earlier | rfl | behind
      · exact .inl (blanks between kind lower earlier here)
      · have reference : kinds[between]? = some .bitwiseAnd := by
          simpa [hasKind] using isReference
        exact .inr (.inl (Option.some.inj (here.symm.trans reference)))
      · exact .inl (further between kind behind upper here)
    · cases place
      refine ⟨after, ?_⟩
      intro between kind lower upper here
      exact .inl (blanks between kind lower upper here)
  · rcases of_next place with ⟨after, blanks⟩
    refine ⟨after, ?_⟩
    intro between kind lower upper here
    exact .inl (blanks between kind lower upper here)

theorem parenthesisPlace?_of_function {opener : Nat} {kind : TokenKind}
    (isFunction : kinds[index]? = some .kwFunction) (after : index < opener)
    (here : kinds[opener]? = some kind)
    (stops : ¬(kind.isTrivia = true ∨ kind = .bitwiseAnd ∨ kind = .identifier))
    (passes : ∀ between other, index < between → between < opener → kinds[between]? = some other →
      other.isTrivia = true ∨ other = .bitwiseAnd ∨ other = .identifier) :
    parenthesisPlace? kinds.toArray index = some opener := by
  have opener_lt := (List.getElem?_eq_some_iff.mp here).1
  simp only [parenthesisPlace?, List.getElem?_toArray, isFunction]
  apply firstIndex?_of_nearest after
  · simpa using opener_lt
  · simp only [not_or] at stops
    simp [here, stops]
  · intro between lower upper
    have found : kinds[between]? = some kinds[between] :=
      List.getElem?_eq_getElem (upper.trans opener_lt)
    have passed := passes between _ lower upper found
    simp only [found, Option.any_some, Bool.and_eq_false_iff, Bool.not_eq_false',
      decide_eq_false_iff_not, not_not, or_assoc]
    exact passed

theorem exists_ownedParenthesis? {opener : Nat} {kind : TokenKind} (strict : Strict kinds)
    (isOwner : kind.isParenthesisOwner = true) (found : kinds[index]? = some kind)
    (place : parenthesisPlace? kinds.toArray index = some opener)
    (opens : kinds[opener]? = some .openParenthesis) :
    ∃ closer, ownedParenthesis? kinds.toArray (.ofKinds kinds) index = some ⟨opener, closer⟩ := by
  rcases strict.opener opens rfl with ⟨closer, member⟩
  have matched : (PartnerTable.ofKinds kinds).partner? opener = some closer :=
    (PartnerTable.partner?_ofKinds kinds opener closer).mpr (.inl member)
  refine ⟨closer, ?_⟩
  simp [ownedParenthesis?, found, isOwner, place, hasKind, opens, matched]

namespace TokenStream

theorem parenthesis_ofLexemes (here : (ofLexemes lexemes).token? index = some token) :
    token.parenthesis = ownedParenthesis? (lexemes.map Lexeme.kind).toArray
      (.ofKinds (lexemes.map Lexeme.kind)) index := by
  simp only [token?, ofLexemes, List.getElem?_toArray, List.getElem?_mapIdx,
    Option.map_eq_some_iff] at here
  rcases here with ⟨lexeme, -, rfl⟩
  rfl

end TokenStream

end TokenLint
