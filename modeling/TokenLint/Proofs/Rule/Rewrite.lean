import TokenLint.Proofs.Lexer.Edited
import TokenLint.Proofs.Rule.Builtin
import TokenLint.Proofs.Run.Commits
import TokenLint.Proofs.Text.Lower

/-!
# Fixes that no neighbour can spoil

Four of the built-in rules propose only two kinds of batches: one that exchanges the name
of a function for another one, and one that drops the tokens between the marks of a
ternary. Seven others propose nothing. The fixes of the rules that are left take no
account of the tokens around the ones that they edit.
-/

namespace TokenLint

namespace Rule

/-- The names that rules exchange for others. -/
def nameReplacements : List (String × String) :=
  timeReplacements ++ randomReplacements ++ searchReplacements

/-- The rules whose fixes look at no token beside the ones that they edit. -/
def unguarded : List Rule := [
  .concatenationSpacing, .strictTypes, .oldConstructor, .nullCheck, .notChain, .incrementByOne,
  .selfAssignment, .constantTernary, .longArray]

theorem lowersWithin_neutralChars : Text.LowersWithin Lexer.neutralChars :=
  ⟨by decide +kernel, by decide, by decide⟩

/-- The names that rules exchange may be exchanged wherever they stand. -/
theorem exchange_of_mem_nameReplacements {old new : String} (isName : Lexer.IsName old.toList)
    (listed : (Text.lower old, new) ∈ nameReplacements) :
    Lexer.Exchange old.toList new.toList := by
  have listings : ∀ entry ∈ nameReplacements,
      (∃ char ∈ Lexer.neutralChars, entry.1.toList.head? = some char) ∧
      (∃ char ∈ Lexer.neutralChars, entry.2.toList.head? = some char) ∧
      entry.2.toList.all Lexer.isNamePart = true := by
    decide
  have uncast : ∀ entry ∈ nameReplacements, ∀ cast ∈ Lexer.castNames,
      ∀ ending ∈ cast.1.toList.tails, Lexer.spellsWord ending entry.2.toList = false := by
    decide
  rcases listings _ listed with ⟨⟨letter, neutral, old_head⟩, new_head, inside⟩
  refine ⟨isName, ?_, ?_, new_head, uncast _ listed⟩
  · rcases new_head with ⟨first, first_neutral, head_eq⟩
    rcases List.head?_eq_some_iff.mp head_eq with ⟨rest, new_eq⟩
    have starts : ∀ char ∈ Lexer.neutralChars, Lexer.isNameStart char = true := by decide
    simp only [new_eq, List.all_cons, Bool.and_eq_true, List.all_eq_true] at inside ⊢
    exact ⟨starts first first_neutral, inside.2⟩
  · cases text_eq : old.toList with
    | nil => exact absurd text_eq isName.ne_nil
    | cons first rest =>
        exact ⟨first, lowersWithin_neutralChars.head_mem_of_lower text_eq old_head neutral, rfl⟩

end Rule

/-- Batches that exchange the name of a function, or drop what stands between the marks of a
ternary. -/
inductive TokenStream.Rewrites (stream : TokenStream) : List Edit → Prop where
  | rename {index : Nat} {name : String} (word : stream.hasKind index .identifier = true)
      (listed : (Text.lower (stream.contentAt index), name) ∈ Rule.nameReplacements) :
      Rewrites stream [⟨.replace, index, name⟩]
  | contract {start stop : Nat} (opens : stream.hasKind start .ternaryThen = true)
      (closes : stream.hasKind stop .ternaryElse = true) :
      Rewrites stream (Rule.removals (start + 1) stop)

variable {stream : TokenStream}

theorem TokenStream.Rewrites.covers {edits : List Edit} (rewrites : stream.Rewrites edits) :
    stream.Covers edits := by
  cases rewrites with
  | rename word listed => simp [lt_size_of_hasKind word]
  | contract opens closes => exact covers_removals (Nat.le_of_lt (lt_size_of_hasKind closes))

theorem eq_of_contains_singleton {kind wanted : TokenKind}
    (found : [wanted].contains kind = true) : kind = wanted := by
  simpa using found

/-- What the built-in rules propose apart from those whose fixes are unguarded. -/
theorem Rule.proposesOn_rewrites {rule : Rule} (builtin : rule ∈ Rule.builtin)
    (guarded : rule ∉ Rule.unguarded) (bounded : stream.Bounded) :
    rule.ProposesOn stream stream.Rewrites := by
  intro token member interested options
  have here : stream.hasKind token.index token.kind = true := by
    simp [TokenStream.hasKind, TokenStream.kind?, bounded.token?_of_mem member]
  have rename : token.kind = .identifier → ∀ name,
      (Text.lower (stream.contentAt token.index), name) ∈ nameReplacements →
      stream.Rewrites [⟨.replace, token.index, name⟩] := fun isWord name listed =>
    .rename (isWord ▸ here) listed
  simp only [unguarded, List.mem_cons, List.not_mem_nil, or_false, not_or] at guarded
  rcases guarded with ⟨notSpacing, notStrict, notConstructor, notNull, notChained, notIncrement,
    notSelf, notConstant, notArray⟩
  simp only [Rule.builtin, List.mem_cons, List.not_mem_nil, or_false] at builtin
  rcases builtin with rfl | rfl | rfl | rfl | rfl | rfl | rfl | rfl | rfl | rfl | rfl | rfl | rfl |
    rfl | rfl | rfl | rfl | rfl | rfl | rfl
  · exact proposes_arrayPush options
  · exact absurd rfl notSpacing
  · exact absurd rfl notStrict
  · exact absurd rfl notConstructor
  · exact proposes_duplicateKey options
  · exact proposes_duplicateCase options
  · have asks : token.kind = .ternaryThen := eq_of_contains_singleton interested
    exact proposes_elvisOperator (fun colon answered =>
      .contract (asks ▸ here) (TokenStream.hasKind_of_ternaryElse? answered)) options
  · exact proposes_foreachVariable options
  · exact absurd rfl notNull
  · have isWord : token.kind = .identifier := eq_of_contains_singleton interested
    exact proposes_renameCalls hasNoArguments fun name listed =>
      rename isWord name (List.mem_append_left _ (List.mem_append_left _ listed))
  · exact absurd rfl notChained
  · exact proposes_nestedIf options
  · have isWord : token.kind = .identifier := eq_of_contains_singleton interested
    exact proposes_renameCalls hasCaselessNeedle fun name listed =>
      rename isWord name (List.mem_append_right _ listed)
  · exact absurd rfl notIncrement
  · have isWord : token.kind = .identifier := eq_of_contains_singleton interested
    exact proposes_renameCalls (fun _ _ => true) fun name listed =>
      rename isWord name (List.mem_append_left _ (List.mem_append_right _ listed))
  · exact absurd rfl notSelf
  · exact absurd rfl notConstant
  · exact proposes_tooManyParameters options
  · exact absurd rfl notArray
  · exact proposes_catchOrder options

end TokenLint
