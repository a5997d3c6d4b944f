import TokenLint.Rule.Basic
import TokenLint.Navigation.Search

/-!
# Chains of negations

Several `!` in a row say no more than one, or than a cast to a boolean.
-/

namespace TokenLint

/-- A run of negation operators: how many there are, and the first code token after them. -/
structure NotChain where
  count : Nat
  stop : Nat
  deriving DecidableEq

/-- The chain whose latest known operator, number `count`, stands at an index. -/
def TokenStream.notChainFrom (stream : TokenStream) (count index : Nat) : NotChain :=
  match stream.nextCode? (index + 1) with
  | none => ⟨count, stream.size⟩
  | some following =>
    if stream.hasKind following .booleanNot then
      if index < following ∧ following < stream.size then
        notChainFrom stream (count + 1) following
      else ⟨count + 1, stream.size⟩
    else ⟨count, following⟩
termination_by stream.size - index

/-- The chain that begins with the sign at an index. -/
def TokenStream.notChain (stream : TokenStream) (index : Nat) : NotChain :=
  stream.notChainFrom 1 index

namespace NotChain

/-- The operator that does what the whole chain does. -/
def shortForm (chain : NotChain) : String := if chain.count % 2 = 0 then "(bool)" else "!"

/-- The edits that put the short form in place of the chain that begins at an index. -/
def edits (chain : NotChain) (index : Nat) : List Edit :=
  Rule.removals (index + 1) chain.stop ++ [⟨.replace, index, chain.shortForm⟩]

end NotChain

namespace Rule

/-- Reports a chain of negations once, at its first operator. -/
def notChain : Rule where
  id := "nested_not_operator_usage"
  name := "NestedNotOperatorUsage"
  category := "code_style"
  description := "Chained boolean not operators."
  interest := [.booleanNot]
  process stream index _ :=
    let chain := stream.notChain index
    if chain.count ≤ 1 then .done (some chain.stop)
    else
      (reportAndFix (fixableErrorAt index "NotAllowed" "Nested not operator detected." [])
        (chain.edits index)).bind fun _ => .done (some chain.stop)

end Rule

end TokenLint
