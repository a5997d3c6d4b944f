import TokenLint.Stream.IndexSearch
import TokenLint.Token.Basic

/-!
# Bracket matching

Openers and closers are matched with a stack. A closer matches only the innermost
open bracket, and only if both have one shape; any other closer stays alone and
leaves the stack as it is, so that the matched pairs nest properly. The closers that
stay alone are collected on the way, and the openers still on the stack at the end
join them.
-/

namespace TokenLint

/-- What a scan of brackets has found: the matched pairs in the order of their closers, and the
brackets left alone, closers as the scan met them and then the openers that no closer has taken. -/
structure BracketMatching where
  pairs : List BracketPair
  unmatched : List Nat

namespace BracketMatching

/-- Puts a matched pair in front of those found later. -/
def withPair (pair : BracketPair) (later : BracketMatching) : BracketMatching :=
  { later with pairs := pair :: later.pairs }

/-- Puts a closer that fits nothing in front of the brackets left alone later. -/
def withStray (index : Nat) (later : BracketMatching) : BracketMatching :=
  { later with unmatched := index :: later.unmatched }

end BracketMatching

/-- Matches the brackets in a list of kinds whose first has the given index. `stack` holds the
brackets that are open, innermost first; those left on it at the end are listed outermost first. -/
def matchBracketsFrom (stack : List (Nat × BracketShape)) (index : Nat) :
    List TokenKind → BracketMatching
  | [] => ⟨[], (stack.map Prod.fst).reverse⟩
  | kind :: rest =>
    match kind.opens?, kind.closes?, stack with
    | some shape, _, _ => matchBracketsFrom ((index, shape) :: stack) (index + 1) rest
    | none, some shape, (opener, innermost) :: outer =>
      if innermost = shape then
        (matchBracketsFrom outer (index + 1) rest).withPair ⟨opener, index⟩
      else (matchBracketsFrom stack (index + 1) rest).withStray index
    | none, some _, [] => (matchBracketsFrom [] (index + 1) rest).withStray index
    | none, none, _ => matchBracketsFrom stack (index + 1) rest

/-- Matches the brackets in a list of kinds. -/
def matchBrackets (kinds : List TokenKind) : BracketMatching := matchBracketsFrom [] 0 kinds

/-- The matched pairs of a list of kinds, in the order of their closers. -/
def bracketPairs (kinds : List TokenKind) : List BracketPair := (matchBrackets kinds).pairs

/-- The brackets left alone, sorted by index. -/
def unmatchedBrackets (kinds : List TokenKind) : List Nat :=
  (matchBrackets kinds).unmatched.mergeSort

/-- For each index, the index of the matching bracket. -/
abbrev PartnerTable := Array (Option Nat)

namespace PartnerTable

/-- Enters a pair in both directions. -/
def insert (table : PartnerTable) (pair : BracketPair) : PartnerTable :=
  (table.setIfInBounds pair.opener (some pair.closer)).setIfInBounds pair.closer (some pair.opener)

/-- The table of the matched pairs of some kinds. -/
def ofKinds (kinds : List TokenKind) : PartnerTable :=
  (bracketPairs kinds).foldl insert (Array.replicate kinds.length none)

/-- The partner of an index; none outside the table. -/
def partner? (table : PartnerTable) (index : Nat) : Option Nat := table.getD index none

end PartnerTable

/-- For each index from `index` on, the innermost pair around it that is not curly. `stack` holds
the pairs that are open, innermost first. -/
def enclosingBracketsFrom (partners : PartnerTable) (stack : List BracketPair) (index : Nat) :
    List TokenKind → List (Option BracketPair)
  | [] => []
  | kind :: rest =>
    let around := match stack with
      | innermost :: outer => if innermost.closer = index then outer else stack
      | [] => []
    let inside := match partners.partner? index with
      | some closer =>
        if kind.isOpener && kind ≠ .openCurly then ⟨index, closer⟩ :: around else around
      | none => around
    around.head? :: enclosingBracketsFrom partners inside (index + 1) rest

/-- For each index, the innermost parenthesis, square or short array pair around it. -/
def enclosingBrackets (partners : PartnerTable) (kinds : List TokenKind) :
    Array (Option BracketPair) :=
  (enclosingBracketsFrom partners [] 0 kinds).toArray

end TokenLint
