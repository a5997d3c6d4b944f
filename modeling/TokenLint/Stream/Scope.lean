import TokenLint.Stream.Bracket

/-!
# Owners and scopes

Which keyword controls a parenthesis pair, which keyword owns a curly block, how
deep each token lies, and how far the label of a `case` reaches.
-/

namespace TokenLint

variable (kinds : Array TokenKind) (partners : PartnerTable)

/-- Whether a kind stands at an index. -/
def hasKind (kind : TokenKind) (index : Nat) : Bool := kinds[index]? == some kind

/-- The first index from `start` on that holds code. -/
def nextCodeIndex? (start : Nat) : Option Nat :=
  firstIndex? (fun index => kinds[index]?.any fun kind => !kind.isTrivia) start kinds.size

/-- Where the parenthesis of an owner at `index` has to stand. The name of a declared function and
the `&` before it are passed over, and so is the `&` of a closure. -/
def parenthesisPlace? (index : Nat) : Option Nat :=
  match kinds[index]? with
  | some .kwFunction =>
    firstIndex? (fun place => kinds[place]?.any fun kind =>
      !kind.isTrivia && kind ≠ .bitwiseAnd && kind ≠ .identifier) (index + 1) kinds.size
  | some .closure =>
    (nextCodeIndex? kinds (index + 1)).bind fun place =>
      if hasKind kinds .bitwiseAnd place then nextCodeIndex? kinds (place + 1) else some place
  | _ => nextCodeIndex? kinds (index + 1)

/-- The parenthesis pair that the token at `index` controls. -/
def ownedParenthesis? (index : Nat) : Option BracketPair :=
  if kinds[index]?.any TokenKind.isParenthesisOwner then
    (parenthesisPlace? kinds index).bind fun opener =>
      if hasKind kinds .openParenthesis opener then
        (partners.partner? opener).map fun closer => ⟨opener, closer⟩
      else none
  else none

/-- Kinds that end the backward search for the owner of a curly block. -/
def stopsOwnerSearch : TokenKind → Bool
  | .semicolon | .openCurly | .closeCurly | .openTag | .openTagWithEcho | .closeTag
  | .openParenthesis | .openSquare | .openShortArray | .doubleArrow | .inlineHtml
    => true
  | _ => false

/-- The owner of a curly block whose brace stands at the argument: the nearest owning keyword
before it, where bracket pairs other than curly ones are passed over as a whole. -/
def scopeOwner? : Nat → Option Nat
  | 0 => none
  | index + 1 =>
    match kinds[index]? with
    | none => none
    | some kind =>
      if kind.isCloser && kind ≠ .closeCurly then
        match partners.partner? index with
        | none => none
        | some opener => if opener ≤ index then scopeOwner? opener else none
      else if kind.isScopeOwner then some index
      else if stopsOwnerSearch kind then none
      else scopeOwner? index

/-- How a token lies in the curly scopes: its level, the innermost scope, the owners of all scopes
around it, and the scope that it opens. -/
structure Depth where
  level : Nat
  enclosing : Option Scope
  conditions : List Nat
  opened : Option Scope
  deriving Inhabited

/-- The scope that the token at `index` opens inside `outer` many scopes. -/
def openedScope? (kind : TokenKind) (index outer : Nat) : Option Scope :=
  if kind = .openCurly then
    (partners.partner? index).map fun closer =>
      ⟨index, some closer, scopeOwner? kinds partners index, outer + 1⟩
  else none

/-- The depth of every token of a list whose first has the given index. `stack` holds the scopes
that are open, innermost first. -/
def depthsFrom (stack : List Scope) (index : Nat) : List TokenKind → List Depth
  | [] => []
  | kind :: rest =>
    let around := match stack with
      | innermost :: outer =>
        if kind = .closeCurly ∧ innermost.closer = some index then outer else stack
      | [] => []
    let opened := openedScope? kinds partners kind index around.length
    let depth : Depth := {
      level := around.length
      enclosing := around.head?
      conditions := around.reverse.filterMap Scope.owner
      opened }
    depth :: depthsFrom (opened.toList ++ around) (index + 1) rest

/-- The sign that ends the label of a `case`: the first colon or semicolon from `index` on and
before `limit` that lies in no bracket of its own. -/
def labelEnd? (limit index : Nat) : Option Nat :=
  if index < limit then
    match kinds[index]? with
    | none => none
    | some kind =>
      if kind = .colon ∨ kind = .semicolon then some index
      else if kind.isOpener then
        match partners.partner? index with
        | none => none
        | some closer => if index ≤ closer then labelEnd? limit (closer + 1) else none
      else if kind.isCloser then none
      else labelEnd? limit (index + 1)
  else none
termination_by limit - index

/-- The scope of a `case` or `default` at `index` that lies directly in the body of a `switch`. -/
def caseScope? (index : Nat) (depth : Depth) : Option Scope :=
  match kinds[index]?, depth.enclosing with
  | some kind, some outer =>
    if (kind = .kwCase ∨ kind = .kwDefault) ∧ outer.owner.any (hasKind kinds .kwSwitch) then
      (labelEnd? kinds partners (outer.closer.getD kinds.size) (index + 1)).map fun colon =>
        ⟨colon, none, some index, depth.level + 1⟩
    else none
  | _, _ => none

/-- For each index, the scope that the token there opens, closes or owns. -/
abbrev ScopeTable := Array (Option Scope)

/-- Enters a curly scope at its two braces and its owner. -/
def ScopeTable.insert (table : ScopeTable) (scope : Scope) : ScopeTable :=
  (scope.opener :: scope.closer.toList ++ scope.owner.toList).foldl
    (fun table index => table.setIfInBounds index (some scope)) table

/-- The scopes of all tokens. The label of a `case` takes precedence over a block it owns. -/
def ScopeTable.ofDepths (depths : Array Depth) : ScopeTable :=
  let blocks := (depths.toList.filterMap Depth.opened).foldl insert
    (Array.replicate depths.size none)
  blocks.mapIdx fun index block =>
    (depths[index]?.bind (caseScope? kinds partners index)).or block

end TokenLint
