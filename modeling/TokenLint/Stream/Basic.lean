import TokenLint.Lexer.Scan
import TokenLint.Stream.Scope

/-!
# Token streams

A stream is the list of a source's tokens together with everything that can be said
about their nesting, worked out once from the kinds alone.
-/

namespace TokenLint

/-- An annotated sequence of tokens. `unmatched` lists the brackets without a partner. -/
structure TokenStream where
  tokens : Array Token
  unmatched : List Nat

namespace TokenStream

/-- The stream of a list of lexemes. Unmatched brackets are listed, never refused. -/
def ofLexemes (lexemes : List Lexeme) : TokenStream :=
  let kindList := lexemes.map Lexeme.kind
  let kinds := kindList.toArray
  let partners := PartnerTable.ofKinds kindList
  let brackets := enclosingBrackets partners kindList
  let depths := (depthsFrom kinds partners [] 0 kindList).toArray
  let scopes := ScopeTable.ofDepths kinds partners depths
  let token (index : Nat) (lexeme : Lexeme) : Token :=
    let depth := depths.getD index default
    { index
      kind := lexeme.kind
      content := lexeme.content
      position := lexeme.position
      level := depth.level
      enclosingScope := depth.enclosing
      enclosingBracket := brackets.getD index none
      partner := partners.partner? index
      scope := scopes.getD index none
      parenthesis := ownedParenthesis? kinds partners index
      conditions := depth.conditions }
  ⟨(lexemes.mapIdx token).toArray, unmatchedBrackets kindList⟩

variable (stream : TokenStream)

/-- The number of tokens. -/
def size : Nat := stream.tokens.size

/-- The token at an index. -/
def token? (index : Nat) : Option Token := stream.tokens[index]?

/-- The kind of the token at an index. -/
def kind? (index : Nat) : Option TokenKind := (stream.token? index).map Token.kind

/-- Whether a token of a kind stands at an index. -/
def hasKind (index : Nat) (kind : TokenKind) : Bool := stream.kind? index == some kind

/-- Whether a token of some class of kinds stands at an index. -/
def kindIs (index : Nat) (inClass : TokenKind → Bool) : Bool := (stream.kind? index).any inClass

/-- The bracket that matches the one at an index. -/
def partner? (index : Nat) : Option Nat := (stream.token? index).bind Token.partner

/-- The text of the token at an index; empty outside the stream. -/
def contentAt (index : Nat) : String := ((stream.token? index).map Token.content).getD ""

/-- The source of a stream: the texts of all tokens, one behind the other. -/
def source : String := String.join (stream.tokens.toList.map Token.content)

/-- Whether every bracket has a partner. -/
def isWellFormed : Bool := stream.unmatched.isEmpty

/-- A one-line description of a stream. -/
def summary : String :=
  "TokenStream(" ++ toString stream.size ++ " tokens, " ++ toString stream.unmatched.length ++
    " unmatched)"

/-- The text of the tokens from `start` up to but not including `stop`. -/
def textBetween (start stop : Nat) : String :=
  String.join ((stream.tokens.extract start stop).toList.map Token.content)

end TokenStream

/-- The stream of a source, with unmatched brackets allowed. -/
def tokenizeLenient (source : String) : Except Lexer.LexFailure TokenStream :=
  (Lexer.lex source).map TokenStream.ofLexemes

/-- The stream of a source whose brackets all match; the first that does not is an error. -/
def tokenize (source : String) : Except Lexer.LexFailure TokenStream := do
  let stream ← tokenizeLenient source
  match stream.unmatched.head?.bind stream.token? with
  | some token => .error (.malformed ⟨.unmatchedBracket token.content, token.position⟩)
  | none => .ok stream

end TokenLint
