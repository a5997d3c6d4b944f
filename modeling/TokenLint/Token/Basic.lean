import TokenLint.Token.Kind

/-!
# Tokens

Positions in a source text, the lexemes a scan produces, and the tokens of an
annotated stream.
-/

namespace TokenLint

/-- A place in a source text; lines and columns count from one. -/
structure Position where
  line : Nat
  column : Nat
  deriving DecidableEq, Repr

namespace Position

/-- The place of the first character. -/
def start : Position := ⟨1, 1⟩

/-- The place after a character. Only a line feed starts a new line. -/
def next (position : Position) (char : Char) : Position :=
  if char = '\n' then ⟨position.line + 1, 1⟩ else ⟨position.line, position.column + 1⟩

/-- The place after a run of characters. -/
def after (position : Position) (chars : List Char) : Position :=
  chars.foldl next position

end Position

/-- A piece of source text with its kind and the place of its first character. -/
structure Lexeme where
  kind : TokenKind
  content : String
  position : Position
  deriving DecidableEq

/-- Two brackets that match each other, by index. -/
structure BracketPair where
  opener : Nat
  closer : Nat
  deriving DecidableEq, Repr

namespace BracketPair

/-- Whether an index lies strictly between the brackets. -/
def encloses (pair : BracketPair) (index : Int) : Bool :=
  (pair.opener : Int) < index && index < (pair.closer : Int)

end BracketPair

/-- A run of tokens with an owner: a curly block, or the body of a `case`.

A `case` scope runs from its colon to wherever the next label stands, so it has no closer.
`level` is the nesting level of the tokens inside. -/
structure Scope where
  opener : Nat
  closer : Option Nat
  owner : Option Nat
  level : Nat
  deriving DecidableEq, Repr

/-- A token of an annotated stream. -/
structure Token where
  /-- Position in the stream. -/
  index : Nat
  kind : TokenKind
  content : String
  position : Position
  /-- How many curly scopes are open around the token. -/
  level : Nat
  /-- The innermost curly scope around the token. -/
  enclosingScope : Option Scope
  /-- The innermost parenthesis, square or short array pair around the token. -/
  enclosingBracket : Option BracketPair
  partner : Option Nat
  /-- The scope that the token owns, opens or closes. -/
  scope : Option Scope
  parenthesis : Option BracketPair
  /-- The owners of the curly scopes around the token, outermost first. -/
  conditions : List Nat
  deriving DecidableEq

namespace Token

/-- Whether a token is whitespace or a comment. -/
def isTrivia (token : Token) : Bool := token.kind.isTrivia

end Token

end TokenLint
