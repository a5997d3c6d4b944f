import TokenLint.Stream.Basic

/-!
# Searching a stream

The nearest token that a search accepts, from a place forward or backward. A search
names kinds to look for or to avoid, may ask for an exact text, and may be kept
within the current statement.
-/

namespace TokenLint

/-- What a search looks for. With `exclude` the kinds are the ones to avoid; with
`withinStatement` the search does not pass the edge of the statement. -/
structure Search where
  kinds : TokenKind → Bool
  exclude : Bool
  value : Option String
  withinStatement : Bool

namespace Search

/-- Whether a token is one that is searched for. -/
def accepts (search : Search) (token : Token) : Bool :=
  (search.kinds token.kind != search.exclude) &&
    (match search.value with
      | some value => token.content == value
      | none => true)

/-- Whether a token ends a forward search that is kept within the statement. -/
def stopsForward (search : Search) (token : Token) : Bool :=
  search.withinStatement && token.kind = .semicolon

/-- Whether a token ends a backward search that is kept within the statement. -/
def stopsBackward (search : Search) (token : Token) : Bool :=
  search.withinStatement && (token.kind = .semicolon || token.kind = .openCurly)

end Search

namespace TokenStream

variable (stream : TokenStream)

/-- Whether there is a token at an index and it has a property. -/
def holdsAt (property : Token → Bool) (index : Nat) : Bool := (stream.token? index).any property

/-- The first token from `start` up to but not including `stop` with a property. -/
def firstWith? (property : Token → Bool) (start stop : Nat) : Option Nat :=
  firstIndex? (stream.holdsAt property) start (min stop stream.size)

/-- The last token below `stop` and not below `low` with a property. -/
def lastWith? (property : Token → Bool) (low stop : Nat) : Option Nat :=
  lastIndex? (stream.holdsAt property) low (min stop stream.size)

/-- The first token that a search accepts from `start` up to but not including `stop`. -/
def findNext? (search : Search) (start stop : Nat) : Option Nat :=
  (stream.firstWith? (fun token => search.accepts token || search.stopsForward token) start
    stop).filter (stream.holdsAt search.accepts)

/-- The last token that a search accepts below `stop` and not below `low`. -/
def findPrevious? (search : Search) (low stop : Nat) : Option Nat :=
  (stream.lastWith? (fun token => search.accepts token || search.stopsBackward token) low
    stop).filter (stream.holdsAt search.accepts)

/-- The first token of a kind from `start` up to but not including `stop`. -/
def nextOf? (kind : TokenKind) (start stop : Nat) : Option Nat :=
  stream.firstWith? (fun token => token.kind = kind) start stop

/-- The last token of a kind below `stop` and not below `low`. -/
def previousOf? (kind : TokenKind) (low stop : Nat) : Option Nat :=
  stream.lastWith? (fun token => token.kind = kind) low stop

/-- The first code token from `start` up to but not including `stop`. -/
def nextCodeBefore? (start stop : Nat) : Option Nat :=
  stream.firstWith? (fun token => !token.isTrivia) start stop

/-- The last code token below `stop` and not below `low`. -/
def previousCodeFrom? (low stop : Nat) : Option Nat :=
  stream.lastWith? (fun token => !token.isTrivia) low stop

/-- The first code token from `start` on. -/
def nextCode? (start : Nat) : Option Nat := stream.nextCodeBefore? start stream.size

/-- The last code token before an index. -/
def previousCode? (stop : Nat) : Option Nat := stream.previousCodeFrom? 0 stop

end TokenStream

end TokenLint
