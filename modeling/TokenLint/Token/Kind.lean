/-!
# Token kinds

The lexical categories of PHP source text, their printed labels, and the classes
of kinds that the bracket table, the navigation queries and the rules test for.
-/

namespace TokenLint

/-- The four bracket shapes; an opener and a closer fit when they share a shape. -/
inductive BracketShape where
  | parenthesis
  | square
  | shortArray
  | curly
  deriving DecidableEq, Repr

/-- Lexical category of a token. -/
inductive TokenKind where
  -- markup and trivia
  | inlineHtml
  | openTag
  | openTagWithEcho
  | closeTag
  | whitespace
  | comment
  | docComment
  -- operands
  | variable
  | identifier
  | integerNumber
  | floatNumber
  | plainString
  | templateString
  | heredoc
  | trueLiteral
  | falseLiteral
  | nullLiteral
  | selfName
  | parentName
  | dollar
  | namespaceSeparator
  -- keywords
  | kwAbstract
  | kwArray
  | arrayHint
  | kwAs
  | kwBreak
  | kwCase
  | kwCatch
  | kwClass
  | kwClone
  | closure
  | kwConst
  | kwContinue
  | kwDeclare
  | kwDefault
  | kwDo
  | kwEcho
  | kwElse
  | kwElseif
  | kwEmpty
  | kwExtends
  | kwFinal
  | kwFinally
  | kwFn
  | kwFor
  | kwForeach
  | kwFunction
  | kwGlobal
  | kwIf
  | kwImplements
  | kwInclude
  | kwInstanceof
  | kwInterface
  | kwIsset
  | kwList
  | kwMatch
  | kwNamespace
  | kwNew
  | kwPrint
  | kwPrivate
  | kwProtected
  | kwPublic
  | kwRequire
  | kwReturn
  | kwStatic
  | kwSwitch
  | kwThrow
  | kwTrait
  | kwTry
  | kwUse
  | kwVar
  | kwWhile
  | kwYield
  | kwLogicalAnd
  | kwLogicalOr
  | kwLogicalXor
  -- casts
  | arrayCast
  | boolCast
  | doubleCast
  | intCast
  | objectCast
  | stringCast
  | unsetCast
  -- brackets
  | openParenthesis
  | closeParenthesis
  | openSquare
  | closeSquare
  | openShortArray
  | closeShortArray
  | openCurly
  | closeCurly
  -- assignment operators
  | equal
  | plusEqual
  | minusEqual
  | multiplyEqual
  | divideEqual
  | concatEqual
  | modulusEqual
  | powerEqual
  | andEqual
  | orEqual
  | xorEqual
  | shiftLeftEqual
  | shiftRightEqual
  | coalesceEqual
  -- comparison operators
  | isIdentical
  | isNotIdentical
  | isEqual
  | isNotEqual
  | lessOrEqual
  | greaterOrEqual
  | lessThan
  | greaterThan
  | spaceship
  -- other operators and punctuation
  | doubleArrow
  | objectOperator
  | nullsafeOperator
  | doubleColon
  | increment
  | decrement
  | power
  | coalesce
  | booleanAnd
  | booleanOr
  | booleanNot
  | shiftLeft
  | shiftRight
  | ellipsis
  | plus
  | minus
  | multiply
  | divide
  | modulus
  | concat
  | bitwiseAnd
  | bitwiseOr
  | bitwiseXor
  | bitwiseNot
  | atSign
  | ternaryThen
  | ternaryElse
  | nullableMark
  | colon
  | semicolon
  | comma
  | backtick
  deriving DecidableEq, Inhabited

namespace TokenKind

/-- Every kind, in the order of declaration. -/
def all : List TokenKind := [
  .inlineHtml, .openTag, .openTagWithEcho, .closeTag, .whitespace, .comment, .docComment,
  .variable, .identifier, .integerNumber, .floatNumber, .plainString, .templateString, .heredoc,
  .trueLiteral, .falseLiteral, .nullLiteral, .selfName, .parentName, .dollar,
  .namespaceSeparator, .kwAbstract, .kwArray, .arrayHint, .kwAs, .kwBreak, .kwCase, .kwCatch,
  .kwClass, .kwClone, .closure, .kwConst, .kwContinue, .kwDeclare, .kwDefault, .kwDo, .kwEcho,
  .kwElse, .kwElseif, .kwEmpty, .kwExtends, .kwFinal, .kwFinally, .kwFn, .kwFor, .kwForeach,
  .kwFunction, .kwGlobal, .kwIf, .kwImplements, .kwInclude, .kwInstanceof, .kwInterface,
  .kwIsset, .kwList, .kwMatch, .kwNamespace, .kwNew, .kwPrint, .kwPrivate, .kwProtected,
  .kwPublic, .kwRequire, .kwReturn, .kwStatic, .kwSwitch, .kwThrow, .kwTrait, .kwTry, .kwUse,
  .kwVar, .kwWhile, .kwYield, .kwLogicalAnd, .kwLogicalOr, .kwLogicalXor, .arrayCast, .boolCast,
  .doubleCast, .intCast, .objectCast, .stringCast, .unsetCast, .openParenthesis,
  .closeParenthesis, .openSquare, .closeSquare, .openShortArray, .closeShortArray, .openCurly,
  .closeCurly, .equal, .plusEqual, .minusEqual, .multiplyEqual, .divideEqual, .concatEqual,
  .modulusEqual, .powerEqual, .andEqual, .orEqual, .xorEqual, .shiftLeftEqual, .shiftRightEqual,
  .coalesceEqual, .isIdentical, .isNotIdentical, .isEqual, .isNotEqual, .lessOrEqual,
  .greaterOrEqual, .lessThan, .greaterThan, .spaceship, .doubleArrow, .objectOperator,
  .nullsafeOperator, .doubleColon, .increment, .decrement, .power, .coalesce, .booleanAnd,
  .booleanOr, .booleanNot, .shiftLeft, .shiftRight, .ellipsis, .plus, .minus, .multiply,
  .divide, .modulus, .concat, .bitwiseAnd, .bitwiseOr, .bitwiseXor, .bitwiseNot, .atSign,
  .ternaryThen, .ternaryElse, .nullableMark, .colon, .semicolon, .comma, .backtick]

/-- The label under which a kind is reported and configured. -/
def label : TokenKind → String
  | .inlineHtml => "T_INLINE_HTML"
  | .openTag => "T_OPEN_TAG"
  | .openTagWithEcho => "T_OPEN_TAG_WITH_ECHO"
  | .closeTag => "T_CLOSE_TAG"
  | .whitespace => "T_WHITESPACE"
  | .comment => "T_COMMENT"
  | .docComment => "T_DOC_COMMENT"
  | .variable => "T_VARIABLE"
  | .identifier => "T_STRING"
  | .integerNumber => "T_LNUMBER"
  | .floatNumber => "T_DNUMBER"
  | .plainString => "T_CONSTANT_ENCAPSED_STRING"
  | .templateString => "T_DOUBLE_QUOTED_STRING"
  | .heredoc => "T_HEREDOC"
  | .trueLiteral => "T_TRUE"
  | .falseLiteral => "T_FALSE"
  | .nullLiteral => "T_NULL"
  | .selfName => "T_SELF"
  | .parentName => "T_PARENT"
  | .dollar => "T_DOLLAR"
  | .namespaceSeparator => "T_NS_SEPARATOR"
  | .kwAbstract => "T_ABSTRACT"
  | .kwArray => "T_ARRAY"
  | .arrayHint => "T_ARRAY_HINT"
  | .kwAs => "T_AS"
  | .kwBreak => "T_BREAK"
  | .kwCase => "T_CASE"
  | .kwCatch => "T_CATCH"
  | .kwClass => "T_CLASS"
  | .kwClone => "T_CLONE"
  | .closure => "T_CLOSURE"
  | .kwConst => "T_CONST"
  | .kwContinue => "T_CONTINUE"
  | .kwDeclare => "T_DECLARE"
  | .kwDefault => "T_DEFAULT"
  | .kwDo => "T_DO"
  | .kwEcho => "T_ECHO"
  | .kwElse => "T_ELSE"
  | .kwElseif => "T_ELSEIF"
  | .kwEmpty => "T_EMPTY"
  | .kwExtends => "T_EXTENDS"
  | .kwFinal => "T_FINAL"
  | .kwFinally => "T_FINALLY"
  | .kwFn => "T_FN"
  | .kwFor => "T_FOR"
  | .kwForeach => "T_FOREACH"
  | .kwFunction => "T_FUNCTION"
  | .kwGlobal => "T_GLOBAL"
  | .kwIf => "T_IF"
  | .kwImplements => "T_IMPLEMENTS"
  | .kwInclude => "T_INCLUDE"
  | .kwInstanceof => "T_INSTANCEOF"
  | .kwInterface => "T_INTERFACE"
  | .kwIsset => "T_ISSET"
  | .kwList => "T_LIST"
  | .kwMatch => "T_MATCH"
  | .kwNamespace => "T_NAMESPACE"
  | .kwNew => "T_NEW"
  | .kwPrint => "T_PRINT"
  | .kwPrivate => "T_PRIVATE"
  | .kwProtected => "T_PROTECTED"
  | .kwPublic => "T_PUBLIC"
  | .kwRequire => "T_REQUIRE"
  | .kwReturn => "T_RETURN"
  | .kwStatic => "T_STATIC"
  | .kwSwitch => "T_SWITCH"
  | .kwThrow => "T_THROW"
  | .kwTrait => "T_TRAIT"
  | .kwTry => "T_TRY"
  | .kwUse => "T_USE"
  | .kwVar => "T_VAR"
  | .kwWhile => "T_WHILE"
  | .kwYield => "T_YIELD"
  | .kwLogicalAnd => "T_LOGICAL_AND"
  | .kwLogicalOr => "T_LOGICAL_OR"
  | .kwLogicalXor => "T_LOGICAL_XOR"
  | .arrayCast => "T_ARRAY_CAST"
  | .boolCast => "T_BOOL_CAST"
  | .doubleCast => "T_DOUBLE_CAST"
  | .intCast => "T_INT_CAST"
  | .objectCast => "T_OBJECT_CAST"
  | .stringCast => "T_STRING_CAST"
  | .unsetCast => "T_UNSET_CAST"
  | .openParenthesis => "T_OPEN_PARENTHESIS"
  | .closeParenthesis => "T_CLOSE_PARENTHESIS"
  | .openSquare => "T_OPEN_SQUARE_BRACKET"
  | .closeSquare => "T_CLOSE_SQUARE_BRACKET"
  | .openShortArray => "T_OPEN_SHORT_ARRAY"
  | .closeShortArray => "T_CLOSE_SHORT_ARRAY"
  | .openCurly => "T_OPEN_CURLY_BRACKET"
  | .closeCurly => "T_CLOSE_CURLY_BRACKET"
  | .equal => "T_EQUAL"
  | .plusEqual => "T_PLUS_EQUAL"
  | .minusEqual => "T_MINUS_EQUAL"
  | .multiplyEqual => "T_MUL_EQUAL"
  | .divideEqual => "T_DIV_EQUAL"
  | .concatEqual => "T_CONCAT_EQUAL"
  | .modulusEqual => "T_MOD_EQUAL"
  | .powerEqual => "T_POW_EQUAL"
  | .andEqual => "T_AND_EQUAL"
  | .orEqual => "T_OR_EQUAL"
  | .xorEqual => "T_XOR_EQUAL"
  | .shiftLeftEqual => "T_SL_EQUAL"
  | .shiftRightEqual => "T_SR_EQUAL"
  | .coalesceEqual => "T_COALESCE_EQUAL"
  | .isIdentical => "T_IS_IDENTICAL"
  | .isNotIdentical => "T_IS_NOT_IDENTICAL"
  | .isEqual => "T_IS_EQUAL"
  | .isNotEqual => "T_IS_NOT_EQUAL"
  | .lessOrEqual => "T_IS_SMALLER_OR_EQUAL"
  | .greaterOrEqual => "T_IS_GREATER_OR_EQUAL"
  | .lessThan => "T_LESS_THAN"
  | .greaterThan => "T_GREATER_THAN"
  | .spaceship => "T_SPACESHIP"
  | .doubleArrow => "T_DOUBLE_ARROW"
  | .objectOperator => "T_OBJECT_OPERATOR"
  | .nullsafeOperator => "T_NULLSAFE_OBJECT_OPERATOR"
  | .doubleColon => "T_DOUBLE_COLON"
  | .increment => "T_INC"
  | .decrement => "T_DEC"
  | .power => "T_POW"
  | .coalesce => "T_COALESCE"
  | .booleanAnd => "T_BOOLEAN_AND"
  | .booleanOr => "T_BOOLEAN_OR"
  | .booleanNot => "T_BOOLEAN_NOT"
  | .shiftLeft => "T_SL"
  | .shiftRight => "T_SR"
  | .ellipsis => "T_ELLIPSIS"
  | .plus => "T_PLUS"
  | .minus => "T_MINUS"
  | .multiply => "T_MULTIPLY"
  | .divide => "T_DIVIDE"
  | .modulus => "T_MODULUS"
  | .concat => "T_STRING_CONCAT"
  | .bitwiseAnd => "T_BITWISE_AND"
  | .bitwiseOr => "T_BITWISE_OR"
  | .bitwiseXor => "T_BITWISE_XOR"
  | .bitwiseNot => "T_BITWISE_NOT"
  | .atSign => "T_ASPERAND"
  | .ternaryThen => "T_INLINE_THEN"
  | .ternaryElse => "T_INLINE_ELSE"
  | .nullableMark => "T_NULLABLE"
  | .colon => "T_COLON"
  | .semicolon => "T_SEMICOLON"
  | .comma => "T_COMMA"
  | .backtick => "T_BACKTICK"

/-- The kind with a given label. -/
def ofLabel? (text : String) : Option TokenKind :=
  all.find? fun kind => kind.label == text

/-- Whitespace and comments: the kinds that carry no code. -/
def isTrivia : TokenKind → Bool
  | .whitespace | .comment | .docComment
    => true
  | _ => false

/-- The shape of the bracket that a kind opens. -/
def opens? : TokenKind → Option BracketShape
  | .openParenthesis => some .parenthesis
  | .openSquare => some .square
  | .openShortArray => some .shortArray
  | .openCurly => some .curly
  | _ => none

/-- The shape of the bracket that a kind closes. -/
def closes? : TokenKind → Option BracketShape
  | .closeParenthesis => some .parenthesis
  | .closeSquare => some .square
  | .closeShortArray => some .shortArray
  | .closeCurly => some .curly
  | _ => none

/-- Whether a kind opens a bracket. -/
def isOpener (kind : TokenKind) : Bool := kind.opens?.isSome

/-- Whether a kind closes a bracket. -/
def isCloser (kind : TokenKind) : Bool := kind.closes?.isSome

/-- Assignment operators, and the arrow between a key and its value. -/
def isAssignment : TokenKind → Bool
  | .equal | .plusEqual | .minusEqual | .multiplyEqual | .divideEqual | .concatEqual
  | .modulusEqual | .powerEqual | .andEqual | .orEqual | .xorEqual | .shiftLeftEqual
  | .shiftRightEqual | .coalesceEqual | .doubleArrow
    => true
  | _ => false

/-- Keywords that own the curly block behind them. -/
def isScopeOwner : TokenKind → Bool
  | .kwIf | .kwElseif | .kwElse | .kwFor | .kwForeach | .kwWhile | .kwDo | .kwSwitch
  | .kwFunction | .closure | .kwClass | .kwInterface | .kwTrait | .kwTry | .kwCatch | .kwFinally
  | .kwNamespace | .kwDeclare | .kwMatch
    => true
  | _ => false

/-- Scope owners whose body belongs to an expression and ends no statement. -/
def isExpressionScopeOwner : TokenKind → Bool
  | .closure | .kwMatch
    => true
  | _ => false

/-- Keywords that control the parenthesis pair written directly after them. -/
def isParenthesisOwner : TokenKind → Bool
  | .kwIf | .kwElseif | .kwFor | .kwForeach | .kwWhile | .kwSwitch | .kwCatch | .kwFunction
  | .closure | .kwFn | .kwArray | .kwList | .kwIsset | .kwEmpty | .kwDeclare | .kwMatch
    => true
  | _ => false

/-- Kinds that end a statement when met from the left. -/
def isStatementTerminator : TokenKind → Bool
  | .semicolon | .comma | .doubleArrow | .colon | .openTag | .closeTag
    => true
  | _ => false

end TokenKind

end TokenLint
