import TokenLint.Token.Kind

/-!
# Words and signs

The fixed vocabulary of the source language: keywords, cast names and operators,
and the classes of kinds that decide how the next word or sign is read.
-/

namespace TokenLint.Lexer

/-- Keywords by their lower-case spelling. -/
def keywords : List (String × TokenKind) := [
  ("abstract", .kwAbstract), ("and", .kwLogicalAnd), ("array", .kwArray), ("as", .kwAs),
  ("break", .kwBreak), ("case", .kwCase), ("catch", .kwCatch), ("class", .kwClass),
  ("clone", .kwClone), ("const", .kwConst), ("continue", .kwContinue), ("declare", .kwDeclare),
  ("default", .kwDefault), ("do", .kwDo), ("echo", .kwEcho), ("else", .kwElse),
  ("elseif", .kwElseif), ("empty", .kwEmpty), ("extends", .kwExtends), ("false", .falseLiteral),
  ("final", .kwFinal), ("finally", .kwFinally), ("fn", .kwFn), ("for", .kwFor),
  ("foreach", .kwForeach), ("function", .kwFunction), ("global", .kwGlobal), ("if", .kwIf),
  ("implements", .kwImplements), ("include", .kwInclude), ("include_once", .kwInclude),
  ("instanceof", .kwInstanceof), ("interface", .kwInterface), ("isset", .kwIsset),
  ("list", .kwList), ("match", .kwMatch), ("namespace", .kwNamespace), ("new", .kwNew),
  ("null", .nullLiteral), ("or", .kwLogicalOr), ("parent", .parentName), ("print", .kwPrint),
  ("private", .kwPrivate), ("protected", .kwProtected), ("public", .kwPublic),
  ("require", .kwRequire), ("require_once", .kwRequire), ("return", .kwReturn),
  ("self", .selfName), ("static", .kwStatic), ("switch", .kwSwitch), ("throw", .kwThrow),
  ("trait", .kwTrait), ("true", .trueLiteral), ("try", .kwTry), ("use", .kwUse),
  ("var", .kwVar), ("while", .kwWhile), ("xor", .kwLogicalXor), ("yield", .kwYield)]

/-- Cast names by their lower-case spelling. -/
def castNames : List (String × TokenKind) := [
  ("int", .intCast), ("integer", .intCast), ("bool", .boolCast), ("boolean", .boolCast),
  ("float", .doubleCast), ("double", .doubleCast), ("real", .doubleCast),
  ("string", .stringCast), ("binary", .stringCast), ("array", .arrayCast),
  ("object", .objectCast), ("unset", .unsetCast)]

/-- Operators and punctuation, longer spellings first. -/
def operators : List (String × TokenKind) := [
  ("<=>", .spaceship), ("**=", .powerEqual), ("...", .ellipsis), ("<<=", .shiftLeftEqual),
  (">>=", .shiftRightEqual), ("===", .isIdentical), ("!==", .isNotIdentical),
  ("??=", .coalesceEqual), ("?->", .nullsafeOperator), ("==", .isEqual), ("!=", .isNotEqual),
  ("<>", .isNotEqual), ("<=", .lessOrEqual), (">=", .greaterOrEqual), ("=>", .doubleArrow),
  ("->", .objectOperator), ("::", .doubleColon), ("++", .increment), ("--", .decrement),
  ("+=", .plusEqual), ("-=", .minusEqual), ("*=", .multiplyEqual), ("/=", .divideEqual),
  (".=", .concatEqual), ("%=", .modulusEqual), ("&=", .andEqual), ("|=", .orEqual),
  ("^=", .xorEqual), ("**", .power), ("??", .coalesce), ("&&", .booleanAnd), ("||", .booleanOr),
  ("<<", .shiftLeft), (">>", .shiftRight), ("=", .equal), ("+", .plus), ("-", .minus),
  ("*", .multiply), ("/", .divide), ("%", .modulus), (".", .concat), ("!", .booleanNot),
  ("?", .ternaryThen), (":", .colon), (";", .semicolon), (",", .comma), ("(", .openParenthesis),
  (")", .closeParenthesis), ("[", .openSquare), ("]", .closeSquare), ("\x7b", .openCurly),
  ("\x7d", .closeCurly), ("&", .bitwiseAnd), ("|", .bitwiseOr), ("^", .bitwiseXor),
  ("~", .bitwiseNot), ("@", .atSign), ("\\", .namespaceSeparator), ("<", .lessThan),
  (">", .greaterThan), ("$", .dollar)]

/-- After these kinds a word is a plain name and never a keyword. -/
def keepsName : TokenKind → Bool
  | .objectOperator | .nullsafeOperator | .doubleColon | .kwFunction | .kwConst | .kwClass
  | .kwInterface | .kwTrait
    => true
  | _ => false

/-- After these kinds a question mark belongs to a nullable type. -/
def startsNullable : TokenKind → Bool
  | .colon | .openParenthesis | .comma | .kwPublic | .kwProtected | .kwPrivate | .kwVar
  | .kwStatic | .kwConst
    => true
  | _ => false

/-- After these kinds a square bracket indexes into a value. -/
def isIndexable : TokenKind → Bool
  | .variable | .identifier | .closeParenthesis | .closeSquare | .closeShortArray | .plainString
  | .templateString | .selfName | .parentName | .kwStatic
    => true
  | _ => false

end TokenLint.Lexer
