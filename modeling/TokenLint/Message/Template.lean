import TokenLint.Value

/-!
# Message templates

Templates in which a percent sign introduces a conversion of the next argument:
`%s` and its kin show a value, `%d` and its kin an integer, `%f` and its kin a
floating-point number. Flags, a width and a precision may stand between the sign
and the conversion. A template without arguments stands for itself.
-/

namespace TokenLint

/-- Why a template cannot be filled. -/
inductive TemplateError where
  | notEnoughArguments
  | unusedArguments
  | incomplete
  | mappingRequired
  | widthNotInteger
  | widthTooBig
  | precisionTooBig
  | unsupported (char : Char) (index : Nat)
  | notReal (conversion : Char) (typeName : String)
  | notInteger (conversion : Char) (typeName : String)
  | notFloat (typeName : String)
  | notCharacter
  | characterOutOfRange
  | integerTooLarge
  | infinityToInteger
  | undefinedToInteger
  deriving DecidableEq

namespace TemplateError

/-- The class of error that is reported. -/
def label : TemplateError → String
  | incomplete | widthTooBig | precisionTooBig | unsupported .. | undefinedToInteger => "ValueError"
  | characterOutOfRange | integerTooLarge | infinityToInteger => "OverflowError"
  | _ => "TypeError"

/-- The wording of an error in a template. -/
def message : TemplateError → String
  | notEnoughArguments => "not enough arguments for format string"
  | unusedArguments => "not all arguments converted during string formatting"
  | incomplete => "incomplete format"
  | mappingRequired => "format requires a mapping"
  | widthNotInteger => "* wants int"
  | widthTooBig => "width too big"
  | precisionTooBig => "precision too big"
  | unsupported char index =>
    let shown := if 31 ≤ char.toNat ∧ char.toNat ≤ 126 then char else '?'
    "unsupported format character '" ++ String.singleton shown ++ "' (0x" ++
      String.ofList (Nat.toDigits 16 char.toNat) ++ ") at index " ++ toString index
  | notReal conversion typeName =>
    "%" ++ String.singleton conversion ++ " format: a real number is required, not " ++ typeName
  | notInteger conversion typeName =>
    "%" ++ String.singleton conversion ++ " format: an integer is required, not " ++ typeName
  | notFloat typeName => "must be real number, not " ++ typeName
  | notCharacter => "%c requires int or char"
  | characterOutOfRange => "%c arg not in range(0x110000)"
  | integerTooLarge => "int too large to convert to float"
  | infinityToInteger => "cannot convert float infinity to integer"
  | undefinedToInteger => "cannot convert float NaN to integer"

end TemplateError

/-- The flags that may follow a percent sign. -/
structure ConversionFlags where
  leftAlign : Bool
  showPlus : Bool
  showBlank : Bool
  alternate : Bool
  zeroFill : Bool

/-- A conversion: the part of a template that an argument is put in for. -/
structure Conversion where
  flags : ConversionFlags
  width : Option Nat
  precision : Option Nat
  char : Char

namespace Conversion

/-- Reads the flags at the beginning of a conversion. -/
def readFlags (flags : ConversionFlags) : List Char → ConversionFlags × List Char
  | '-' :: rest => readFlags { flags with leftAlign := true } rest
  | '+' :: rest => readFlags { flags with showPlus := true } rest
  | ' ' :: rest => readFlags { flags with showBlank := true } rest
  | '#' :: rest => readFlags { flags with alternate := true } rest
  | '0' :: rest => readFlags { flags with zeroFill := true } rest
  | chars => (flags, chars)

/-- The integer that a value counts as: truth values count as 0 and 1. -/
def integer? : Value → Option Int
  | .int number => some number
  | .bool flag => some (if flag then 1 else 0)
  | _ => none

/-- The number at the head of a text, within a limit. -/
def readCount (limit : Nat) (tooBig : TemplateError) (chars : List Char) :
    Except TemplateError (Nat × List Char) :=
  let digits := chars.takeWhile Char.isDigit
  let count := digits.foldl (fun number digit => 10 * number + (digit.toNat - 0x30)) 0
  if limit < count then .error tooBig else .ok (count, chars.drop digits.length)

/-- A width or precision at the head of a text: digits, or a star that takes the next argument. -/
def readSize (limit : Nat) (tooBig : TemplateError) (arguments : List Value) :
    List Char → Except TemplateError (Option Int × List Value × List Char)
  | '*' :: rest =>
    match arguments with
    | [] => .error .notEnoughArguments
    | argument :: others =>
      match integer? argument with
      | none => .error .widthNotInteger
      | some size => if limit < size.natAbs then .error tooBig else .ok (some size, others, rest)
  | chars =>
    if chars.head?.any Char.isDigit then do
      let (count, rest) ← readCount limit tooBig chars
      return (some count, arguments, rest)
    else .ok (none, arguments, chars)

/-- Reads the conversion that follows a percent sign, with the arguments and the text left. -/
def read (arguments : List Value) (chars : List Char) :
    Except TemplateError (Conversion × List Value × List Char) := do
  if chars.head? = some '(' then throw .mappingRequired
  let (flags, chars) := readFlags ⟨false, false, false, false, false⟩ chars
  let (width, arguments, chars) ← readSize (Nat.pow 2 63 - 1) .widthTooBig arguments chars
  let flags := { flags with leftAlign := flags.leftAlign || width.any (· < 0) }
  let (precision, arguments, chars) ←
    match chars with
    | '.' :: rest => do
      let (size, arguments, rest) ← readSize (Nat.pow 2 31 - 1) .precisionTooBig arguments rest
      pure (some (size.getD 0).toNat, arguments, rest)
    | _ => pure (none, arguments, chars)
  let chars := match chars with
    | 'h' :: rest => rest
    | 'l' :: rest => rest
    | 'L' :: rest => rest
    | _ => chars
  match chars with
  | [] => throw .incomplete
  | char :: rest => return (⟨flags, width.map Int.natAbs, precision, char⟩, arguments, rest)

variable (conversion : Conversion)

/-- Pads a converted number or text to the width. `sign` and `mark` precede the body; zeros are
filled in after them and blanks before them. -/
def pad (numeric : Bool) (sign mark body : List Char) : List Char :=
  let length := sign.length + mark.length + body.length
  let missing := conversion.width.getD 0 - length
  if conversion.flags.leftAlign then sign ++ mark ++ body ++ List.replicate missing ' '
  else if numeric && conversion.flags.zeroFill then
    sign ++ mark ++ List.replicate missing '0' ++ body
  else List.replicate missing ' ' ++ sign ++ mark ++ body

/-- The sign shown before a number. -/
def signText (negative : Bool) : List Char :=
  if negative then ['-']
  else if conversion.flags.showPlus then ['+']
  else if conversion.flags.showBlank then [' ']
  else []

/-- A text cut to the precision and padded. -/
def showText (text : String) : List Char :=
  let chars := text.toList
  conversion.pad false [] [] (match conversion.precision with
    | some limit => chars.take limit
    | none => chars)

/-- A single character, padded. -/
def showChar (char : Char) : List Char := conversion.pad false [] [] [char]

/-- An integer in the base of a conversion, filled with zeros up to its precision. -/
def showInteger (number : Int) : List Char :=
  let base := match conversion.char with
    | 'o' => 8
    | 'x' => 16
    | 'X' => 16
    | _ => 10
  let digits := Nat.toDigits base number.natAbs
  let filled := List.replicate (conversion.precision.getD 0 - digits.length) '0' ++ digits
  let body := if conversion.char = 'X' then filled.map Char.toUpper else filled
  let mark := if conversion.flags.alternate && base != 10 then ['0', conversion.char] else []
  conversion.pad true (conversion.signText (number < 0)) mark body

/-- The integer that an argument of `%d` and its kin stands for. -/
def integerOf (argument : Value) : Except TemplateError Int :=
  match integer? argument with
  | some number => .ok number
  | none =>
    if conversion.char = 'o' ∨ conversion.char = 'x' ∨ conversion.char = 'X' then
      .error (.notInteger conversion.char argument.typeName)
    else
      match argument with
      | .float (.infinite _) => .error .infinityToInteger
      | .float .notANumber => .error .undefinedToInteger
      | .float number => .ok (number.truncate?.getD 0)
      | _ => .error (.notReal conversion.char argument.typeName)

/-- The text of a finite size without its sign. -/
def floatBody (mantissa : Nat) (exponent : Int) : List Char :=
  let precision := conversion.precision.getD 6
  let alternate := conversion.flags.alternate
  match conversion.char.toLower with
  | 'f' => pointText (fixedDigits mantissa exponent precision) alternate
  | 'e' => scientificText (significantDigits mantissa exponent (precision + 1)) alternate
  | _ =>
    let count := max precision 1
    let decimal := significantDigits mantissa exponent count
    let shown := if alternate then decimal else decimal.stripped
    if -4 ≤ decimal.leading ∧ decimal.leading < count then pointText (shown.positional 0) alternate
    else scientificText shown alternate

/-- A floating-point number as a conversion asks for it. Infinities and what is no number are words.
-/
def showFloat (number : Binary64) : List Char :=
  let body := match number with
    | .finite _ mantissa exponent => conversion.floatBody mantissa exponent
    | .infinite _ => ['i', 'n', 'f']
    | .notANumber => ['n', 'a', 'n']
  let body := if conversion.char.isUpper then body.map Char.toUpper else body
  conversion.pad true (conversion.signText number.isNegative) [] body

/-- The number that an argument of `%f` and its kin stands for. -/
def floatOf (argument : Value) : Except TemplateError Binary64 :=
  match argument, integer? argument with
  | .float number, _ => .ok number
  | _, some number =>
    match Binary64.ofInt number with
    | .infinite _ => .error .integerTooLarge
    | converted => .ok converted
  | _, none => .error (.notFloat argument.typeName)

/-- The character that an argument of `%c` stands for. -/
def characterOf (argument : Value) : Except TemplateError Char :=
  match argument, integer? argument with
  | .text content, _ =>
    match content.toList with
    | [char] => .ok char
    | _ => .error .notCharacter
  | _, some code =>
    if 0 ≤ code ∧ code < 0x110000 then .ok (Char.ofNat code.toNat) else .error .characterOutOfRange
  | _, none => .error .notCharacter

/-- Converts an argument. `index` is the place of the conversion's character in the template. -/
def apply (index : Nat) (argument : Value) : Except TemplateError (List Char) :=
  match conversion.char with
  | 's' => .ok (conversion.showText argument.plain)
  | 'r' => .ok (conversion.showText argument.display)
  | 'a' => .ok (conversion.showText (argument.displayWith Text.quotedAscii))
  | 'd' | 'i' | 'u' | 'o' | 'x' | 'X' =>
    return conversion.showInteger (← conversion.integerOf argument)
  | 'e' | 'E' | 'f' | 'F' | 'g' | 'G' => return conversion.showFloat (← floatOf argument)
  | 'c' => return conversion.showChar (← characterOf argument)
  | char => .error (.unsupported char index)

end Conversion

/-- Fills the rest of a template that is `total` characters long. -/
def fillTemplate (total : Nat) (arguments : List Value) (chars : List Char) :
    Except TemplateError (List Char) :=
  match chars with
  | [] => if arguments.isEmpty then .ok [] else .error .unusedArguments
  | char :: rest =>
    if char ≠ '%' then do
      return char :: (← fillTemplate total arguments rest)
    else if rest.head? = some '%' then do
      return '%' :: (← fillTemplate total arguments (rest.drop 1))
    else do
      let (conversion, others, left) ← Conversion.read arguments rest
      match others with
      | [] => throw .notEnoughArguments
      | argument :: others =>
        let shown ← conversion.apply (total - left.length - 1) argument
        return shown ++ (← fillTemplate total others (rest.drop (rest.length - left.length)))
termination_by chars.length
decreasing_by all_goals simp only [List.length_cons, List.length_drop]; omega

/-- Puts arguments into a template. Without arguments a template stands for itself, percent signs
and all. -/
def renderTemplate (template : String) (arguments : List Value) : Except TemplateError String :=
  if arguments.isEmpty then .ok template
  else
    let chars := template.toList
    (fillTemplate chars.length arguments chars).map String.ofList

end TokenLint
