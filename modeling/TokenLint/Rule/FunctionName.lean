import TokenLint.Rule.Basic
import TokenLint.Navigation.Call
import TokenLint.Text.LowerCase

/-!
# Functions with a better equivalent

Calls of functions that another function can replace by its name alone.
-/

namespace TokenLint

namespace Rule

/-- The replacement of a function, whose name is compared without case. -/
def replacementFor? (replacements : List (String × String)) (name : String) : Option String :=
  replacements.lookup (Text.lower name)

/-- The program that reports a call by name and puts another name in its place. -/
def renameCall (index : Nat) (template name replacement : String) (arguments : List Value) :
    RuleProgram (Option Int) :=
  reportAndReplace
    (fixableErrorAt index "ReplacementMissing" template (.text name :: arguments)) index replacement

/-- What a rule that replaces functions does about a call: it reports the name of a function that it
has a replacement for, and puts the replacement in its place. Calls that do not suit it, by the
parenthesis that opens their arguments, are left alone. `arguments` gives what the template takes
behind the name. -/
def renameCalls (replacements : List (String × String)) (suits : TokenStream → Nat → Bool)
    (template : String) (arguments : String → List Value) (stream : TokenStream) (index : Nat) :
    RuleProgram (Option Int) :=
  match replacementFor? replacements (stream.contentAt index), stream.callOpener? index with
  | some replacement, some opener =>
    if suits stream opener then
      renameCall index template (stream.contentAt index) replacement (arguments replacement)
    else .done none
  | _, _ => .done none

/-- Functions that give the current time when called without arguments. -/
def timeReplacements : List (String × String) := [("mktime", "time"), ("gmmktime", "time")]

/-- Whether nothing but blanks and comments stands between the parentheses of a call. -/
def hasNoArguments (stream : TokenStream) (opener : Nat) : Bool :=
  stream.nextCode? (opener + 1) = stream.partner? opener

/-- Reports the current time asked for in a roundabout way. -/
def argumentlessTime : Rule where
  id := "mktime_not_compatible"
  name := "MktimeNotCompatible"
  category := "compatibility"
  description := "Argument-less mktime()/gmmktime() instead of time()."
  interest := [.identifier]
  process stream index _ :=
    renameCalls timeReplacements hasNoArguments
      "Function \"%s()\" misused. Replace it with \"time()\" function." (fun _ => []) stream index

/-- Functions of the older random number generator. -/
def randomReplacements : List (String × String) :=
  [("rand", "mt_rand"), ("srand", "mt_srand"), ("getrandmax", "mt_getrandmax")]

/-- Reports calls of the older random number generator. -/
def olderRandom : Rule where
  id := "random_are_not_mersenne_twister"
  name := "RandomAreNotMersenneTwister"
  category := "compatibility"
  description := "libc random functions instead of Mersenne Twister ones."
  interest := [.identifier]
  process stream index _ :=
    renameCalls randomReplacements (fun _ _ => true)
      "Random function \"%s()\" used. Replace it with the Mersenne Twister function equivalent."
      (fun _ => []) stream index

/-- Searches that ignore case, and the ones that do not. -/
def searchReplacements : List (String × String) :=
  [("stristr", "strstr"), ("stripos", "strpos"), ("strripos", "strrpos")]

/-- Whether a character is an ASCII letter, or folds to one when case is ignored: the dotted and
dotless i, the long s and the Kelvin sign. -/
def foldsToLetter (char : Char) : Bool :=
  char.isAlpha || char = 'İ' || char = 'ı' || char = 'ſ' || char.toNat = 0x212a

/-- Whether a quoted needle holds nothing that case could change. -/
def isCaseless (needle : String) : Bool :=
  !(Text.trimSet (fun char => char = '"' || char = '\'') needle).toList.any foldsToLetter

/-- Whether the second argument of a call is one plain string without letters. -/
def hasCaselessNeedle (stream : TokenStream) (opener : Nat) : Bool :=
  match stream.callArguments opener with
  | _ :: (first, last) :: _ =>
    first = last && stream.hasKind first .plainString && isCaseless (stream.contentAt first)
  | _ => false

/-- Reports searches that ignore case for a needle without letters. -/
def caselessSearch : Rule where
  id := "no_case_check_for_strstr_strpos_strrpos"
  name := "NoCaseCheckForStrstrStrposStrrpos"
  category := "performance"
  description := "Case-insensitive string search for a needle without letters."
  interest := [.identifier]
  process stream index _ :=
    renameCalls searchReplacements hasCaselessNeedle
      ("Function \"%s()\" misused because case sensitive check is not necessary. " ++
        "Replace it with \"%s()\".")
      (fun replacement => [.text replacement]) stream index

end Rule

end TokenLint
