import TokenLint.Number.Numeral

/-!
# Command-line arguments

Options may be written long or short, with their value attached or as the next
argument, and short ones may be run together. Two dashes end the options. Options
before the command belong to the program, those after it to the command.
-/

namespace TokenLint.CommandLine

/-- The options of all commands. -/
inductive OptionName where
  | rules
  | exclude
  | ruleset
  | workers
  | maxIterations
  | dryRun
  | json
  | quiet
  | verbose
  | version
  | help
  deriving DecidableEq, Repr

namespace OptionName

/-- The spelling of an option that every command understands. -/
def long : OptionName → String
  | rules => "--rules"
  | exclude => "--exclude"
  | ruleset => "--ruleset"
  | workers => "--workers"
  | maxIterations => "--max-iterations"
  | dryRun => "--dry-run"
  | json => "--json"
  | quiet => "--quiet"
  | verbose => "--verbose"
  | version => "--version"
  | help => "--help"

/-- The letter that an option may be shortened to. -/
def short? : OptionName → Option Char
  | rules => some 'r'
  | exclude => some 'x'
  | workers => some 'j'
  | quiet => some 'q'
  | version => some 'v'
  | _ => none

/-- Whether an option takes a value, in the same argument or in the next one. -/
def hasValue : OptionName → Bool
  | rules | exclude | ruleset | workers | maxIterations => true
  | _ => false

end OptionName

/-- Why arguments are not understood. -/
inductive UsageError where
  | unknownOption (text : String)
  | missingValue (option : OptionName)
  | unexpectedValue (option : OptionName)
  | missingCommand
  | unknownCommand (name : String)
  | missingPaths
  | unexpectedArgument (text : String)
  | notPositive (option : OptionName) (text : String)
  | notAFile (option : OptionName) (text : String)
  deriving DecidableEq

/-- The wording of a misuse. -/
def UsageError.message : UsageError → String
  | unknownOption text => "no such option: " ++ text
  | missingValue option => "option " ++ option.long ++ " requires an argument"
  | unexpectedValue option => "option " ++ option.long ++ " does not take a value"
  | missingCommand => "missing command"
  | unknownCommand name => "no such command: " ++ name
  | missingPaths => "missing paths"
  | unexpectedArgument text => "unexpected argument: " ++ text
  | notPositive option text => option.long ++ " must be an integer >= 1, got " ++ text
  | notAFile option text => option.long ++ " must be a file, got " ++ text

/-- An option as it was given; without a value the text is empty. -/
abbrev GivenOption := OptionName × String

/-- What one argument turns out to be. -/
inductive ArgumentReading where
  | positional
  | endOfOptions
  /-- Options that are complete, and one more whose value is the next argument. -/
  | options (given : List GivenOption) (open? : Option OptionName)

/-- Cuts an argument at its first equals sign. -/
def splitValue (chars : List Char) : List Char × Option String :=
  let name := chars.takeWhile fun char => char ≠ '='
  match chars.drop name.length with
  | _ :: value => (name, some (String.ofList value))
  | [] => (name, none)

/-- The option that a command allows under a long spelling. -/
def findLong? (allowed : List OptionName) (name : List Char) : Option OptionName :=
  allowed.find? fun option => option.long.toList == name

/-- The option that a command allows under a letter. -/
def findShort? (allowed : List OptionName) (char : Char) : Option OptionName :=
  allowed.find? fun option => option.short? == some char

/-- Reads short options that are run together. The first one that has a value takes all characters
after it. -/
def readShort (allowed : List OptionName) : List Char → Except UsageError ArgumentReading
  | [] => .ok (.options [] none)
  | char :: rest =>
    match findShort? allowed char with
    | none => .error (.unknownOption (String.ofList ['-', char]))
    | some option =>
      if option.hasValue then
        if rest.isEmpty then .ok (.options [] (some option))
        else .ok (.options [(option, String.ofList rest)] none)
      else
        match readShort allowed rest with
        | .ok (.options given last) => .ok (.options ((option, "") :: given) last)
        | outcome => outcome

/-- Reads a long option. A value that stands behind an equals sign is refused by a switch; without
one, an option that needs a value takes the next argument. -/
def readLong (option : OptionName) (value : Option String) : Except UsageError ArgumentReading :=
  match value with
  | some text =>
    if option.hasValue then .ok (.options [(option, text)] none)
    else .error (.unexpectedValue option)
  | none =>
    if option.hasValue then .ok (.options [] (some option)) else .ok (.options [(option, "")] none)

/-- Reads one argument. One dash begins letters, two begin a long option, and a dash alone is an
argument like any other. -/
def readArgument (allowed : List OptionName) (argument : String) :
    Except UsageError ArgumentReading :=
  match argument.toList with
  | ['-', '-'] => .ok .endOfOptions
  | '-' :: next :: rest =>
    let (name, value) := splitValue argument.toList
    match findLong? allowed name with
    | some option => readLong option value
    | none =>
      if next = '-' then .error (.unknownOption (String.ofList name))
      else readShort allowed (next :: rest)
  | _ => .ok .positional

/-- Arguments taken apart: the options in order, and everything else. -/
structure Arguments where
  options : List GivenOption
  others : List String

namespace Arguments

/-- Adds options before all others. -/
def withOptions (given : List GivenOption) (arguments : Arguments) : Arguments :=
  { arguments with options := given ++ arguments.options }

/-- Adds an argument before all others. -/
def withOther (text : String) (arguments : Arguments) : Arguments :=
  { arguments with others := text :: arguments.others }

/-- Takes arguments apart. Unless options may stand between other arguments, the first argument that
is none ends them. -/
def read (allowed : List OptionName) (interspersed : Bool) :
    List String → Except UsageError Arguments
  | [] => .ok ⟨[], []⟩
  | argument :: rest =>
    match readArgument allowed argument with
    | .error error => .error error
    | .ok .endOfOptions => .ok ⟨[], rest⟩
    | .ok .positional =>
      if interspersed then (read allowed interspersed rest).map (withOther argument)
      else .ok ⟨[], argument :: rest⟩
    | .ok (.options given none) => (read allowed interspersed rest).map (withOptions given)
    | .ok (.options given (some option)) =>
      match rest with
      | [] => .error (.missingValue option)
      | value :: rest =>
        (read allowed interspersed rest).map (withOptions (given ++ [(option, value)]))

variable (arguments : Arguments)

/-- Whether an option was given. -/
def has (option : OptionName) : Bool := arguments.options.any fun given => given.1 = option

/-- The values given for an option, in order. -/
def values (option : OptionName) : List String :=
  (arguments.options.filter fun given => given.1 = option).map Prod.snd

/-- The last value given for an option. -/
def value? (option : OptionName) : Option String := (arguments.values option).getLast?

/-- The positive integer given for an option. -/
def positive? (option : OptionName) : Except UsageError (Option Nat) :=
  match arguments.value? option with
  | none => .ok none
  | some text =>
    match readInteger 10 text with
    | .ok number =>
      if 1 ≤ number then .ok (some number.toNat) else .error (.notPositive option text)
    | .error _ => .error (.notPositive option text)

end Arguments

/-- What the commands that lint files are given. An option that is left out leaves the choice to the
configuration. -/
structure LintArguments where
  paths : List String
  rules : List String
  exclude : List String
  ruleset : Option String
  workers : Option Nat
  maxIterations : Option Nat
  dryRun : Bool
  json : Bool
  quiet : Bool

/-- What the program is asked to do. -/
inductive Command where
  | version
  | help
  | check (arguments : LintArguments)
  | fix (arguments : LintArguments)
  | rules (json quiet : Bool)

namespace Command

/-- The options that stand before the name of a command. -/
def programOptions : List OptionName := [.version, .help]

/-- The options of the command that reports. -/
def checkOptions : List OptionName :=
  [.rules, .exclude, .ruleset, .workers, .json, .quiet, .verbose, .help]

/-- The options of the command that fixes: those of the one that reports, and two of its own. -/
def fixOptions : List OptionName := checkOptions ++ [.maxIterations, .dryRun]

/-- The options of the command that lists the rules. -/
def rulesOptions : List OptionName := [.json, .quiet, .help]

/-- The arguments of a command that lints files; numbers are checked before the paths are missed. -/
def lintArguments (arguments : Arguments) : Except UsageError LintArguments := do
  let workers ← arguments.positive? .workers
  let maxIterations ← arguments.positive? .maxIterations
  if arguments.others.isEmpty then throw .missingPaths
  return {
    paths := arguments.others
    rules := arguments.values .rules
    exclude := arguments.values .exclude
    ruleset := arguments.value? .ruleset
    workers
    maxIterations
    dryRun := arguments.has .dryRun
    json := arguments.has .json
    quiet := arguments.has .quiet }

/-- Reads a command that lints files. A request for help is met before its arguments are checked. -/
def readLint (allowed : List OptionName) (make : LintArguments → Command) (texts : List String) :
    Except UsageError Command := do
  let arguments ← Arguments.read allowed true texts
  if arguments.has .help then return .help
  return make (← lintArguments arguments)

/-- Reads the command that lists the rules, which has no arguments but its options. -/
def readRules (texts : List String) : Except UsageError Command := do
  let arguments ← Arguments.read rulesOptions true texts
  if arguments.has .help then return .help
  match arguments.others with
  | [] => return .rules (arguments.has .json) (arguments.has .quiet)
  | text :: _ => throw (.unexpectedArgument text)

/-- Reads a command line: options of the program first, then the name of a command with all that
belongs to it. -/
def read (texts : List String) : Except UsageError Command := do
  let arguments ← Arguments.read programOptions false texts
  match arguments.options, arguments.others with
  | (.version, _) :: _, _ => return .version
  | _ :: _, _ => return .help
  | [], [] => throw .missingCommand
  | [], "check" :: rest => readLint checkOptions .check rest
  | [], "fix" :: rest => readLint fixOptions .fix rest
  | [], "rules" :: rest => readRules rest
  | [], name :: _ => throw (.unknownCommand name)

end Command

end TokenLint.CommandLine
