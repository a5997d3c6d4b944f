import TokenLint.Rule.Basic
import TokenLint.Navigation.Search
import TokenLint.Text.LowerCase

/-!
# Number of parameters

A function may have only so many parameters. The limit depends on whether it is a
plain function, a static method, a constructor or another method, and is an option of
the rule; a negative limit allows any number.
-/

namespace TokenLint

namespace Value

/-- Whether a value is a number below an integer; values that are no numbers are not compared. -/
def lessThan (value : Value) (bound : Int) : Except RuleFault Bool :=
  match value with
  | int number => .ok (number < bound)
  | bool flag => .ok ((if flag then 1 else 0) < bound)
  | float number => .ok (number.lessThanInt bound)
  | other => .error (.notOrdered "<" other.typeName "int")

end Value

/-- What a `function` keyword declares, as far as the limits distinguish it. -/
inductive CallableShape where
  | function
  | staticMethod
  | constructor
  | method
  deriving DecidableEq

namespace CallableShape

/-- What a shape is called in a message. -/
def label : CallableShape → String
  | function => "function"
  | staticMethod => "static method"
  | constructor => "constructor"
  | method => "dynamic method"

/-- The option that limits the parameters of a callable. Constructors share one with static methods.
-/
def limitOption : CallableShape → String
  | function => "max_args_functions"
  | staticMethod | constructor => "max_args_statics"
  | method => "max_args_methods"

/-- The limit of a shape where no option sets it. -/
def defaultLimit : CallableShape → Int
  | function | staticMethod | constructor => 4
  | method => 3

/-- The limit that the options set, or the one that holds without them. -/
def limit (shape : CallableShape) (options : Table) : Value :=
  (options.get? shape.limitOption).getD (.int shape.defaultLimit)

end CallableShape

namespace TokenStream

variable (stream : TokenStream)

/-- Keywords whose block declares methods. -/
def declaresMethods : TokenKind → Bool
  | .kwClass | .kwInterface | .kwTrait => true
  | _ => false

/-- Keywords that may stand before the `function` of a method. -/
def modifiesMethod : TokenKind → Bool
  | .kwStatic | .kwPublic | .kwProtected | .kwPrivate | .kwAbstract | .kwFinal => true
  | _ => false

/-- Whether `static` is among the modifiers before a place. -/
def hasStaticBefore (stop : Nat) : Bool :=
  match stream.previousCode? stop with
  | none => false
  | some index =>
    if stream.kindIs index modifiesMethod then
      stream.hasKind index .kwStatic || (if index < stop then hasStaticBefore index else false)
    else false
termination_by stop

/-- The name of the method whose keyword and parameter list are given, in lower case. -/
def methodName (index : Nat) (parameters : BracketPair) : String :=
  match stream.nextOf? .identifier (index + 1) parameters.opener with
  | some name => Text.lower (stream.contentAt name)
  | none => ""

/-- What the `function` keyword of a token declares. -/
def callableShape (token : Token) (parameters : BracketPair) : CallableShape :=
  if !token.conditions.getLast?.any fun owner => stream.kindIs owner declaresMethods then .function
  else if stream.hasStaticBefore token.index then .staticMethod
  else if stream.methodName token.index parameters = "__construct" then .constructor
  else .method

/-- How many variables stand directly in a parameter list. -/
def parameterCount (parameters : BracketPair) : Nat :=
  (List.range' (parameters.opener + 1) (parameters.closer - (parameters.opener + 1))).countP
    fun index => stream.holdsAt (fun token =>
      token.kind = .variable && token.enclosingBracket == some parameters) index

end TokenStream

namespace Rule

/-- The program that reports a parameter list above its limit. -/
def reportParameters (stream : TokenStream) (shape : CallableShape) (parameters : BracketPair)
    (index : Nat) (limit : Value) : RuleProgram (Option Int) :=
  match limit.lessThan 0 with
  | .error fault => .fail fault
  | .ok true => .done none
  | .ok false =>
    let count := stream.parameterCount parameters
    match limit.lessThan count with
    | .error fault => .fail fault
    | .ok false => .done none
    | .ok true =>
      reportAll [warningAt index "TooHigh"
        "Too many parameters in %s. Found %d while maximum allowed is %d."
        [.text shape.label, .int count, limit]]

/-- Reports functions and methods with too many parameters. -/
def tooManyParameters : Rule where
  id := "too_many_parameters"
  name := "TooManyParameters"
  category := "code_smell"
  description := "Function or method with too many parameters."
  interest := [.kwFunction]
  process stream index options :=
    match stream.token? index with
    | none => .done none
    | some token =>
      match token.parenthesis with
      | none => .done none
      | some parameters =>
        let shape := stream.callableShape token parameters
        if shape = .constructor ∧ (options.get? "ignore_constructors").any Value.isTrue then
          .done none
        else reportParameters stream shape parameters index (shape.limit options)

end Rule

end TokenLint
