import TokenLint.Rule.ArrayPush
import TokenLint.Rule.CatchOrder
import TokenLint.Rule.Concatenation
import TokenLint.Rule.ConstantTernary
import TokenLint.Rule.DuplicateCase
import TokenLint.Rule.DuplicateKey
import TokenLint.Rule.Elvis
import TokenLint.Rule.ForeachVariable
import TokenLint.Rule.FunctionName
import TokenLint.Rule.Increment
import TokenLint.Rule.LongArray
import TokenLint.Rule.NestedIf
import TokenLint.Rule.NotChain
import TokenLint.Rule.NullCheck
import TokenLint.Rule.OldConstructor
import TokenLint.Rule.ParameterCount
import TokenLint.Rule.SelfAssignment
import TokenLint.Rule.StrictTypes

/-!
# The built-in rules
-/

namespace TokenLint

/-- The built-in rules. -/
def Rule.builtin : List Rule := [
  .arrayPush, .concatenationSpacing, .strictTypes, .oldConstructor, .duplicateKey, .duplicateCase,
  .elvisOperator, .foreachVariable, .nullCheck, .argumentlessTime, .notChain, .nestedIf,
  .caselessSearch, .incrementByOne, .olderRandom, .selfAssignment, .constantTernary,
  .tooManyParameters, .longArray, .catchOrder]

end TokenLint
