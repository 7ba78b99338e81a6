import Calculator.Text.Quoted

/-!
# Errors

What can be wrong with an expression, and the message for each fault.
-/

namespace Calculator

/-- What is wrong with an expression of legal characters before its numbers matter. Positions count tokens. -/
inductive Malformation where
  | empty
  | leadingOperator
  | trailingOperator
  | adjacentOperators (position : Nat)
  | adjacentNumbers (position : Nat)
  | badLiteral (text : String)
  | unreduced (remaining : Nat)
  deriving DecidableEq

inductive EvalError where
  /-- The position counts characters. -/
  | illegalCharacter (character : Char) (position : Nat)
  | divisionByZero
  | malformed (malformation : Malformation)
  /-- A literal or a result that is not finite. -/
  | outOfRange
  deriving DecidableEq

inductive ErrorKind where
  | illegalCharacter
  | divisionByZero
  | malformed
  | outOfRange
  deriving DecidableEq

def Malformation.message : Malformation → String
  | empty => "entrée vide"
  | leadingOperator => "opérateur en tête"
  | trailingOperator => "opérande manquant après le dernier opérateur"
  | adjacentOperators position => "opérateurs consécutifs (jeton " ++ toString position ++ ")"
  | adjacentNumbers position => "nombres consécutifs (jeton " ++ toString position ++ ")"
  | badLiteral text => "nombre invalide: " ++ Text.quoted text
  | unreduced remaining => "réduction incomplète (" ++ toString remaining ++ " jetons restants)"

namespace EvalError

/-- The illegal character is shown as it is. -/
def message : EvalError → String
  | illegalCharacter c position =>
    "caractère inattendu: '" ++ String.singleton c ++ "' (position " ++ toString position ++ ")"
  | divisionByZero => "division par zéro"
  | malformed m => "expression invalide: " ++ m.message
  | outOfRange => "résultat hors limites"

def kind : EvalError → ErrorKind
  | illegalCharacter _ _ => .illegalCharacter
  | divisionByZero => .divisionByZero
  | malformed _ => .malformed
  | outOfRange => .outOfRange

end EvalError

instance : Coe Malformation EvalError := ⟨EvalError.malformed⟩

end Calculator
