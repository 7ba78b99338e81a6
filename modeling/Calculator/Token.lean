import Calculator.Double.Text
import Calculator.Operator

/-!
# Tokens

The numbers and operators of an expression, how a list of them is written, and how a text is scanned. Nothing is asked of
their order here.
-/

namespace Calculator

inductive Token where
  | number (value : Double)
  | operator (op : Operator)
  deriving DecidableEq

namespace Token

def text : Token → String
  | number v => v.text
  | operator op => String.singleton op.symbol

def join (separator : String) (tokens : List Token) : String :=
  separator.intercalate (tokens.map text)

/-! ## Scanning

An expression is scanned character by character. Digits and points are held back until the literal that they form has
ended, at an operator or with the text. An illegal character ends the scan where it stands; a bad literal is kept in mind,
since an illegal character further on is reported before it. -/

def isLiteralChar (c : Char) : Bool := c.isDigit || c = '.'

/-- The value of a literal. One that is too large for a double is out of range. -/
def readLiteral (literal : String) : Except EvalError Double :=
  match Decimal.read? literal.toList with
  | none => .error (Malformation.badLiteral literal)
  | some d =>
    let value := Double.ofDecimal d
    if value.isFinite then .ok value else .error .outOfRange

end Token

/-- How far a scan has come: the tokens so far, the literal being read, and the first bad literal. -/
structure Scan where
  tokens : Array Token := #[]
  literal : String := ""
  fault : Option EvalError := none

namespace Scan

/-- Ends the literal being read, if there is one. -/
def endLiteral (scan : Scan) : Scan :=
  if scan.literal = "" then
    scan
  else match Token.readLiteral scan.literal with
    | .ok value => { scan with tokens := scan.tokens.push (.number value), literal := "" }
    | .error e => { scan with fault := scan.fault.or (some e), literal := "" }

def step (scan : Scan) : Char × Nat → Except EvalError Scan
  | (c, position) =>
    if Token.isLiteralChar c then
      .ok { scan with literal := scan.literal.push c }
    else match Operator.ofSymbol? c with
      | some op =>
        let scan := scan.endLiteral
        .ok { scan with tokens := scan.tokens.push (.operator op) }
      | none => .error (.illegalCharacter c position)

def result (scan : Scan) : Except EvalError (List Token) :=
  let scan := scan.endLiteral
  match scan.fault with
  | some e => .error e
  | none => .ok scan.tokens.toList

end Scan

/-- The tokens of an expression, in any order that the characters allow. -/
def tokenize (expression : String) : Except EvalError (List Token) := do
  let scan ← expression.toList.zipIdx.foldlM Scan.step {}
  scan.result

end Calculator
