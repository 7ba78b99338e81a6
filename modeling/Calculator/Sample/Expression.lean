import Calculator.Sample.Generator
import Calculator.Token

/-!
# Random expressions

Samples of numbers, of chains of tokens, and of texts that may be anything.
-/

namespace Calculator.Sample

def whole (nonzero : Bool) : Sample UInt32 := if nonzero then (1 + ·) <$> pick 99 else pick 100

/-- A number below a hundred, at times with quarters, which doubles hold exactly. -/
def number (nonzero : Bool) : Sample Double := do
  let base := Double.ofRatio (← whole nonzero).toNat 1
  if (← pick 4) = 0 then
    let quarters ← (1 + ·) <$> pick 3
    return base + Double.ofRatio 1 4 * Double.ofRatio quarters.toNat 1
  else
    return base

def operator : Sample Operator := do
  match (← pick 4).toNat with
  | 0 => return .plus
  | 1 => return .minus
  | 2 => return .times
  | _ => return .divide

/-- An operator and a number after it, which is not zero after a division. -/
def link : Sample (List Token) := do
  let op ← operator
  let value ← number (op = .divide)
  return [.operator op, .number value]

/-- Numbers joined by at most so many operators. -/
def expression (maxOperators : UInt32) : Sample (List Token) := do
  let first ← number false
  let count ← pick (maxOperators + 1)
  let links ← many link count.toNat
  return .number first :: links.flatten

/-- The characters of an expression, the point twice as likely, and three that are illegal. -/
def alphabet : Array Char := "0123456789..+-*/ a(".toList.toArray

def character : Sample Char := do
  let i ← pick alphabet.size.toUInt32
  return alphabet.getD i.toNat ' '

/-- Up to eleven characters of the alphabet. -/
def soup : Sample String := do
  let length ← pick 12
  let characters ← many character length.toNat
  return String.ofList characters

end Calculator.Sample
