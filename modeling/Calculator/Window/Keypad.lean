import Calculator.Operator

/-!
# The keypad

The buttons of the window and the order in which they stand.
-/

namespace Calculator

/-- The keys that type a character. -/
inductive Key where
  | digit (value : Fin 10)
  | point
  | operator (op : Operator)
  deriving DecidableEq

def Key.symbol : Key → Char
  | digit d => Nat.digitChar d
  | point => '.'
  | operator op => op.symbol

inductive Button where
  | clear
  | delete
  | equals
  | key (key : Key)
  deriving DecidableEq

namespace Button

def label : Button → String
  | clear => "C"
  | delete => "DEL"
  | equals => "="
  | key k => String.singleton k.symbol

def digit (value : Fin 10) : Button := key (.digit value)

def operator (op : Operator) : Button := key (.operator op)

def rows : List (List Button) :=
  [[clear, delete],
   [digit 7, digit 8, digit 9, operator .divide],
   [digit 4, digit 5, digit 6, operator .times],
   [digit 1, digit 2, digit 3, operator .minus],
   [digit 0, key .point, equals, operator .plus]]

/-- Row by row. -/
def all : List Button := rows.flatten

def ofLabel? (label : String) : Option Button := all.find? (·.label = label)

end Button

end Calculator
