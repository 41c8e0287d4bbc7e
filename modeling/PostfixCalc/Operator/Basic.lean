/-!
# Operators

The operators take one operand or two, and each is written as one symbol.
-/

namespace PostfixCalc

/-- The operators of one operand. -/
inductive UnaryOperator where
  | sqrt
  | sin
  | cos
  | tan
  deriving DecidableEq, Repr

/-- The operators of two operands. -/
inductive BinaryOperator where
  | add
  | sub
  | mul
  | div
  | pow
  deriving DecidableEq, Repr

/-- An operator of either kind. -/
inductive Operator where
  | unary (op : UnaryOperator)
  | binary (op : BinaryOperator)
  deriving DecidableEq, Repr

def UnaryOperator.symbol : UnaryOperator → String
  | .sqrt => "sqrt"
  | .sin => "sin"
  | .cos => "cos"
  | .tan => "tan"

def BinaryOperator.symbol : BinaryOperator → String
  | .add => "+"
  | .sub => "-"
  | .mul => "*"
  | .div => "/"
  | .pow => "^"

namespace Operator

def symbol : Operator → String
  | .unary op => op.symbol
  | .binary op => op.symbol

/-- How many operands the operator takes. -/
def arity : Operator → Nat
  | .unary _ => 1
  | .binary _ => 2

/-- All operators, in the order in which they are listed. -/
def all : List Operator :=
  [.binary .add, .binary .sub, .binary .mul, .binary .div, .binary .pow,
    .unary .sqrt, .unary .sin, .unary .cos, .unary .tan]

/-- The operator that a text is the symbol of. -/
def ofSymbol? (text : String) : Option Operator :=
  all.find? fun op => op.symbol == text

theorem mem_all (op : Operator) : op ∈ all := by
  cases op with
  | unary op => cases op <;> decide
  | binary op => cases op <;> decide

theorem symbol_of_ofSymbol? {text : String} {op : Operator}
    (h : ofSymbol? text = some op) : op.symbol = text := by
  have := List.find?_some h
  simpa using this

theorem ofSymbol?_symbol (op : Operator) : ofSymbol? op.symbol = some op := by
  cases op with
  | unary op => cases op <;> decide
  | binary op => cases op <;> decide

end Operator

end PostfixCalc
