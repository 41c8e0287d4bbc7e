import PostfixCalc.Decimal.Notation
import PostfixCalc.Operator.Apply
import PostfixCalc.Token

/-!
# The stack machine

The machine is fed one token at a time: a number is pushed, an operator takes
its operands off the stack and pushes its value.  What was done before a token
fails stays done, and the operands of a failing operator are gone.  On demand
the machine records a step for every token that succeeds.
-/

namespace PostfixCalc

/-- What one token did to the stack. -/
structure Step where
  token : String
  /-- The stack after the token, bottom first. -/
  stack : List Binary64
  action : String
  deriving DecidableEq

/-- A stack machine. -/
structure Machine where
  /-- The stack, topmost value first. -/
  stack : List Binary64
  /-- The steps recorded so far, oldest first, if steps are recorded at all. -/
  steps : Option (List Step)
  deriving DecidableEq

namespace Machine

/-- A new machine, which records its steps or does not. -/
def new (recording : Bool) : Machine where
  stack := []
  steps := if recording then some [] else none

/-- The stack, bottom first. -/
def bottomFirst (m : Machine) : List Binary64 :=
  m.stack.reverse

/-- A computation on a machine.  One that fails leaves the machine as it was at
that moment. -/
abbrev Action (α : Type) : Type :=
  EStateM Failure Machine α

/-- Fail as a computation fails that has nothing to do with the machine. -/
def lift {α : Type} : Except Failure α → Action α
  | .ok x => pure x
  | .error e => throw e

/-- Put a value on the stack. -/
def push (x : Binary64) : Action Unit :=
  modify fun m => { m with stack := x :: m.stack }

/-- Take the topmost value off the stack. -/
def pop : Action Binary64 := do
  let m ← get
  match m.stack with
  | [] => throw (.fault .emptyStack)
  | x :: rest =>
      set { m with stack := rest }
      return x

/-- Fail unless the stack holds the operands of an operator. -/
def need (op : Operator) : Action Unit := do
  if (← get).stack.length < op.arity then
    throw (.expression (.insufficientOperands (some op)))

/-- Record a step with the stack as it is now, if steps are recorded. -/
def record (token action : String) : Action Unit :=
  modify fun m =>
    { m with steps := m.steps.map (· ++ [{ token, stack := m.bottomFirst, action }]) }

/-- The text of a value in the description of an action. -/
def shown (x : Binary64) : Action String :=
  lift (Failure.ofFaulty x.display)

def applyUnary (token : String) (op : UnaryOperator) : Action Unit := do
  need (.unary op)
  let only ← pop
  push (← lift (op.apply only))
  let operand ← shown only
  record token s!"Apply {op.symbol} to {operand}"

/-- The right operand is on top of the left one. -/
def applyBinary (token : String) (op : BinaryOperator) : Action Unit := do
  need (.binary op)
  let right ← pop
  let left ← pop
  push (← lift (op.apply left right))
  let first ← shown left
  let second ← shown right
  record token s!"Apply {first} {op.symbol} {second}"

/-- Push a number or apply an operator. -/
def feed (token : String) : Action Unit := do
  match ← lift (Failure.ofFaulty (Token.number? token)) with
  | some x =>
      push x
      record token s!"Push {token}"
  | none =>
      match Operator.ofSymbol? token with
      | none => throw (.expression (.unknownToken token))
      | some (.unary op) => applyUnary token op
      | some (.binary op) => applyBinary token op

/-- Feed tokens in order, up to the first that fails. -/
def feedAll : List String → Action Unit
  | [] => pure ()
  | token :: rest => do
      feed token
      feedAll rest

/-- The bottom of the stack. -/
def bottom : Action Binary64 := do
  match (← get).bottomFirst with
  | [] => throw (.fault .emptyStack)
  | x :: _ => return x

/-- The final value, which must be the only one on the stack. -/
def result : Action Binary64 := do
  let count := (← get).stack.length
  if 1 < count then
    throw (.expression (.tooManyOperands count))
  else
    if count = 0 then
      throw (.expression (.insufficientOperands none))
    else
      bottom

/-- Feed all tokens of an expression and answer the final value. -/
def run (expression : Option String) : Action Binary64 := do
  let tokens ← lift ((Token.ofExpression expression).mapError .expression)
  feedAll tokens
  result

end Machine

end PostfixCalc
