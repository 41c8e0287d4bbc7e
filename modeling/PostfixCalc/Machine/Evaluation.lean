import PostfixCalc.Machine.Basic

/-!
# Evaluating expressions

An expression is evaluated on a machine of its own.
-/

namespace PostfixCalc

/-- The value of an expression. -/
def evaluate (expression : Option String) : Except Failure Binary64 :=
  match Machine.run expression (.new false) with
  | .ok x _ => .ok x
  | .error e _ => .error e

/-- Does the expression have a value? -/
def validate (expression : Option String) : Except Fault Bool :=
  match evaluate expression with
  | .ok _ => .ok true
  | .error (.expression _) => .ok false
  | .error (.fault f) => .error f

/-- The steps of an expression up to its end or to its first failure. -/
def journal (expression : Option String) : List Step :=
  match Machine.run expression (.new true) with
  | .ok _ m => m.steps.getD []
  | .error _ m => m.steps.getD []

/-- The steps of an expression that has a value. -/
def trace (expression : Option String) : Except Failure (List Step) :=
  match Machine.run expression (.new true) with
  | .ok _ m => .ok (m.steps.getD [])
  | .error e _ => .error e

end PostfixCalc
