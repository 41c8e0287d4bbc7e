import PostfixCalc.Machine.Basic

/-!
# What the machine does, step by step

One equation for each thing that can happen: a number is pushed, an operator
finds too few operands, fails on those that it takes, or leaves its value in
their place.  The equations hold of any machine, whatever lies deeper in its
stack, and they say what a failure leaves behind.
-/

namespace PostfixCalc

namespace Machine

variable {α β : Type}

theorem bind_of_ok {a : Action α} {f : α → Action β} {m m' : Machine} {x : α}
    (h : a m = .ok x m') : (a >>= f) m = f x m' := by
  simp [bind, EStateM.bind, h]

theorem bind_of_error {a : Action α} {f : α → Action β} {m m' : Machine} {e : Failure}
    (h : a m = .error e m') : (a >>= f) m = .error e m' := by
  simp [bind, EStateM.bind, h]

/-! ## Elementary actions -/

theorem get_eq (m : Machine) : (get : Action Machine) m = .ok m m :=
  rfl

@[simp] theorem lift_ok (x : α) (m : Machine) : lift (.ok x) m = .ok x m :=
  rfl

@[simp] theorem lift_error (e : Failure) (m : Machine) :
    (lift (.error e) : Action α) m = .error e m :=
  rfl

@[simp] theorem push_eq (x : Binary64) (m : Machine) :
    push x m = .ok () { m with stack := x :: m.stack } :=
  rfl

@[simp] theorem pop_cons (x : Binary64) (rest : List Binary64) (steps : Option (List Step)) :
    pop { stack := x :: rest, steps } = .ok x { stack := rest, steps } :=
  rfl

@[simp] theorem record_eq (token action : String) (m : Machine) :
    record token action m =
      .ok () { m with steps := m.steps.map (· ++ [{ token, stack := m.bottomFirst, action }]) } :=
  rfl

theorem need_of_le {op : Operator} {m : Machine} (h : op.arity ≤ m.stack.length) :
    need op m = .ok () m := by
  unfold need
  rw [bind_of_ok (get_eq m), if_neg (Nat.not_lt.2 h)]
  rfl

theorem need_of_lt {op : Operator} {m : Machine} (h : m.stack.length < op.arity) :
    need op m = .error (.expression (.insufficientOperands (some op))) m := by
  unfold need
  rw [bind_of_ok (get_eq m), if_pos h]
  rfl

theorem shown_of_display {x : Binary64} {text : String} (h : x.display = .ok text)
    (m : Machine) : shown x m = .ok text m := by
  simp [shown, h, Failure.ofFaulty]

/-! ## Operators -/

theorem applyUnary_of_lt {token : String} {op : UnaryOperator} {m : Machine}
    (h : m.stack.length < 1) :
    applyUnary token op m = .error (.expression (.insufficientOperands (some (.unary op)))) m :=
  bind_of_error (need_of_lt h)

/-- An operator that fails on its operand has taken it. -/
theorem applyUnary_of_error {token : String} {op : UnaryOperator} {only : Binary64}
    {rest : List Binary64} {steps : Option (List Step)} {e : Failure}
    (h : op.apply only = .error e) :
    applyUnary token op { stack := only :: rest, steps } = .error e { stack := rest, steps } := by
  have hneed : (Operator.unary op).arity ≤ (only :: rest).length := by
    simp [Operator.arity]
  unfold applyUnary
  rw [bind_of_ok (need_of_le hneed), bind_of_ok (pop_cons _ _ _), h,
    bind_of_error (lift_error _ _)]

theorem applyUnary_of_ok {token : String} {op : UnaryOperator} {only value : Binary64}
    {operand : String} {rest : List Binary64} {steps : Option (List Step)}
    (h : op.apply only = .ok value) (honly : only.display = .ok operand) :
    applyUnary token op { stack := only :: rest, steps } =
      record token s!"Apply {op.symbol} to {operand}" { stack := value :: rest, steps } := by
  have hneed : (Operator.unary op).arity ≤ (only :: rest).length := by
    simp [Operator.arity]
  unfold applyUnary
  rw [bind_of_ok (need_of_le hneed), bind_of_ok (pop_cons _ _ _), h, bind_of_ok (lift_ok _ _),
    bind_of_ok (push_eq _ _), bind_of_ok (shown_of_display honly _)]

theorem applyBinary_of_lt {token : String} {op : BinaryOperator} {m : Machine}
    (h : m.stack.length < 2) :
    applyBinary token op m =
      .error (.expression (.insufficientOperands (some (.binary op)))) m :=
  bind_of_error (need_of_lt h)

/-- An operator that fails on its operands has taken both. -/
theorem applyBinary_of_error {token : String} {op : BinaryOperator} {left right : Binary64}
    {rest : List Binary64} {steps : Option (List Step)} {e : Failure}
    (h : op.apply left right = .error e) :
    applyBinary token op { stack := right :: left :: rest, steps } =
      .error e { stack := rest, steps } := by
  have hneed : (Operator.binary op).arity ≤ (right :: left :: rest).length := by
    simp [Operator.arity]
  unfold applyBinary
  rw [bind_of_ok (need_of_le hneed), bind_of_ok (pop_cons _ _ _), bind_of_ok (pop_cons _ _ _), h,
    bind_of_error (lift_error _ _)]

theorem applyBinary_of_ok {token : String} {op : BinaryOperator} {left right value : Binary64}
    {first second : String} {rest : List Binary64} {steps : Option (List Step)}
    (h : op.apply left right = .ok value) (hleft : left.display = .ok first)
    (hright : right.display = .ok second) :
    applyBinary token op { stack := right :: left :: rest, steps } =
      record token s!"Apply {first} {op.symbol} {second}" { stack := value :: rest, steps } := by
  have hneed : (Operator.binary op).arity ≤ (right :: left :: rest).length := by
    simp [Operator.arity]
  unfold applyBinary
  rw [bind_of_ok (need_of_le hneed), bind_of_ok (pop_cons _ _ _), bind_of_ok (pop_cons _ _ _), h,
    bind_of_ok (lift_ok _ _), bind_of_ok (push_eq _ _), bind_of_ok (shown_of_display hleft _),
    bind_of_ok (shown_of_display hright _)]

/-! ## Tokens -/

theorem feed_of_number {token : String} {x : Binary64} (m : Machine)
    (h : Token.number? token = .ok (some x)) :
    feed token m = record token s!"Push {token}" { m with stack := x :: m.stack } := by
  unfold feed
  rw [h]
  rfl

theorem feed_of_unary {token : String} {op : UnaryOperator} (m : Machine)
    (h : Token.number? token = .ok none) (hop : Operator.ofSymbol? token = some (.unary op)) :
    feed token m = applyUnary token op m := by
  unfold feed
  rw [h, hop]
  rfl

theorem feed_of_binary {token : String} {op : BinaryOperator} (m : Machine)
    (h : Token.number? token = .ok none) (hop : Operator.ofSymbol? token = some (.binary op)) :
    feed token m = applyBinary token op m := by
  unfold feed
  rw [h, hop]
  rfl

theorem feed_of_unknown {token : String} (m : Machine) (h : Token.number? token = .ok none)
    (hop : Operator.ofSymbol? token = none) :
    feed token m = .error (.expression (.unknownToken token)) m := by
  unfold feed
  rw [h, hop]
  rfl

theorem feedAll_nil (m : Machine) : feedAll [] m = .ok () m :=
  rfl

theorem feedAll_cons_of_ok {token : String} {rest : List String} {m m' : Machine}
    (h : feed token m = .ok () m') : feedAll (token :: rest) m = feedAll rest m' :=
  bind_of_ok h

/-- Nothing is fed after a token that fails. -/
theorem feedAll_cons_of_error {token : String} {rest : List String} {m m' : Machine}
    {e : Failure} (h : feed token m = .error e m') :
    feedAll (token :: rest) m = .error e m' :=
  bind_of_error h

/-! ## The final value -/

theorem result_singleton (x : Binary64) (steps : Option (List Step)) :
    result { stack := [x], steps } = .ok x { stack := [x], steps } :=
  rfl

theorem result_of_lt {m : Machine} (h : 1 < m.stack.length) :
    result m = .error (.expression (.tooManyOperands m.stack.length)) m := by
  unfold result
  rw [bind_of_ok (get_eq m), if_pos h]
  rfl

end Machine

end PostfixCalc
