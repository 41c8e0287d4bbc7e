import PostfixCalc.Proofs.Machine.Running

/-!
# Recording is not observed

A machine that records its steps and one that does not are called alike: tokens
are fed, expressions run and results asked for, in any order and also after
errors.  They answer alike, and their stacks are the same after every call.

The simulation is that the stacks are the same (`SameStack`).  Every call keeps
it, because what a call answers and what it leaves on the stack does not depend
on the steps (`IgnoresSteps`); to them it can only append.
-/

namespace PostfixCalc

namespace Machine

/-- A call of a machine from outside. -/
inductive Call where
  | feed (token : String)
  | run (expression : Option String)
  | result

/-- A call as a computation; feeding answers no value. -/
def Call.action : Call → Action (Option Binary64)
  | .feed token => (fun _ => none) <$> Machine.feed token
  | .run expression => some <$> Machine.run expression
  | .result => some <$> Machine.result

/-- The answer and the machine after it, also where the answer is an error. -/
def outcome {α : Type} : EStateM.Result Failure Machine α → Except Failure α × Machine
  | .ok x m => (.ok x, m)
  | .error e m => (.error e, m)

theorem outcome_map {α β : Type} (f : α → β) (a : Action α) (m : Machine) :
    outcome ((f <$> a) m) = ((outcome (a m)).1.map f, (outcome (a m)).2) := by
  simp only [Functor.map, EStateM.map]
  cases a m <;> rfl

/-- The answer of a machine with this stack when it is asked for the result. -/
def resultOf : List Binary64 → Except Failure Binary64
  | [] => .error (.expression (.insufficientOperands none))
  | [x] => .ok x
  | stack => .error (.expression (.tooManyOperands stack.length))

/-- Asking for the result changes nothing. -/
theorem outcome_result (stack : List Binary64) (steps : Option (List Step)) :
    outcome (result { stack, steps }) = (resultOf stack, { stack, steps }) := by
  rcases stack with _ | ⟨x, _ | ⟨y, rest⟩⟩
  · rfl
  · rfl
  · rw [result_of_lt (by simp)]
    rfl

/-- What a machine answers to calls in order, with its stack after each. -/
def observed : Machine → List Call → List (Except Failure (Option Binary64) × List Binary64)
  | _, [] => []
  | m, call :: rest =>
      let (answer, m') := outcome (call.action m)
      (answer, m'.bottomFirst) :: observed m' rest

/-! ## Computations that do not look at the steps -/

/-- The answer and the stack after it are the same for all recorded steps, and
so are the steps that are appended. -/
def IgnoresSteps {α : Type} (a : Action α) : Prop :=
  ∀ stack : List Binary64, ∃ answer stack' more, ∀ steps : Option (List Step),
    outcome (a { stack, steps }) = (answer, { stack := stack', steps := steps.map (· ++ more) })

theorem IgnoresSteps.map {α β : Type} {a : Action α} (h : IgnoresSteps a) (f : α → β) :
    IgnoresSteps (f <$> a) := by
  intro stack
  obtain ⟨answer, stack', more, heq⟩ := h stack
  refine ⟨answer.map f, stack', more, ?_⟩
  intro steps
  rw [outcome_map, heq steps]

theorem ignoresSteps_feed (token : String) : IgnoresSteps (feed token) := by
  intro stack
  obtain ⟨r, hr⟩ := exists_feeds token stack
  cases r with
  | fed stack' action =>
      refine ⟨.ok (), stack', [stepOf token stack' action], ?_⟩
      intro steps
      rw [hr.feed_eq]
      rfl
  | failed e left =>
      refine ⟨.error (.expression e), left, [], ?_⟩
      intro steps
      rw [hr.feed_eq]
      cases steps <;> simp [Effect.onto, outcome]

theorem ignoresSteps_run (expression : Option String) : IgnoresSteps (run expression) := by
  intro stack
  obtain ⟨answer, stack', more, hruns⟩ := exists_runs expression stack
  refine ⟨answer.mapError .expression, stack', more, ?_⟩
  intro steps
  rw [hruns.run_eq]
  cases answer <;> rfl

theorem ignoresSteps_result : IgnoresSteps result := by
  intro stack
  refine ⟨resultOf stack, stack, [], ?_⟩
  intro steps
  rw [outcome_result]
  cases steps <;> simp

theorem Call.ignoresSteps (call : Call) : IgnoresSteps call.action := by
  cases call with
  | feed token => exact (ignoresSteps_feed token).map _
  | run expression => exact (ignoresSteps_run expression).map _
  | result => exact ignoresSteps_result.map _

/-! ## The simulation -/

/-- The machines differ in nothing but what they have recorded. -/
def SameStack (m m' : Machine) : Prop :=
  m.stack = m'.stack

/-- A computation that ignores the steps answers the same on both machines and
leaves them with the same stack. -/
theorem IgnoresSteps.simulates {α : Type} {a : Action α} (h : IgnoresSteps a) {m m' : Machine}
    (hsame : SameStack m m') :
    (outcome (a m)).1 = (outcome (a m')).1 ∧ SameStack (outcome (a m)).2 (outcome (a m')).2 := by
  obtain ⟨stack, steps⟩ := m
  obtain ⟨stack', steps'⟩ := m'
  have hstack : stack = stack' := hsame
  subst hstack
  obtain ⟨answer, left, more, heq⟩ := h stack
  rw [heq steps, heq steps']
  exact ⟨rfl, rfl⟩

theorem observed_eq_of_sameStack (calls : List Call) {m m' : Machine} (h : SameStack m m') :
    observed m calls = observed m' calls := by
  -- A call leaves other machines than it finds, but again with the same stack.
  induction calls generalizing m m' with
  | nil => rfl
  | cons call rest ih =>
      obtain ⟨hanswer, hsame⟩ := call.ignoresSteps.simulates h
      have hstack : (outcome (call.action m)).2.bottomFirst =
          (outcome (call.action m')).2.bottomFirst := congrArg List.reverse hsame
      simp only [observed]
      rw [hanswer, hstack, ih hsame]

end Machine

/-! ## The views of a run agree -/

open Machine

/-- Whatever calls are made, a machine that records answers as one that does not
and has the same stack after each.  So `trace` fails as `evaluate` fails, its
last step shows the value that `evaluate` answers, and `validate` says whether
there is one. -/
theorem recording_unobserved :
    (∀ calls : List Call, observed (.new true) calls = observed (.new false) calls) ∧
    ∀ expression : Option String,
      (∀ f, trace expression = .error f ↔ evaluate expression = .error f) ∧
      (∀ x, evaluate expression = .ok x →
        ∃ tokens steps, Token.ofExpression expression = .ok tokens ∧
          trace expression = .ok steps ∧ steps.map Step.token = tokens ∧ steps ≠ [] ∧
          steps.getLast?.map Step.stack = some [x]) ∧
      (validate expression = .ok true ↔ ∃ x, evaluate expression = .ok x) ∧
      (validate expression = .ok false ↔ ∃ f, evaluate expression = .error f) := by
  refine ⟨fun calls => observed_eq_of_sameStack calls rfl, ?_⟩
  intro expression
  refine ⟨fun f => trace_eq_error_iff, ?_, ?_⟩
  · intro x hx
    obtain ⟨htrace, htokens, hlast⟩ := trace_of_evaluate hx
    refine ⟨_, _, htokens, htrace, rfl, ?_, hlast⟩
    intro hnil
    rw [hnil] at hlast
    simp at hlast
  · obtain ⟨answer, stack, steps, hruns⟩ := exists_runs expression []
    rw [validate_of_runs hruns, evaluate_of_runs hruns]
    cases answer <;> simp [Except.mapError, Except.isOk, Except.toBool]

/-- The quotient has one step for each of its tokens. -/
theorem recording_unobserved_quotient :
    evaluate (some "1 1 /") = .ok .one ∧
      ∃ steps, trace (some "1 1 /") = .ok steps ∧ steps.map Step.token = ["1", "1", "/"] ∧
        steps.getLast?.map Step.stack = some [.one] := by
  have hvalue : evaluate (some "1 1 /") = .ok .one := by
    decide +kernel
  have htokens : Token.ofExpression (some "1 1 /") = .ok ["1", "1", "/"] := by
    decide +kernel
  obtain ⟨tokens, steps, hdivided, htrace, hmap, -, hlast⟩ :=
    (recording_unobserved.2 (some "1 1 /")).2.1 .one hvalue
  rw [htokens, Except.ok.injEq] at hdivided
  exact ⟨hvalue, steps, htrace, hmap.trans hdivided.symm, hlast⟩

end PostfixCalc
