import Mathlib.Data.List.Forall2
import PostfixCalc.Proofs.Machine.Running

/-!
# Postfix notation

An expression tree has numbers at its leaves and operators at its nodes.  Its
value is computed from the leaves up, the left operand first, and its tokens are
written in postorder.

Evaluating the tokens of a tree gives the value of the tree, because over any
stack they push this one value or fail as the tree does
(`Tree.feedsAll_of_value`, `Tree.failsIn_of_value`).  Conversely the values of a
stack are always the values of trees that the tokens so far are the postorder of
(`exists_trees_of_feedsAll`).  That no list of tokens is the postorder of two
trees is seen by reading it back onto a stack of trees (`Tree.read_tokens`).
-/

namespace PostfixCalc

/-- A token that is a number, and the number. -/
structure Literal where
  token : String
  value : Binary64
  number?_token : Token.number? token = .ok (some value)

/-- An expression as a tree. -/
inductive Tree where
  | leaf (literal : Literal)
  | unary (op : UnaryOperator) (operand : Tree)
  | binary (op : BinaryOperator) (left right : Tree)

namespace Tree

/-- The tokens of a tree in postorder. -/
def tokens : Tree → List String
  | .leaf literal => [literal.token]
  | .unary op operand => operand.tokens ++ [op.symbol]
  | .binary op left right => left.tokens ++ right.tokens ++ [op.symbol]

/-- The value of a tree, or the first error on the way to it. -/
def value : Tree → Except Failure Binary64
  | .leaf literal => .ok literal.value
  | .unary op operand => do
      let only ← operand.value
      op.apply only
  | .binary op left right => do
      let first ← left.value
      let second ← right.value
      op.apply first second

section

variable {op : UnaryOperator} {op₂ : BinaryOperator} {operand left right : Tree}
  {only first second : Binary64} {e : Failure}

theorem value_unary (h : operand.value = .ok only) :
    (Tree.unary op operand).value = op.apply only := by
  rw [value, h]
  rfl

theorem value_unary_of_error (h : operand.value = .error e) :
    (Tree.unary op operand).value = .error e := by
  rw [value, h]
  rfl

theorem value_binary (hleft : left.value = .ok first) (hright : right.value = .ok second) :
    (Tree.binary op₂ left right).value = op₂.apply first second := by
  rw [value, hleft, hright]
  rfl

theorem value_binary_of_left (hleft : left.value = .error e) :
    (Tree.binary op₂ left right).value = .error e := by
  rw [value, hleft]
  rfl

/-- The right operand is not looked at before the left one has a value. -/
theorem value_binary_of_right (hleft : left.value = .ok first) (hright : right.value = .error e) :
    (Tree.binary op₂ left right).value = .error e := by
  rw [value, hleft, hright]
  rfl

end

theorem isSolid_of_mem_tokens {t : Tree} {token : String} (h : token ∈ t.tokens) :
    Text.IsSolid token.toList := by
  induction t with
  | leaf literal =>
      rw [List.mem_singleton.1 h]
      exact Token.isSolid_of_number? literal.number?_token
  | unary op operand ih =>
      rcases List.mem_append.1 h with h | h
      · exact ih h
      · rw [List.mem_singleton.1 h]
        exact Operator.isSolid_symbol (.unary op)
  | binary op left right ihleft ihright =>
      rcases List.mem_append.1 h with h | h
      · rcases List.mem_append.1 h with h | h
        · exact ihleft h
        · exact ihright h
      · rw [List.mem_singleton.1 h]
        exact Operator.isSolid_symbol (.binary op)

/-! ## From the tree to the machine -/

open Machine

/-- The tokens of a tree with a value push it on any stack. -/
theorem feedsAll_of_value {t : Tree} {x : Binary64} (h : t.value = .ok x)
    (stack : List Binary64) : ∃ steps, FeedsAll stack t.tokens (x :: stack) steps := by
  -- The stack varies: a right operand is computed on top of the left one.
  induction t generalizing x stack with
  | leaf literal =>
      have hx : literal.value = x := by simpa [value] using h
      have hnumber := literal.number?_token
      rw [hx] at hnumber
      exact ⟨_, .singleton (.number hnumber)⟩
  | unary op operand ih =>
      have hop := Operator.ofSymbol?_symbol (.unary op)
      cases honly : operand.value with
      | error e =>
          rw [value_unary_of_error honly] at h
          contradiction
      | ok only =>
          rw [value_unary honly] at h
          obtain ⟨steps, hsteps⟩ := ih honly stack
          exact ⟨_, hsteps.append (.singleton (.unary hop h))⟩
  | binary op left right ihleft ihright =>
      have hop := Operator.ofSymbol?_symbol (.binary op)
      cases hleft : left.value with
      | error e =>
          rw [value_binary_of_left hleft] at h
          contradiction
      | ok first =>
          cases hright : right.value with
          | error e =>
              rw [value_binary_of_right hleft hright] at h
              contradiction
          | ok second =>
              rw [value_binary hleft hright] at h
              obtain ⟨steps, hsteps⟩ := ihleft hleft stack
              obtain ⟨steps', hsteps'⟩ := ihright hright (first :: stack)
              exact ⟨_, (hsteps.append hsteps').append (.singleton (.binary hop h))⟩

/-- The tokens of a tree without a value fail as it does, on any stack. -/
theorem failsIn_of_value {t : Tree} {e : Failure} (h : t.value = .error e)
    (stack : List Binary64) :
    ∃ err left steps, e = .expression err ∧ FailsIn stack t.tokens err left steps := by
  induction t generalizing e stack with
  | leaf literal => simp [value] at h
  | unary op operand ih =>
      have hop := Operator.ofSymbol?_symbol (.unary op)
      cases honly : operand.value with
      | error e' =>
          rw [value_unary_of_error honly, Except.error.injEq] at h
          obtain ⟨err, left, steps, herr, hfails⟩ := ih honly stack
          exact ⟨err, left, steps, h ▸ herr, hfails.append _⟩
      | ok only =>
          -- Only an operator itself can fail here, and then by an error of the expression.
          rw [value_unary honly] at h
          obtain ⟨-, -, rfl⟩ := UnaryOperator.apply_eq_error_iff.1 h
          obtain ⟨steps, hsteps⟩ := feedsAll_of_value honly stack
          exact ⟨_, _, _, rfl, hsteps.append_failsIn (.head (.unaryFails hop h))⟩
  | binary op left right ihleft ihright =>
      have hop := Operator.ofSymbol?_symbol (.binary op)
      cases hleft : left.value with
      | error e' =>
          rw [value_binary_of_left hleft, Except.error.injEq] at h
          obtain ⟨err, rest, steps, herr, hfails⟩ := ihleft hleft stack
          exact ⟨err, rest, steps, h ▸ herr, (hfails.append _).append _⟩
      | ok first =>
          obtain ⟨steps, hsteps⟩ := feedsAll_of_value hleft stack
          cases hright : right.value with
          | error e' =>
              rw [value_binary_of_right hleft hright, Except.error.injEq] at h
              obtain ⟨err, rest, steps', herr, hfails⟩ := ihright hright (first :: stack)
              exact ⟨err, rest, _, h ▸ herr, (hsteps.append_failsIn hfails).append _⟩
          | ok second =>
              rw [value_binary hleft hright] at h
              obtain ⟨-, -, rfl⟩ := BinaryOperator.apply_eq_error_iff.1 h
              obtain ⟨steps', hsteps'⟩ := feedsAll_of_value hright (first :: stack)
              exact ⟨_, _, _, rfl,
                (hsteps.append hsteps').append_failsIn (.head (.binaryFails hop h))⟩

/-- Over an empty stack the tokens of a tree run to its value. -/
theorem evaluate_of_tokens {t : Tree} {expression : Option String}
    (h : Token.ofExpression expression = .ok t.tokens) : evaluate expression = t.value := by
  cases hvalue : t.value with
  | ok x =>
      obtain ⟨steps, hfeeds⟩ := feedsAll_of_value hvalue []
      rw [evaluate_of_runs (.value h hfeeds)]
      rfl
  | error e =>
      obtain ⟨err, left, steps, rfl, hfails⟩ := failsIn_of_value hvalue []
      rw [evaluate_of_runs (.fails h hfails)]
      rfl

/-! ## From the machine to the tree -/

/-- The tokens of a stack of trees, the topmost tree last. -/
def stackTokens : List Tree → List String
  | [] => []
  | t :: below => stackTokens below ++ t.tokens

/-- These trees have these values. -/
abbrev HaveValues (trees : List Tree) (stack : List Binary64) : Prop :=
  List.Forall₂ (fun t x => t.value = .ok x) trees stack

/-- A token that is fed makes one more tree of those on top. -/
theorem exists_trees_of_feeds {token : String} {stack stack' : List Binary64} {action : String}
    (h : Feeds token stack (.fed stack' action)) {trees : List Tree}
    (htrees : HaveValues trees stack) :
    ∃ trees', HaveValues trees' stack' ∧ stackTokens trees' = stackTokens trees ++ [token] := by
  cases h with
  | @number x _ h => exact ⟨.leaf ⟨token, x, h⟩ :: trees, .cons rfl htrees, rfl⟩
  | @unary op only value rest hop happly =>
      obtain ⟨t, below, ht, hbelow, rfl⟩ := List.forall₂_cons_right_iff.1 htrees
      have hvalue : (Tree.unary op t).value = .ok value := (value_unary ht).trans happly
      have hsymbol : op.symbol = token := Operator.symbol_of_ofSymbol? hop
      refine ⟨.unary op t :: below, .cons hvalue hbelow, ?_⟩
      simp [stackTokens, tokens, hsymbol]
  | @binary op left right value rest hop happly =>
      -- The right operand is on top, and its tokens stand last.
      obtain ⟨r, below', hr, hbelow', rfl⟩ := List.forall₂_cons_right_iff.1 htrees
      obtain ⟨l, below, hl, hbelow, rfl⟩ := List.forall₂_cons_right_iff.1 hbelow'
      have hvalue : (Tree.binary op l r).value = .ok value := (value_binary hl hr).trans happly
      have hsymbol : op.symbol = token := Operator.symbol_of_ofSymbol? hop
      refine ⟨.binary op l r :: below, .cons hvalue hbelow, ?_⟩
      simp [stackTokens, tokens, hsymbol]

/-- Tokens that are fed are the postorder of trees with the values on the stack. -/
theorem exists_trees_of_feedsAll {tokens : List String} {stack stack' : List Binary64}
    {steps : List Step} (h : FeedsAll stack tokens stack' steps) {trees : List Tree}
    (htrees : HaveValues trees stack) :
    ∃ trees', HaveValues trees' stack' ∧ stackTokens trees' = stackTokens trees ++ tokens := by
  -- Fed tokens are carried along as the trees that stand for the stack so far.
  induction h generalizing trees with
  | nil => exact ⟨trees, htrees, by simp⟩
  | cons h _ ih =>
      obtain ⟨trees₁, hvalues₁, htokens₁⟩ := exists_trees_of_feeds h htrees
      obtain ⟨trees₂, hvalues₂, htokens₂⟩ := ih hvalues₁
      exact ⟨trees₂, hvalues₂, by rw [htokens₂, htokens₁, List.append_assoc]; rfl⟩

/-! ## Reading back -/

/-- Put an operator over the topmost trees, if there are as many as it takes. -/
def combine : Operator → List Tree → Option (List Tree)
  | .unary op, operand :: rest => some (.unary op operand :: rest)
  | .binary op, right :: left :: rest => some (.binary op left right :: rest)
  | _, _ => none

/-- Read a token onto a stack of trees, if it goes with them. -/
def readToken (token : String) (stack : List Tree) : Option (List Tree) :=
  match h : Token.number? token with
  | .ok (some x) => some (.leaf ⟨token, x, h⟩ :: stack)
  | _ => (Operator.ofSymbol? token).bind (combine · stack)

/-- Read tokens onto a stack of trees. -/
def read : List String → List Tree → Option (List Tree)
  | [], stack => some stack
  | token :: rest, stack => (readToken token stack).bind (read rest)

theorem readToken_literal (literal : Literal) (stack : List Tree) :
    readToken literal.token stack = some (.leaf literal :: stack) := by
  obtain ⟨token, x, hnumber⟩ := literal
  unfold readToken
  split
  · rename_i y hy
    rw [hnumber] at hy
    cases hy
    rfl
  · rename_i hno
    exact absurd hnumber (hno x)

theorem readToken_symbol (op : Operator) (stack : List Tree) :
    readToken op.symbol stack = combine op stack := by
  unfold readToken
  split
  · rename_i x hx
    rw [Token.number?_symbol] at hx
    simp at hx
  · rw [Operator.ofSymbol?_symbol, Option.bind_some]

theorem read_append (tokens tokens' : List String) (stack : List Tree) :
    read (tokens ++ tokens') stack = (read tokens stack).bind (read tokens') := by
  induction tokens generalizing stack with
  | nil => rfl
  | cons token rest ih =>
      simp only [List.cons_append, read, Option.bind_assoc]
      congr
      funext stack'
      exact ih stack'

/-- The tokens of a tree read as the tree, on any stack. -/
theorem read_tokens (t : Tree) (stack : List Tree) : read t.tokens stack = some (t :: stack) := by
  induction t generalizing stack with
  | leaf literal => simp [tokens, read, readToken_literal]
  | unary op operand ih =>
      have hop := readToken_symbol (.unary op) (operand :: stack)
      rw [tokens, read_append, ih, Option.bind_some, read]
      exact congrArg (Option.bind · (read [])) hop
  | binary op left right ihleft ihright =>
      have hop := readToken_symbol (.binary op) (right :: left :: stack)
      rw [tokens, read_append, read_append, ihleft, Option.bind_some, ihright, Option.bind_some,
        read]
      exact congrArg (Option.bind · (read [])) hop

theorem tokens_injective {t u : Tree} (h : t.tokens = u.tokens) : t = u := by
  have ht := read_tokens t []
  rw [h, read_tokens u []] at ht
  simpa using ht.symm

end Tree

/-! ## Evaluation is the value of the tree -/

/-- The tokens of a tree, with any white space between them, evaluate to its
value or fail with its error; and an expression with a value has the tokens of
exactly one tree, which has that value. -/
theorem evaluate_postfix :
    (∀ (t : Tree) (text : String), Text.Spaced (t.tokens.map String.toList) text.toList →
      evaluate (some text) = t.value) ∧
    (∀ (text : String) (x : Binary64), evaluate (some text) = .ok x →
      ∃ (tokens : List String) (t : Tree), Token.ofExpression (some text) = .ok tokens ∧
        t.tokens = tokens ∧ t.value = .ok x ∧ ∀ u : Tree, u.tokens = tokens → u = t) := by
  constructor
  · intro t text hspaced
    have htokens := Token.ofExpression_of_spaced hspaced fun _ h => Tree.isSolid_of_mem_tokens h
    exact Tree.evaluate_of_tokens htokens
  · intro text x hvalue
    obtain ⟨tokens, steps, hdivided, hfeeds⟩ := exists_feedsAll_of_evaluate hvalue
    obtain ⟨trees, hvalues, htokens⟩ := Tree.exists_trees_of_feedsAll hfeeds .nil
    -- One value is left, hence one tree.
    obtain ⟨t, below, ht, hbelow, rfl⟩ := List.forall₂_cons_right_iff.1 hvalues
    rw [List.forall₂_nil_right_iff.1 hbelow] at htokens
    have hpost : t.tokens = tokens := by
      simpa [Tree.stackTokens] using htokens
    refine ⟨tokens, t, hdivided, hpost, ht, ?_⟩
    intro u hu
    exact Tree.tokens_injective (hu.trans hpost.symm)

/-- One less zero, with white space of several kinds between the tokens. -/
theorem evaluate_postfix_difference :
    ∃ t : Tree, t.tokens = ["1", "0", "-"] ∧ t.value = .ok .one ∧
      evaluate (some "1 \t0\u3000-") = t.value ∧ ∀ u : Tree, u.tokens = t.tokens → u = t := by
  have hvalue : evaluate (some "1 \t0\u3000-") = .ok .one := by
    decide +kernel
  have htokens : Token.ofExpression (some "1 \t0\u3000-") = .ok ["1", "0", "-"] := by
    decide +kernel
  obtain ⟨tokens, t, hdivided, hpost, ht, hunique⟩ := evaluate_postfix.2 _ _ hvalue
  rw [htokens, Except.ok.injEq] at hdivided
  have hspaced : Text.Spaced (t.tokens.map String.toList) "1 \t0\u3000-".toList := by
    rw [hpost, ← hdivided]
    have hlast : Text.Spaced ["0".toList, "-".toList] "0\u3000-".toList :=
      .cons (w := ['0']) (show ['\u3000'] ≠ [] by decide) (List.all_eq_true.1 rfl) (.single ['-'])
    exact .cons (w := ['1']) (show [' ', '\t'] ≠ [] by decide) (List.all_eq_true.1 rfl) hlast
  refine ⟨t, hpost.trans hdivided.symm, ht, evaluate_postfix.1 t _ hspaced, ?_⟩
  intro u hu
  exact hunique u (hu.trans hpost)

end PostfixCalc
