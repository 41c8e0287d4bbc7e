import PostfixCalc.Proofs.Machine.Framing
import PostfixCalc.Proofs.Token.Display

/-!
# Folding constants

Tokens that are fed to a stack are fed to any deeper one as well, and what lies below is
kept (`FeedsAll.frame`).  So tokens that answer a value on a new machine push it on every
stack, and so does the text of the value, which reads back.  Whatever stands before such
tokens and after them, and however it ends, the text can take their place
(`answerTo_fold`).
-/

namespace PostfixCalc

namespace Machine

/-- What a new machine answers when it is fed tokens in order and asked for the result. -/
def answerTo (recording : Bool) (tokens : List String) : Except Failure Binary64 :=
  (outcome ((feedAll tokens >>= fun _ => result) (.new recording))).1

variable {token : String} {tokens pre mid mid' post : List String}
  {stack left : List Binary64} {steps : List Step} {recording : Bool}
  {e : EvalError} {v : Binary64}

/-! ## Answers -/

theorem answerTo_of_feedsAll (h : FeedsAll [] tokens stack steps) :
    answerTo recording tokens = resultOf stack := by
  unfold answerTo Machine.new
  rw [bind_of_ok (h.feedAll_eq _), outcome_result]

theorem answerTo_of_failsIn (h : FailsIn [] tokens e left steps) :
    answerTo recording tokens = .error (.expression e) := by
  unfold answerTo Machine.new
  rw [bind_of_error (h.feedAll_eq _)]
  rfl

/-- Tokens that answer a value leave nothing else on the stack. -/
theorem exists_feedsAll_of_answerTo (h : answerTo recording tokens = .ok v) :
    ∃ steps, FeedsAll [] tokens [v] steps := by
  rcases feedsAll_or_failsIn tokens [] with ⟨stack, steps, hfeeds⟩ | ⟨e, left, steps, hfails⟩
  · rw [answerTo_of_feedsAll hfeeds] at h
    rcases stack with _ | ⟨x, _ | ⟨y, rest⟩⟩
    · contradiction
    · obtain rfl : x = v := Except.ok.inj h
      exact ⟨steps, hfeeds⟩
    · contradiction
  · rw [answerTo_of_failsIn hfails] at h
    contradiction

/-! ## Blocks of tokens -/

/-- The tokens push the value on every stack. -/
def Pushes (tokens : List String) (v : Binary64) : Prop :=
  ∀ stack, ∃ steps, FeedsAll stack tokens (v :: stack) steps

theorem pushes_of_answerTo (h : answerTo recording tokens = .ok v) : Pushes tokens v := by
  obtain ⟨steps, hfeeds⟩ := exists_feedsAll_of_answerTo h
  exact fun stack => ⟨_, hfeeds.frame stack⟩

theorem pushes_of_number? (h : Token.number? token = .ok (some v)) : Pushes [token] v :=
  fun _ => ⟨_, .singleton (.number h)⟩

/-- Tokens that push the same value can take each other's place. -/
theorem Pushes.answerTo_eq (h : Pushes mid v) (h' : Pushes mid' v) (recording : Bool)
    (pre post : List String) :
    answerTo recording (pre ++ mid ++ post) = answerTo recording (pre ++ mid' ++ post) := by
  rcases feedsAll_or_failsIn pre [] with ⟨stack, _, hpre⟩ | ⟨_, _, _, hpre⟩
  · obtain ⟨_, hmid⟩ := h stack
    obtain ⟨_, hmid'⟩ := h' stack
    -- What comes after finds the same stack, on which it is fed or fails.
    rcases feedsAll_or_failsIn post (v :: stack) with ⟨_, _, hpost⟩ | ⟨_, _, _, hpost⟩
    · rw [answerTo_of_feedsAll ((hpre.append hmid).append hpost),
        answerTo_of_feedsAll ((hpre.append hmid').append hpost)]
    · rw [answerTo_of_failsIn ((hpre.append hmid).append_failsIn hpost),
        answerTo_of_failsIn ((hpre.append hmid').append_failsIn hpost)]
  · rw [List.append_assoc, List.append_assoc, answerTo_of_failsIn (hpre.append _),
      answerTo_of_failsIn (hpre.append _)]

/-- Tokens that answer a finite number other than minus zero can be replaced, wherever they
stand, by the text for display of that number. -/
theorem answerTo_fold (h : answerTo recording mid = .ok v) (hfinite : v.isFinite = true)
    (hzero : v ≠ .zero true) :
    ∃ text, v.display = .ok text ∧ ∀ pre post : List String,
      answerTo recording (pre ++ [text] ++ post) = answerTo recording (pre ++ mid ++ post) := by
  obtain ⟨text, htext⟩ := v.exists_display
  have hnumber := Token.number?_of_display hfinite htext
  rw [Binary64.displayed, if_neg hzero] at hnumber
  exact ⟨text, htext, (pushes_of_number? hnumber).answerTo_eq (pushes_of_answerTo h) recording⟩

/-- What follows the quotient may fail. -/
theorem answerTo_fold_quotient :
    answerTo false ["1", "1", "/"] = .ok .one ∧ Binary64.one.display = .ok "1" ∧
      answerTo false ["2", "1", "+", "+"] = answerTo false ["2", "1", "1", "/", "+", "+"] := by
  have hvalue : answerTo false ["1", "1", "/"] = .ok .one := by
    decide +kernel
  have hdisplay : Binary64.one.display = .ok "1" := by
    decide +kernel
  obtain ⟨text, htext, hfold⟩ := answerTo_fold hvalue rfl (by decide)
  rw [hdisplay, Except.ok.injEq] at htext
  subst htext
  exact ⟨hvalue, hdisplay, hfold ["2"] ["+", "+"]⟩

end Machine

end PostfixCalc
