import PostfixCalc.Proofs.Machine.Running
import PostfixCalc.Proofs.Token.Division

/-!
# The spaces between tokens

Dividing an expression loses nothing but the white space between its tokens: what trimming
leaves is the tokens in order with a run of white space between one and the next
(`spaced_of_ofExpression`).  How long these runs are does not matter.  With single spaces in
their place the text divides into the same tokens, because it begins and ends with the same
characters, which trimming does not take; so it has the same value and the same trace.
-/

namespace PostfixCalc

namespace Text

variable {runs ws : List (List Char)} {text : List Char}

/-! ## Runs as words -/

theorem IsRuns.isWord (h : IsRuns isWhiteSpace runs text) : ∀ run ∈ runs, IsWord run := by
  induction h with
  | nil hgap => simp
  | cons hgap hne hrun hend hrest ih => exact List.forall_mem_cons.2 ⟨⟨hne, hrun⟩, ih⟩

/-- The runs of a text that does not end in white space are spaced in it, after the white space
in front of the first one. -/
theorem IsRuns.exists_spaced (h : IsRuns isWhiteSpace runs text) (hne : text ≠ [])
    (hlast : ∀ c ∈ text.getLast?, isWhiteSpace c = false) :
    ∃ gap rest, text = gap ++ rest ∧ (∀ c ∈ gap, isWhiteSpace c = true) ∧
      (∀ c ∈ rest.head?, isWhiteSpace c = false) ∧ Spaced runs rest := by
  induction h with
  | nil hgap =>
      have hend := hlast _ (List.getLast?_eq_some_getLast hne)
      rw [hgap _ (List.getLast_mem hne)] at hend
      contradiction
  | @cons gap run rest runs hgap hrunne hrun hend hrest ih =>
      refine ⟨gap, run ++ rest, rfl, hgap, head?_append_of_ne_nil hrunne hrun, ?_⟩
      by_cases hnil : rest = []
      · subst hnil
        obtain rfl : runs = [] := hrest.unique (.nil (by simp))
        rw [List.append_nil]
        exact .single run
      · have hrestLast : ∀ c ∈ rest.getLast?, isWhiteSpace c = false := by
          intro c hc
          apply hlast c
          rw [List.getLast?_append, List.getLast?_append, hc]
          rfl
        obtain ⟨gap', rest', hcut, hwhite, hhead, hspaced⟩ := ih hnil hrestLast
        -- A run ends before white space, and what is spaced does not begin with it.
        have hgapne : gap' ≠ [] := by
          rintro rfl
          rw [List.nil_append] at hcut
          obtain ⟨c, more, rfl⟩ := List.exists_cons_of_ne_nil hnil
          have hdark : isWhiteSpace c = false := hhead c (by simp [← hcut])
          rw [hend c (by simp)] at hdark
          cases hdark
        rw [hcut, ← List.append_assoc]
        exact .cons hgapne hwhite hspaced

/-- A text that neither begins nor ends with white space is its words, spaced. -/
theorem spaced_words (hne : text ≠ []) (hfirst : ∀ c ∈ text.head?, isWhiteSpace c = false)
    (hlast : ∀ c ∈ text.getLast?, isWhiteSpace c = false) : Spaced (words text) text := by
  obtain ⟨gap, rest, hcut, hwhite, -, hspaced⟩ := (isRuns_words text).exists_spaced hne hlast
  cases gap with
  | nil =>
      rw [List.nil_append] at hcut
      rwa [← hcut] at hspaced
  | cons c gap =>
      have hc := hfirst c (by rw [hcut]; rfl)
      rw [hwhite c (by simp)] at hc
      contradiction

/-! ## The ends of a spaced text -/

theorem Spaced.ne_nil (h : Spaced ws text) : ws ≠ [] := by
  cases h <;> simp

/-- A spaced text begins as its first word does. -/
theorem Spaced.head?_eq (h : Spaced ws text) (hws : ∀ w ∈ ws, w ≠ []) :
    text.head? = ws.head?.bind List.head? := by
  cases h with
  | single w => simp
  | @cons w gap ws text hgap hwhite hrest =>
      obtain ⟨c, w, rfl⟩ := List.exists_cons_of_ne_nil (hws w (by simp))
      rfl

/-- A spaced text ends as its last word does. -/
theorem Spaced.getLast?_eq (h : Spaced ws text) (hws : ∀ w ∈ ws, w ≠ []) :
    text.getLast? = ws.getLast?.bind List.getLast? := by
  induction h with
  | single w => simp
  | @cons w gap ws text hgap hwhite hrest ih =>
      have hrestWords : ∀ v ∈ ws, v ≠ [] := fun v hv => hws v (by simp [hv])
      have htext : text ≠ [] := spaced_ne_nil hrest hrestWords
      obtain ⟨v, vs, rfl⟩ := List.exists_cons_of_ne_nil hrest.ne_nil
      rw [List.getLast?_append_of_ne_nil _ htext, ih hrestWords, List.getLast?_cons_cons]

/-- Trimming leaves two texts alone, or neither, in which the same words are spaced. -/
theorem Spaced.trimChars_eq {text' : List Char} (h : Spaced ws (trimChars text))
    (h' : Spaced ws text') (hws : ∀ w ∈ ws, w ≠ []) : trimChars text' = text' := by
  obtain ⟨hfirst, hlast⟩ := ends_of_trimChars text
  rw [h.head?_eq hws, ← h'.head?_eq hws] at hfirst
  rw [h.getLast?_eq hws, ← h'.getLast?_eq hws] at hlast
  exact trimChars_eq_self hfirst hlast

theorem spaced_intercalate (hne : ws ≠ []) : Spaced ws ([' '].intercalate ws) := by
  have hspace : isWhiteSpace ' ' = true := by decide
  have hgap : ∀ c ∈ [' '], isWhiteSpace c = true := by simpa using hspace
  induction ws with
  | nil => exact absurd rfl hne
  | cons w ws ih =>
      cases ws with
      | nil =>
          rw [List.intercalate_singleton]
          exact .single w
      | cons v ws =>
          rw [List.intercalate_cons_cons]
          exact .cons (by simp) hgap (ih (by simp))

end Text

namespace Token

open Text

variable {text : String} {tokens : List String}

theorem isWord_of_mem_tokens (h : ofExpression (some text) = .ok tokens) :
    ∀ token ∈ tokens, IsWord token.toList := by
  simpa using (ofExpression_eq_ok_iff.1 h).2.isWord

/-- What trimming leaves of an expression is its tokens, spaced. -/
theorem spaced_of_ofExpression (h : ofExpression (some text) = .ok tokens) :
    Spaced (tokens.map String.toList) (trimChars text.toList) := by
  obtain ⟨hkept, hruns⟩ := ofExpression_eq_ok_iff.1 h
  obtain ⟨hfirst, hlast⟩ := ends_of_trimChars text.toList
  rw [← words_of_isRuns hruns]
  exact spaced_words (trimChars_ne_nil hkept)
    (fun c hc => isWhiteSpace_of_not_isTrimmed (hfirst c hc))
    (fun c hc => isWhiteSpace_of_not_isTrimmed (hlast c hc))

/-- The tokens of an expression with single spaces between them divide as the expression does. -/
theorem ofExpression_intercalate (h : ofExpression (some text) = .ok tokens) :
    ofExpression (some (" ".intercalate tokens)) = .ok tokens := by
  have hwords := isWord_of_mem_tokens h
  have hspaced := spaced_of_ofExpression h
  have hjoined : Spaced (tokens.map String.toList) (" ".intercalate tokens).toList := by
    rw [String.toList_intercalate]
    exact spaced_intercalate hspaced.ne_nil
  have hne : ∀ w ∈ tokens.map String.toList, w ≠ [] := by
    simpa using fun token htoken => (hwords token htoken).1
  exact ofExpression_of_words hjoined hwords (hspaced.trimChars_eq hjoined hne)

/-- An expression that divides has a token at least, and none of them is empty or has white
space in it; trimming would take nothing off the front of the first or the end of the last.
What it leaves of the expression is these tokens with runs of white space between them.  The
tokens with single spaces between them divide into the same tokens; that text, the trimmed
expression and the expression itself have the same value and the same trace, or fail alike. -/
theorem ofExpression_lossless (h : ofExpression (some text) = .ok tokens) :
    tokens ≠ [] ∧
    (∀ token ∈ tokens, token ≠ "" ∧ ∀ c ∈ token.toList, isWhiteSpace c = false) ∧
    (∀ token ∈ tokens.head?, ∀ c ∈ token.toList.head?, isTrimmed c = false) ∧
    (∀ token ∈ tokens.getLast?, ∀ c ∈ token.toList.getLast?, isTrimmed c = false) ∧
    Spaced (tokens.map String.toList) (trim text).toList ∧
    ofExpression (some (" ".intercalate tokens)) = .ok tokens ∧
    (evaluate (some (trim text)) = evaluate (some text) ∧
      trace (some (trim text)) = trace (some text)) ∧
    evaluate (some (" ".intercalate tokens)) = evaluate (some text) ∧
      trace (some (" ".intercalate tokens)) = trace (some text) := by
  have hwords := isWord_of_mem_tokens h
  have hspaced := spaced_of_ofExpression h
  have hne : ∀ w ∈ tokens.map String.toList, w ≠ [] := by
    simpa using fun token htoken => (hwords token htoken).1
  obtain ⟨hfirst, hlast⟩ := ends_of_trimChars text.toList
  rw [hspaced.head?_eq hne, List.head?_map] at hfirst
  rw [hspaced.getLast?_eq hne, List.getLast?_map] at hlast
  have htrimmed := ofExpression_trim text
  have hjoined := (ofExpression_intercalate h).trans h.symm
  refine ⟨ne_nil_of_ofExpression h, ?_, ?_, ?_, ?_, ofExpression_intercalate h,
    ⟨evaluate_congr htrimmed, trace_congr htrimmed⟩, evaluate_congr hjoined, trace_congr hjoined⟩
  · intro token htoken
    obtain ⟨hnil, hdark⟩ := hwords token htoken
    exact ⟨by simpa using hnil, hdark⟩
  · intro token htoken c hc
    rw [Option.mem_def] at htoken
    exact hfirst c (by simpa [htoken] using hc)
  · intro token htoken c hc
    rw [Option.mem_def] at htoken
    exact hlast c (by simpa [htoken] using hc)
  · rwa [trim, String.toList_ofList]

/-- A separator is trimmed in front of the first token and kept inside it. -/
theorem ofExpression_lossless_separator :
    ofExpression (some "\x1c 3\x1c4 \u30005\t") = .ok ["3\x1c4", "5"] ∧
      ofExpression (some "3\x1c4 5") = .ok ["3\x1c4", "5"] ∧
      trim "\x1c 3\x1c4 \u30005\t" = "3\x1c4 \u30005" ∧
      Spaced [['3', '\x1c', '4'], ['5']] "3\x1c4 \u30005".toList ∧
      evaluate (some "3\x1c4 5") = evaluate (some "\x1c 3\x1c4 \u30005\t") := by
  have htokens : ofExpression (some "\x1c 3\x1c4 \u30005\t") = .ok ["3\x1c4", "5"] := by
    decide +kernel
  have htrim : trim "\x1c 3\x1c4 \u30005\t" = "3\x1c4 \u30005" := by
    decide +kernel
  have hjoin : " ".intercalate ["3\x1c4", "5"] = "3\x1c4 5" := by
    decide +kernel
  obtain ⟨-, -, -, -, hspaced, hjoined, -, hvalue, -⟩ := ofExpression_lossless htokens
  rw [hjoin] at hjoined hvalue
  rw [htrim] at hspaced
  exact ⟨htokens, hjoined, htrim, hspaced, hvalue⟩

end Token

end PostfixCalc
