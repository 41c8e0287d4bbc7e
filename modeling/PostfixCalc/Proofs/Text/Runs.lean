import Mathlib.Data.List.TakeWhile
import PostfixCalc.Proofs.Text.Words

/-!
# Maximal runs

What blank characters leave of a text are its maximal runs of other characters,
whatever counts as blank.  `IsRuns` lists them in order, with all the blanks that
stand before, between and after them.  A text has exactly one such list
(`exists_isRuns`, `IsRuns.unique`), whose characters are those of the text that are
not blank (`IsRuns.flatten_eq`), and blanks at the ends of a text do not matter to it.
`words` finds the runs between white space (`isRuns_words`).
-/

namespace PostfixCalc

namespace Text

/-- The maximal runs of the characters of a text that are not blank, in order.  A
run has characters, it begins after all the blanks in front of it, and it ends
where the text ends or a blank follows. -/
inductive IsRuns (blank : Char → Bool) : List (List Char) → List Char → Prop
  | nil {gap : List Char} (hgap : ∀ c ∈ gap, blank c = true) : IsRuns blank [] gap
  | cons {gap run rest : List Char} {runs : List (List Char)}
      (hgap : ∀ c ∈ gap, blank c = true) (hne : run ≠ []) (hrun : ∀ c ∈ run, blank c = false)
      (hend : ∀ c ∈ rest.head?, blank c = true) (hrest : IsRuns blank runs rest) :
      IsRuns blank (run :: runs) (gap ++ (run ++ rest))

/-! ## Where a run begins and ends -/

section Cut

variable {p : Char → Bool} {front front' rest rest' : List Char}

theorem takeWhile_append_of_head (hfront : ∀ c ∈ front, p c = true)
    (hrest : ∀ c ∈ rest.head?, p c = false) : (front ++ rest).takeWhile p = front := by
  rw [List.takeWhile_append_of_pos hfront]
  cases rest with
  | nil => simp
  | cons c rest => simp [hrest c (by simp)]

/-- A text can be cut in one way only before its first character of the other
kind. -/
theorem append_inj_of_head (h : front ++ rest = front' ++ rest')
    (hfront : ∀ c ∈ front, p c = true) (hfront' : ∀ c ∈ front', p c = true)
    (hrest : ∀ c ∈ rest.head?, p c = false) (hrest' : ∀ c ∈ rest'.head?, p c = false) :
    front = front' ∧ rest = rest' := by
  have hcut := congrArg (List.takeWhile p) h
  rw [takeWhile_append_of_head hfront hrest, takeWhile_append_of_head hfront' hrest'] at hcut
  subst hcut
  exact ⟨rfl, List.append_cancel_left h⟩

theorem head?_append_of_ne_nil (hne : front ≠ []) (hfront : ∀ c ∈ front, p c = false) :
    ∀ c ∈ (front ++ rest).head?, p c = false := by
  obtain ⟨c, front, rfl⟩ := List.exists_cons_of_ne_nil hne
  simpa using hfront c (by simp)

end Cut

variable {blank blank' : Char → Bool} {runs runs' : List (List Char)} {text gap : List Char}

/-- A text has one list of maximal runs. -/
theorem IsRuns.unique (h : IsRuns blank runs text) (h' : IsRuns blank runs' text) :
    runs = runs' := by
  -- A text with a run is not made of blanks.
  have hmixed : ∀ {front run rest : List Char}, run ≠ [] → (∀ c ∈ run, blank c = false) →
      ¬ ∀ c ∈ front ++ (run ++ rest), blank c = true := by
    intro front run rest hne hrun hblank
    obtain ⟨c, hc⟩ := List.exists_mem_of_ne_nil run hne
    have hcontra := hblank c (by simp [hc])
    rw [hrun c hc] at hcontra
    contradiction
  induction h generalizing runs' with
  | nil hgap =>
      cases h' with
      | nil => rfl
      | cons _ hne hrun => exact absurd hgap (hmixed hne hrun)
  | @cons gap run rest _ hgap hne hrun hend hrest ih =>
      generalize htext : gap ++ (run ++ rest) = text at h'
      cases h' with
      | nil hgap' => exact absurd (htext ▸ hgap') (hmixed hne hrun)
      | @cons gap' run' rest' _ hgap' hne' hrun' hend' hrest' =>
          obtain ⟨-, hafter⟩ := append_inj_of_head htext hgap hgap'
            (head?_append_of_ne_nil hne hrun) (head?_append_of_ne_nil hne' hrun')
          obtain ⟨rfl, rfl⟩ := append_inj_of_head (p := fun c => !blank c) hafter
            (by simpa using hrun) (by simpa using hrun') (by simpa using hend)
            (by simpa using hend')
          rw [ih hrest']

/-! ## Laws -/

/-- The runs hold all the characters that are not blank, in order. -/
theorem IsRuns.flatten_eq (h : IsRuns blank runs text) :
    runs.flatten = text.filter fun c => !blank c := by
  induction h with
  | nil hgap => simpa using hgap
  | @cons gap run rest runs hgap hne hrun hend hrest ih =>
      have hgapless : gap.filter (fun c => !blank c) = [] :=
        List.filter_eq_nil_iff.2 (by simpa using hgap)
      have hall : run.filter (fun c => !blank c) = run :=
        List.filter_eq_self.2 (by simpa using hrun)
      rw [List.flatten_cons, List.filter_append, List.filter_append, hgapless, hall, ih,
        List.nil_append]

/-- A text that does not begin with a blank begins with its first run. -/
theorem IsRuns.exists_append {run : List Char} (h : IsRuns blank (run :: runs) text)
    (hfirst : ∀ c ∈ text.head?, blank c = false) : ∃ rest, text = run ++ rest := by
  cases h with
  | @cons gap run rest runs hgap hne hrun hend hrest =>
      cases gap with
      | nil => exact ⟨rest, rfl⟩
      | cons c gap =>
          have hblank := hgap c (by simp)
          rw [hfirst c (by simp)] at hblank
          contradiction

/-- Only the blanks of the text itself matter. -/
theorem IsRuns.congr (h : IsRuns blank runs text) (hsame : ∀ c ∈ text, blank c = blank' c) :
    IsRuns blank' runs text := by
  induction h with
  | nil hgap => exact .nil fun c hc => hsame c hc ▸ hgap c hc
  | @cons gap run rest _ hgap hne hrun hend hrest ih =>
      refine .cons ?_ hne ?_ ?_ (ih fun c hc => hsame c (by simp [hc]))
      · exact fun c hc => hsame c (by simp [hc]) ▸ hgap c hc
      · exact fun c hc => hsame c (by simp [hc]) ▸ hrun c hc
      · exact fun c hc => hsame c (by simp [List.mem_of_mem_head? hc]) ▸ hend c hc

theorem IsRuns.blanks_append (hgap : ∀ c ∈ gap, blank c = true) (h : IsRuns blank runs text) :
    IsRuns blank runs (gap ++ text) := by
  cases h with
  | nil hgap' =>
      refine .nil fun c hc => ?_
      rcases List.mem_append.1 hc with hc | hc
      · exact hgap c hc
      · exact hgap' c hc
  | @cons gap' run rest _ hgap' hne hrun hend hrest =>
      rw [← List.append_assoc]
      refine .cons (fun c hc => ?_) hne hrun hend hrest
      rcases List.mem_append.1 hc with hc | hc
      · exact hgap c hc
      · exact hgap' c hc

theorem IsRuns.append_blanks (hgap : ∀ c ∈ gap, blank c = true) (h : IsRuns blank runs text) :
    IsRuns blank runs (text ++ gap) := by
  induction h with
  | nil hgap' => exact .blanks_append hgap' (.nil hgap)
  | @cons gap' run rest _ hgap' hne hrun hend hrest ih =>
      rw [List.append_assoc, List.append_assoc]
      refine .cons hgap' hne hrun (fun c hc => ?_) ih
      cases rest with
      | nil => exact hgap c (List.mem_of_mem_head? hc)
      | cons d rest => exact hend c hc

/-- Every text has maximal runs. -/
theorem exists_isRuns (blank : Char → Bool) (text : List Char) :
    ∃ runs, IsRuns blank runs text := by
  have hempty : ∀ c ∈ ([] : List Char), blank c = true := by simp
  induction text with
  | nil => exact ⟨[], .nil hempty⟩
  | cons c text ih =>
      obtain ⟨runs, hruns⟩ := ih
      cases hc : blank c with
      | true =>
          have hblank : ∀ d ∈ [c], blank d = true := by simpa using hc
          exact ⟨runs, hruns.blanks_append hblank⟩
      | false =>
          have hdark : ∀ d ∈ [c], blank d = false := by simpa using hc
          -- The character is a run of its own, unless a run follows that it belongs to.
          by_cases hend : ∀ d ∈ text.head?, blank d = true
          · exact ⟨[c] :: runs, .cons hempty (by simp) hdark hend hruns⟩
          · cases hruns with
            | nil hgap => exact absurd (fun d hd => hgap d (List.mem_of_mem_head? hd)) hend
            | @cons gap run rest runs hgap hne hrun hend' hrest =>
                cases gap with
                | nil =>
                    have hjoined : ∀ d ∈ c :: run, blank d = false := by simpa [hc] using hrun
                    exact ⟨(c :: run) :: runs, .cons hempty (by simp) hjoined hend' hrest⟩
                | cons d gap => exact absurd (by simpa using hgap d (by simp)) hend

/-! ## Words -/

theorem words_of_isRuns (h : IsRuns isWhiteSpace runs text) : words text = runs := by
  induction h with
  | nil hgap => simpa using words_white_append hgap []
  | cons hgap hne hrun hend hrest ih =>
      rw [words_white_append hgap, words_word_append ⟨hne, hrun⟩ hend, ih]

/-- The words of a text are its maximal runs between white space. -/
theorem isRuns_words (text : List Char) : IsRuns isWhiteSpace (words text) text := by
  obtain ⟨runs, hruns⟩ := exists_isRuns isWhiteSpace text
  rwa [words_of_isRuns hruns]

end Text

end PostfixCalc
