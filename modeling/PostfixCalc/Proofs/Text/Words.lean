import Mathlib.Data.List.DropRight
import PostfixCalc.Text.Blank

/-!
# Words and the white space between them

`words` divides a text at its white space, and `Spaced` is the relation that
goes back: the words in order, with a run of white space between one and the
next.  A text that is so written divides into the same words again
(`words_of_spaced`).  Trimming leaves it alone as long as its first word does
not begin, and its last one does not end, with a character that is trimmed;
words with no such character at all are called solid.
-/

namespace PostfixCalc

namespace Text

/-- A word has characters, and none of them is white space. -/
def IsWord (w : List Char) : Prop :=
  w ≠ [] ∧ ∀ c ∈ w, isWhiteSpace c = false

/-- A solid word has characters, and trimming would take none of them. -/
def IsSolid (w : List Char) : Prop :=
  w ≠ [] ∧ ∀ c ∈ w, isTrimmed c = false

/-- The text is the words in order, with a run of white space after each one but
the last. -/
inductive Spaced : List (List Char) → List Char → Prop
  | single (w : List Char) : Spaced [w] w
  | cons {w gap : List Char} {ws : List (List Char)} {text : List Char}
      (hgap : gap ≠ []) (hwhite : ∀ c ∈ gap, isWhiteSpace c = true)
      (hrest : Spaced ws text) : Spaced (w :: ws) (w ++ gap ++ text)

theorem isWhiteSpace_of_not_isTrimmed {c : Char} (h : isTrimmed c = false) :
    isWhiteSpace c = false := by
  cases hc : isWhiteSpace c with
  | false => rfl
  | true => rw [isTrimmed_of_isWhiteSpace hc] at h; contradiction

theorem IsSolid.isWord {w : List Char} (h : IsSolid w) : IsWord w :=
  ⟨h.1, fun c hc => isWhiteSpace_of_not_isTrimmed (h.2 c hc)⟩

/-! ## Dividing -/

@[simp] theorem words_nil : words [] = [] :=
  rfl

theorem words_cons_of_white {c : Char} (h : isWhiteSpace c = true) (rest : List Char) :
    words (c :: rest) = words rest := by
  rw [words.eq_def]
  simp only [h, if_true]

theorem words_singleton {c : Char} (h : isWhiteSpace c = false) : words [c] = [[c]] := by
  rw [words.eq_def]
  simp only [h, Bool.false_eq_true, if_false]

theorem words_cons_before_white {c d : Char} (hc : isWhiteSpace c = false)
    (hd : isWhiteSpace d = true) (rest : List Char) :
    words (c :: d :: rest) = [c] :: words (d :: rest) := by
  rw [words.eq_def]
  simp only [hc, hd, Bool.false_eq_true, if_false, if_true]

theorem words_cons_cons {c d : Char} (hc : isWhiteSpace c = false)
    (hd : isWhiteSpace d = false) (rest : List Char) :
    words (c :: d :: rest) =
      match words (d :: rest) with
      | [] => [[c]]
      | word :: more => (c :: word) :: more := by
  have hdef := words.eq_def (c :: d :: rest)
  simp only [hc, hd, Bool.false_eq_true, if_false] at hdef
  exact hdef

/-- White space in front is passed over. -/
theorem words_white_append {gap : List Char} (h : ∀ c ∈ gap, isWhiteSpace c = true)
    (rest : List Char) : words (gap ++ rest) = words rest := by
  induction gap with
  | nil => rfl
  | cons c gap ih =>
      rw [List.cons_append, words_cons_of_white (h c (by simp))]
      exact ih fun d hd => h d (by simp [hd])

/-- A word ends where white space or the end of the text follows. -/
theorem words_word_append {w : List Char} (hw : IsWord w) {rest : List Char}
    (hrest : ∀ c ∈ rest.head?, isWhiteSpace c = true) :
    words (w ++ rest) = w :: words rest := by
  obtain ⟨hne, hword⟩ := hw
  -- The word grows at its front; only its last character sees what follows.
  induction w with
  | nil => exact absurd rfl hne
  | cons c w ih =>
      have hc : isWhiteSpace c = false := hword c (by simp)
      cases w with
      | nil =>
          cases rest with
          | nil => exact words_singleton hc
          | cons d rest => exact words_cons_before_white hc (hrest d (by simp)) rest
      | cons d w =>
          have hd : isWhiteSpace d = false := hword d (by simp)
          have htail : words (d :: w ++ rest) = (d :: w) :: words rest :=
            ih (by simp) fun e he => hword e (by simp [he])
          rw [List.cons_append] at htail
          rw [List.cons_append, List.cons_append, words_cons_cons hc hd, htail]

theorem words_word {w : List Char} (hw : IsWord w) : words w = [w] := by
  have hend : ∀ c ∈ ([] : List Char).head?, isWhiteSpace c = true := by
    simp
  simpa using words_word_append hw hend

/-- Text in which words are spaced divides into these words. -/
theorem words_of_spaced {ws : List (List Char)} {text : List Char} (h : Spaced ws text)
    (hws : ∀ w ∈ ws, IsWord w) : words text = ws := by
  induction h with
  | single w => exact words_word (hws w (by simp))
  | @cons w gap ws text hgap hwhite hrest ih =>
      have hhead : ∀ c ∈ (gap ++ text).head?, isWhiteSpace c = true := by
        intro c hc
        cases gap with
        | nil => exact absurd rfl hgap
        | cons d gap =>
            simp only [List.cons_append, List.head?_cons, Option.mem_some_iff] at hc
            exact hwhite c (by simp [hc])
      rw [List.append_assoc, words_word_append (hws w (by simp)) hhead,
        words_white_append hwhite, ih fun v hv => hws v (by simp [hv])]

/-- Text with a character that is no white space has a word. -/
theorem words_ne_nil {text : List Char} (h : ∃ c ∈ text, isWhiteSpace c = false) :
    words text ≠ [] := by
  induction text with
  | nil => simp at h
  | cons c rest ih =>
      by_cases hc : isWhiteSpace c = true
      · rw [words_cons_of_white hc]
        obtain ⟨d, hd, hdark⟩ := h
        rcases List.mem_cons.1 hd with rfl | hd
        · rw [hc] at hdark
          contradiction
        · exact ih ⟨d, hd, hdark⟩
      · rw [words.eq_def]
        simp only [if_neg hc]
        split
        · simp
        · split
          · simp
          · split <;> simp

/-! ## Trimming -/

theorem trimChars_eq_rdropWhile (text : List Char) :
    trimChars text = (text.dropWhile isTrimmed).rdropWhile isTrimmed :=
  rfl

/-- Trimming keeps a text with nothing to trim at its ends. -/
theorem trimChars_eq_self {text : List Char} (hfirst : ∀ c ∈ text.head?, isTrimmed c = false)
    (hlast : ∀ c ∈ text.getLast?, isTrimmed c = false) : trimChars text = text := by
  cases text with
  | nil => rfl
  | cons c rest =>
      have hc : isTrimmed c = false := hfirst c (by simp)
      have hend : isTrimmed ((c :: rest).getLast (by simp)) = false :=
        hlast _ (List.getLast?_eq_some_getLast (by simp))
      rw [trimChars_eq_rdropWhile, List.dropWhile_cons_of_neg (by simp [hc]),
        List.rdropWhile_eq_self_iff]
      intro _
      simp [hend]

/-- Trimming takes a text of trimmed characters off either end. -/
theorem exists_ends_trimChars (text : List Char) :
    ∃ front back, text = front ++ (trimChars text ++ back) ∧
      (∀ c ∈ front, isTrimmed c = true) ∧ ∀ c ∈ back, isTrimmed c = true := by
  refine ⟨text.takeWhile isTrimmed, (text.dropWhile isTrimmed).rtakeWhile isTrimmed, ?_,
    fun c hc => List.mem_takeWhile_imp hc, fun c hc => List.mem_rtakeWhile_imp hc⟩
  rw [trimChars_eq_rdropWhile, List.rdropWhile_append_rtakeWhile,
    List.takeWhile_append_dropWhile]

/-- Neither end of a trimmed text can be trimmed any further. -/
theorem ends_of_trimChars (text : List Char) :
    (∀ c ∈ (trimChars text).head?, isTrimmed c = false) ∧
      ∀ c ∈ (trimChars text).getLast?, isTrimmed c = false := by
  constructor
  · intro c hc
    obtain ⟨rest, hrest⟩ := List.rdropWhile_prefix isTrimmed (text.dropWhile isTrimmed)
    have hhead := List.head?_dropWhile_not isTrimmed text
    rw [← hrest, ← trimChars_eq_rdropWhile, List.head?_append, hc, Option.some_or] at hhead
    exact hhead
  · intro c hc
    have hne : trimChars text ≠ [] := by
      rintro hnil
      simp [hnil] at hc
    rw [List.getLast?_eq_some_getLast hne, Option.mem_some_iff] at hc
    rw [← hc]
    exact eq_false_of_ne_true (List.rdropWhile_last_not isTrimmed _ hne)

/-- Trimming twice is trimming once. -/
theorem trimChars_trimChars (text : List Char) : trimChars (trimChars text) = trimChars text :=
  trimChars_eq_self (ends_of_trimChars text).1 (ends_of_trimChars text).2

/-- What is left after trimming ends in a character that is not trimmed. -/
theorem exists_mem_trimChars {text : List Char} (h : trimChars text ≠ []) :
    ∃ c ∈ trimChars text, isTrimmed c = false := by
  refine ⟨(trimChars text).getLast h, List.getLast_mem h, ?_⟩
  rw [trimChars_eq_rdropWhile] at h
  exact eq_false_of_ne_true (List.rdropWhile_last_not isTrimmed _ h)

/-- A character that is not trimmed is left after trimming, so that something
is. -/
theorem trimChars_ne_nil {text : List Char} (h : ∃ c ∈ text, isTrimmed c = false) :
    trimChars text ≠ [] := by
  obtain ⟨c, hc, hkept⟩ := h
  intro hnil
  rw [trimChars_eq_rdropWhile, List.rdropWhile_eq_nil_iff] at hnil
  have hstart : text.dropWhile isTrimmed = [] := by
    by_contra hne
    have hhead := List.head_dropWhile_not isTrimmed hne
    rw [hnil _ (List.head_mem hne)] at hhead
    contradiction
  rw [List.dropWhile_eq_nil_iff.1 hstart c hc] at hkept
  contradiction

theorem trimChars_blanks_append {front : List Char} (hfront : ∀ c ∈ front, isTrimmed c = true)
    (text : List Char) : trimChars (front ++ text) = trimChars text := by
  rw [trimChars, trimChars, List.dropWhile_append_of_pos hfront]

/-- Characters at the end that are trimmed do not matter, whatever they follow. -/
theorem trimChars_append_blanks {back : List Char} (hback : ∀ c ∈ back, isTrimmed c = true)
    (text : List Char) : trimChars (text ++ back) = trimChars text := by
  have hreverse : ∀ c ∈ back.reverse, isTrimmed c = true := by
    simpa using hback
  by_cases hblank : text.dropWhile isTrimmed = []
  · have htext := List.dropWhile_eq_nil_iff.1 hblank
    have hall := trimChars_blanks_append htext back
    rw [hall, trimChars, trimChars, hblank, List.dropWhile_eq_nil_iff.2 hback]
  · rw [trimChars, trimChars, List.dropWhile_append, if_neg (by simpa using hblank),
      List.reverse_append, List.dropWhile_append_of_pos hreverse]

theorem spaced_ne_nil {ws : List (List Char)} {text : List Char} (h : Spaced ws text)
    (hws : ∀ w ∈ ws, w ≠ []) : text ≠ [] := by
  cases h with
  | single w => exact hws text (by simp)
  | @cons w gap ws text hgap hwhite hrest =>
      have hw : w ≠ [] := hws w (by simp)
      simp [hw]

/-- Neither end of a text of solid words is trimmed. -/
theorem ends_of_spaced {ws : List (List Char)} {text : List Char} (h : Spaced ws text)
    (hws : ∀ w ∈ ws, IsSolid w) :
    (∀ c ∈ text.head?, isTrimmed c = false) ∧ ∀ c ∈ text.getLast?, isTrimmed c = false := by
  induction h with
  | single w =>
      have hw : IsSolid w := hws w (by simp)
      exact ⟨fun c hc => hw.2 c (List.mem_of_mem_head? hc),
        fun c hc => hw.2 c (List.mem_of_mem_getLast? hc)⟩
  | @cons w gap ws text hgap hwhite hrest ih =>
      have hw : IsSolid w := hws w (by simp)
      obtain ⟨-, hlast⟩ := ih fun v hv => hws v (by simp [hv])
      constructor
      · intro c hc
        cases w with
        | nil => exact absurd rfl hw.1
        | cons d w =>
            simp only [List.cons_append, List.head?_cons, Option.mem_some_iff] at hc
            exact hw.2 c (by simp [hc])
      · intro c hc
        have hne : text ≠ [] := spaced_ne_nil hrest fun v hv => (hws v (by simp [hv])).1
        rw [List.getLast?_append, List.getLast?_eq_some_getLast hne, Option.some_or] at hc
        exact hlast c (by rwa [List.getLast?_eq_some_getLast hne])

theorem trimChars_of_spaced {ws : List (List Char)} {text : List Char} (h : Spaced ws text)
    (hws : ∀ w ∈ ws, IsSolid w) : trimChars text = text :=
  trimChars_eq_self (ends_of_spaced h hws).1 (ends_of_spaced h hws).2

end Text

end PostfixCalc
