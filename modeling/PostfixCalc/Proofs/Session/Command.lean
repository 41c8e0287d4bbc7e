import PostfixCalc.Proofs.Text.Digit
import PostfixCalc.Session.Command

/-!
# Which command a line is

A command whose name has nothing but digits asks for an entry of the history,
and the digits of such a name need not spell a number.  Lines of this kind are
unreadable (`Command.IsUnreadable`), and no other name of a command is refused
(`Command.exists_ofName_eq_error_iff`).
-/

namespace PostfixCalc

namespace Command

open Text

/-- The names that are not numbers. -/
def fixedNames : List String :=
  ["help", "history", "clear", "steps"]

theorem not_isNumeric_of_fixed {name : String} (h : name ∈ fixedNames) :
    ¬ IsNumeric name.toList := by
  have hall : ∀ name ∈ fixedNames, name.toList.all isDigit = false := by
    decide
  intro hnumeric
  have hdigits := hall name h
  rw [List.all_eq_true.2 hnumeric.2] at hdigits
  contradiction

/-! ## Names -/

theorem exists_ofName_of_fixed {name : String} (h : trim name ∈ fixedNames) :
    ∃ c, ofName name = .ok c := by
  simp only [fixedNames, List.mem_cons, List.not_mem_nil, or_false, trim] at h
  unfold ofName
  rcases h with h | h | h | h <;> simp [h]

theorem ofName_of_not_fixed {name : String} (h : trim name ∉ fixedNames) :
    ofName name =
      if !(trimChars name.toList).isEmpty && (trimChars name.toList).all isDigit then
        (readWhole (trimChars name.toList)).map .repeatEntry
      else
        .ok (.unknown (trim name)) := by
  simp only [fixedNames, List.mem_cons, List.not_mem_nil, or_false, not_or, trim] at h
  obtain ⟨hhelp, hhistory, hclear, hsteps⟩ := h
  unfold ofName
  dsimp only
  split
  · rename_i heq
    exact absurd heq hhelp
  · rename_i heq
    exact absurd heq hhistory
  · rename_i heq
    exact absurd heq hclear
  · rename_i heq
    exact absurd heq hsteps
  · rw [trim]

/-- A name of digits only asks for an entry. -/
theorem ofName_of_isNumeric {name : String} (h : IsNumeric (trimChars name.toList)) :
    ofName name = (readWhole (trimChars name.toList)).map .repeatEntry := by
  have hfixed : trim name ∉ fixedNames := by
    intro hmem
    have hnot := not_isNumeric_of_fixed hmem
    rw [trim, String.toList_ofList] at hnot
    exact hnot h
  have hdigits : (trimChars name.toList).all isDigit = true := List.all_eq_true.2 h.2
  rw [ofName_of_not_fixed hfixed]
  simp [h.1, hdigits]

/-- A name that is neither fixed nor a number is unknown. -/
theorem ofName_of_not_isNumeric {name : String} (hfixed : trim name ∉ fixedNames)
    (h : ¬ IsNumeric (trimChars name.toList)) : ofName name = .ok (.unknown (trim name)) := by
  rw [ofName_of_not_fixed hfixed, if_neg]
  intro hdigits
  simp only [Bool.and_eq_true, Bool.not_eq_true', List.isEmpty_eq_false_iff,
    List.all_eq_true] at hdigits
  exact h hdigits

/-- Only a name of digits is ever refused, and only if they spell no number. -/
theorem exists_ofName_eq_error_iff {name : String} :
    (∃ f, ofName name = .error f) ↔
      IsNumeric (trimChars name.toList) ∧ SpellsNone (trimChars name.toList) := by
  by_cases hnumeric : IsNumeric (trimChars name.toList)
  · rw [ofName_of_isNumeric hnumeric]
    constructor
    · rintro ⟨f, hf⟩
      refine ⟨hnumeric, ?_⟩
      by_contra hspells
      rw [readWhole_of_spells hnumeric.1 hspells] at hf
      simp [Except.map] at hf
    · rintro ⟨-, hnone⟩
      obtain ⟨f, hf⟩ := exists_readWhole_error_of_spellsNone hnone
      exact ⟨f, by rw [hf]; rfl⟩
  · refine iff_of_false ?_ fun h => hnumeric h.1
    rintro ⟨f, hf⟩
    by_cases hfixed : trim name ∈ fixedNames
    · obtain ⟨c, hc⟩ := exists_ofName_of_fixed hfixed
      simp [hc] at hf
    · simp [ofName_of_not_isNumeric hfixed hnumeric] at hf

theorem ofName_eq_toggleSteps_iff {name : String} :
    ofName name = .ok .toggleSteps ↔ trim name = "steps" := by
  by_cases hfixed : trim name ∈ fixedNames
  · simp only [fixedNames, List.mem_cons, List.not_mem_nil, or_false, trim] at hfixed
    unfold ofName trim
    rcases hfixed with h | h | h | h <;> simp [h]
  · have hsteps : trim name ≠ "steps" := by
      rintro h
      simp [h, fixedNames] at hfixed
    by_cases hnumeric : IsNumeric (trimChars name.toList)
    · rw [ofName_of_isNumeric hnumeric]
      cases readWhole (trimChars name.toList) <;> simp [Except.map, hsteps]
    · simp [ofName_of_not_isNumeric hfixed hnumeric, hsteps]

/-! ## Lines -/

/-- Does the line turn the showing of steps on or off? -/
def togglesSteps (text : String) : Bool :=
  (name? text).any fun name => trim name == "steps"

/-- A line is unreadable if it is a command whose name is made up of digits that
spell no number. -/
def IsUnreadable (text : String) : Prop :=
  ∃ name, text.toList = ':' :: name ∧ IsNumeric (trimChars name) ∧ SpellsNone (trimChars name)

theorem isUnreadable_of_cons {text : String} {name : List Char} (h : text.toList = ':' :: name) :
    IsUnreadable text ↔ IsNumeric (trimChars name) ∧ SpellsNone (trimChars name) := by
  constructor
  · rintro ⟨name', h', hname⟩
    rw [h] at h'
    obtain ⟨-, rfl⟩ := List.cons.inj h'
    exact hname
  · intro hname
    exact ⟨name, h, hname⟩

instance (text : String) : Decidable (IsUnreadable text) :=
  match h : text.toList with
  | [] => .isFalse fun ⟨_, h', _⟩ => by simp [h] at h'
  | c :: name =>
      if hc : c = ':' then
        decidable_of_iff _ (isUnreadable_of_cons (hc ▸ h)).symm
      else
        .isFalse fun ⟨_, h', _⟩ => hc (List.cons.inj (h.symm.trans h')).1

theorem name?_of_cons {text : String} {name : List Char} (h : text.toList = ':' :: name) :
    name? text = some (String.ofList name) := by
  simp [name?, h]

theorem exists_of_name? {text name : String} (h : name? text = some name) :
    text.toList = ':' :: name.toList := by
  unfold name? at h
  split at h
  · rename_i rest heq
    rw [heq, ← Option.some.inj h, String.toList_ofList]
  · contradiction

theorem isUnreadable_iff {text : String} :
    IsUnreadable text ↔ ∃ name f, name? text = some name ∧ ofName name = .error f := by
  constructor
  · rintro ⟨name, htext, h⟩
    rw [← String.toList_ofList (l := name)] at h
    obtain ⟨f, hf⟩ := exists_ofName_eq_error_iff.2 h
    exact ⟨_, f, name?_of_cons htext, hf⟩
  · rintro ⟨name, f, hname, hf⟩
    exact ⟨_, exists_of_name? hname, exists_ofName_eq_error_iff.1 ⟨f, hf⟩⟩

end Command

end PostfixCalc
