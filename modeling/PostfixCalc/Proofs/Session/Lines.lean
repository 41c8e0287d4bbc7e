import PostfixCalc.Proofs.Session.Calculation
import PostfixCalc.Proofs.Session.Command

/-!
# Lines one after the other

The replies to lines make up the reply to all of them: each line finds the
session as the line before it left it (`replies`), and what is printed and what
is reported is put together in order (`lines_of_readable`).  Only an unreadable
line ends a session before its last line (`line_fault_eq_none_iff`), and whatever
stands after that line is not looked at (`lines_of_unreadable`).
-/

namespace PostfixCalc

namespace Session

namespace Reply

variable {r : Reply} {next : Session → Reply}

theorem andThen_of_fault {f : Fault} (h : r.fault = some f) : r.andThen next = r := by
  simp [andThen, h]

theorem andThen_of_none (h : r.fault = none) :
    r.andThen next =
      { out := r.out ++ (next r.session).out
        err := r.err ++ (next r.session).err
        failed := r.failed || (next r.session).failed
        fault := (next r.session).fault
        session := (next r.session).session } := by
  simp [andThen, h]

@[simp] theorem silent_andThen (s : Session) (next : Session → Reply) :
    (silent s).andThen next = next s := by
  simp [andThen, silent]

@[simp] theorem andThen_silent (r : Reply) : r.andThen silent = r := by
  obtain ⟨out, err, failed, fault, s⟩ := r
  cases fault <;> simp [andThen, silent]

/-- Only the session that a reply leaves matters to what is done next. -/
theorem andThen_congr {next' : Session → Reply} (h : next r.session = next' r.session) :
    r.andThen next = r.andThen next' := by
  simp only [andThen, h]

theorem andThen_assoc (r : Reply) (next after : Session → Reply) :
    (r.andThen next).andThen after = r.andThen fun s => (next s).andThen after := by
  cases h : r.fault with
  | some f => rw [andThen_of_fault h, andThen_of_fault h, andThen_of_fault h]
  | none =>
      cases hnext : (next r.session).fault with
      | some f =>
          have hboth : (r.andThen next).fault = some f := by
            rw [andThen_of_none h, hnext]
          rw [andThen_of_fault hboth, andThen_of_none h, andThen_of_none h, andThen_of_fault hnext]
      | none =>
          have hboth : (r.andThen next).fault = none := by
            rw [andThen_of_none h, hnext]
          rw [andThen_of_none hboth, andThen_of_none h, andThen_of_none h, andThen_of_none hnext]
          simp [List.append_assoc, Bool.or_assoc]

end Reply

/-! ## One line -/

open Command Text

variable {settings : Settings} {s : Session} {text : String}

theorem line_of_not_unreadable (settings : Settings) (s : Session) (h : ¬ IsUnreadable text) :
    line settings s text = calculate settings s text ∨
      ∃ c, line settings s text = command settings s c := by
  unfold line
  cases hname : name? text with
  | none => exact .inl rfl
  | some name =>
      cases hc : ofName name with
      | ok c => exact .inr ⟨c, by simp only [hc]⟩
      | error f => exact absurd (isUnreadable_iff.2 ⟨name, f, hname, hc⟩) h

/-- The fault of an unreadable line is that of the digits in it. -/
theorem line_of_unreadable (h : IsUnreadable text) :
    ∃ name f, text.toList = ':' :: name ∧ readWhole (trimChars name) = .error f ∧
      ∀ settings s, line settings s text = .faulty s f := by
  obtain ⟨name, htext, hnumeric, hnone⟩ := h
  obtain ⟨f, hf⟩ := exists_readWhole_error_of_spellsNone hnone
  refine ⟨name, f, htext, hf, ?_⟩
  intro settings s
  have hofName : ofName (String.ofList name) = .error f := by
    rw [ofName_of_isNumeric (by rwa [String.toList_ofList]), String.toList_ofList, hf]
    rfl
  simp only [line, name?_of_cons htext, hofName]

theorem line_fault_eq_none_iff : (line settings s text).fault = none ↔ ¬ IsUnreadable text := by
  constructor
  · intro hfault h
    obtain ⟨name, f, -, -, hline⟩ := line_of_unreadable h
    rw [hline] at hfault
    simp [Reply.faulty] at hfault
  · intro h
    rcases line_of_not_unreadable settings s h with hline | ⟨c, hline⟩
    · rw [hline]
      exact calculate_fault settings s text
    · rw [hline]
      exact command_fault settings s c

theorem entry_of_absent {h : History TimeOfDay} {number : Nat}
    (habsent : ¬ (1 ≤ number ∧ number ≤ h.size)) :
    h.entry number = .error (.noEntry number) := by
  unfold History.entry
  by_cases hpos : (1 : Int) ≤ number
  · have hlen : h.records.length ≤ ((number : Int) - 1).toNat := by
      simp only [History.size] at habsent
      omega
    rw [if_pos hpos, List.getElem?_eq_none hlen]
  · rw [if_neg hpos]

/-- A command that is neither known nor the number of an entry is reported, in
one line, and the session stays as it is. -/
theorem line_of_unknown {name : List Char} (htext : text.toList = ':' :: name)
    (hfixed : String.ofList (trimChars name) ∉ fixedNames)
    (habsent : ∀ n, readWhole (trimChars name) = .ok n → ¬ (1 ≤ n ∧ n ≤ s.history.size))
    (hreadable : ¬ IsUnreadable text) :
    line settings s text = .reported s [s!"Unknown command :{String.ofList (trimChars name)}"] ∨
      ∃ n : Nat, readWhole (trimChars name) = .ok n ∧
        line settings s text = .reported s [s!"No history entry {n}"] := by
  have hname := name?_of_cons htext
  have htrim : trim (String.ofList name) = String.ofList (trimChars name) := by
    rw [trim, String.toList_ofList]
  by_cases hnumeric : IsNumeric (trimChars name)
  · have hspells : ¬ SpellsNone (trimChars name) := fun h => hreadable ⟨name, htext, hnumeric, h⟩
    have hread := readWhole_of_spells hnumeric.1 hspells
    have hofName : ofName (String.ofList name) =
        .ok (.repeatEntry (decimalNumber (trimChars name))) := by
      rw [ofName_of_isNumeric (by rwa [String.toList_ofList]), String.toList_ofList, hread]
      rfl
    refine .inr ⟨_, hread, ?_⟩
    simp only [line, hname, hofName, command, entry_of_absent (habsent _ hread)]
    rfl
  · have hofName : ofName (String.ofList name) =
        .ok (.unknown (String.ofList (trimChars name))) := by
      rw [← htrim]
      exact ofName_of_not_isNumeric (by rwa [htrim]) (by rwa [String.toList_ofList])
    left
    simp only [line, hname, hofName, command]

/-! ## Many lines -/

/-- The reply to each of some lines, as long as none of them ends the session. -/
def replies (settings : Settings) : Session → List String → List Reply
  | _, [] => []
  | s, text :: rest => line settings s text :: replies settings (line settings s text).session rest

theorem lines_append (settings : Settings) (s : Session) (texts after : List String) :
    lines settings s (texts ++ after) =
      (lines settings s texts).andThen fun s' => lines settings s' after := by
  induction texts generalizing s with
  | nil => rw [List.nil_append, lines, Reply.silent_andThen]
  | cons text rest ih =>
      rw [List.cons_append, lines, lines, Reply.andThen_assoc]
      congr
      funext s'
      exact ih s'

/-- Readable lines are all carried out, and their replies are put together. -/
theorem lines_of_readable (settings : Settings) (s : Session) {texts : List String}
    (h : ∀ text ∈ texts, ¬ IsUnreadable text) :
    (lines settings s texts).fault = none ∧
      (lines settings s texts).out = (replies settings s texts).flatMap Reply.out ∧
      (lines settings s texts).err = (replies settings s texts).flatMap Reply.err ∧
      (lines settings s texts).failed = (replies settings s texts).any Reply.failed := by
  induction texts generalizing s with
  | nil => simp [lines, replies, Reply.silent]
  | cons text rest ih =>
      have hfault : (line settings s text).fault = none :=
        line_fault_eq_none_iff.2 (h text (by simp))
      obtain ⟨hfault', hout, herr, hfailed⟩ :=
        ih (line settings s text).session fun t ht => h t (by simp [ht])
      rw [lines, Reply.andThen_of_none hfault]
      simp [replies, hfault', hout, herr, hfailed]

/-- The first unreadable line ends the session, in which the lines before it are
carried out and those after it are not. -/
theorem lines_of_unreadable (settings : Settings) (s : Session) {before : List String}
    (hbefore : ∀ t ∈ before, ¬ IsUnreadable t) (h : IsUnreadable text) (after : List String) :
    ∃ name f, text.toList = ':' :: name ∧ readWhole (trimChars name) = .error f ∧
      lines settings s (before ++ text :: after) =
        { lines settings s before with fault := some f } := by
  obtain ⟨name, f, htext, hf, hline⟩ := line_of_unreadable h
  refine ⟨name, f, htext, hf, ?_⟩
  -- The lines before it have no fault, so that its own fault is that of the session.
  have hnone := (lines_of_readable settings s hbefore).1
  have hfaulty : ∀ s' : Session, lines settings s' (text :: after) = .faulty s' f := by
    intro s'
    rw [lines, hline, Reply.andThen_of_fault rfl]
  rw [lines_append, Reply.andThen_of_none hnone, hfaulty]
  simp [Reply.faulty, Reply.silent]

end Session

end PostfixCalc
