import Mathlib.Algebra.Group.Nat.Even
import PostfixCalc.Proofs.Session.Lines
import PostfixCalc.Proofs.Session.Request

/-!
# The turns of a session

Each line that is carried out has its turn (`turns`), in the session that the lines
before it left; a line that ends the session has the last one (`turns_induction`).  What
is printed and what is reported in all are put together from the replies in these turns
(`lines_out_err`).  Two changes to a session are told turn by turn.  Flags add rows and
log to the replies and leave the rest alone, as long as no line turns the steps on or off
(`lines_of_flags`).  Lines that fail can be left out: the other turns are the same
(`turns_keepAt`), and so is what they lead to (`lines_keepAt`).
-/

namespace PostfixCalc

namespace Session

/-- A line that is carried out, and the session that it finds. -/
structure Turn where
  session : Session
  text : String

namespace Turn

/-- The reply to the line. -/
def reply (settings : Settings) (t : Turn) : Reply :=
  line settings t.session t.text

/-- What the line asks for. -/
def request (t : Turn) : Request :=
  Session.request t.session.history t.text

theorem reply_of_calculation {settings : Settings} {t : Turn} {expression : String}
    (h : t.request = .calculation expression) :
    t.reply settings = calculate settings t.session expression := by
  rw [reply, line_eq_reply, ← request, h]
  rfl

/-- The line fails with a message. -/
def FailsWith (t : Turn) (message : String) : Prop :=
  Session.FailsWith t.session t.text message

/-- The line fails with some message. -/
def Fails (t : Turn) : Prop :=
  Session.Fails t.session t.text

instance (t : Turn) : Decidable t.Fails :=
  inferInstanceAs (Decidable (Session.Fails t.session t.text))

/-- The line calculates an expression that fails. -/
def Miscalculates (t : Turn) : Prop :=
  Session.Miscalculates t.session t.text

end Turn

/-- The lines that are carried out: all of them, or those up to the one that ends the
session. -/
def turns (settings : Settings) : Session → List String → List Turn
  | _, [] => []
  | s, text :: rest =>
      { session := s, text } ::
        match (line settings s text).fault with
        | some _ => []
        | none => turns settings (line settings s text).session rest

/-- The members of a list at the places that are kept. -/
def keepAt {α : Type} (keep : Nat → Bool) : List α → List α
  | [] => []
  | x :: rest =>
      if keep 0 then
        x :: keepAt (fun i => keep (i + 1)) rest
      else
        keepAt (fun i => keep (i + 1)) rest

variable {settings : Settings} {s : Session} {text : String} {texts rest : List String}

theorem turns_cons_of_none (h : (line settings s text).fault = none) :
    turns settings s (text :: rest) =
      { session := s, text } :: turns settings (line settings s text).session rest := by
  simp only [turns, h]

theorem turns_cons_of_fault {f : Fault} (h : (line settings s text).fault = some f) :
    turns settings s (text :: rest) = [{ session := s, text }] := by
  simp only [turns, h]

/-- No line is carried out after one that ends the session. -/
theorem lines_cons_of_fault {f : Fault} (h : (line settings s text).fault = some f) :
    lines settings s (text :: rest) = line settings s text := by
  rw [lines, Reply.andThen_of_fault h]

theorem lines_cons_of_none (h : (line settings s text).fault = none) :
    lines settings s (text :: rest) =
      let r := line settings s text
      let r' := lines settings r.session rest
      { out := r.out ++ r'.out
        err := r.err ++ r'.err
        failed := r.failed || r'.failed
        fault := r'.fault
        session := r'.session } := by
  rw [lines, Reply.andThen_of_none h]

/-- Induction over the turns: no line is left, or the first one ends the session, or the
other lines follow in the session that it leaves. -/
theorem turns_induction (settings : Settings) {motive : Session → List String → Prop}
    (nil : ∀ s, motive s [])
    (ends : ∀ s text rest f, (line settings s text).fault = some f → motive s (text :: rest))
    (follow : ∀ s text rest, (line settings s text).fault = none →
      motive (line settings s text).session rest → motive s (text :: rest))
    (s : Session) (texts : List String) : motive s texts := by
  induction texts generalizing s with
  | nil => exact nil s
  | cons text rest ih =>
      cases hfault : (line settings s text).fault with
      | some f => exact ends s text rest f hfault
      | none => exact follow s text rest hfault (ih _)

/-! ## What the turns lead to -/

/-- What is printed and what is reported in all is that of the turns, in order. -/
theorem lines_out_err (settings : Settings) (s : Session) (texts : List String) :
    ((lines settings s texts).out =
      (turns settings s texts).flatMap fun t => (t.reply settings).out) ∧
    (lines settings s texts).err =
      (turns settings s texts).flatMap fun t => (t.reply settings).err := by
  induction s, texts using turns_induction settings with
  | nil s => exact ⟨rfl, rfl⟩
  | ends s text rest f hfault =>
      rw [lines_cons_of_fault hfault, turns_cons_of_fault hfault, List.flatMap_singleton,
        List.flatMap_singleton]
      exact ⟨rfl, rfl⟩
  | follow s text rest hfault ih =>
      obtain ⟨hout, herr⟩ := ih
      rw [lines_cons_of_none hfault, turns_cons_of_none hfault, List.flatMap_cons,
        List.flatMap_cons, ← hout, ← herr]
      exact ⟨rfl, rfl⟩

/-- A session has failed if and only if one of its lines calculated an expression that
failed. -/
theorem lines_failed_iff (settings : Settings) (s : Session) (texts : List String) :
    (lines settings s texts).failed = true ↔
      ∃ t ∈ turns settings s texts, t.Miscalculates := by
  have hline : ∀ s text, (line settings s text).failed = true ↔
      Turn.Miscalculates ⟨s, text⟩ := fun _ _ => line_failed_iff
  induction s, texts using turns_induction settings with
  | nil s => simp [lines, turns, Reply.silent]
  | ends s text rest f hfault =>
      rw [lines_cons_of_fault hfault, turns_cons_of_fault hfault, hline]
      simp
  | follow s text rest hfault ih =>
      rw [lines_cons_of_none hfault, turns_cons_of_none hfault]
      simp only [Bool.or_eq_true, hline, ih, List.exists_mem_cons_iff]

/-! ## Flags -/

theorem line_of_flags (clock : Nat → TimeOfDay) (hs : s.showSteps = false)
    (h : Command.togglesSteps text = false) (verbose shown : Bool) :
    line { verbose, clock } { s with showSteps := shown } text =
      (line (.quiet clock) s text).flagged ((request s.history text).rows shown)
        ((request s.history text).log verbose) shown := by
  rw [line_eq_reply, line_eq_reply]
  exact Request.reply_of_flags (request_ne_toggleSteps h s.history) clock verbose shown hs

/-- Where no line turns the steps on or off, they are shown in every turn or in none. -/
theorem showSteps_of_mem_turns (h : ∀ text ∈ texts, Command.togglesSteps text = false) {t : Turn}
    (ht : t ∈ turns settings s texts) : t.session.showSteps = s.showSteps := by
  induction s, texts using turns_induction settings with
  | nil s => contradiction
  | ends s text rest f hfault =>
      rw [turns_cons_of_fault hfault, List.mem_singleton] at ht
      rw [ht]
  | follow s text rest hfault ih =>
      obtain ⟨htext, hrest⟩ := List.forall_mem_cons.1 h
      rw [turns_cons_of_none hfault] at ht
      rcases List.mem_cons.1 ht with rfl | ht
      · rfl
      · rw [ih hrest ht, showSteps_line, htext, Bool.xor_false]

/-- Flags add rows of steps before what is printed in each turn, and log before what is
reported in it. -/
theorem lines_of_flags (clock : Nat → TimeOfDay) (hs : s.showSteps = false)
    (h : ∀ text ∈ texts, Command.togglesSteps text = false) (verbose shown : Bool) :
    lines { verbose, clock } { s with showSteps := shown } texts =
      { out := (turns (.quiet clock) s texts).flatMap fun t =>
          t.request.rows shown ++ (t.reply (.quiet clock)).out
        err := (turns (.quiet clock) s texts).flatMap fun t =>
          t.request.log verbose ++ (t.reply (.quiet clock)).err
        failed := (lines (.quiet clock) s texts).failed
        fault := (lines (.quiet clock) s texts).fault
        session := { (lines (.quiet clock) s texts).session with showSteps := shown } } := by
  induction s, texts using turns_induction (.quiet clock) with
  | nil s => rfl
  | ends s text rest f hfault =>
      obtain ⟨htext, -⟩ := List.forall_mem_cons.1 h
      have hline := line_of_flags clock hs htext verbose shown
      have hends : (line { verbose, clock } { s with showSteps := shown } text).fault = some f := by
        rw [hline]
        exact hfault
      rw [lines_cons_of_fault hends, lines_cons_of_fault hfault, turns_cons_of_fault hfault, hline]
      simp [Reply.flagged, Turn.request, Turn.reply]
  | follow s text rest hfault ih =>
      obtain ⟨htext, hrest⟩ := List.forall_mem_cons.1 h
      have hline := line_of_flags clock hs htext verbose shown
      have hgoes : (line { verbose, clock } { s with showSteps := shown } text).fault = none := by
        rw [hline]
        exact hfault
      -- The turns after it are those of a session that hides its steps again.
      have hhidden : (line (.quiet clock) s text).session.showSteps = false := by
        rw [showSteps_line, hs, htext]
        rfl
      rw [lines_cons_of_none hgoes, lines_cons_of_none hfault, turns_cons_of_none hfault, hline]
      simp only [Reply.flagged, ih hhidden hrest]
      simp [Turn.request, Turn.reply]

theorem Reply.unreported_andThen (r : Reply) (next : Session → Reply) :
    (r.andThen next).unreported = r.unreported.andThen fun s => (next s).unreported := by
  cases h : r.fault with
  | some f =>
      have hunreported : r.unreported.fault = some f := h
      rw [andThen_of_fault h, andThen_of_fault hunreported]
  | none =>
      have hunreported : r.unreported.fault = none := h
      rw [andThen_of_none h, andThen_of_none hunreported]
      rfl

/-- Whether lines are logged matters to nothing but what they report, also where some turn
the steps on or off. -/
theorem unreported_lines (clock : Nat → TimeOfDay) (verbose verbose' : Bool) (s : Session)
    (texts : List String) :
    (lines { verbose, clock } s texts).unreported =
      (lines { verbose := verbose', clock } s texts).unreported := by
  induction texts generalizing s with
  | nil => rfl
  | cons text rest ih =>
      simp only [lines, Reply.unreported_andThen, line_eq_reply, ih]
      rw [Request.unreported_reply _ clock verbose verbose']

/-! ## Lines left out -/

theorem keepAt_cons_of_true {α : Type} {keep : Nat → Bool} (h : keep 0 = true) (x : α)
    (xs : List α) : keepAt keep (x :: xs) = x :: keepAt (fun i => keep (i + 1)) xs := by
  simp [keepAt, h]

theorem keepAt_cons_of_false {α : Type} {keep : Nat → Bool} (h : keep 0 = false) (x : α)
    (xs : List α) : keepAt keep (x :: xs) = keepAt (fun i => keep (i + 1)) xs := by
  simp [keepAt, h]

/-- Where lines that fail are left out, the other turns are as they were. -/
theorem turns_keepAt {keep : Nat → Bool}
    (h : ∀ i t, (turns settings s texts)[i]? = some t → keep i = false → t.Fails) :
    turns settings s (keepAt keep texts) = keepAt keep (turns settings s texts) := by
  induction s, texts using turns_induction settings generalizing keep with
  | nil s => rfl
  | ends s text rest f hfault =>
      rw [turns_cons_of_fault hfault] at h ⊢
      cases hkeep : keep 0 with
      | true =>
          rw [keepAt_cons_of_true hkeep, keepAt_cons_of_true hkeep, turns_cons_of_fault hfault,
            keepAt]
      | false =>
          have hfails : Session.Fails s text := h 0 ⟨s, text⟩ rfl hkeep
          obtain ⟨-, hnone, -⟩ := hfails.line_frame settings
          rw [hfault] at hnone
          contradiction
  | follow s text rest hfault ih =>
      rw [turns_cons_of_none hfault] at h ⊢
      have hrest := ih fun i t ht => h (i + 1) t ht
      cases hkeep : keep 0 with
      | true =>
          rw [keepAt_cons_of_true hkeep, keepAt_cons_of_true hkeep, turns_cons_of_none hfault,
            hrest]
      | false =>
          have hfails : Session.Fails s text := h 0 ⟨s, text⟩ rfl hkeep
          obtain ⟨-, -, hsession⟩ := hfails.line_frame settings
          rw [hsession] at hrest
          rw [keepAt_cons_of_false hkeep, keepAt_cons_of_false hkeep, hsession, hrest]

/-- Where lines that fail are left out, the same is printed, and the session ends as it did. -/
theorem lines_keepAt {keep : Nat → Bool}
    (h : ∀ i t, (turns settings s texts)[i]? = some t → keep i = false → t.Fails) :
    (lines settings s (keepAt keep texts)).out = (lines settings s texts).out ∧
      (lines settings s (keepAt keep texts)).fault = (lines settings s texts).fault ∧
      (lines settings s (keepAt keep texts)).session = (lines settings s texts).session := by
  induction s, texts using turns_induction settings generalizing keep with
  | nil s => exact ⟨rfl, rfl, rfl⟩
  | ends s text rest f hfault =>
      rw [turns_cons_of_fault hfault] at h
      cases hkeep : keep 0 with
      | true =>
          rw [keepAt_cons_of_true hkeep, lines_cons_of_fault hfault, lines_cons_of_fault hfault]
          exact ⟨rfl, rfl, rfl⟩
      | false =>
          have hfails : Session.Fails s text := h 0 ⟨s, text⟩ rfl hkeep
          obtain ⟨-, hnone, -⟩ := hfails.line_frame settings
          rw [hfault] at hnone
          contradiction
  | follow s text rest hfault ih =>
      rw [turns_cons_of_none hfault] at h
      obtain ⟨hout, hends, hafter⟩ := ih fun i t ht => h (i + 1) t ht
      cases hkeep : keep 0 with
      | true =>
          rw [keepAt_cons_of_true hkeep, lines_cons_of_none hfault, lines_cons_of_none hfault]
          exact ⟨congrArg ((line settings s text).out ++ ·) hout, hends, hafter⟩
      | false =>
          have hfails : Session.Fails s text := h 0 ⟨s, text⟩ rfl hkeep
          obtain ⟨hsilent, -, hsession⟩ := hfails.line_frame settings
          rw [hsession] at hout hends hafter
          rw [keepAt_cons_of_false hkeep, lines_cons_of_none hfault]
          simp only [hsilent, hsession, List.nil_append]
          exact ⟨hout, hends, hafter⟩

end Session

end PostfixCalc
