import PostfixCalc.CommandLine.Console
import PostfixCalc.Proofs.CommandLine.Run

/-!
# Work at a console is the run

A console that writes down all it is given (`recorder`) is told line by line what the run
prints and reports in all, and the reply that is left tells the status of the run and the
session (`perform_eq_recorded`).  It does not matter in which pieces a stream is read, as
long as lines are not cut (`recorded_join`).
-/

namespace PostfixCalc

namespace CommandLine

open Session

/-! ## Replies to all lines -/

/-- The reply to lines in order, until a fault ends the work. -/
def Work.lines (w : Work) (clock : Nat → TimeOfDay) : Session → List String → Reply
  | s, [] => .silent s
  | s, text :: rest => (w.line clock s text).andThen fun s' => w.lines clock s' rest

/-- A line makes one record at most, so that it asks for the time of the next one alone. -/
def Work.Punctual (w : Work) : Prop :=
  ∀ (clock : Nat → TimeOfDay) (s : Session) (text : String),
    w.line (fun _ => clock (s.recorded + 1)) s text = w.line clock s text

variable {w : Work} {clock : Nat → TimeOfDay} {s : Session} {o : Options} {input : Input}

theorem calculate_punctual (verbose : Bool) (clock : Nat → TimeOfDay) (s : Session)
    (expression : String) :
    calculate { verbose, clock := fun _ => clock (s.recorded + 1) } s expression =
      calculate { verbose, clock } s expression :=
  rfl

theorem Work.punctual_calculate (verbose : Bool) : (Work.calculate verbose).Punctual := by
  intro clock s text
  simp only [Work.calculate, Session.line]
  cases Command.name? text with
  | none => exact calculate_punctual verbose clock s text
  | some name =>
      cases hc : Command.ofName name with
      | error f => simp only [hc]
      | ok c =>
          cases c with
          | repeatEntry number =>
              simp only [hc, command]
              cases s.history.entry number with
              | ok r => exact calculate_punctual verbose clock s r.expression
              | error e => rfl
          | _ => simp only [hc, command]

theorem Work.punctual_dump : Work.dump.Punctual :=
  fun _ _ _ => rfl

theorem Work.lines_calculate (verbose : Bool) (clock : Nat → TimeOfDay) (s : Session)
    (texts : List String) :
    (Work.calculate verbose).lines clock s texts = Session.lines { verbose, clock } s texts := by
  induction texts generalizing s with
  | nil => rfl
  | cons text rest ih =>
      simp only [Work.lines, Session.lines, ih]
      rfl

theorem Work.lines_dump (clock : Nat → TimeOfDay) (s : Session) (texts : List String) :
    Work.dump.lines clock s texts = dumpLines s texts := by
  induction texts generalizing s with
  | nil => rfl
  | cons text rest ih =>
      simp only [Work.lines, dumpLines, ih]
      rfl

theorem work?_cases (h : o.work? = some w) :
    (o.action = .dumpTokens ∧ w = .dump) ∨
      (o.action = .calculate ∧ w = .calculate o.verbose) := by
  unfold Options.work? at h
  cases haction : o.action <;> simp_all

theorem punctual_of_work? (h : o.work? = some w) : w.Punctual := by
  rcases work?_cases h with ⟨-, rfl⟩ | ⟨-, rfl⟩
  · exact Work.punctual_dump
  · exact Work.punctual_calculate o.verbose

/-- A run that works on lines says what comes before them, and replies to each in turn. -/
theorem perform_of_work? (h : o.work? = some w) :
    perform clock s o input =
      Report.ofReply
        ((Reply.printed { s with showSteps := o.steps } w.opening).andThen fun s' =>
          w.lines clock s' (lines o input))
        (unanswered o input) (interrupted o input) := by
  rcases work?_cases h with ⟨haction, rfl⟩ | ⟨haction, rfl⟩
  · simp only [perform, haction, Session.dump, Work.lines_dump]
    rfl
  · simp only [perform, haction, Work.lines_calculate]
    rfl

/-- A run that does not work on lines is the same whatever there is to read. -/
theorem perform_of_work?_eq_none (h : o.work? = none) (input' : Input) :
    perform clock s o input = perform clock s o input' := by
  unfold Options.work? at h
  unfold perform
  cases haction : o.action with
  | showGrammar => rfl
  | showHelp => rfl
  | dumpTokens => simp [haction] at h
  | calculate => simp [haction] at h

/-! ## A console that writes everything down -/

/-- All that a console was given, in order. -/
structure Transcript where
  out : List String
  err : List String

/-- What is given to a console after what it has. -/
def Transcript.add (t : Transcript) (out err : List String) : Transcript where
  out := t.out ++ out
  err := t.err ++ err

/-- The console that writes down what it is given and goes by a clock. -/
def recorder (clock : Nat → TimeOfDay) : Console (StateM Transcript) where
  time := fun n => pure (clock n)
  deliver := fun out err => modify (·.add out err)

theorem Transcript.add_add (t : Transcript) (out out' err err' : List String) :
    (t.add out err).add out' err' = t.add (out ++ out') (err ++ err') := by
  simp [add, List.append_assoc]

theorem put_recorder (clock : Nat → TimeOfDay) (r : Reply) (t : Transcript) :
    ((recorder clock).put r).run t = (delivered r, t.add r.out r.err) :=
  rfl

theorem next_recorder (h : w.Punctual) (clock : Nat → TimeOfDay) (r : Reply) (text : String)
    (t : Transcript) :
    let r' := r.andThen fun s => w.line clock s text
    ((recorder clock).next w r text).run t = (delivered r', t.add r'.out r'.err) := by
  intro r'
  have hreply : (r.andThen fun s => w.line (fun _ => clock (r.session.recorded + 1)) s text) =
      r' := Reply.andThen_congr (h clock r.session text)
  rw [← hreply]
  exact put_recorder clock _ t

/-- What a reply says may be delivered before the work goes on. -/
theorem add_delivered_andThen (r : Reply) (next : Session → Reply) (t : Transcript) :
    let rest := (delivered r).andThen next
    delivered rest = delivered (r.andThen next) ∧
      (t.add r.out r.err).add rest.out rest.err =
        t.add (r.andThen next).out (r.andThen next).err := by
  intro rest
  rw [Transcript.add_add]
  cases h : r.fault with
  | some f =>
      have hrest : rest = delivered r := Reply.andThen_of_fault h
      rw [hrest, Reply.andThen_of_fault h]
      simp [delivered]
  | none =>
      have hrest : rest = _ := Reply.andThen_of_none h
      rw [hrest, Reply.andThen_of_none h]
      simp [delivered]

/-- Line by line, the recorder is given what the replies to all lines say. -/
theorem answer_recorder (h : w.Punctual) (clock : Nat → TimeOfDay) (r : Reply)
    (texts : List String) (t : Transcript) :
    let whole := (delivered r).andThen fun s => w.lines clock s texts
    ((recorder clock).answer w (delivered r) texts).run t =
      (delivered whole, t.add whole.out whole.err) := by
  induction texts generalizing r t with
  | nil =>
      intro whole
      have hwhole : whole = delivered r := Reply.andThen_silent _
      have hadd : t.add (delivered r).out (delivered r).err = t := by
        simp [delivered, Transcript.add]
      rw [hwhole, hadd]
      rfl
  | cons text rest ih =>
      intro whole
      let r' := (delivered r).andThen fun s => w.line clock s text
      have hwhole : whole = r'.andThen fun s => w.lines clock s rest :=
        (Reply.andThen_assoc _ _ _).symm
      obtain ⟨hdelivered, hadd⟩ := add_delivered_andThen r' (fun s => w.lines clock s rest) t
      have hnext := next_recorder h clock (delivered r) text t
      have hrest := ih r' (t.add r'.out r'.err)
      simp only [Console.answer, List.foldlM_cons, StateT.run_bind] at hrest ⊢
      rw [hnext, hwhole, ← hdelivered, ← hadd]
      exact hrest

/-- The work on lines, from its opening on, at a recorder that has nothing yet. -/
def recorded (w : Work) (clock : Nat → TimeOfDay) (s : Session) (texts : List String) :
    Reply × Transcript :=
  ((recorder clock).start w s >>= fun r => (recorder clock).answer w r texts).run
    { out := [], err := [] }

theorem recorded_eq (h : w.Punctual) (clock : Nat → TimeOfDay) (s : Session)
    (texts : List String) :
    let whole := (Reply.printed s w.opening).andThen fun s' => w.lines clock s' texts
    recorded w clock s texts = (delivered whole, { out := whole.out, err := whole.err }) := by
  intro whole
  let opened := Reply.printed s w.opening
  let t : Transcript := { out := [], err := [] }
  obtain ⟨hdelivered, hadd⟩ := add_delivered_andThen opened (fun s' => w.lines clock s' texts) t
  have hstart : ((recorder clock).start w s).run t =
      (delivered opened, t.add opened.out opened.err) := put_recorder clock opened t
  have hanswer := answer_recorder h clock opened texts (t.add opened.out opened.err)
  rw [recorded, StateT.run_bind, hstart]
  refine hanswer.trans ?_
  rw [hdelivered, hadd]
  rfl

/-- A run that works on lines is the work at a recorder: its items are what the recorder was
given, with what is left of the prompt, and what is left of the last reply tells its status,
or the fault that ends it, and its session. -/
theorem perform_eq_recorded (h : o.work? = some w) (clock : Nat → TimeOfDay) (s : Session)
    (input : Input) :
    let (r, t) := recorded w clock { s with showSteps := o.steps } (lines o input)
    perform clock s o input =
      { out := t.out ++ unanswered o input
        err := t.err
        status := (Report.ofReply r [] (interrupted o input)).status
        session := r.session } := by
  rw [recorded_eq (punctual_of_work? h), perform_of_work? h]
  rfl

/-! ## Pieces of a stream -/

variable {m : Type → Type} [Monad m] [LawfulMonad m]

theorem answer_append (c : Console m) (w : Work) (r : Reply) (texts after : List String) :
    c.answer w r (texts ++ after) = c.answer w r texts >>= fun r' => c.answer w r' after :=
  List.foldlM_append

theorem splitLines_append (line rest : String) :
    splitLines (line ++ "\n" ++ rest) = splitLines line ++ splitLines rest := by
  have hchars : (line ++ "\n" ++ rest).toList = line.toList ++ '\n' :: rest.toList := by
    simp
  rw [splitLines, hchars, List.splitOn_append_cons_self, List.map_append]
  rfl

/-- Where a line ends, a stream can be cut. -/
theorem streamed_append (line rest : String) :
    streamed (splitLines (line ++ "\n" ++ rest)) =
      streamed (splitLines (line ++ "\n")) ++ streamed (splitLines rest) := by
  have hend : splitLines (line ++ "\n") = splitLines line ++ [""] := by
    have h := splitLines_append line ""
    rwa [String.append_empty] at h
  have hblank : streamed [""] = [] := by decide +kernel
  have happend : ∀ xs ys, streamed (xs ++ ys) = streamed xs ++ streamed ys := by
    simp [streamed]
  rw [splitLines_append, hend, happend, happend, hblank, List.append_nil]

/-- A stream is answered piece by piece as it is in one, if each piece but the last ends a
line. -/
theorem answerPiece_join (c : Console m) (w : Work) (r : Reply) {pieces : List String}
    (h : ∀ piece ∈ pieces, ∃ line, piece = line ++ "\n") (last : String) :
    c.answerPiece w r (String.join pieces ++ last) =
      pieces.foldlM (c.answerPiece w) r >>= fun r' => c.answerPiece w r' last := by
  induction pieces generalizing r with
  | nil => simp
  | cons piece rest ih =>
      obtain ⟨⟨line, rfl⟩, hrest⟩ := List.forall_mem_cons.1 h
      have hjoin : String.join ((line ++ "\n") :: rest) ++ last =
          line ++ "\n" ++ (String.join rest ++ last) := by
        rw [String.join_cons, String.append_assoc]
      rw [hjoin, Console.answerPiece, streamed_append, answer_append, List.foldlM_cons,
        bind_assoc]
      congr
      funext r'
      exact ih r' hrest

/-- So the recorder ends alike for a stream that is read piece by piece. -/
theorem recorded_join (w : Work) (clock : Nat → TimeOfDay) (s : Session)
    {pieces : List String} (h : ∀ piece ∈ pieces, ∃ line, piece = line ++ "\n")
    (last : String) :
    let c := recorder clock
    (c.start w s >>= fun r => pieces.foldlM (c.answerPiece w) r >>= fun r' =>
        c.answerPiece w r' last).run { out := [], err := [] } =
      recorded w clock s (streamed (splitLines (String.join pieces ++ last))) := by
  intro c
  simp only [← answerPiece_join c w _ h last]
  rfl

end CommandLine

end PostfixCalc
