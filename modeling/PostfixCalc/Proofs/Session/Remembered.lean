import PostfixCalc.Proofs.Session.Lines
import PostfixCalc.Proofs.Token.Division

/-!
# What a session remembers

A record is replayable if its expression, calculated again, has the value of the
record, and if nothing stands in the way of that: the expression is not blank, there
is nothing to trim, and it is no command.  What a calculation remembers is replayable
(`replayable_recordOf`), because an expression with a value begins with a number.  All
records of a session are so (`Consistent`), which every line of the session keeps.  In
such a session the number of an entry repeats its calculation, and cannot fail
(`Consistent.line_of_entry`).
-/

namespace PostfixCalc

/-- The record can be calculated again, and gives the same value. -/
structure Record.Replayable {τ : Type} (r : Record τ) : Prop where
  not_blank : ∃ c ∈ r.expression.toList, Text.isTrimmed c = false
  trimmed : Text.trim r.expression = r.expression
  not_command : r.expression.toList.head? ≠ some ':'
  value : evaluate (some r.expression) = .ok r.result

/-! ## Expressions with a value -/

open Machine

/-- Nothing but a number can be fed to an empty stack. -/
theorem Machine.exists_number?_of_feeds_nil {token action : String} {stack : List Binary64}
    (h : Feeds token [] (.fed stack action)) : ∃ x, Token.number? token = .ok (some x) := by
  cases h with
  | number h => exact ⟨_, h⟩

variable {expression : String} {x : Binary64}

/-- An expression with a value begins with a number. -/
theorem exists_literalChar_of_evaluate (h : evaluate (some expression) = .ok x) :
    ∃ c rest, Text.trimChars expression.toList = c :: rest ∧ Decimal.isLiteralChar c = true := by
  obtain ⟨tokens, steps, htokens, hfeeds⟩ := exists_feedsAll_of_evaluate h
  cases hfeeds with
  | @cons token more _ _ _ _ _ hfeed _ =>
      obtain ⟨y, hy⟩ := exists_number?_of_feeds_nil hfeed
      obtain ⟨d, hd⟩ := Token.exists_parse?_of_number? hy
      obtain ⟨-, hruns⟩ := Token.ofExpression_eq_ok_iff.1 htokens
      obtain ⟨rest, hrest⟩ := hruns.exists_append fun c hc =>
        Text.isWhiteSpace_of_not_isTrimmed ((Text.ends_of_trimChars _).1 c hc)
      obtain ⟨c, token', htoken⟩ :=
        List.exists_cons_of_ne_nil (Decimal.isSolid_of_parse? hd).1
      refine ⟨c, token' ++ rest, ?_, Decimal.isLiteralChar_of_parse? hd (by simp [htoken])⟩
      rw [hrest, htoken, List.cons_append]

theorem trim_trim (text : String) : Text.trim (Text.trim text) = Text.trim text := by
  simp only [Text.trim, String.toList_ofList, Text.trimChars_trimChars]

/-- What a calculation remembers can be calculated again. -/
theorem replayable_recordOf {τ : Type} (h : evaluate (some expression) = .ok x) (time : τ) :
    (History.recordOf expression x time).Replayable := by
  obtain ⟨c, rest, htrim, hliteral⟩ := exists_literalChar_of_evaluate h
  have hlist : (Text.trim expression).toList = c :: rest := by
    rw [Text.trim, String.toList_ofList, htrim]
  constructor
  · exact ⟨c, by simp [History.recordOf, hlist], Decimal.not_isTrimmed_of_isLiteralChar hliteral⟩
  · exact trim_trim expression
  · -- A colon does not begin a number.
    have hcolon : c ≠ ':' := by
      rintro rfl
      contradiction
    simp [History.recordOf, hlist, hcolon]
  · exact (evaluate_congr (Token.ofExpression_trim expression)).trans h

/-! ## The invariant -/

namespace Session

/-- Ten records at most are kept, and each of them can be calculated again. -/
structure Consistent (s : Session) : Prop where
  cap_eq : s.history.cap = History.defaultCap
  replayable : ∀ r ∈ s.history.records, r.Replayable

variable {settings : Settings} {s : Session}

theorem consistent_new : Consistent new where
  cap_eq := rfl
  replayable := by simp [new, default, History.empty]

/-- Whether steps are shown does not matter to what is remembered. -/
theorem Consistent.withSteps (h : Consistent s) (shown : Bool) :
    Consistent { s with showSteps := shown } where
  cap_eq := h.cap_eq
  replayable := h.replayable

theorem Consistent.remember (h : Consistent s) (hx : evaluate (some expression) = .ok x) :
    Consistent (s.remember settings expression x) where
  cap_eq := h.cap_eq
  replayable := by
    intro r hr
    rcases List.mem_cons.1 (List.mem_of_mem_take hr) with rfl | hr
    · exact replayable_recordOf hx _
    · exact h.replayable r hr

theorem Consistent.clear (h : Consistent s) :
    Consistent { s with history := s.history.clear } where
  cap_eq := h.cap_eq
  replayable := by simp [History.clear, History.empty]

/-- A calculation remembers what has a value, and nothing else. -/
theorem Consistent.calculate (h : Consistent s) (settings : Settings) (expression : String) :
    Consistent (calculate settings s expression).session := by
  rcases evaluate_ok_or_error (some expression) with ⟨x, hx⟩ | ⟨e, he⟩
  · rw [calculate_of_value hx]
    exact h.remember hx
  · rw [calculate_of_failure he]
    exact h

theorem Consistent.command (h : Consistent s) (settings : Settings) (c : Command) :
    Consistent (command settings s c).session := by
  cases c with
  | help => exact h
  | history =>
      simp only [Session.command, historyRows_eq]
      exact h
  | clear => exact h.clear
  | toggleSteps => exact h.withSteps _
  | repeatEntry number =>
      cases hentry : s.history.entry number with
      | ok r =>
          simp only [Session.command, hentry]
          exact h.calculate settings r.expression
      | error e =>
          simp only [Session.command, hentry]
          exact h
  | unknown name => exact h

theorem Consistent.line (h : Consistent s) (settings : Settings) (text : String) :
    Consistent (line settings s text).session := by
  unfold Session.line
  split
  · exact h.calculate settings text
  · split
    · exact h.command settings _
    · exact h

theorem Reply.session_andThen {p : Session → Prop} {r : Reply} {next : Session → Reply}
    (h : p r.session) (hnext : ∀ s, p s → p (next s).session) : p (r.andThen next).session := by
  cases hfault : r.fault with
  | some f => rwa [andThen_of_fault hfault]
  | none =>
      rw [andThen_of_none hfault]
      exact hnext _ h

/-- All lines of a session keep its records replayable, whatever they are. -/
theorem Consistent.lines (h : Consistent s) (settings : Settings) (texts : List String) :
    Consistent (lines settings s texts).session := by
  induction texts generalizing s with
  | nil => exact h
  | cons text rest ih => exact Reply.session_andThen (h.line settings text) fun _ hs => ih hs

/-! ## Calculating a record again -/

theorem entry_of_present {h : History TimeOfDay} {r : Record TimeOfDay} {n : Nat} (hpos : 1 ≤ n)
    (hr : h.records[n - 1]? = some r) : h.entry n = .ok r := by
  have hindex : ((n : Int) - 1).toNat = n - 1 := by omega
  have hpos' : (1 : Int) ≤ n := by omega
  simp only [History.entry, hpos', hindex, hr, if_true]

/-- The numbers of entries are commands. -/
theorem ofName_of_le_defaultCap {n : Nat} (h : n ≤ History.defaultCap) :
    Command.ofName (toString n) = .ok (.repeatEntry n) := by
  have hall : ∀ n : Fin (History.defaultCap + 1),
      Command.ofName (toString n.val) = .ok (.repeatEntry n.val) := by
    decide +kernel
  exact hall ⟨n, Nat.lt_succ_of_le h⟩

variable {r : Record TimeOfDay} {n : Nat}

/-- The number of an entry calculates its expression, which has the value of the record. -/
theorem Consistent.line_of_entry (h : Consistent s) (settings : Settings) (hpos : 1 ≤ n)
    (hr : s.history.records[n - 1]? = some r) :
    Session.line settings s s!":{n}" =
      { out := shownRows s.showSteps r.expression ++ [r.result.displayText]
        err := logged settings r.expression
        failed := false
        fault := none
        session := s.remember settings r.expression r.result } := by
  have hle : n ≤ History.defaultCap := by
    have hlt : n - 1 < s.history.records.length := (List.getElem?_eq_some_iff.1 hr).1
    have hlength := s.history.length_le
    rw [h.cap_eq] at hlength
    omega
  have hcolon : (s!":{n}").toList = ':' :: (toString n).toList :=
    String.toList_append
  have hname : Command.name? s!":{n}" = some (toString n) := by
    rw [Command.name?_of_cons hcolon, String.ofList_toList]
  have hreplay := h.replayable r (List.mem_of_getElem? hr)
  rw [← calculate_of_value hreplay.value]
  simp only [Session.line, hname, ofName_of_le_defaultCap hle, Session.command,
    entry_of_present hpos hr]

/-- A calculation of a record once more puts it in front, at another time. -/
theorem Consistent.records_remember (h : Consistent s) (settings : Settings)
    (hr : r.Replayable) :
    (s.remember settings r.expression r.result).history.records =
      ({ r with time := settings.clock (s.recorded + 1) } :: s.history.records).take
        History.defaultCap := by
  simp only [Session.remember, History.add, History.insert, History.recordOf, h.cap_eq, hr.trimmed]

/-- The row of a record in the list that `:history` prints. -/
theorem line_history_getElem? (settings : Settings) (hpos : 1 ≤ n)
    (hr : s.history.records[n - 1]? = some r) :
    (line settings s ":history").out[n - 1]? =
      some s!"{n}\t{r.time.text}\t{r.expression}\t= {r.result.displayText}" := by
  have hline : line settings s ":history" = command settings s .history := by
    rfl
  have hnumber : n - 1 + 1 = n := by omega
  rw [hline]
  simp only [command, historyRows_eq, Reply.printed]
  simp [hr, recordText, hnumber]

end Session

end PostfixCalc
