import PostfixCalc.CommandLine.Run

/-!
# Work at a console

A run that works on lines answers each of them before it reads the next one.  What
it needs besides is a console, which tells the time and takes what is printed and
reported; a console acts in a monad of its own.
-/

namespace PostfixCalc

namespace CommandLine

/-- What is done with lines. -/
structure Work where
  /-- What is printed before the first line. -/
  opening : List String
  /-- The reply to a line. -/
  line : (Nat → TimeOfDay) → Session → String → Session.Reply

namespace Work

/-- Show their tokens. -/
def dump : Work where
  opening := [Session.dumpHeader]
  line := fun _ => Session.dumpLine

/-- Carry them out, with or without log. -/
def calculate (verbose : Bool) : Work where
  opening := []
  line := fun clock => Session.line { verbose, clock }

end Work

/-- What a run with these options does with lines, if it asks for any. -/
def Options.work? (o : Options) : Option Work :=
  match o.action with
  | .showGrammar => none
  | .showHelp => none
  | .dumpTokens => some .dump
  | .calculate => some (.calculate o.verbose)

/-- What a run can ask of the world. -/
structure Console (m : Type → Type) where
  /-- The time of the record that is made next, which is the given one. -/
  time : Nat → m TimeOfDay
  /-- Print the first items and report the others. -/
  deliver : List String → List String → m Unit

/-- What is left of a reply when it is delivered: whether and how to go on. -/
def delivered (r : Session.Reply) : Session.Reply :=
  { r with out := [], err := [] }

namespace Console

variable {m : Type → Type} [Monad m]

/-- Deliver what a reply says. -/
def put (c : Console m) (r : Session.Reply) : m Session.Reply := do
  c.deliver r.out r.err
  return delivered r

/-- Say what comes before the first line. -/
def start (c : Console m) (w : Work) (s : Session) : m Session.Reply :=
  c.put (.printed s w.opening)

/-- Answer one more line, unless a fault has ended the work. -/
def next (c : Console m) (w : Work) (r : Session.Reply) (text : String) :
    m Session.Reply := do
  let time ← c.time (r.session.recorded + 1)
  c.put (r.andThen fun s => w.line (fun _ => time) s text)

/-- Answer more lines. -/
def answer (c : Console m) (w : Work) (r : Session.Reply) (texts : List String) :
    m Session.Reply :=
  texts.foldlM (c.next w) r

/-- Answer the lines of a piece of a stream. -/
def answerPiece (c : Console m) (w : Work) (r : Session.Reply) (piece : String) :
    m Session.Reply :=
  c.answer w r (streamed (splitLines piece))

end Console

end CommandLine

end PostfixCalc
