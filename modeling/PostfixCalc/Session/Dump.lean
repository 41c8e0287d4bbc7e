import PostfixCalc.Session.Basic
import PostfixCalc.Text.Quoted

/-!
# Token dumps

A dump shows the tokens of lines as rows of three fields: the kind of the token,
the token in quotes, and the number of operands if it is an operator.
-/

namespace PostfixCalc

namespace Session

/-- The heading of a dump. -/
def dumpHeader : String :=
  "<kind>\t<repr(token)>\t<arity>"

/-- The row of a token. -/
def dumpRow (token : String) : Except Fault String := do
  let kind ← Token.kind token
  let arity :=
    match Operator.ofSymbol? token with
    | some op => toString op.arity
    | none => "None"
  return s!"{kind.text}\t{Text.quote token}\t{arity}"

/-- The rows of a line, or the report that it has no tokens. -/
def dumpLine (s : Session) (text : String) : Reply :=
  match Token.ofExpression (some text) with
  | .error e => { Reply.reported s [e.message] with failed := true }
  | .ok tokens =>
      match tokens.mapM dumpRow with
      | .ok rows => .printed s rows
      | .error f => .faulty s f

/-- The rows of lines in order. -/
def dumpLines : Session → List String → Reply
  | s, [] => .silent s
  | s, text :: rest => (dumpLine s text).andThen fun s' => dumpLines s' rest

/-- The dump of lines under its heading. -/
def dump (s : Session) (texts : List String) : Reply :=
  (Reply.printed s [dumpHeader]).andThen fun s' => dumpLines s' texts

end Session

end PostfixCalc
