import PostfixCalc.Decimal.Reading
import PostfixCalc.Machine.Transition
import PostfixCalc.Main
import PostfixCalc.Proofs.Token.Division
import PostfixCalc.Proofs.Machine.FirstFailure
import PostfixCalc.Proofs.Machine.Recording
import PostfixCalc.Proofs.Machine.Postfix
import PostfixCalc.Proofs.Session.Command
import PostfixCalc.Proofs.Session.Calculation
import PostfixCalc.Proofs.Session.Lines
import PostfixCalc.Proofs.CommandLine.Run
import PostfixCalc.Proofs.Binary64.Trapping
import PostfixCalc.Proofs.Machine.ClosedErrors
import PostfixCalc.Proofs.Binary64.Overflow
import PostfixCalc.Proofs.Decimal.Grammar
import PostfixCalc.Proofs.Token.Number
import PostfixCalc.Proofs.Session.Remembered
import PostfixCalc.Proofs.CommandLine.Reachable
import PostfixCalc.Proofs.History.Log
import PostfixCalc.Proofs.Session.Request
import PostfixCalc.Proofs.Session.Turns
import PostfixCalc.Proofs.CommandLine.Failing
import PostfixCalc.Proofs.CommandLine.Flags
import PostfixCalc.Proofs.CommandLine.Composition
import PostfixCalc.Proofs.Token.Display
import PostfixCalc.Proofs.Machine.Folding
import PostfixCalc.Proofs.CommandLine.Stream
import PostfixCalc.Proofs.Machine.Accounting
import PostfixCalc.Proofs.Machine.Replay
import PostfixCalc.Proofs.Token.Spacing
import PostfixCalc.Proofs.Text.Quoted
import PostfixCalc.Proofs.CommandLine.Rows
import PostfixCalc.Proofs.CommandLine.Dump
import PostfixCalc.Proofs.Session.Kinds
import PostfixCalc.Proofs.CommandLine.StepRows
import PostfixCalc.Proofs.CommandLine.Console
import PostfixCalc.Proofs.CommandLine.Console
