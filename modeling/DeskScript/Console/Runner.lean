import DeskScript.Console.Command
import DeskScript.Console.Report
import DeskScript.Journal
import DeskScript.Script.Trace
import DeskScript.Window.Loading

namespace DeskScript.Console

structure Script where
  file : Text
  source : Text

/-- What the scripts of a command have come to. They share one desktop. -/
structure Progress where
  desktop : Desktop
  printed : Journal Print
  failed : Bool
  succeeded : Nat
  statements : Nat

namespace Progress

def start (d : Desktop) : Progress := ⟨d, .empty, false, 0, 0⟩

/-- A text is of characters, and every output has all of these, so that printing does not fail. -/
def print (p : Progress) (stream : Stream) (t : Text) : Progress :=
  if t.isEmpty then p else { p with printed := p.printed.push ⟨stream, t⟩ }

def runScript (p : Progress) (verbosity : Nat) (script : Script) : Bool × Progress :=
  let run := p.desktop.run script.source (some script.file)
  let p := { p with desktop := run.session.desktop }.print .output (run.trace verbosity)
  match run.error with
  | some e => (false, p.print .errors (reportText script.file script.source e))
  | none =>
    (true, { p.print .output (run.transcriptText ++ ['\n']) with
      succeeded := p.succeeded + 1
      statements := p.statements + run.dispatched.length })

end Progress

structure Finish where
  progress : Progress
  complete : Bool

/-- The first error ends the command unless errors are to be ignored. -/
def runScripts (o : Options) (p : Progress) : List Script → Finish
  | [] => ⟨p, true⟩
  | script :: scripts =>
    match p.runScript o.verbosity script with
    | (true, p) => runScripts o p scripts
    | (false, p) =>
      let p := { p with failed := true }
      if o.ignoreErrors then runScripts o p scripts else ⟨p, false⟩

def Finish.status (f : Finish) : Nat := if f.progress.failed then 1 else 0

def Finish.statistics? (f : Finish) (o : Options) : Option Nat :=
  if o.statistics ∧ f.complete ∧ 0 < f.progress.succeeded then some f.progress.statements else none

def statisticsText (statements : Nat) (elapsed : Text) : Text :=
  '\n' :: Ansi.bright ++ Ansi.backdrop ++ " STATISTICS. ".toList ++ Ansi.reset ++ "\nstmt\t".toList ++
    Ansi.wrap Ansi.bright (Text.groupDigits (Text.ofNat statements)) ++ "\ntime\t".toList ++
    Ansi.wrap Ansi.bright elapsed ++ ['\n']

end DeskScript.Console
