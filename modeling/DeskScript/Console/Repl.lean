import DeskScript.Console.Runner
import DeskScript.Text.Blank
import DeskScript.Text.Lines

namespace DeskScript.Console

/-- Lines gather, newest first, until a blank one runs them as a script. A farewell at the start of a script ends the
dialogue, and so does the end of the input, which runs nothing. -/
structure Dialogue where
  progress : Progress
  gathered : List Text
  ended : Bool

namespace Dialogue

def banner : Text :=
  "fluxo - Window scripting REPL; finish a script with an empty line, Ctrl+C to exit.\n".toList

def scriptName : Text := "<REPL>".toList

def prompt (d : Dialogue) : Text :=
  Ansi.wrap Ansi.cyan (if d.gathered.isEmpty then "<<< ".toList else "... ".toList)

def script (d : Dialogue) : Text := d.gathered.reverse.flatMap (· ++ ['\n'])

def ask (d : Dialogue) : Dialogue := { d with progress := d.progress.print .output d.prompt }

def start (d : Desktop) : Dialogue := (⟨(Progress.start d).print .output banner, [], false⟩ : Dialogue).ask

def isFarewell (line : Text) : Bool :=
  let t := Text.strip line
  t == "quit".toList || t == "exit".toList

/-- Takes a line and asks for the next one. -/
def take (verbosity : Nat) (d : Dialogue) (line : Text) : Dialogue :=
  if d.ended then d
  else if d.gathered.isEmpty && isFarewell line then { d with ended := true }
  else if !Text.isBlankLine line then ask { d with gathered := line :: d.gathered }
  else if d.gathered.isEmpty then d.ask
  else
    ask { d with
      progress := (d.progress.runScript verbosity ⟨scriptName, d.script⟩).2
      gathered := [] }

def finish (d : Dialogue) : Dialogue :=
  if d.ended then d else { d with progress := d.progress.print .output ['\n'], ended := true }

end Dialogue

def inputLines (input : Text) : List Text :=
  let pieces := Text.splitOn '\n' (Text.unifyNewlines input)
  match pieces.getLast? with
  | some [] => pieces.dropLast
  | _ => pieces

def runDialogue (o : Options) (d : Desktop) (lines : List Text) : Finish :=
  ⟨(lines.foldl (Dialogue.take o.verbosity) (Dialogue.start d)).finish.progress, true⟩

end DeskScript.Console
