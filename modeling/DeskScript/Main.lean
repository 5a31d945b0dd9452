import DeskScript.Console.Program

namespace DeskScript.Console

def usage : String := "usage: [-v] [-i] [-p] [--stats] [-w WINDOWS] (SCRIPT... | --repl)"

def readFile (name : Text) : IO (Text × Except PathError Text) := do
  try
    return (name, .ok (← IO.FS.readFile (String.ofList name)).toList)
  catch
    | .noFileOrDirectory .. => return (name, .error .missing)
    | _ => return (name, .error .isFolder)

def filesOf (windowsFile : Option Text) (c : Command) : List Text :=
  let names := match c.task with
    | .scripts names => names
    | _ => []
  let windows := c.options.windows.toList ++ windowsFile.toList
  windows ++ windows.map tidyPath ++ names

def readsInput (c : Command) : Bool :=
  match c.task with
  | .scripts names => names.elem "-".toList
  | _ => false

def emit (prints : List Print) : IO Unit :=
  for p in prints do
    match p.stream with
    | .output => IO.print (String.ofList p.text)
    | .errors => IO.eprint (String.ofList p.text)

/-- Prints what a dialogue has added, reads a line, and goes on until the dialogue has ended. -/
partial def converse (o : Options) (input : IO.FS.Stream) (d : Dialogue) (shown : Nat) : IO Dialogue := do
  let prints := d.progress.printed.toList.drop shown
  emit (if o.plain then prints.map Print.plain else prints)
  (← IO.getStdout).flush
  if d.ended then return d
  let shown := d.progress.printed.size
  let line ← input.getLine
  if line.isEmpty then converse o input d.finish shown
  else converse o input ((inputLines line.toList).foldl (Dialogue.take o.verbosity) d) shown

def secondsText (milliseconds : Nat) : Text :=
  let fraction := Text.ofNat (milliseconds % 1000)
  Text.ofNat (milliseconds / 1000) ++ '.' :: List.replicate (3 - fraction.length) '0' ++ fraction ++ ['s']

def conclude (elapsed : Text) (r : Result) : IO UInt32 := do
  emit (r.prints elapsed)
  match r.ending with
  | .status n => return n.toUInt32
  | .misused =>
    IO.eprintln usage
    return 2
  | .unreadable _ =>
    IO.eprintln "a file cannot be read"
    return 1
  | .badWindows e =>
    IO.eprintln (String.ofList e.message)
    return 1

def carryOut (around : Surroundings) (c : Command) : IO UInt32 := do
  let began ← IO.monoMsNow
  let o := c.optionsIn around
  match c.task, (do c.checkOptions around; c.desktopFor around : Except Ending Desktop) with
  | .repl, .ok d =>
    let d ← converse o (← IO.getStdin) (.start d) 0
    let r := (Finish.mk d.progress true).result o
    conclude (secondsText ((← IO.monoMsNow) - began)) { r with printed := [] }
  | .help, _ =>
    IO.println usage
    return 0
  | _, _ =>
    let r := c.perform around
    conclude (secondsText ((← IO.monoMsNow) - began)) r

def runMain (args : List String) : IO UInt32 := do
  let input ← IO.getStdin
  let terminal ← input.isTty
  match readCommand (route terminal (args.map String.toList)) with
  | none =>
    IO.eprintln usage
    return 2
  | some c =>
    let windowsFile := ((← IO.getEnv "FLUXO_WINDOWS").map String.toList).filter fun t => !t.isEmpty
    let debug := ((← IO.getEnv "FLUXO_DEBUG").map String.toList).any fun t => !t.isEmpty
    let files ← (filesOf windowsFile c).mapM readFile
    let text ← if readsInput c then input.readToEnd else pure ""
    carryOut ⟨fun name => (files.lookup name).getD (.error .missing), text.toList, terminal, windowsFile, debug⟩ c

end DeskScript.Console

def main (args : List String) : IO UInt32 := DeskScript.Console.runMain args
