import DeskScript.Console.FileTree
import DeskScript.Console.Repl

namespace DeskScript.Console

structure Surroundings where
  read : Text → Except PathError Text
  input : Text
  terminal : Bool
  windowsFile : Option Text
  debug : Bool

inductive Ending where
  | status (n : Nat)
  | misused
  | unreadable (e : PathError)
  | badWindows (e : FileError)

/-- What is printed, the number of statements if it is to be reported, and how the program ends. -/
structure Result where
  printed : List Print
  statistics : Option Nat
  plain : Bool
  ending : Ending

namespace Result

def silent (ending : Ending) : Result := ⟨[], none, false, ending⟩

/-- All that is printed, given the text of the time it took. -/
def prints (r : Result) (elapsed : Text) : List Print :=
  let statistics := match r.statistics with
    | some n => [⟨.output, statisticsText n elapsed⟩]
    | none => []
  let all := r.printed ++ statistics
  if r.plain then all.map Print.plain else all

def textOn (r : Result) (elapsed : Text) (stream : Stream) : Text :=
  (r.prints elapsed).flatMap fun p => if p.stream = stream then p.text else []

end Result

def inputName : Text := "<stdin>".toList

/-- How the program ends for want of a file that an argument names. No file can be asked for by a name with a
null character. -/
def endingFor : PathError → Ending
  | .hasNull => .unreadable .hasNull
  | _ => .misused

/-- The scripts under the given names. A dash stands for the input, which can be read only once. -/
def openScripts (around : Surroundings) (input : Text) : List Text → Except Ending (List Script)
  | [] => .ok []
  | name :: names =>
    if name = "-".toList then
      (openScripts around [] names).map fun scripts => ⟨inputName, Text.unifyNewlines input⟩ :: scripts
    else
      match around.read name with
      | .error e => .error (endingFor e)
      | .ok source =>
        (openScripts around input names).map fun scripts => ⟨name, Text.unifyNewlines source⟩ :: scripts

/-- The windows in a file. -/
def readDesktop (around : Surroundings) (name : Text) : Except Ending Desktop :=
  match around.read (tidyPath name) with
  | .error e => .error (.unreadable e)
  | .ok t => ((readWindows t).map Desktop.ofWindows).mapError .badWindows

namespace Command

def optionsIn (around : Surroundings) (c : Command) : Options :=
  if around.debug then { c.options with verbosity := 2 } else c.options

/-- Whether the file that the options name can be read at all. -/
def checkOptions (around : Surroundings) (c : Command) : Except Ending Unit :=
  match c.options.windows with
  | none => .ok ()
  | some name => ((around.read name).map fun _ => ()).mapError endingFor

/-- The desktop to begin with: the windows in the file that the options name, or the surroundings, or no
windows at all. -/
def desktopFor (around : Surroundings) (c : Command) : Except Ending Desktop :=
  match c.options.windows.or around.windowsFile with
  | none => .ok (.ofWindows [])
  | some name => readDesktop around name

end Command

def Finish.result (f : Finish) (o : Options) : Result :=
  ⟨f.progress.printed.toList, f.statistics? o, o.plain, .status f.status⟩

def Command.performTask (around : Surroundings) (c : Command) : Except Ending Result :=
  let o := c.optionsIn around
  match c.task with
  | .refused => .error .misused
  | .nothing => .error (.status 0)
  | .help => .error (.status 0)
  | .repl => do
    let d ← c.desktopFor around
    return (runDialogue o d (inputLines around.input)).result o
  | .scripts names => do
    let scripts ← openScripts around around.input names
    let d ← c.desktopFor around
    return (runScripts o (.start d) scripts).result o

/-- What a command comes to. The file in its options is looked for first, then the scripts, and only then are
the windows read. -/
def Command.perform (around : Surroundings) (c : Command) : Result :=
  match (do c.checkOptions around; c.performTask around : Except Ending Result) with
  | .ok result => result
  | .error ending => .silent ending

def perform (around : Surroundings) (args : List Text) : Result :=
  match readCommand (route around.terminal args) with
  | none => .silent .misused
  | some c => c.perform around

end DeskScript.Console
