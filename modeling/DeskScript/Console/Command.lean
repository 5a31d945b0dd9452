import DeskScript.Console.Routing

namespace DeskScript.Console

structure Options where
  verbosity : Nat
  ignoreErrors : Bool
  statistics : Bool
  plain : Bool
  windows : Option Text
  help : Bool
deriving DecidableEq

def noOptions : Options := ⟨0, false, false, false, none, false⟩

inductive Task where
  | refused
  | nothing
  | help
  | scripts (names : List Text)
  | repl
deriving DecidableEq

structure Command where
  options : Options
  task : Task
deriving DecidableEq

inductive Switch where
  | verbose
  | ignoreErrors
  | statistics
  | plain
  | windows
  | help
deriving DecidableEq

namespace Switch

def ofLong? (name : Text) : Option Switch :=
  if name = "--verbose".toList then some verbose
  else if name = "--ignore".toList then some ignoreErrors
  else if name = "--stats".toList then some statistics
  else if name = "--plain".toList then some plain
  else if name = "--windows".toList then some windows
  else if name = "--help".toList then some help
  else none

def ofShort? : Char → Option Switch
  | 'v' => some verbose
  | 'i' => some ignoreErrors
  | 'p' => some plain
  | 'w' => some windows
  | _ => none

end Switch

inductive Outcome where
  | refused
  | set (o : Options)
  | awaits (o : Options)

namespace Options

def turnOn (o : Options) : Switch → Outcome
  | .verbose => .set { o with verbosity := o.verbosity + 1 }
  | .ignoreErrors => .set { o with ignoreErrors := true }
  | .statistics => .set { o with statistics := true }
  | .plain => .set { o with plain := true }
  | .windows => .awaits o
  | .help => .set { o with help := true }

def withValue (o : Options) (value : Text) : Options := { o with windows := some value }

def readShort (o : Options) : Text → Outcome
  | [] => .set o
  | c :: rest =>
    match Switch.ofShort? c with
    | none => .refused
    | some s =>
      match o.turnOn s with
      | .set o => readShort o rest
      | .awaits o => if rest.isEmpty then .awaits o else .set (o.withValue rest)
      | .refused => .refused

def readLong (o : Options) (s : Switch) (value : Option Text) : Outcome :=
  match o.turnOn s, value with
  | .set o, none => .set o
  | .set _, some _ => .refused
  | .awaits o, none => .awaits o
  | .awaits o, some v => .set (o.withValue v)
  | .refused, _ => .refused

def readArgument (o : Options) (t : Text) : Outcome :=
  let (name, value) := match Text.cutAt? ['='] t with
    | some (before, after) => (before, some after)
    | none => (t, none)
  match Switch.ofLong? name with
  | some s => o.readLong s value
  | none => if Text.startsWith "--".toList t then .refused else o.readShort (t.drop 1)

end Options

def isOption : Text → Bool
  | '-' :: _ :: _ => true
  | _ => false

/-- The options in front of the command, and the arguments from the command on. -/
def readGlobals (o : Options) : List Text → Option (Options × List Text)
  | [] => some (o, [])
  | [t] =>
    if t = "--".toList then some (o, [])
    else if !isOption t then some (o, [t])
    else
      match o.readArgument t with
      | .set o => some (o, [])
      | _ => none
  | t :: v :: rest =>
    if t = "--".toList then some (o, v :: rest)
    else if !isOption t then some (o, t :: v :: rest)
    else
      match o.readArgument t with
      | .set o => readGlobals o (v :: rest)
      | .awaits o => readGlobals (o.withValue v) rest
      | .refused => none

def readOperands : List Text → Option (Bool × List Text)
  | [] => some (false, [])
  | t :: rest =>
    if t = "--".toList then some (false, rest)
    else if t = "--help".toList then (readOperands rest).map fun (_, names) => (true, names)
    else if isOption t then none
    else (readOperands rest).map fun (help, names) => (help, t :: names)

def readTask (command : Text) (args : List Text) : Task :=
  match readOperands args with
  | none => .refused
  | some (help, names) =>
    if !isCommand command then .refused
    else if help then .help
    else if command = runFiles then
      if names.isEmpty then .refused else .scripts names
    else if names.isEmpty then .repl
    else .refused

/-- The command that a list of arguments in final order gives. Options that cannot be read give none; any
other fault shows in the task. -/
def readCommand (args : List Text) : Option Command :=
  match readGlobals noOptions args with
  | none => none
  | some (o, rest) =>
    if o.help then some ⟨noOptions, .help⟩
    else
      match rest with
      | [] => some ⟨o, .nothing⟩
      | command :: operands => some ⟨o, readTask command operands⟩

end DeskScript.Console
