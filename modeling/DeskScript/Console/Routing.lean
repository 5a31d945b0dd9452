import DeskScript.Text.Basic

namespace DeskScript.Console

def runFiles : Text := "run-file".toList

def runRepl : Text := "run-repl".toList

def isCommand (t : Text) : Bool := t == runFiles || t == runRepl

def takesValue (t : Text) : Bool := t == "--windows".toList || t == "-w".toList

def globalFlags : List Text :=
  ["--ignore".toList, "--stats".toList, "--plain".toList, "--verbose".toList, "-i".toList, "-p".toList]

def isGlobal (t : Text) : Bool :=
  globalFlags.elem t || Text.startsWith "-v".toList t || Text.startsWith "--windows=".toList t

/-- An argument, or an option together with its value. -/
inductive Item where
  | single (t : Text)
  | valued (option value : Text)
deriving DecidableEq

namespace Item

def ofArguments : List Text → List Item
  | [] => []
  | [t] => [single t]
  | t :: v :: rest =>
    if takesValue t then valued t v :: ofArguments rest else single t :: ofArguments (v :: rest)

def toArguments : Item → List Text
  | single t => [t]
  | valued option value => [option, value]

def isGlobal : Item → Bool
  | single t => Console.isGlobal t
  | valued .. => true

@[simp] theorem flatMap_toArguments_ofArguments (args : List Text) :
    (ofArguments args).flatMap toArguments = args := by
  fun_induction ofArguments args with
  | case1 => rfl
  | case2 t => rfl
  | case3 t v rest h ih => simp [toArguments, ih]
  | case4 t v rest h ih => simp [toArguments, ih]

end Item

def chooseCommand (terminal : Bool) (others : List Text) : Text × List Text :=
  match others with
  | [] => if terminal then (runRepl, []) else (runFiles, ["-".toList])
  | t :: rest =>
    if isCommand t then (t, rest)
    else if others.elem "--repl".toList then (runRepl, [])
    else (runFiles, others)

/-- The arguments in their final order; `terminal` tells whether someone is typing. -/
def route (terminal : Bool) (args : List Text) : List Text :=
  let items := Item.ofArguments args
  let globals := (items.filter Item.isGlobal).flatMap Item.toArguments
  let others := (items.filter fun i => !i.isGlobal).flatMap Item.toArguments
  let (command, rest) := chooseCommand terminal others
  globals ++ command :: rest

end DeskScript.Console
