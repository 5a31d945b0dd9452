import DeskScript.Script.Evaluation

namespace DeskScript

namespace Session

def assign (s : Session) (name : Text) (e : Expression) : Except (Failure Session) Session := do
  let (v, s) ← s.value e
  return s.bind name v

def declare (s : Session) (head : Line) (rest : List Line) : Except (Failure Session) (Session × Nat) := do
  let d ← reading s (head.locate s.file (Declaration.read head rest))
  let s ← s.assign d.name d.value
  return (s, d.taken)

def define (s : Session) (head : Line) (rest : List Line) : Except (Failure Session) (Session × Nat) := do
  let header ← reading s (head.locate s.file (FunctionHeader.ofLine head))
  let block ← reading s (head.locate s.file (Block.require head rest))
  let functions := s.functions.put header.name (.ofBody header.parameters block.text)
  return ({ s with functions }, block.taken - 1)

/-- What a log shows of one argument: a quoted text, a variable, a path, or the argument as it stands. -/
def logArgument (s : Session) : Argument → Except ScriptError Text
  | .text t => .ok t
  | .name t => do
    let v := s.lookup t
    let target ← if v.isEmpty then s.resolvePath t else .ok (.value v)
    match target with
    | .value (.plain .null) => return Text.unquote t
    | target => s.desktop.render target

def log (s : Session) (arguments : List Argument) : Except (Failure Session) Session := do
  let shown ← reading s (arguments.mapM s.logArgument)
  return s.emit (Text.joinWith [' '] shown)

/-- A line of another shape logs nothing. -/
def logLine (s : Session) (line : Text) : Except (Failure Session) Session :=
  match logArguments? line with
  | none => .ok s
  | some arguments => s.log arguments

end Session

end DeskScript
