import DeskScript.Script.Execution

namespace DeskScript

namespace Session

def callsFunction (s : Session) (line : Text) : Bool :=
  match Shape.calledName? line with
  | some name => (s.functions.get? name).isSome
  | none => false

/-- A value that a body returns only shows in the transcript. If it cannot be shown, what its evaluation has
done to the desktop stays done. -/
def answer (s : Session) (e : Expression) : Except (Failure Session) Session := do
  let (v, s) ← s.value e
  let shown ← reading s (s.desktop.renderCompact (.value v))
  return s.emit ("Return: ".toList ++ shown)

/-- A call inside a body is not carried out; it only shows in the transcript. -/
def noteCall (s : Session) (name : Text) (arguments : List Text) : Except (Failure Session) Session := do
  let shown ← reading s (s.desktop.renderList (arguments.map s.lookupOrText))
  return s.emit ("Called ".toList ++ name ++ " with: ".toList ++ shown)

/-- The lines of a body have no numbers. -/
def follow (s : Session) : Instruction → Except (Failure Session) Session
  | .declare (.error fault) => .error ⟨.malformed fault ⟨s.file, none⟩, s⟩
  | .declare (.ok d) => s.assign d.name d.value
  | .log arguments => s.log arguments
  | .answer e => s.answer e
  | .note name arguments => s.noteCall name arguments
  | .nothing => .ok s

def followAll (s : Session) : List (Thunk Instruction) → Except (Failure Session) Session
  | [] => .ok s
  | i :: is =>
    match s.follow i.get with
    | .error failure => .error failure
    | .ok s => followAll s is

/-- Runs the body of the function that a line calls, on the variables of the caller and without its arguments. A line
that calls none does nothing. -/
def invoke (s : Session) (line : Text) : Except (Failure Session) Session :=
  match (Shape.invokedName? line).bind s.functions.get? with
  | none => .ok s
  | some f => s.followAll f.instructions

end Session

end DeskScript
