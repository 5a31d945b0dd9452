import DeskScript.Script.Call

namespace DeskScript

inductive StatementKind where
  | declaration
  | definition
  | log
  | call
  | action
  | other
deriving DecidableEq

/-- A statement with the session that it found: how many statements came before it, and how many lines. -/
structure Dispatch where
  step : Nat
  position : Nat
  line : Line
  before : Session

/-- A run as far as it came: the session it reached, the statements dispatched, and what stopped it. -/
structure Run where
  session : Session
  dispatched : List Dispatch
  error : Option ScriptError

namespace Session

def kindOf (s : Session) (statement : Text) : StatementKind :=
  if Text.startsWith declarationWord statement then .declaration
  else if Text.startsWith definitionWord statement then .definition
  else if Text.contains logMark statement then .log
  else if s.callsFunction statement then .call
  else if (Shape.call? statement).isSome then .action
  else .other

def step (s : Session) (head : Line) (rest : List Line) : Except (Failure Session) (Session × Nat) :=
  let statement := head.stripped
  match s.kindOf statement with
  | .declaration => s.declare head rest
  | .definition => s.define head rest
  | .log => (s.logLine statement).map fun s => (s, 0)
  | .call => (s.invoke statement).map fun s => (s, 0)
  | .action => (s.value (.ofText statement)).map fun (_, s) => (s, 0)
  | .other => .ok (s, 0)

/-- Blocks that open on the statement's line, and calls of functions. -/
def isNotable (s : Session) (statement : Text) : Bool :=
  (Text.startsWith declarationWord statement || Text.startsWith definitionWord statement) &&
    statement.elem '{' || s.callsFunction statement

/-- Runs the lines after the first `taken` ones, which belong to the statement before. -/
def runFrom (s : Session) (step position : Nat) : (taken : Nat) → List Line → Run
  | _, [] => ⟨s, [], none⟩
  | taken + 1, _ :: rest => runFrom s step (position + 1) taken rest
  | 0, head :: rest =>
    match s.step head rest with
    | .error failure => ⟨failure.reached, [⟨step, position, head, s⟩], some failure.error⟩
    | .ok (s', taken) =>
      let run := runFrom s' (step + 1) (position + 1) taken rest
      { run with dispatched := ⟨step, position, head, s⟩ :: run.dispatched }

def run (s : Session) (lines : List Line) : Run := runFrom s 0 0 0 lines

end Session

namespace Run

def statements? (r : Run) : Option Nat := if r.error.isNone then some r.dispatched.length else none

def noOutput : Text := "Script executed successfully (no output)".toList

/-- The transcript as one text, or a sentence if that is empty. -/
def transcriptText (r : Run) : Text :=
  match Text.joinWith ['\n'] r.session.transcript.toList with
  | [] => noOutput
  | t => t

/-- The run told as a text: its error, or else its transcript. -/
def tell (r : Run) : Text :=
  match r.error with
  | some e => "Fluxo Error: ".toList ++ e.message
  | none => r.transcriptText

end Run

namespace Desktop

def run (d : Desktop) (source : Text) (file : Option Text) : Run :=
  (Session.start d file).run (Line.ofSource source)

def execute (d : Desktop) (source : Text) : Text × Desktop :=
  let run := d.run source none
  (run.tell, run.session.desktop)

end Desktop

end DeskScript
