import DeskScript.Script.Trace

namespace DeskScript

/-- Statistics that a host keeps: the number of statements, from the first run on. -/
structure Statistics where
  statements : Option Int
deriving DecidableEq

def Statistics.count (s : Statistics) (n : Nat) : Statistics := ⟨some (s.statements.getD 0 + n)⟩

@[simp] theorem Statistics.statements_count (s : Statistics) (n : Nat) :
    (s.count n).statements = some (s.statements.getD 0 + n) := rfl

/-- What a host asks for beside the run itself; debugging is asked for by any text but the empty one. -/
structure Watch where
  verbosity : Nat
  debug : Option Text
  statistics : Option Statistics

/-- Debugging shows all statements, whatever the verbosity. -/
def Watch.level (w : Watch) : Nat := if w.debug.any fun t => !t.isEmpty then 2 else w.verbosity

/-- A run as far as it came, with the lines of its trace and the number of its statements. -/
structure WatchedRun where
  session : Session
  error : Option ScriptError
  shown : List Text
  steps : Nat

namespace Session

/-- Runs the lines after the first `taken` ones, and shows what the level asks for. -/
def watchFrom (level : Nat) (s : Session) (step position : Nat) : (taken : Nat) → List Line → WatchedRun
  | _, [] => ⟨s, none, [], step⟩
  | taken + 1, _ :: rest => watchFrom level s step (position + 1) taken rest
  | 0, head :: rest =>
    let dispatch : Dispatch := ⟨step, position, head, s⟩
    let shown := if dispatch.shownAt level then [dispatch.write] else []
    match s.step head rest with
    | .error failure => ⟨failure.reached, some failure.error, shown, step + 1⟩
    | .ok (s', taken) =>
      let run := watchFrom level s' (step + 1) (position + 1) taken rest
      { run with shown := shown ++ run.shown }

/-- A run with its trace, and the statistics after it: those of failed runs are not counted. -/
def watch (s : Session) (level : Nat) (statistics : Option Statistics) (lines : List Line) :
    WatchedRun × Option Statistics :=
  let run := s.watchFrom level 0 0 0 lines
  (run, if run.error.isSome then statistics else statistics.map fun x => x.count run.steps)

end Session

def Desktop.watch (d : Desktop) (w : Watch) (source : Text) (file : Option Text) :
    WatchedRun × Option Statistics :=
  (Session.start d file).watch w.level w.statistics (Line.ofSource source)

end DeskScript
