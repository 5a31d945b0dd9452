import DeskScript.Desktop.Resolution
import DeskScript.Script.Session
import DeskScript.Text.Digit

namespace DeskScript

namespace Session

/-- A name stands for the value of its variable, or else for itself. -/
def argumentValue (s : Session) : Argument → Value
  | .text t => .text t
  | .name t => s.lookupOrText t

def evaluateWindow (s : Session) (pattern : Text) : Except ScriptError Value :=
  match Desktop.resolve s.desktop.windows pattern with
  | .error e => .error e
  | .ok none => .error (.unknownWindow pattern)
  | .ok (some n) => .ok (.window n)

/-- Actions of what is no window give null; only asking it for information is an error. -/
def evaluate (s : Session) : Expression → Except (Failure Desktop) (Value × Desktop)
  | .null => .ok (.null, s.desktop)
  | .text t => .ok (.text t, s.desktop)
  | .word t => .ok ((s.bindings.get? t).getD (.text t), s.desktop)
  | .window pattern => (reading s.desktop (s.evaluateWindow pattern)).map fun v => (v, s.desktop)
  | .action name a arguments =>
    match s.window? name with
    | none => .ok (.null, s.desktop)
    | some n => s.desktop.perform n a (arguments.map s.argumentValue)
  | .info name argument =>
    match s.window? name with
    | none => .error ⟨.notAWindow name, s.desktop⟩
    | some n => s.desktop.perform n .info [(argument.map s.lookup).getD .null]

def value (s : Session) (e : Expression) : Except (Failure Session) (Value × Session) :=
  match s.evaluate e with
  | .error failure => .error ⟨failure.error, { s with desktop := failure.reached }⟩
  | .ok (v, d) => .ok (v, { s with desktop := d })

/-- The whole number that a text of digits is. Digits without a place value make none, and no more than
4300 in a row are read. -/
def indexOf (segment : Text) : Except ScriptError Nat :=
  let decimals := segment.takeWhile fun c => (Text.decimal? c).isSome
  if Text.maxDigits < decimals.length then .error (.longIndex decimals.length)
  else if decimals.length < segment.length then .error (.badIndex segment)
  else .ok (segment.foldl (fun n c => 10 * n + (Text.decimal? c).getD 0) 0)

/-- One segment further. What has no such part leads to null. -/
def descend (d : Desktop) (t : Target) (segment : Text) : Except ScriptError Target :=
  match t with
  | .value (.table ref) => .ok (.value (((d.fieldsOf ref).get? (.text segment)).getD .null))
  | .value (.plain (.object members)) =>
    .ok (.value (.plain ((members.lookup segment).getD .null)))
  | .value (.plain (.array items)) =>
    if Text.isDigits segment then
      (indexOf segment).map fun i => .value (.plain (items[i]?.getD .null))
    else .ok .null
  | .value (.window n) => .ok (d.member n segment)
  | _ => .ok .null

def descendAll (d : Desktop) : Target → List Text → Except ScriptError Target
  | t, [] => .ok t
  | t, segment :: segments =>
    match descend d t segment with
    | .error e => .error e
    | .ok t => descendAll d t segments

/-- The path of a variable's name and segments with dots between them. -/
def resolvePath (s : Session) (path : Text) : Except ScriptError Target :=
  match Text.splitOn '.' path with
  | [] => .ok .null
  | name :: segments => descendAll s.desktop (.value (s.lookup name)) segments

end Session

end DeskScript
