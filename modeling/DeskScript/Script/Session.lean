import DeskScript.Desktop.Rendering
import DeskScript.Script.Statement

namespace DeskScript

/-- The state of a running script. Its variables and functions end with it, the desktop stays. -/
structure Session where
  desktop : Desktop
  bindings : Table Text Value
  functions : Table Text Function
  transcript : Journal Text
  file : Option Text

namespace Session

def start (d : Desktop) (file : Option Text) : Session := ⟨d, .empty, .empty, .empty, file⟩

def lookup (s : Session) (name : Text) : Value := (s.bindings.get? name).getD .null

def lookupOrText (s : Session) (name : Text) : Value :=
  let v := s.lookup name
  if v.isEmpty then .text name else v

def window? (s : Session) (name : Text) : Option Nat :=
  match s.lookup name with
  | .window n => some n
  | _ => none

def bind (s : Session) (name : Text) (v : Value) : Session :=
  { s with bindings := s.bindings.put name v }

def emit (s : Session) (line : Text) : Session := { s with transcript := s.transcript.push line }

section

variable (s : Session) (name line : Text) (v : Value)

@[simp] theorem bind_desktop : (s.bind name v).desktop = s.desktop := rfl

@[simp] theorem bind_functions : (s.bind name v).functions = s.functions := rfl

@[simp] theorem bind_transcript : (s.bind name v).transcript = s.transcript := rfl

@[simp] theorem bind_file : (s.bind name v).file = s.file := rfl

@[simp] theorem emit_desktop : (s.emit line).desktop = s.desktop := rfl

@[simp] theorem emit_bindings : (s.emit line).bindings = s.bindings := rfl

@[simp] theorem emit_functions : (s.emit line).functions = s.functions := rfl

@[simp] theorem emit_file : (s.emit line).file = s.file := rfl

/-- The line goes behind all others. -/
@[simp] theorem toList_emit : (s.emit line).transcript.toList = s.transcript.toList ++ [line] := Journal.toList_push ..

end

end Session

end DeskScript
