import DeskScript.Error
import DeskScript.Text.Blank

namespace DeskScript

/-- A line as written, with its number counted from 1 if it has one. -/
structure Line where
  text : Text
  number : Option Nat
deriving DecidableEq

namespace Line

def unnumbered (t : Text) : Line := ⟨t, none⟩

def stripped (l : Line) : Text := Text.strip l.text

/-- The error that a fault is in the statement that begins on the line. -/
def locate {α : Type} (l : Line) (file : Option Text) (x : Except Fault α) : Except ScriptError α :=
  x.mapError fun fault => .malformed fault ⟨file, l.number⟩

/-- Blank lines and comments say nothing. -/
def isSilent (t : Text) : Bool :=
  let s := Text.strip t
  s.isEmpty || Text.startsWith "//".toList s

/-- The lines of a source that are neither blank nor a comment, as they are written. -/
def ofSource (source : Text) : List Line :=
  ((Text.splitOn '\n' source).zipIdx 1).filterMap fun (t, n) =>
    if isSilent t then none else some ⟨t, some n⟩

end Line

end DeskScript
