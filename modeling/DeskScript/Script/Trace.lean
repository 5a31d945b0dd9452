import DeskScript.Script.Run

namespace DeskScript

/-- Level 1 shows the notable statements and level 2 all of them; no other level shows any. -/
def Dispatch.shownAt (level : Nat) (d : Dispatch) : Bool :=
  level == 2 || (level == 1 && d.before.isNotable d.line.stripped)

/-- The text in `width` columns. A longer one loses its end to a mark; widths below 2 count from its end. -/
def Text.fit (width : Nat) (t : Text) : Text :=
  if t.length ≤ width then t
  else (if 2 ≤ width then t.take (width - 2) else t.take (t.length - (2 - width))) ++ " …".toList

namespace Dispatch

/-- The statement as a line of the trace, in columns of the given width. -/
def writeIn (width : Nat) (d : Dispatch) : Text :=
  "\x1b[90m".toList ++ Text.padLeft 3 (Text.ofNat d.step) ++ " :\x1b[0m  ".toList ++
    Text.padRight width (Text.fit width d.line.stripped) ++ " \x1b[36m <=> \x1b[0m ".toList ++
    Text.ofNat d.before.transcript.size ++ ['\n']

def write (d : Dispatch) : Text := d.writeIn 72

end Dispatch

namespace Run

def trace (r : Run) (level : Nat) : Text :=
  (r.dispatched.filter (Dispatch.shownAt level)).flatMap Dispatch.write

end Run

end DeskScript
