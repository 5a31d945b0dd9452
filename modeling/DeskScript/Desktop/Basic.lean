import DeskScript.Error
import DeskScript.Journal
import DeskScript.Window.Basic

namespace DeskScript

structure Desktop where
  windows : List Window
  replies : Journal Fields

namespace Desktop

def ofWindows (windows : List Window) : Desktop := ⟨windows, .empty⟩

def addWindow (d : Desktop) (w : Window) : Desktop := { d with windows := d.windows ++ [w] }

def windowWithId? (d : Desktop) (id : Text) : Option Window := d.windows.find? fun w => w.id == id

def setWindow (d : Desktop) (n : Nat) (w : Window) : Desktop :=
  { d with windows := d.windows.set n w }

/-- A reply gets the next free index, and no index is used twice. -/
def reply (d : Desktop) (fields : Fields) : Value × Desktop :=
  (.table (.reply d.replies.size), { d with replies := d.replies.push fields })

def dataValue (n : Nat) (w : Window) : Value :=
  match w.data with
  | .absent => .null
  | .fixed j => .plain j
  | .live _ => .table (.data n)

def fieldsOf (d : Desktop) : TableRef → Fields
  | .data n =>
    match d.windows[n]? with
    | some w =>
      match w.data with
      | .live fields => fields
      | _ => .empty
    | none => .empty
  | .reply r => (d.replies.get? r).getD .empty

def idOf (d : Desktop) (n : Nat) : Text := (d.windows[n]?.map Window.id).getD []

end Desktop

end DeskScript
