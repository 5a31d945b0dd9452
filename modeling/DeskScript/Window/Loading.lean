import DeskScript.Json.Reader
import DeskScript.Window.Members

namespace DeskScript

inductive FileError where
  | unreadable (error : Json.ReadError)
  | badWindow (error : WindowError)
  | notIterable (kind : Text)
deriving DecidableEq

def FileError.message : FileError → Text
  | unreadable e => e.message
  | badWindow e => e.message
  | notIterable kind => '\'' :: kind ++ "' object is not iterable".toList

/-- The windows in data: an array of them, or an object that has one under `windows`. A text counts as an
array of its characters and an object as one of its keys, so that only empty ones give windows. -/
def windowsOf (j : Json) : Except FileError (List Window) :=
  match listed j with
  | .array items => (items.mapM Window.ofJson).mapError .badWindow
  | .text [] => .ok []
  | .text (_ :: _) => .error (.badWindow (.notTable "str".toList))
  | .object [] => .ok []
  | .object (_ :: _) => .error (.badWindow (.notTable "str".toList))
  | other => .error (.notIterable other.kind)
where
  listed : Json → Json
    | .object members => memberOr members "windows" (.array [])
    | j => j

def readWindows (t : Text) : Except FileError (List Window) :=
  match Json.read t with
  | .error e => .error (.unreadable e)
  | .ok j => windowsOf j

end DeskScript
