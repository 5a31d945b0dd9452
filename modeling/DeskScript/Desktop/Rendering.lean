import DeskScript.Desktop.Action

namespace DeskScript

namespace Json

def scalarText : Json → Text
  | null => "null".toList
  | bool b => writeBool b
  | int n => Text.ofInt n
  | float x => x.toText
  | text t => t
  | j => j.compact

/-- Data in the transcript; containers in the given layout. -/
def inTranscript (layout : Layout) (j : Json) : Text :=
  if j.isContainer then j.write layout else j.scalarText

end Json

namespace Desktop

def isStructural : Target → Bool
  | .value (.plain j) => j.isContainer
  | .value _ => true
  | .handle .. => true
  | .action .. => false

def renderIn (layout : Json.Layout) (d : Desktop) : Target → Except ScriptError Text
  | .value v => (d.json v).map fun j => j.inTranscript layout
  | .handle .. => .ok ((Json.object []).inTranscript layout)
  | .action a _ => .ok ("[Function: ".toList ++ a.name ++ [']'])

def render (d : Desktop) (t : Target) : Except ScriptError Text := renderIn Json.prettyLayout d t

/-- On one line, for returned values and the arguments of calls. -/
def renderCompact (d : Desktop) (t : Target) : Except ScriptError Text :=
  renderIn Json.compactLayout d t

def renderList (d : Desktop) (vs : List Value) : Except ScriptError Text :=
  (vs.mapM d.json).map fun js => (Json.array js).compact

end Desktop

end DeskScript
