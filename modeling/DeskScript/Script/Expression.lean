import DeskScript.Desktop.Action
import DeskScript.Script.Shape

namespace DeskScript

/-- An argument in parentheses: a text that was quoted, or a name. -/
inductive Argument where
  | text (t : Text)
  | name (t : Text)
deriving DecidableEq

namespace Argument

def ofText (t : Text) : Argument := if Text.isQuoted t then text (Text.unquote t) else name t

def listOf (t : Text) : List Argument := (Text.pieces t).map ofText

end Argument

/-- An expression as it was read; `window`, `action` and `info` ask the desktop. -/
inductive Expression where
  | null
  | text (t : Text)
  | word (t : Text)
  | window (pattern : Text)
  | action (name : Text) (a : Action) (arguments : List Argument)
  | info (name : Text) (argument : Option Text)
deriving DecidableEq

namespace Expression

def ofWord (t : Text) : Expression :=
  if Text.isQuoted t then text (Text.unquote t)
  else if t = "null".toList then null
  else word t

/-- A call of anything that windows do not offer gives null. -/
def ofCall (call : Shape.Call) : Expression :=
  match (Desktop.handleNamed? call.group).bind fun h => h.action? call.action with
  | some a => action call.name a (Argument.listOf call.arguments)
  | none => null

/-- What stands in front of the first dot is taken for a name, whatever it is. -/
def ofInfo (t : Text) : Expression :=
  let argument := ((Shape.infoArgument? t).map Text.strip).filter fun a => a ≠ "null".toList
  info (t.takeWhile (· ≠ '.')) argument

def windowPattern? (t : Text) : Option Text :=
  if Text.startsWith "window_Id(".toList t then Shape.windowPattern? t else none

/-- The first shape that fits decides. A text of no shape is a word, which stands for a variable or for itself. -/
def ofText (t : Text) : Expression :=
  match windowPattern? t with
  | some pattern => window (Text.strip (Text.unquote pattern))
  | none =>
    match Shape.call? t with
    | some call => ofCall call
    | none =>
      if Text.contains ".info:(".toList t then ofInfo t
      else if t.elem ':' && t.elem '(' then text t
      else ofWord t

/-- The content of a block. Only looking something up in a library is understood there. -/
def ofBlock (content : Text) : Expression :=
  match Shape.find? content with
  | none => null
  | some (name, argument) => action name .find [.text (Text.strip (Text.unquote argument))]

end Expression

end DeskScript
