import DeskScript.Text.Blank
import DeskScript.Text.Word

namespace DeskScript

namespace Text

def isQuoted (t : Text) : Bool := startsWith ['"'] t || startsWith ['\''] t

def unquote (t : Text) : Text := t.filter fun c => c ≠ '"' && c ≠ '\''

def upToClose? (t : Text) : Option (Text × Text) :=
  match t.dropWhile (· ≠ ')') with
  | [] => none
  | _ :: rest => some (t.takeWhile (· ≠ ')'), rest)

def nonempty? (t : Text) : Option Text := if t.isEmpty then none else some t

/-- The pieces between commas, each without the white space around it. -/
def pieces (t : Text) : List Text := (splitOn ',' t).map strip

end Text

namespace Shape

open Text

/-- `name.group:action(arguments)` -/
structure Call where
  name : Text
  group : Text
  action : Text
  arguments : Text
deriving DecidableEq

def enclosedHere? (opening : String) (t : Text) : Option Text := do
  let t ← afterPrefix? opening.toList t
  let (inside, _) ← upToClose? t
  return inside

def windowPattern? (t : Text) : Option Text :=
  firstMatch (fun t => (enclosedHere? "window_Id(" t).bind nonempty?) t

def infoArgument? (t : Text) : Option Text := firstMatch (enclosedHere? "info:(") t

/-- A call whose name is the word in front of `t`. -/
def callAfter? (name t : Text) : Option Call := do
  let t ← afterPrefix? ['.'] t
  let (group, t) ← takeWord? t
  let t ← afterPrefix? [':'] t
  let (action, t) ← takeWord? t
  let t ← afterPrefix? ['('] t
  let (arguments, _) ← upToClose? t
  return ⟨name, group, action, arguments⟩

def call? (t : Text) : Option Call := firstWord callAfter? false t

/-- A call of `find` with something in its parentheses: the name before it and the argument. -/
def findAfter? (name t : Text) : Option (Text × Text) := do
  let call ← callAfter? name t
  if call.action = "find".toList then
    let argument ← nonempty? call.arguments
    return (call.name, argument)
  else none

def find? (t : Text) : Option (Text × Text) := firstWord findAfter? false t

/-- What follows an opening parenthesis, with white space allowed before it. -/
def afterOpening? (t : Text) : Option Text := afterPrefix? ['('] (trimStart t)

/-- `sys.log(arguments)`, with white space allowed before the parenthesis. -/
def logHere? (t : Text) : Option Text := do
  let t ← afterPrefix? "sys.log".toList t
  let t ← afterOpening? t
  let (arguments, _) ← upToClose? t
  nonempty? arguments

def log? (t : Text) : Option Text := firstMatch logHere? t

/-- The first name that is called. -/
def calledName? (t : Text) : Option Text :=
  firstWord (fun name t => (afterOpening? t).map fun _ => name) false t

/-- Whether a closing parenthesis comes before the line ends. -/
def closesOnLine (t : Text) : Bool := (t.dropWhile fun c => c ≠ ')' && c ≠ '\n').head? == some ')'

/-- A name that is called with a closing parenthesis after it on the same line. -/
def invokedAfter? (name t : Text) : Option Text := do
  let t ← afterOpening? t
  if closesOnLine t then return name else none

def invokedName? (t : Text) : Option Text := firstWord invokedAfter? false t

/-- A call at the very front: its name and its arguments. -/
def bareCall? (t : Text) : Option (Text × Text) := do
  let (name, t) ← takeWord? t
  let t ← afterOpening? t
  let (arguments, _) ← upToClose? t
  return (name, arguments)

end Shape

end DeskScript
