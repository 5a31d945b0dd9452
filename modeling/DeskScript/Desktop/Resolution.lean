import DeskScript.Desktop.Basic
import DeskScript.Text.Basic

namespace DeskScript

/-- Lower case for the letters of ASCII. No other character has one of them as its lower case where that
would complete the product's name. -/
def Text.lower (t : Text) : Text := t.map Char.toLower

namespace Desktop

def productName : Text := "vsstudio".toList

def namesFirst (pattern : Text) : Bool :=
  match Text.afterPrefix? "window-".toList pattern with
  | some rest => rest == "1".toList || rest == "11".toList
  | none => false

/-- Whether a window belongs to the product, by its title or by its type. A title that is no text has no
lower case. -/
def isProduct (w : Window) : Except ScriptError Bool :=
  match w.title with
  | .text t => .ok ((Text.contains productName t.lower) || w.appType.isText productName)
  | other => .error (.titleNotText other.kind)

def findProduct : List Window → Except ScriptError (Option Nat)
  | [] => .ok none
  | w :: ws =>
    match isProduct w with
    | .error e => .error e
    | .ok true => .ok (some 0)
    | .ok false => (findProduct ws).map fun found => found.map (· + 1)

/-- The window that a pattern names: by one of the two fixed names, else by its id, else the first product
window, else the first window of all. Nothing is found only on an empty desktop. -/
def resolve (windows : List Window) (pattern : Text) : Except ScriptError (Option Nat) :=
  let first := if windows.isEmpty then none else some 0
  if namesFirst pattern then .ok first
  else
    match windows.findIdx? fun w => w.id == pattern with
    | some n => .ok (some n)
    | none => (findProduct windows).map fun found => found.or first

end Desktop

end DeskScript
