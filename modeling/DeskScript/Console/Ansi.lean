import DeskScript.Text.Basic

namespace DeskScript.Ansi

def grey : Text := "\x1b[90m".toList

def bright : Text := "\x1b[97m".toList

def cyan : Text := "\x1b[36m".toList

def yellow : Text := "\x1b[33m".toList

def bold : Text := "\x1b[1;97m".toList

def backdrop : Text := "\x1b[48;5;30m".toList

def reset : Text := "\x1b[0m".toList

def wrap (colour t : Text) : Text := colour ++ t ++ reset

def isParameter (c : Char) : Bool := c.isDigit || c = ';'

/-- The length of the colour code at the front: an escape, a bracket, digits and semicolons, and an `m`. -/
def codeLength? (t : Text) : Option Nat :=
  match t with
  | '\x1b' :: '[' :: r =>
    match r.dropWhile isParameter with
    | 'm' :: _ => some ((r.takeWhile isParameter).length + 3)
    | _ => none
  | _ => none

/-- The text without its codes, the first `inCode` characters being the rest of one. -/
def stripFrom : (inCode : Nat) → Text → Text
  | _, [] => []
  | n + 1, _ :: t => stripFrom n t
  | 0, c :: t =>
    match codeLength? (c :: t) with
    | some n => stripFrom (n - 1) t
    | none => c :: stripFrom 0 t

/-- Takes out the codes in one pass; a code that only then comes together stays. -/
def strip (t : Text) : Text := stripFrom 0 t

end DeskScript.Ansi
