import DeskScript.Text.Basic

namespace DeskScript.Text

/-- Carriage returns, with or without a line feed after them, become line feeds. -/
def unifyNewlines : Text → Text
  | [] => []
  | '\r' :: '\n' :: t => '\n' :: unifyNewlines t
  | '\r' :: t => '\n' :: unifyNewlines t
  | c :: t => c :: unifyNewlines t

def lineBoundaries : Text :=
  ['\n', '\r', '\x0b', '\x0c', '\x1c', '\x1d', '\x1e', '\u0085', '\u2028', '\u2029']

def isLineBoundary (c : Char) : Bool := lineBoundaries.elem c

/-- `c` goes to the front of the first line. -/
def pushFront (c : Char) : List Text → List Text
  | [] => [[c]]
  | line :: lines => (c :: line) :: lines

/-- The lines of a text with their boundaries; a carriage return and a line feed are one boundary. -/
def displayLines : Text → List Text
  | [] => []
  | '\r' :: '\n' :: t => ['\r', '\n'] :: displayLines t
  | c :: t => if isLineBoundary c then [c] :: displayLines t else pushFront c (displayLines t)

theorem flatten_pushFront (c : Char) (lines : List Text) :
    (pushFront c lines).flatten = c :: lines.flatten := by
  cases lines <;> simp [pushFront]

@[simp] theorem flatten_displayLines (t : Text) : (displayLines t).flatten = t := by
  fun_induction displayLines t with
  | case1 => rfl
  | case2 t ih => simp [ih]
  | case3 c t h hc ih => simp [ih]
  | case4 c t h hc ih => simp [flatten_pushFront, ih]

end DeskScript.Text
