import DeskScript.Console.Ansi
import DeskScript.Text.Lines
import DeskScript.Text.Numeral

namespace DeskScript

namespace Excerpt

/-- The text with a token in it highlighted, at its first place. -/
def highlight (token content : Text) : Text :=
  match token, Text.cutAt? token content with
  | _ :: _, some (before, after) => before ++ Ansi.backdrop ++ Ansi.bold ++ token ++ Ansi.reset ++ after
  | _, _ => content

def withoutLineFeed (t : Text) : Text := (t.reverse.dropWhile (· = '\n')).reverse

def row (line : Int) (token : Option Text) (n : Nat) (displayed : Text) : Text :=
  let content := withoutLineFeed displayed
  let (colour, content) :=
    if (n : Int) = line then (Ansi.bright, highlight (token.getD []) content) else (Ansi.grey, content)
  colour ++ Text.padLeft 5 (Text.ofNat n) ++ " |".toList ++ Ansi.reset ++ [' '] ++ content

def window (line : Int) (source : Text) : List (Text × Nat) :=
  ((Text.displayLines source).zipIdx 1).filter fun (_, n) => line - 2 ≤ n && n ≤ line + 2

def header (file : Text) (line : Int) : Text :=
  Ansi.wrap Ansi.bright ("  File \"".toList ++ file ++ "\", line ".toList ++ Text.ofInt line)

def write (file : Text) (line : Int) (token : Option Text) (source : Text) : Text :=
  let rows := (window line source).map fun (displayed, n) => row line token n displayed
  '\n' :: Text.joinWith ['\n'] (header file line :: rows) ++ ['\n']

end Excerpt

end DeskScript
