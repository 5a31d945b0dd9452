import DeskScript.Console.Excerpt
import DeskScript.Error

namespace DeskScript.Console

inductive Stream where
  | output
  | errors
deriving DecidableEq

structure Print where
  stream : Stream
  text : Text
deriving DecidableEq

def Print.plain (p : Print) : Print := ⟨.output, Ansi.strip p.text⟩

structure ErrorReport where
  banner : Text
  sentence : Text
  details : Text

def quotedIn (colour t : Text) : Text := '`' :: Ansi.wrap colour t ++ ['`']

def onOneLine (t : Text) : Text := t.map fun c => if c = '\n' ∨ c = '\t' then ' ' else c

/-- The excerpt that shows a place, if its line is known. -/
def excerptAt (file source : Text) (e : ScriptError) (place : DeskScript.Place) : Text :=
  match place.line with
  | some n => Excerpt.write file n e.token? source
  | none => []

/-- Stands for the calls that led to an error. -/
def callTrace : Text := "<traceback>\n".toList

def ErrorReport.of (file source : Text) (e : ScriptError) : ErrorReport :=
  let inFile := " from ".toList ++ quotedIn Ansi.bright file
  match e.place? with
  | some place =>
    { banner := "SYNTAX ERROR.".toList
      sentence := "Parsing ".toList ++ quotedIn Ansi.bright file ++ " caused a problem!".toList
      details := excerptAt file source e place ++ '\n' :: Ansi.wrap Ansi.grey (onOneLine e.message) ++ ['\n'] }
  | none =>
    match e with
    | .unknownWindow pattern =>
      { banner := "NAME ERROR.".toList
        sentence := "Window ".toList ++ quotedIn Ansi.bold pattern ++ inFile ++
          " was not found in registry!".toList
        details := [] }
    | .notAWindow name =>
      { banner := "TYPE ERROR.".toList
        sentence := "Name ".toList ++ quotedIn Ansi.bold name ++ inFile ++ " is not a window object!".toList
        details := [] }
    | .notWritable id =>
      { banner := "TYPE ERROR.".toList
        sentence := "Name ".toList ++ quotedIn Ansi.bold id ++ inFile ++ " is not a window object!".toList
        details := [] }
    | e =>
      { banner := "RUNTIME ERROR.".toList
        sentence := "Executing ".toList ++ quotedIn Ansi.bright file ++ " caused an error!".toList
        details := callTrace ++ e.className ++ ": ".toList ++ e.message ++ ['\n'] }

def reportText (file source : Text) (e : ScriptError) : Text :=
  let r := ErrorReport.of file source e
  "\x1b[30;43m ".toList ++ r.banner ++ " \x1b[0m ".toList ++ r.sentence ++ " (Exception: ".toList ++
    Ansi.wrap Ansi.yellow e.className ++ ")\n".toList ++ r.details ++ ['\n']

end DeskScript.Console
