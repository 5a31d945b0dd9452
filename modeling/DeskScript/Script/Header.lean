import DeskScript.Script.Line
import DeskScript.Text.Word

namespace DeskScript

/-- A place in a text: what is left of it, the column of the next character, and the column at which the
token before began. -/
structure Cursor where
  rest : Text
  column : Nat
  last : Nat

namespace Cursor

def start (t : Text) : Cursor := ⟨t, 1, 1⟩

def isGap (c : Char) : Bool := c = ' ' || c = '\t'

def skipGap (c : Cursor) : Cursor :=
  { c with rest := c.rest.dropWhile isGap, column := c.column + (c.rest.takeWhile isGap).length }

/-- The column after a token. A line feed in it begins a new count. -/
def columnAfter (column : Nat) (token : Text) : Nat :=
  match Text.beforeLast? '\n' token with
  | none => column + token.length
  | some before => token.length - before.length

def advance (c : Cursor) (token rest : Text) : Cursor := ⟨rest, columnAfter c.column token, c.column⟩

/-- The column of what fits nothing, or that of the last token if the text ends too early. -/
def failure (c : Cursor) : Nat := if c.rest.isEmpty then c.last else c.column

/-- A token that `take` splits off behind the gap. -/
def token (take : Text → Option (Text × Text)) (c : Cursor) : Except Nat (Text × Cursor) :=
  let c := c.skipGap
  match take c.rest with
  | some (t, rest) => .ok (t, c.advance t rest)
  | none => .error c.failure

def takeMark (mark : Text) (t : Text) : Option (Text × Text) :=
  (Text.afterPrefix? mark t).map fun rest => (mark, rest)

def mark (m : String) (c : Cursor) : Except Nat Cursor := (c.token (takeMark m.toList)).map Prod.snd

def word (c : Cursor) : Except Nat (Text × Cursor) := c.token Text.takeWord?

def takeRemainder : Text → Option (Text × Text)
  | [] => none
  | c :: t =>
    if Text.isBlank c then none
    else some (c :: t.takeWhile (· ≠ '\n'), t.dropWhile (· ≠ '\n'))

def takeParameters : Text → Option (Text × Text)
  | [] => none
  | c :: t =>
    if Text.isBlank c || c = ')' then none
    else some (c :: t.takeWhile (· ≠ ')'), t.dropWhile (· ≠ ')'))

/-- `take` where it fits, else nothing. -/
def optional (take : Text → Option (Text × Text)) (c : Cursor) : Text × Cursor :=
  match c.token take with
  | .ok found => found
  | .error _ => ([], c)

def finish (c : Cursor) : Except Nat Unit :=
  let c := c.skipGap
  if c.rest.isEmpty then .ok () else .error c.failure

end Cursor

/-- `local name = expression`. -/
structure DeclarationHeader where
  name : Text
  expression : Text
deriving DecidableEq

/-- `export function name(parameters)`. -/
structure FunctionHeader where
  name : Text
  parameters : List Text
deriving DecidableEq

namespace DeclarationHeader

def read (t : Text) : Except Nat DeclarationHeader := do
  let c ← (Cursor.start t).mark "local"
  let (name, c) ← c.word
  let c ← c.mark "="
  let (expression, c) ← c.token Cursor.takeRemainder
  c.finish
  return ⟨name, expression⟩

def ofLine (line : Line) : Except Fault DeclarationHeader :=
  (read line.stripped).mapError (.badHeader .declaration line.stripped)

end DeclarationHeader

namespace FunctionHeader

/-- Parameters are set apart by commas; blank ones count for nothing. -/
def parametersOf (t : Text) : List Text :=
  ((Text.splitOn ',' t).map Text.strip).filter fun p => !p.isEmpty

def read (t : Text) : Except Nat FunctionHeader := do
  let c ← (Cursor.start t).mark "export"
  let c ← c.mark "function"
  let (name, c) ← c.word
  let c ← c.mark "("
  let (parameters, c) := c.optional Cursor.takeParameters
  let c ← c.mark ")"
  let (_, c) := c.optional Cursor.takeRemainder
  c.finish
  return ⟨name, parametersOf parameters⟩

def ofLine (line : Line) : Except Fault FunctionHeader :=
  (read line.stripped).mapError (.badHeader .function line.stripped)

end FunctionHeader

end DeskScript
