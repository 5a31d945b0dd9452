import DeskScript.Script.Block
import DeskScript.Script.Expression
import DeskScript.Script.Header

namespace DeskScript

def declarationWord : Text := "local ".toList

def definitionWord : Text := "export function ".toList

def logMark : Text := "sys.log(".toList

def returnWord : Text := "return ".toList

structure Declaration where
  name : Text
  value : Expression
  taken : Nat
deriving DecidableEq

/-- A brace in the expression makes it a block, from the first brace of the line on. -/
def Declaration.read (head : Line) (rest : List Line) : Except Fault Declaration := do
  let header ← DeclarationHeader.ofLine head
  if header.expression.elem '{' then
    let block ← Block.require head rest
    return ⟨header.name, .ofBlock (Block.inner block.text), block.taken - 1⟩
  else return ⟨header.name, .ofText (Text.strip header.expression), 0⟩

def logArguments? (line : Text) : Option (List Argument) := (Shape.log? line).map Argument.listOf

/-- A line in the body of a function. -/
inductive Instruction where
  | declare (d : Except Fault Declaration)
  | log (arguments : List Argument)
  | answer (e : Expression)
  | note (name : Text) (arguments : List Text)
  | nothing

namespace Instruction

/-- Such a line calls no function; a call in it is only noted. -/
def ofLine (line : Line) (rest : List Line) : Instruction :=
  let statement := line.stripped
  if statement = ['{'] ∨ statement = ['}'] then nothing
  else if Text.startsWith declarationWord statement then declare (Declaration.read line rest)
  else if Text.contains logMark statement then
    match logArguments? statement with
    | some arguments => log arguments
    | none => nothing
  else
    match Text.afterPrefix? returnWord statement with
    | some expression => answer (.ofText (Text.strip expression))
    | none =>
      match Shape.bareCall? statement with
      | some (name, arguments) => note name (Text.pieces arguments)
      | none => nothing

/-- The lines that a declaration spans are read for themselves as well. -/
def ofLines : List Line → List (Thunk Instruction)
  | [] => []
  | line :: rest => ⟨fun _ => ofLine line rest⟩ :: ofLines rest

def bodyLines (body : Text) : List Line :=
  ((Text.splitOn '\n' (Block.inner body)).filter fun l => !Text.isBlankLine l).map .unnumbered

end Instruction

/-- A function that a script has exported. The body is the text of its block. -/
structure Function where
  parameters : List Text
  body : Text
  instructions : List (Thunk Instruction)
  instructions_eq : instructions = Instruction.ofLines (Instruction.bodyLines body)

def Function.ofBody (parameters : List Text) (body : Text) : Function :=
  ⟨parameters, body, Instruction.ofLines (Instruction.bodyLines body), rfl⟩

end DeskScript
