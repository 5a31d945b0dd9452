import DeskScript.Text.Numeral
import DeskScript.Text.Quoted

namespace DeskScript

inductive HeaderKind where
  | declaration
  | function
deriving DecidableEq

structure Place where
  file : Option Text
  line : Option Nat
deriving DecidableEq

inductive Fault where
  | badHeader (kind : HeaderKind) (text : Text) (column : Nat)
  | unterminatedBlock (head : Text)
deriving DecidableEq

inductive ScriptError where
  | malformed (fault : Fault) (place : Place)
  | unknownWindow (pattern : Text)
  | notAWindow (name : Text)
  | notWritable (id : Text)
  | badIndex (segment : Text)
  | longIndex (digits : Nat)
  | longNumber
  | circular
  | titleNotText (kind : Text)
  | libraryNotTable (kind : Text)
deriving DecidableEq

def HeaderKind.title : HeaderKind → Text
  | declaration => "local declaration".toList
  | function => "export function".toList

def lacks (kind name : Text) : Text :=
  '\'' :: kind ++ "' object has no attribute '".toList ++ name ++ ['\'']

namespace Fault

def message : Fault → Text
  | badHeader kind text _ => "Invalid ".toList ++ kind.title ++ ": ".toList ++ text
  | unterminatedBlock head => "Unterminated block starting at: ".toList ++ head

def className : Fault → Text
  | badHeader .. => "FluxoParseError".toList
  | unterminatedBlock _ => "FluxoIncompleteParse".toList

def token : Fault → Text
  | badHeader _ text _ => text
  | unterminatedBlock _ => ['{']

def column? : Fault → Option Nat
  | badHeader _ _ column => some column
  | unterminatedBlock _ => none

end Fault

namespace ScriptError

def message : ScriptError → Text
  | malformed fault _ => fault.message
  | unknownWindow pattern => "Window ".toList ++ pattern ++ " not found".toList
  | notAWindow name => name ++ " is not a valid window object".toList
  | notWritable id => "window ".toList ++ id ++ " data is not writable".toList
  | badIndex segment =>
    "invalid literal for int() with base 10: ".toList ++ (Text.quoted segment).take 200
  | longIndex digits => Text.tooLongMessage digits
  | longNumber => Text.tooLongToWrite
  | circular => "Circular reference detected".toList
  | titleNotText kind => lacks kind "lower".toList
  | libraryNotTable kind => lacks kind "get".toList

def className : ScriptError → Text
  | malformed fault _ => fault.className
  | unknownWindow _ => "FluxoNameError".toList
  | notAWindow _ => "FluxoTypeError".toList
  | notWritable _ => "FluxoTypeError".toList
  | badIndex _ => "ValueError".toList
  | longIndex _ => "ValueError".toList
  | longNumber => "ValueError".toList
  | circular => "ValueError".toList
  | titleNotText _ => "AttributeError".toList
  | libraryNotTable _ => "AttributeError".toList

def place? : ScriptError → Option Place
  | malformed _ place => some place
  | _ => none

def token? : ScriptError → Option Text
  | malformed fault _ => some fault.token
  | unknownWindow pattern => some pattern
  | notAWindow name => some name
  | notWritable id => some id
  | _ => none

def column? : ScriptError → Option Nat
  | malformed fault _ => fault.column?
  | _ => none

end ScriptError

/-- An error, and the state as it was when the error came up. -/
structure Failure (σ : Type) where
  error : ScriptError
  reached : σ

/-- A step that only looks at the state, so that a failure leaves it as it was. -/
def reading {σ α : Type} (s : σ) (x : Except ScriptError α) : Except (Failure σ) α := x.mapError fun e => ⟨e, s⟩

@[simp] theorem reading_ok {σ α : Type} (s : σ) (a : α) : reading s (.ok a) = .ok a := rfl

@[simp] theorem reading_error {σ α : Type} (s : σ) (e : ScriptError) :
    reading s (.error e : Except ScriptError α) = .error ⟨e, s⟩ := rfl

@[simp] theorem reading_eq_ok_iff {σ α : Type} (s : σ) (x : Except ScriptError α) (a : α) :
    reading s x = .ok a ↔ x = .ok a := by
  cases x <;> simp

@[simp] theorem reading_eq_error_iff {σ α : Type} (s : σ) (x : Except ScriptError α) (failure : Failure σ) :
    reading s x = .error failure ↔ ∃ e, x = .error e ∧ ⟨e, s⟩ = failure := by
  cases x <;> simp

end DeskScript
