import DeskScript.Binary64.Notation
import DeskScript.Json.Label
import DeskScript.Json.Printer

namespace DeskScript

inductive Key where
  | null
  | bool (b : Bool)
  | int (n : Int)
  | float (x : Binary64)
  | text (t : Text)

namespace Key

/-- What two keys have in common if they are one key: keys that are equal as numbers are, the truth values counting as
one and zero, but a number and its text are not. -/
inductive Form where
  | null
  | whole (n : Int)
  | float (x : Binary64)
  | text (t : Text)
deriving DecidableEq

namespace Form

def signOf (negative : Bool) : Int := if negative then 1 else 0

theorem signOf_inj (a b : Bool) : signOf a = signOf b ↔ a = b := by
  cases a <;> cases b <;> simp [signOf]

def numbers : Form → List Int
  | null => [0]
  | whole n => [1, n]
  | float .nan => [2]
  | float (.infinite negative) => [3, signOf negative]
  | float (.finite negative mantissa exponent _) => [4, signOf negative, mantissa, exponent]
  | text _ => [5]

def words : Form → Text
  | text t => t
  | _ => []

theorem eq_of_numbers_of_words {f g : Form} (hn : f.numbers = g.numbers) (hw : f.words = g.words) :
    f = g := by
  cases f with
  | float x =>
    cases g with
    | float y => cases x <;> cases y <;> grind [numbers, signOf_inj]
    | _ => cases x <;> simp [numbers] at hn
  | _ =>
    cases g with
    | float y => cases y <;> simp [numbers] at hn
    | _ => simp_all [numbers, words]

end Form

def form : Key → Form
  | null => .null
  | bool b => .whole (if b then 1 else 0)
  | int n => .whole n
  | float x =>
    match x.toInt? with
    | some n => .whole n
    | none => .float x
  | text t => .text t

instance : Ord Key := ⟨compareLex (compareOn fun k => k.form.numbers) (compareOn fun k => k.form.words)⟩

instance : Std.TransOrd Key :=
  inferInstanceAs (Std.TransCmp (compareLex (compareOn _) (compareOn _)))

theorem compare_eq_iff (k l : Key) : compare k l = .eq ↔ k.form = l.form := by
  change compareLex (compareOn _) (compareOn _) k l = .eq ↔ _
  simp only [compareLex, compareOn, Ordering.then_eq_eq, Std.compare_eq_iff_eq]
  exact ⟨fun h => Form.eq_of_numbers_of_words h.1 h.2, fun h => h ▸ ⟨rfl, rfl⟩⟩

def toJson : Key → Json
  | null => .null
  | bool b => .bool b
  | int n => .int n
  | float x => .float x
  | text t => .text t

def memberName : Key → Text
  | null => "null".toList
  | bool b => Json.writeBool b
  | int n => Text.ofInt n
  | float x => Json.writeFloat x
  | text t => t

def canWrite : Key → Bool
  | int n => Text.canWrite n
  | _ => true

def labelBefore (k : Key) (rest : Text) : Text := k.toJson.labelBefore rest

end Key

end DeskScript
