import DeskScript.Binary64.Basic
import DeskScript.Text.Numeral

namespace DeskScript

/-- Data that the host hands over: it never changes, and nothing in it can contain itself. -/
inductive Json where
  | null
  | bool (b : Bool)
  | int (n : Int)
  | float (x : Binary64)
  | text (t : Text)
  | array (items : List Json)
  | object (members : List (Text × Json))
deriving Inhabited

namespace Json

/-- Null, false, zero and everything without content. -/
def isVoid : Json → Bool
  | null => true
  | bool b => !b
  | int n => n == 0
  | float x => x.isZero
  | text t => t.isEmpty
  | array items => items.isEmpty
  | object members => members.isEmpty

def orElse (j fallback : Json) : Json := if j.isVoid then fallback else j

def kind : Json → Text
  | null => "NoneType".toList
  | bool _ => "bool".toList
  | int _ => "int".toList
  | float _ => "float".toList
  | text _ => "str".toList
  | array _ => "list".toList
  | object _ => "dict".toList

def isText (j : Json) (t : Text) : Bool :=
  match j with
  | text u => u == t
  | _ => false

def isContainer : Json → Bool
  | array _ => true
  | object _ => true
  | _ => false

mutual

/-- Whether the data can be put into words, which a number with too many digits cannot. -/
def canWrite : Json → Bool
  | int n => Text.canWrite n
  | array items => canWriteItems items
  | object members => canWriteMembers members
  | _ => true

def canWriteItems : List Json → Bool
  | [] => true
  | j :: js => canWrite j && canWriteItems js

def canWriteMembers : List (Text × Json) → Bool
  | [] => true
  | (_, j) :: ms => canWrite j && canWriteMembers ms

end

@[simp] theorem canWrite_array (items : List Json) : (array items).canWrite = items.all canWrite := by
  rw [canWrite]
  induction items with
  | nil => rfl
  | cons j items ih => rw [canWriteItems, ih, List.all_cons]

@[simp] theorem canWrite_object (members : List (Text × Json)) :
    (object members).canWrite = members.all fun m => m.2.canWrite := by
  rw [canWrite]
  induction members with
  | nil => rfl
  | cons m members ih => rw [canWriteMembers, ih, List.all_cons]

end Json

end DeskScript
