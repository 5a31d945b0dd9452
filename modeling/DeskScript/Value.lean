import DeskScript.Key
import DeskScript.Table

namespace DeskScript

/-- A table that can change or be met again, by its place: the data of the window with that index, or the reply with
that index. -/
inductive TableRef where
  | data (window : Nat)
  | reply (index : Nat)
deriving DecidableEq

inductive Value where
  | plain (j : Json)
  | window (index : Nat)
  | table (ref : TableRef)

abbrev Fields := Table Key Value

namespace Value

def null : Value := plain .null

def text (t : Text) : Value := plain (.text t)

def isEmpty : Value → Bool
  | plain .null => true
  | plain (.text []) => true
  | _ => false

end Value

/-- The members of plain data, as fields of a table that can change. -/
def Fields.ofMembers (members : List (Text × Json)) : Fields :=
  .ofList (members.map fun (k, j) => (.text k, .plain j))

end DeskScript
