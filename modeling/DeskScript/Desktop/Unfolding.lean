import DeskScript.Desktop.Basic

namespace DeskScript

/-- `loop n` stands for the table `n` levels up; 1 is the table it directly sits in. -/
inductive Tree where
  | plain (j : Json)
  | window (index : Nat)
  | table (entries : List (Key × Tree))
  | loop (levels : Nat)

namespace Desktop

/-- The tree of a value below the tables in `opened`, the innermost first. -/
def unfoldWithin (d : Desktop) : (fuel : Nat) → (opened : List TableRef) → Value → Tree
  | _, _, .plain j => .plain j
  | _, _, .window n => .window n
  | 0, opened, .table _ => .loop opened.length
  | fuel + 1, opened, .table ref =>
    match opened.idxOf? ref with
    | some i => .loop (i + 1)
    | none => .table ((d.fieldsOf ref).toList.map fun e => (e.1, unfoldWithin d fuel (ref :: opened) e.2))

/-- There are no more tables than windows and replies, so no branch opens more of them. -/
def tableCount (d : Desktop) : Nat := d.windows.length + d.replies.size

def unfold (d : Desktop) (v : Value) : Tree := d.unfoldWithin (d.tableCount + 1) [] v

def windowLabel (d : Desktop) (n : Nat) : Text :=
  "<WindowObject ".toList ++ (d.idOf n).quoted ++ ['>']

def loopLabel : Text := "\x7b...\x7d".toList

/-- The label of a value inside a larger one, below the tables in `opened`, with `rest` behind it. A table
inside itself has a label, but no data. -/
def labelWithin (d : Desktop) : (fuel : Nat) → (opened : List TableRef) → Text → Value → Text
  | _, _, rest, .plain j => j.labelBefore rest
  | _, _, rest, .window n => d.windowLabel n ++ rest
  | 0, _, rest, .table _ => loopLabel ++ rest
  | fuel + 1, opened, rest, .table ref =>
    if opened.elem ref then loopLabel ++ rest
    else
      let entryBefore (rest : Text) (e : Key × Value) : Text :=
        e.1.labelBefore (':' :: ' ' :: labelWithin d fuel (ref :: opened) rest e.2)
      match (d.fieldsOf ref).toList with
      | [] => '{' :: '}' :: rest
      | e :: es =>
        '{' :: entryBefore (es.foldr (fun e rest => ',' :: ' ' :: entryBefore rest e) ('}' :: rest)) e

/-- Whether a value can be put into words inside a larger one, below the tables in `opened`. -/
def canWriteWithin (d : Desktop) : (fuel : Nat) → (opened : List TableRef) → Value → Bool
  | _, _, .plain j => j.canWrite
  | _, _, .window _ => true
  | 0, _, .table _ => true
  | fuel + 1, opened, .table ref =>
    opened.elem ref ||
      (d.fieldsOf ref).toList.all fun e => e.1.canWrite && canWriteWithin d fuel (ref :: opened) e.2

/-- Whether a value can be a key. Only what is known by its label has to be put into words for that. -/
def canBeKey (d : Desktop) : Value → Bool
  | .plain j => !j.isContainer || j.canWrite
  | v => d.canWriteWithin (d.tableCount + 1) [] v

/-- The key that a value is. Values that are no scalar are known by their label. -/
def keyOf (d : Desktop) : Value → Key
  | .plain .null => .null
  | .plain (.bool b) => .bool b
  | .plain (.int n) => .int n
  | .plain (.float x) => .float x
  | .plain (.text t) => .text t
  | .plain j => .text j.label
  | v => .text (d.labelWithin (d.tableCount + 1) [] [] v)

/-- The key under which a value is put or looked up. -/
def keyFor (d : Desktop) (v : Value) : Except ScriptError Key :=
  if d.canBeKey v then .ok (d.keyOf v) else .error .longNumber

def windowJson (d : Desktop) (n : Nat) : Json :=
  .object [("id".toList, .text (d.idOf n)), ("libary".toList, .object []),
    ("library".toList, .object []), ("database".toList, .object [])]

/-- The data that a value is below the tables in `opened`. The first table found inside itself ends the
search, and so does the first number that is too long. -/
def jsonWithin (d : Desktop) : (fuel : Nat) → (opened : List TableRef) → Value → Except ScriptError Json
  | _, _, .plain j => if j.canWrite then .ok j else .error .longNumber
  | _, _, .window n => .ok (d.windowJson n)
  | 0, _, .table _ => .error .circular
  | fuel + 1, opened, .table ref =>
    if opened.elem ref then .error .circular
    else
      ((d.fieldsOf ref).toList.mapM fun (e : Key × Value) =>
        if e.1.canWrite then (jsonWithin d fuel (ref :: opened) e.2).map fun j => (e.1.memberName, j)
        else .error .longNumber).map .object

def json (d : Desktop) (v : Value) : Except ScriptError Json := d.jsonWithin (d.tableCount + 1) [] v

end Desktop

end DeskScript
