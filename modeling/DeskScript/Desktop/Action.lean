import DeskScript.Desktop.Unfolding

namespace DeskScript

inductive Handle where
  | library
  | database
deriving DecidableEq

inductive Action where
  | info
  | find
  | read
  | write
deriving DecidableEq

inductive Target where
  | value (v : Value)
  | handle (h : Handle) (window : Nat)
  | action (a : Action) (window : Nat)

def Action.name : Action → Text
  | info => "info".toList
  | find => "find".toList
  | read => "read".toList
  | write => "write".toList

namespace Handle

def actions : Handle → List Action
  | library => [.find]
  | database => [.write, .read]

def action? (h : Handle) (name : Text) : Option Action := h.actions.find? fun a => a.name == name

end Handle

def Target.null : Target := .value .null

namespace Desktop

/-- `libary` is another spelling of `library`. -/
def handleNamed? (name : Text) : Option Handle :=
  if name = "library".toList ∨ name = "libary".toList then some .library
  else if name = "database".toList then some .database
  else none

def member (d : Desktop) (n : Nat) (name : Text) : Target :=
  match handleNamed? name with
  | some h => .handle h n
  | none =>
    if name = "id".toList then .value (.text (d.idOf n))
    else if name = "info".toList then .action .info n
    else .null

def entryUnder (members : List (Text × Json)) : Key → Json
  | .text t => (members.lookup t).getD .null
  | _ => .null

/-- The library's entry under the key. A window without a library gets the default one first, and keeps it if
there is no such key. -/
def find (d : Desktop) (n : Nat) (w : Window) (key : Value) : Except (Failure Desktop) (Value × Desktop) :=
  match w.libraryOrDefault with
  | .object members =>
    let d' := d.setWindow n { w with library := .object members }
    match d.keyFor key with
    | .ok k => .ok (.plain (entryUnder members k), d')
    | .error e => .error ⟨e, d'⟩
  | other => .error ⟨.libraryNotTable other.kind, d⟩

/-- The value in the data under the key, null if the data is no table. -/
def read (d : Desktop) (w : Window) (key : Value) : Except ScriptError Value :=
  match w.data with
  | .live fields => (d.keyFor key).map fun k => (fields.get? k).getD .null
  | _ => .ok .null

/-- Absent data becomes an empty table first; data that is no table cannot be written to. -/
def writableFields (w : Window) : Except ScriptError Fields :=
  match w.data with
  | .absent => .ok .empty
  | .live fields => .ok fields
  | .fixed _ => .error (.notWritable w.id)

/-- Puts the value under the key. Data that was absent is a table from then on, even if there is no such key. -/
def write (d : Desktop) (n : Nat) (w : Window) (key value : Value) :
    Except (Failure Desktop) (Value × Desktop) :=
  match writableFields w with
  | .error e => .error ⟨e, d⟩
  | .ok fields =>
    match d.keyFor key with
    | .error e => .error ⟨e, d.setWindow n { w with data := .live fields }⟩
    | .ok k =>
      let d' := d.setWindow n { w with data := .live (fields.put k value) }
      .ok (d'.reply (.ofList [(.text "success".toList, .plain (.bool true)), (.text "key".toList, key),
        (.text "value".toList, value)]))

/-- What a window tells of itself, with `given` in the place of its data unless that is empty. -/
def infoFields (n : Nat) (w : Window) (given : Value) : Fields :=
  .ofList [(.text "id".toList, .text w.id), (.text "title".toList, .plain w.title),
   (.text "appType".toList, .plain w.appType), (.text "library".toList, .plain w.libraryOrDefault),
   (.text "libary".toList, .plain w.libraryOrDefault),
   (.text "data".toList, if given.isEmpty then dataValue n w else given)]

/-- Arguments that are not given are null, and those beyond the second play no part. -/
def perform (d : Desktop) (n : Nat) (a : Action) (args : List Value) :
    Except (Failure Desktop) (Value × Desktop) :=
  let first := args[0]?.getD .null
  let second := args[1]?.getD .null
  match d.windows[n]? with
  | none => .ok (.null, d)
  | some w =>
    match a with
    | .info => .ok (d.reply (infoFields n w first))
    | .find => d.find n w first
    | .read => (reading d (d.read w first)).map fun v => (v, d)
    | .write => d.write n w first second

end Desktop

end DeskScript
