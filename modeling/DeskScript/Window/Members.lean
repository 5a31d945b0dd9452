import DeskScript.Error
import DeskScript.Window.Basic

namespace DeskScript

inductive WindowError where
  | missingId
  | longId
  | notTable (kind : Text)
deriving DecidableEq

def WindowError.message : WindowError → Text
  | missingId => "'id'".toList
  | longId => Text.tooLongToWrite
  | notTable kind => lacks kind "get".toList

inductive Member where
  | plain (j : Json)
  | table (fields : Fields)

namespace Member

/-- Plain data under `name`; an object under `data` becomes a table. -/
def ofJson (name : Text) : Json → Member
  | .object members => if name = "data".toList then table (.ofMembers members) else plain (.object members)
  | j => plain j

def toJson : Member → Json
  | plain j => j
  | table _ => .null

def toData : Member → Data
  | plain .null => .absent
  | plain j => .fixed j
  | table fields => .live fields

end Member

namespace Data

def toMember? : Data → Option Member
  | absent => none
  | fixed j => some (.plain j)
  | live fields => some (.table fields)

end Data

abbrev Members := List (Text × Member)

namespace Members

def get (ms : Members) (name : String) (fallback : Json) : Json :=
  match ms.lookup name.toList with
  | some m => m.toJson
  | none => fallback

end Members

def partOf (j : Json) : Except WindowError (List (Text × Json)) :=
  match j.orElse (.object []) with
  | .object members => .ok members
  | other => .error (.notTable other.kind)

def memberOr (members : List (Text × Json)) (name : String) (fallback : Json) : Json :=
  (members.lookup name.toList).getD fallback

namespace Window

/-- Every member but the id may be missing. -/
def ofMembers (ms : Members) : Except WindowError Window :=
  match ms.lookup "id".toList with
  | none => .error .missingId
  | some id =>
    match id.toJson.label?, partOf (ms.get "size" .null), partOf (ms.get "position" .null) with
    | none, _, _ => .error .longId
    | _, .error e, _ => .error e
    | _, _, .error e => .error e
    | some id, .ok size, .ok position =>
      .ok {
        id := id
        title := (ms.get "title" .null).orElse (.text [])
        appType := (ms.get "appType" .null).orElse (.text [])
        width := memberOr size "width" (.int 0)
        height := memberOr size "height" (.int 0)
        x := memberOr position "x" (.int 0)
        y := memberOr position "y" (.int 0)
        zIndex := ms.get "zIndex" (.int 0)
        minimized := ms.get "isMinimized" (.bool false)
        maximized := ms.get "isMaximized" (.bool false)
        data := match ms.lookup "data".toList with
          | some m => m.toData
          | none => .absent
        library := ms.get "library" .null }

def ofJson : Json → Except WindowError Window
  | .object members => ofMembers (members.map fun (k, j) => (k, .ofJson k j))
  | other => .error (.notTable other.kind)

/-- The members in the order in which a window is written; absent data and a missing library are left out. -/
def toMembers (w : Window) : Members :=
  [("id".toList, .plain (.text w.id)),
   ("appType".toList, .plain w.appType),
   ("title".toList, .plain w.title),
   ("isMinimized".toList, .plain w.minimized),
   ("isMaximized".toList, .plain w.maximized),
   ("position".toList, .plain (.object [(['x'], w.x), (['y'], w.y)])),
   ("size".toList, .plain (.object [("width".toList, w.width), ("height".toList, w.height)])),
   ("zIndex".toList, .plain w.zIndex)] ++
  (match w.data.toMember? with
    | some m => [("data".toList, m)]
    | none => []) ++
  match w.library with
  | .null => []
  | library => [("library".toList, .plain library)]

end Window

end DeskScript
