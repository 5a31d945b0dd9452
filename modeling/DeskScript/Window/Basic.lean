import DeskScript.Value

namespace DeskScript

inductive Data where
  | absent
  | fixed (j : Json)
  | live (fields : Fields)

/-- A window. The host may put any data into most fields; a missing library is null. -/
structure Window where
  id : Text
  title : Json
  appType : Json
  width : Json
  height : Json
  x : Json
  y : Json
  zIndex : Json
  minimized : Json
  maximized : Json
  data : Data
  library : Json

namespace Window

def defaultLibrary (w : Window) : List (Text × Json) :=
  [("mainSection".toList, .object
      [("name".toList, .text "mainSection".toList),
       ("type".toList, .text "section".toList),
       ("content".toList, .text ("Main section for window ".toList ++ w.id))]),
   ("crossSection".toList, .object
      [("name".toList, .text "crossSection".toList),
       ("type".toList, .text "section".toList),
       ("data".toList, .object
          [(['x'], .int 0), (['y'], .int 0), ("width".toList, w.width), ("height".toList, w.height)])]),
   ("components".toList, .array [])]

def libraryOrDefault (w : Window) : Json :=
  match w.library with
  | .null => .object w.defaultLibrary
  | library => library

end Window

end DeskScript
