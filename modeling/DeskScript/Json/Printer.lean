import DeskScript.Json.Basic
import DeskScript.Binary64.Notation

namespace DeskScript.Json

def escapeChar (c : Char) : Text :=
  if c = '"' ∨ c = '\\' then ['\\', c]
  else if c = '\n' then "\\n".toList
  else if c = '\r' then "\\r".toList
  else if c = '\t' then "\\t".toList
  else if c = '\x08' then "\\b".toList
  else if c = '\x0c' then "\\f".toList
  else if c.toNat < 0x20 then "\\u".toList ++ Text.hex 4 c.toNat
  else [c]

def writeText (t : Text) : Text := '"' :: t.flatMap escapeChar ++ ['"']

def numberWords : Binary64.Words := ⟨"NaN".toList, "Infinity".toList⟩

def writeFloat (x : Binary64) : Text := x.write numberWords

def writeBool (b : Bool) : Text := if b then "true".toList else "false".toList

/-- What stands between the parts of a container, at a depth, and between a key and its value. -/
structure Layout where
  lineBreak : Nat → Text
  colon : Text

def compactLayout : Layout := ⟨fun _ => [], [':']⟩

def prettyLayout : Layout := ⟨fun depth => '\n' :: List.replicate (2 * depth) ' ', ": ".toList⟩

mutual

def writeBefore (l : Layout) (depth : Nat) (rest : Text) : Json → Text
  | null => "null".toList ++ rest
  | bool b => writeBool b ++ rest
  | int n => Text.ofInt n ++ rest
  | float x => writeFloat x ++ rest
  | text t => writeText t ++ rest
  | array [] => '[' :: ']' :: rest
  | array (j :: js) =>
    '[' :: l.lineBreak (depth + 1) ++ writeBefore l (depth + 1)
      (writeItemsBefore l (depth + 1) (l.lineBreak depth ++ ']' :: rest) js) j
  | object [] => '{' :: '}' :: rest
  | object ((k, j) :: ms) =>
    '{' :: l.lineBreak (depth + 1) ++ writeText k ++ l.colon ++ writeBefore l (depth + 1)
      (writeMembersBefore l (depth + 1) (l.lineBreak depth ++ '}' :: rest) ms) j

def writeItemsBefore (l : Layout) (depth : Nat) (rest : Text) : List Json → Text
  | [] => rest
  | j :: js => ',' :: l.lineBreak depth ++ writeBefore l depth (writeItemsBefore l depth rest js) j

def writeMembersBefore (l : Layout) (depth : Nat) (rest : Text) : List (Text × Json) → Text
  | [] => rest
  | (k, j) :: ms =>
    ',' :: l.lineBreak depth ++ writeText k ++ l.colon ++
      writeBefore l depth (writeMembersBefore l depth rest ms) j

end

def write (l : Layout) (j : Json) : Text := writeBefore l 0 [] j

def compact (j : Json) : Text := write compactLayout j

def pretty (j : Json) : Text := write prettyLayout j

end DeskScript.Json
