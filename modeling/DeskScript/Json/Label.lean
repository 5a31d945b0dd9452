import DeskScript.Json.Basic
import DeskScript.Binary64.Notation
import DeskScript.Text.Quoted

namespace DeskScript.Json

def labelNull : Text := "None".toList

def labelBool (b : Bool) : Text := if b then "True".toList else "False".toList

mutual

def labelBefore (rest : Text) : Json → Text
  | null => labelNull ++ rest
  | bool b => labelBool b ++ rest
  | int n => Text.ofInt n ++ rest
  | float x => x.toText ++ rest
  | text t => t.quotedBefore rest
  | array [] => '[' :: ']' :: rest
  | array (j :: js) => '[' :: labelBefore (labelItemsBefore (']' :: rest) js) j
  | object [] => '{' :: '}' :: rest
  | object ((k, j) :: ms) =>
    '{' :: k.quotedBefore (':' :: ' ' :: labelBefore (labelMembersBefore ('}' :: rest) ms) j)

def labelItemsBefore (rest : Text) : List Json → Text
  | [] => rest
  | j :: js => ',' :: ' ' :: labelBefore (labelItemsBefore rest js) j

def labelMembersBefore (rest : Text) : List (Text × Json) → Text
  | [] => rest
  | (k, j) :: ms =>
    ',' :: ' ' :: k.quotedBefore (':' :: ' ' :: labelBefore (labelMembersBefore rest ms) j)

end

def label : Json → Text
  | text t => t
  | j => labelBefore [] j

def label? (j : Json) : Option Text := if j.canWrite then some j.label else none

end DeskScript.Json
