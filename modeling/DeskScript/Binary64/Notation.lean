import DeskScript.Binary64.Shortest
import DeskScript.Text.Numeral

namespace DeskScript.Binary64

structure Words where
  nan : Text
  infinity : Text

/-- At least two digits, after the sign. -/
def writeExponent (e : Int) : Text :=
  let digits := Text.ofNat e.natAbs
  (if e < 0 then '-' else '+') :: List.replicate (2 - digits.length) '0' ++ digits

/-- `digits` with the decimal point after the first `point` of them. -/
def layOut (digits : Text) (point : Int) : Text :=
  if -4 < point ∧ point ≤ 0 then
    "0.".toList ++ List.replicate (-point).toNat '0' ++ digits
  else if 0 < point ∧ point ≤ 16 then
    let n := point.toNat
    if digits.length ≤ n then digits ++ List.replicate (n - digits.length) '0' ++ ".0".toList
    else digits.take n ++ '.' :: digits.drop n
  else
    match digits with
    | [] => []
    | [d] => d :: 'e' :: writeExponent (point - 1)
    | d :: ds => d :: '.' :: ds ++ 'e' :: writeExponent (point - 1)

/-- Positional for exponents from -4 to 15, and never to be taken for a whole number. -/
def writeMagnitude (mantissa : Nat) (exponent : Int) : Text :=
  if mantissa = 0 then "0.0".toList
  else
    let d := shortest mantissa exponent
    let digits := Text.ofNat d.digits
    layOut digits (digits.length + d.scale)

def withSign (negative : Bool) (t : Text) : Text := if negative then '-' :: t else t

def write (words : Words) : Binary64 → Text
  | nan => words.nan
  | infinite s => withSign s words.infinity
  | finite s m q _ => withSign s (writeMagnitude m q)

def plainWords : Words := ⟨"nan".toList, "inf".toList⟩

def toText (x : Binary64) : Text := x.write plainWords

end DeskScript.Binary64
