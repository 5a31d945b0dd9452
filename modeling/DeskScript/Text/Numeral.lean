import DeskScript.Text.Basic

namespace DeskScript.Text

def ofNat (n : Nat) : Text := Nat.toDigits 10 n

def ofInt : Int → Text
  | .ofNat n => ofNat n
  | .negSucc n => '-' :: ofNat (n + 1)

/-- The longest run of digits that is read or written as a whole number. -/
def maxDigits : Nat := 4300

def canWrite (n : Int) : Bool := (ofNat n.natAbs).length ≤ maxDigits

def tooLongMessage (digits : Nat) : Text :=
  "Exceeds the limit (4300 digits) for integer string conversion: value has ".toList ++ ofNat digits ++
    " digits; use sys.set_int_max_str_digits() to increase the limit".toList

def tooLongToWrite : Text :=
  "Exceeds the limit (4300 digits) for integer string conversion; ".toList ++
    "use sys.set_int_max_str_digits() to increase the limit".toList

/-- Groups of three digits from the right, with commas between them. -/
def groupDigits (digits : Text) : Text :=
  (go 0 digits.reverse).reverse
where
  go : Nat → Text → Text
    | _, [] => []
    | 3, c :: t => ',' :: c :: go 1 t
    | n, c :: t => c :: go (n + 1) t

def padLeft (width : Nat) (t : Text) : Text := List.replicate (width - t.length) ' ' ++ t

def padRight (width : Nat) (t : Text) : Text := t ++ List.replicate (width - t.length) ' '

/-- The last `width` hexadecimal digits of `n`, in lower case. -/
def hex : (width : Nat) → (n : Nat) → Text
  | 0, _ => []
  | width + 1, n => hex width (n / 16) ++ [Nat.digitChar (n % 16)]

end DeskScript.Text
