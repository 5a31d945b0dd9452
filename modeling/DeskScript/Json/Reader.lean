import DeskScript.Json.Basic
import DeskScript.Table
import DeskScript.Text.Numeral

namespace DeskScript.Json

/-- Why a text is not read. One with `unpaired` escapes stands for data with texts that are no sequences of
characters; such data has no place here. -/
inductive ReadError where
  | malformed
  | tooManyDigits (digits : Nat)
  | unpaired
deriving DecidableEq

abbrev Reading (α : Type) := Except ReadError (α × Text)

def isSpace (c : Char) : Bool := c = ' ' || c = '\t' || c = '\n' || c = '\r'

def skipSpace (t : Text) : Text := t.dropWhile isSpace

def digitsValue (digits : Text) : Nat := digits.foldl (fun n c => 10 * n + (c.toNat - 48)) 0

def spanDigits (t : Text) : Text × Text := t.span Char.isDigit

/-- A single zero, or digits that do not begin with one. -/
def readWhole? : Text → Option (Text × Text)
  | '0' :: t => some (['0'], t)
  | t =>
    match spanDigits t with
    | ([], _) => none
    | (digits, rest) => some (digits, rest)

/-- A point belongs to the number only with a digit after it. -/
def readFraction (t : Text) : Text × Text :=
  match t with
  | '.' :: r =>
    match spanDigits r with
    | ([], _) => ([], t)
    | (digits, rest) => (digits, rest)
  | _ => ([], t)

def readSign : Text → Bool × Text
  | '-' :: t => (true, t)
  | '+' :: t => (false, t)
  | t => (false, t)

/-- The exponent, if one follows; like a point it needs a digit. -/
def readExponent (t : Text) : Option Int × Text :=
  match t with
  | c :: r =>
    if c = 'e' ∨ c = 'E' then
      let (negative, r) := readSign r
      match spanDigits r with
      | ([], _) => (none, t)
      | (digits, rest) => (some (Binary64.signed negative (digitsValue digits)), rest)
    else (none, t)
  | [] => (none, t)

def readMagnitude (negative : Bool) (t : Text) : Reading Json :=
  match readWhole? t with
  | none => .error .malformed
  | some (whole, t) =>
    let (fraction, t) := readFraction t
    let (exponent, t) := readExponent t
    if fraction.isEmpty ∧ exponent.isNone then
      if Text.maxDigits < whole.length then .error (.tooManyDigits whole.length)
      else .ok (int (Binary64.signed negative (digitsValue whole)), t)
    else
      let digits := digitsValue (whole ++ fraction)
      .ok (float (.ofDecimal negative digits (exponent.getD 0 - fraction.length)), t)

def readNumber : Text → Reading Json
  | '-' :: t => readMagnitude true t
  | t => readMagnitude false t

def hexDigit? (c : Char) : Option Nat :=
  if '0' ≤ c ∧ c ≤ '9' then some (c.toNat - 48)
  else if 'a' ≤ c ∧ c ≤ 'f' then some (c.toNat - 87)
  else if 'A' ≤ c ∧ c ≤ 'F' then some (c.toNat - 55)
  else none

def codeUnit? (a b c d : Char) : Option Nat := do
  let a ← hexDigit? a
  let b ← hexDigit? b
  let c ← hexDigit? c
  let d ← hexDigit? d
  return ((a * 16 + b) * 16 + c) * 16 + d

def unescape? : Char → Option Char
  | '"' => some '"'
  | '\\' => some '\\'
  | '/' => some '/'
  | 'b' => some '\x08'
  | 'f' => some '\x0c'
  | 'n' => some '\n'
  | 'r' => some '\r'
  | 't' => some '\t'
  | _ => none

def readUnits : Text → Reading (List Nat)
  | [] => .error .malformed
  | '"' :: t => .ok ([], t)
  | '\\' :: 'u' :: a :: b :: c :: d :: t =>
    match codeUnit? a b c d with
    | none => .error .malformed
    | some n => (readUnits t).map fun (units, rest) => (n :: units, rest)
  | '\\' :: c :: t =>
    match unescape? c with
    | none => .error .malformed
    | some c => (readUnits t).map fun (units, rest) => (c.toNat :: units, rest)
  | c :: t =>
    if c.toNat < 0x20 then .error .malformed
    else (readUnits t).map fun (units, rest) => (c.toNat :: units, rest)

def isHighUnit (n : Nat) : Bool := 0xd800 ≤ n && n < 0xdc00

def isLowUnit (n : Nat) : Bool := 0xdc00 ≤ n && n < 0xe000

def charOfUnit? (n : Nat) : Option Char := if isHighUnit n || isLowUnit n then none else some (Char.ofNat n)

def joinUnits? : List Nat → Option Text
  | [] => some []
  | [n] => (charOfUnit? n).map fun c => [c]
  | n :: m :: units =>
    if isHighUnit n && isLowUnit m then
      (joinUnits? units).map fun t => Char.ofNat (0x10000 + (n - 0xd800) * 0x400 + (m - 0xdc00)) :: t
    else
      match charOfUnit? n with
      | none => none
      | some c => (joinUnits? (m :: units)).map fun t => c :: t

/-- The text up to the closing quote; the opening one is already behind. -/
def readText (t : Text) : Reading Text :=
  match readUnits t with
  | .error e => .error e
  | .ok (units, rest) =>
    match joinUnits? units with
    | none => .error .unpaired
    | some t => .ok (t, rest)

def constants : List (Text × Json) :=
  [("null".toList, null), ("true".toList, bool true), ("false".toList, bool false),
   ("NaN".toList, float .nan), ("Infinity".toList, float (.infinite false)),
   ("-Infinity".toList, float (.infinite true))]

def readConstant? (t : Text) : Option (Json × Text) :=
  constants.findSome? fun (word, j) => (Text.afterPrefix? word t).map fun rest => (j, rest)

mutual

/-- One value at the very front. No more nested calls than two for each character are ever needed. -/
def readValue : (fuel : Nat) → Text → Reading Json
  | 0, _ => .error .malformed
  | fuel + 1, t =>
    match t with
    | '"' :: t => (readText t).map fun (s, rest) => (text s, rest)
    | '[' :: t =>
      match skipSpace t with
      | ']' :: t => .ok (array [], t)
      | t => (readItems fuel t).map fun (items, rest) => (array items, rest)
    | '{' :: t =>
      match skipSpace t with
      | '}' :: t => .ok (object [], t)
      | t => (readMembers fuel t).map fun (members, rest) => (object (Table.ofList members).toList, rest)
    | t =>
      match readConstant? t with
      | some (j, rest) => .ok (j, rest)
      | none => readNumber t

def readItems : (fuel : Nat) → Text → Reading (List Json)
  | 0, _ => .error .malformed
  | fuel + 1, t =>
    match readValue fuel t with
    | .error e => .error e
    | .ok (j, t) =>
      match skipSpace t with
      | ']' :: t => .ok ([j], t)
      | ',' :: t => (readItems fuel (skipSpace t)).map fun (items, rest) => (j :: items, rest)
      | _ => .error .malformed

def readMembers : (fuel : Nat) → Text → Reading (List (Text × Json))
  | 0, _ => .error .malformed
  | fuel + 1, t =>
    match t with
    | '"' :: t =>
      match readText t with
      | .error e => .error e
      | .ok (k, t) =>
        match skipSpace t with
        | ':' :: t =>
          match readValue fuel (skipSpace t) with
          | .error e => .error e
          | .ok (j, t) =>
            match skipSpace t with
            | '}' :: t => .ok ([(k, j)], t)
            | ',' :: t =>
              (readMembers fuel (skipSpace t)).map fun (members, rest) => ((k, j) :: members, rest)
            | _ => .error .malformed
        | _ => .error .malformed
    | _ => .error .malformed

end

/-- The value that a whole text is. `NaN`, `Infinity` and `-Infinity` are values too, and a whole number has no more
than 4300 digits. A byte order mark in front is refused like any other stray character. -/
def read (t : Text) : Except ReadError Json :=
  match readValue (2 * t.length + 2) (skipSpace t) with
  | .error e => .error e
  | .ok (j, rest) => if (skipSpace rest).isEmpty then .ok j else .error .malformed

def ReadError.message : ReadError → Text
  | malformed => "malformed data".toList
  | tooManyDigits n => Text.tooLongMessage n
  | unpaired => "half of a surrogate pair".toList

end DeskScript.Json
