import DeskScript.Binary64.Basic

namespace DeskScript.Binary64

structure Decimal where
  digits : Nat
  scale : Int
deriving DecidableEq

/-- The reals that round to `mantissa · 2 ^ exponent`, in quarters of its last place. The gap below a power
of two is half as wide, and the ends belong to even mantissas. -/
structure Interval where
  low : Nat
  high : Nat
  closed : Bool

def interval (mantissa : Nat) (exponent : Int) : Interval where
  low := 4 * mantissa - if mantissa = leadingBit ∧ leastExponent < exponent then 1 else 2
  high := 4 * mantissa + 2
  closed := mantissa % 2 = 0

/-- The number of digits before the point; zeros after the point count down from 0. -/
def pointOf (num den : Nat) : Int :=
  if den ≤ num then (Nat.toDigits 10 (num / den)).length
  else
    match (List.range 400).find? fun j => den ≤ num * Nat.pow 10 (j + 1) with
    | some j => -j
    | none => 0

def roundsTo (mantissa : Nat) (exponent scale : Int) (c : Nat) : Bool :=
  let i := interval mantissa exponent
  let (tenNum, tenDen) := scaleDown 10 1 1 (-scale)
  let (unitNum, unitDen) := scaleDown 2 1 1 (2 - exponent)
  let x := c * tenNum * unitDen
  let low := i.low * unitNum * tenDen
  let high := i.high * unitNum * tenDen
  if i.closed then low ≤ x && x ≤ high else low < x && x < high

def onGrid (mantissa : Nat) (exponent : Int) (num den : Nat) (point : Int) (n : Nat) : Option Decimal :=
  let scale := point - n
  let (a, b) := scaleDown 10 num den scale
  let c := a / b
  match roundsTo mantissa exponent scale c, roundsTo mantissa exponent scale (c + 1) with
  | true, true => some ⟨roundQuotient a b, scale⟩
  | true, false => some ⟨c, scale⟩
  | false, true => some ⟨c + 1, scale⟩
  | false, false => none

def Decimal.trim : (fuel : Nat) → Decimal → Decimal
  | 0, d => d
  | fuel + 1, d => if d.digits % 10 = 0 then trim fuel ⟨d.digits / 10, d.scale + 1⟩ else d

/-- The fewest digits that read back: on the first grid of 1, 2, … 17 digits with a neighbour that does, the nearer. -/
def shortest (mantissa : Nat) (exponent : Int) : Decimal :=
  let (num, den) := scaleDown 2 mantissa 1 (-exponent)
  let point := pointOf num den
  match (List.range 17).findSome? fun n => onGrid mantissa exponent num den point (n + 1) with
  | some d => d.trim 17
  | none => ⟨0, 0⟩

end DeskScript.Binary64
