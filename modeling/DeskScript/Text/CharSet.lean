import DeskScript.Text.Basic

namespace DeskScript

/-- First and last code point of each range; a search stops at the first range beyond the character. -/
abbrev CharSet := List (Nat × Nat)

namespace CharSet

def rangeOf? : CharSet → Nat → Option (Nat × Nat)
  | [], _ => none
  | (lo, hi) :: ranges, n =>
    if n < lo then none
    else if n ≤ hi then some (lo, hi)
    else rangeOf? ranges n

def range? (set : CharSet) (c : Char) : Option (Nat × Nat) := set.rangeOf? c.toNat

def has (set : CharSet) (c : Char) : Bool := (set.range? c).isSome

end CharSet

/-- A large set in pages, each with the last code point that it can hold. -/
abbrev PagedSet := List (Nat × CharSet)

namespace PagedSet

def page : PagedSet → Nat → CharSet
  | [], _ => []
  | (last, page) :: pages, n => if n ≤ last then page else PagedSet.page pages n

def has (set : PagedSet) (c : Char) : Bool := (set.page c.toNat).has c

end PagedSet

end DeskScript
