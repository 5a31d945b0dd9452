import DeskScript.Text.CharSet

namespace DeskScript

/-- White space of Unicode, the information separators U+001C to U+001F included. -/
def blanks : CharSet :=
  [(0x9, 0xd), (0x1c, 0x20), (0x85, 0x85), (0xa0, 0xa0), (0x1680, 0x1680), (0x2000, 0x200a),
   (0x2028, 0x2029), (0x202f, 0x202f), (0x205f, 0x205f), (0x3000, 0x3000)]

namespace Text

def isBlank (c : Char) : Bool := blanks.has c

def trimStart (t : Text) : Text := t.dropWhile isBlank

def trimEnd (t : Text) : Text := (t.reverse.dropWhile isBlank).reverse

def strip (t : Text) : Text := trimEnd (trimStart t)

def isBlankLine (t : Text) : Bool := t.all isBlank

theorem trimStart_cons_of_not_blank (c : Char) (t : Text) (h : isBlank c = false) :
    trimStart (c :: t) = c :: t := by
  simp [trimStart, h]

theorem trimStart_eq_nil_iff (t : Text) : trimStart t = [] ↔ isBlankLine t = true := by
  induction t with
  | nil => simp [trimStart, isBlankLine]
  | cons c t ih => by_cases h : isBlank c <;> simp_all [trimStart, isBlankLine]

end Text

end DeskScript
