import DeskScript.Script.Line

namespace DeskScript

/-- The text of a block and the number of lines it takes, the lines before its first brace included. -/
structure Block where
  text : Text
  taken : Nat
deriving DecidableEq

namespace Block

def depthOf (t : Text) : Int := (t.count '{' : Int) - t.count '}'

/-- The lines of the block and the number of lines taken, from `depth` on; `opened` tells whether a line
before has a brace that opens. -/
def scanFrom (depth : Int) (opened : Bool) : List Text → Option (List Text × Nat)
  | [] => none
  | line :: lines =>
    let depth := depth + depthOf line
    let opened := opened || line.elem '{'
    if opened && depth == 0 then some ([line], 1)
    else
      (scanFrom depth opened lines).map fun (block, taken) =>
        (if opened then line :: block else block, taken + 1)

/-- The first block from the front of the lines on, which ends where as many braces have closed as opened, those
inside quotes included. -/
def scan (lines : List Text) : Option Block :=
  (scanFrom 0 false lines).map fun (block, taken) => ⟨block.flatMap (· ++ ['\n']), taken⟩

theorem scanFrom_taken_pos (depth : Int) (opened : Bool) (lines block : List Text) (taken : Nat)
    (h : scanFrom depth opened lines = some (block, taken)) : 0 < taken ∧ taken ≤ lines.length := by
  induction lines generalizing depth opened block taken with
  | nil => simp [scanFrom] at h
  | cons line lines ih =>
    unfold scanFrom at h
    dsimp only at h
    split at h
    · cases h
      simp
    · obtain ⟨⟨b, n⟩, hb, he⟩ := Option.map_eq_some_iff.1 h
      cases he
      have := ih _ _ _ _ hb
      simp only [List.length_cons]
      omega

theorem scanFrom_append (depth : Int) (opened : Bool) (lines more block : List Text) (taken : Nat)
    (h : scanFrom depth opened lines = some (block, taken)) :
    scanFrom depth opened (lines ++ more) = some (block, taken) := by
  induction lines generalizing depth opened block taken with
  | nil => simp [scanFrom] at h
  | cons line lines ih =>
    unfold scanFrom at h
    dsimp only at h
    rw [List.cons_append]
    unfold scanFrom
    dsimp only
    split at h
    · rw [if_pos ‹_›]
      exact h
    · rw [if_neg ‹_›]
      obtain ⟨⟨b, n⟩, hb, he⟩ := Option.map_eq_some_iff.1 h
      rw [ih _ _ _ _ hb]
      exact congrArg some he

def require (head : Line) (rest : List Line) : Except Fault Block :=
  match scan ((head :: rest).map Line.text) with
  | some block => .ok block
  | none => .error (.unterminatedBlock head.stripped)

def inner (t : Text) : Text :=
  match Text.cutAt? ['{'] t with
  | none => []
  | some (_, after) =>
    match Text.beforeLast? '}' after with
    | none => []
    | some body => Text.strip body

end Block

end DeskScript
