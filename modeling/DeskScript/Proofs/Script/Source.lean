import DeskScript.Proofs.Text.Blank
import DeskScript.Script.Line

namespace DeskScript.Line

/-- The lines that say something, the first line of all having the number `n`. -/
def numberedFrom (n : Nat) : List Text → List Line
  | [] => []
  | t :: ts => if isSilent t then numberedFrom (n + 1) ts else ⟨t, some n⟩ :: numberedFrom (n + 1) ts

theorem numberedFrom_of_silent (n : Nat) (t : Text) (ts : List Text) (h : isSilent t = true) :
    numberedFrom n (t :: ts) = numberedFrom (n + 1) ts := by
  rw [numberedFrom, if_pos h]

theorem numberedFrom_of_not_silent (n : Nat) (t : Text) (ts : List Text) (h : isSilent t = false) :
    numberedFrom n (t :: ts) = ⟨t, some n⟩ :: numberedFrom (n + 1) ts := by
  rw [numberedFrom, h]
  rfl

theorem ofSource_eq (source : Text) : ofSource source = numberedFrom 1 (Text.splitOn '\n' source) := by
  have hall : ∀ (n : Nat) (ts : List Text),
      ((ts.zipIdx n).filterMap fun p => if isSilent p.1 then none else some ⟨p.1, some p.2⟩) =
        numberedFrom n ts := by
    intro n ts
    induction ts generalizing n with
    | nil => rfl
    | cons t ts ih =>
      rw [List.zipIdx_cons, List.filterMap_cons, numberedFrom, ← ih (n + 1)]
      dsimp only
      cases isSilent t <;> rfl
  exact hall 1 _

theorem exists_of_mem_numberedFrom (n : Nat) (ts : List Text) (l : Line) (h : l ∈ numberedFrom n ts) :
    ∃ i, l.number = some (n + i) ∧ ts[i]? = some l.text ∧ isSilent l.text = false := by
  induction ts generalizing n with
  | nil => cases h
  | cons t ts ih =>
    have hnext : l ∈ numberedFrom (n + 1) ts →
        ∃ i, l.number = some (n + i) ∧ (t :: ts)[i]? = some l.text ∧ isSilent l.text = false := by
      intro h
      obtain ⟨i, hnumber, ht, hsilent⟩ := ih (n + 1) h
      refine ⟨i + 1, ?_, ht, hsilent⟩
      rw [hnumber, Nat.add_right_comm, Nat.add_assoc]
    cases hs : isSilent t with
    | true => exact hnext (numberedFrom_of_silent n t ts hs ▸ h)
    | false =>
      rw [numberedFrom_of_not_silent n t ts hs] at h
      obtain rfl | h := List.mem_cons.1 h
      · exact ⟨0, rfl, rfl, hs⟩
      · exact hnext h

theorem exists_of_mem_ofSource (source : Text) (l : Line) (h : l ∈ ofSource source) :
    ∃ i, l.number = some (i + 1) ∧ (Text.splitOn '\n' source)[i]? = some l.text ∧
      isSilent l.text = false := by
  rw [ofSource_eq] at h
  obtain ⟨i, hnumber, ht, hsilent⟩ := exists_of_mem_numberedFrom 1 _ l h
  refine ⟨i, ?_, ht, hsilent⟩
  rw [hnumber, Nat.add_comm]

end DeskScript.Line
