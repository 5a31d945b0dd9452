import DeskScript.Text.Numeral
import Mathlib.Algebra.Group.Nat.Defs
import Mathlib.Data.List.Basic

namespace DeskScript.Text

theorem isDigit_of_mem_ofNat (n : Nat) (c : Char) (h : c ∈ ofNat n) : c.isDigit = true :=
  Nat.isDigit_of_mem_toDigits (by decide) (by decide) h

theorem ofNat_ne_nil (n : Nat) : ofNat n ≠ [] :=
  List.ne_nil_of_length_pos Nat.length_toDigits_pos

theorem exists_cons_ofNat (n : Nat) : ∃ c digits, ofNat n = c :: digits ∧ c.isDigit = true := by
  obtain ⟨c, digits, h⟩ := List.exists_cons_of_ne_nil (ofNat_ne_nil n)
  exact ⟨c, digits, h, isDigit_of_mem_ofNat n c (h ▸ List.mem_cons_self)⟩

theorem head?_ofNat_ne_zero (n : Nat) (hn : n ≠ 0) : (ofNat n).head? ≠ some '0' := by
  induction n using Nat.strongRecOn with
  | ind n ih =>
    obtain hsmall | hlarge := Nat.lt_or_ge n 10
    · have hdigit : ∀ m < 10, m ≠ 0 → [Nat.digitChar m].head? ≠ some '0' := by decide
      rw [ofNat, Nat.toDigits_of_lt_base hsmall]
      exact hdigit n hsmall hn
    · have hdigits : ofNat n = ofNat (n / 10) ++ [(n % 10).digitChar] :=
        Nat.toDigits_of_base_le (by decide) hlarge
      rw [hdigits, List.head?_append_of_ne_nil _ (ofNat_ne_nil _)]
      exact ih (n / 10) (by omega) (by omega)

theorem length_ofNat_le_iff (n : Nat) {k : Nat} (hk : 0 < k) : (ofNat n).length ≤ k ↔ n < 10 ^ k :=
  Nat.length_toDigits_le_iff (by decide) hk

theorem canWrite_iff (n : Int) : canWrite n = true ↔ n.natAbs < 10 ^ maxDigits := by
  rw [canWrite, decide_eq_true_eq, length_ofNat_le_iff _ (by decide)]

theorem exists_cons_ofInt (n : Int) :
    ∃ c digits, c.isDigit = true ∧ (ofInt n = c :: digits ∨ ofInt n = '-' :: c :: digits) := by
  cases n with
  | ofNat n =>
    obtain ⟨c, digits, h, hc⟩ := exists_cons_ofNat n
    exact ⟨c, digits, hc, .inl h⟩
  | negSucc n =>
    obtain ⟨c, digits, h, hc⟩ := exists_cons_ofNat (n + 1)
    exact ⟨c, digits, hc, .inr (congrArg ('-' :: ·) h)⟩

theorem filter_groupDigits (t : Text) : (groupDigits t).filter (· ≠ ',') = t.filter (· ≠ ',') := by
  have hgo (i : Nat) (t : Text) : (groupDigits.go i t).filter (· ≠ ',') = t.filter (· ≠ ',') := by
    fun_induction groupDigits.go i t <;> simp_all [List.filter_cons]
  rw [groupDigits, List.filter_reverse, hgo, ← List.filter_reverse, List.reverse_reverse]

@[simp] theorem filter_groupDigits_ofNat (n : Nat) : (groupDigits (ofNat n)).filter (· ≠ ',') = ofNat n := by
  rw [filter_groupDigits, List.filter_eq_self]
  intro c hc
  have hdigit := isDigit_of_mem_ofNat n c hc
  rw [decide_eq_true_eq]
  rintro rfl
  exact absurd hdigit (by decide)

theorem mem_padLeft (width : Nat) (t : Text) (c : Char) (h : c ∈ padLeft width t) : c = ' ' ∨ c ∈ t := by
  obtain h | h := List.mem_append.1 h
  · exact .inl (List.eq_of_mem_replicate h)
  · exact .inr h

end DeskScript.Text
