namespace DeskScript

namespace Binary64

def mantissaBound : Nat := Nat.pow 2 53

/-- The least mantissa of a number whose exponent is not the least one. -/
def leadingBit : Nat := Nat.pow 2 52

def leastExponent : Int := -1074

def greatestExponent : Int := 971

/-- The mantissas and exponents in which numbers are written, each in one way. -/
structure IsCanonical (mantissa : Nat) (exponent : Int) : Prop where
  bounded : mantissa < mantissaBound
  least : leastExponent ≤ exponent
  greatest : exponent ≤ greatestExponent
  leading : leadingBit ≤ mantissa ∨ exponent = leastExponent

end Binary64

/-- `finite s m q` is `m · 2 ^ q`, negative if `s`. -/
inductive Binary64 where
  | nan
  | infinite (negative : Bool)
  | finite (negative : Bool) (mantissa : Nat) (exponent : Int) (h : Binary64.IsCanonical mantissa exponent)
deriving DecidableEq

namespace Binary64

/-- `num / den` to the nearest whole number, halves to the even one. -/
def roundQuotient (num den : Nat) : Nat :=
  if 2 * (num % den) < den ∨ (2 * (num % den) = den ∧ num / den % 2 = 0) then num / den
  else num / den + 1

theorem le_roundQuotient (num den bound : Nat) (hden : 0 < den) (h : bound * den ≤ num) :
    bound ≤ roundQuotient num den := by
  have hquotient : bound ≤ num / den := (Nat.le_div_iff_mul_le hden).2 h
  unfold roundQuotient
  split
  · exact hquotient
  · exact Nat.le_succ_of_le hquotient

theorem roundQuotient_le (num den bound : Nat) (hden : 0 < den) (h : num < bound * den) :
    roundQuotient num den ≤ bound := by
  have hquotient : num / den < bound := (Nat.div_lt_iff_lt_mul hden).2 h
  unfold roundQuotient
  split
  · exact Nat.le_of_lt hquotient
  · exact hquotient

/-- The quotient `num / den` over `base ^ e`, again as numerator and denominator. -/
def scaleDown (base num den : Nat) : Int → Nat × Nat
  | .ofNat e => (num, den * Nat.pow base e)
  | .negSucc e => (num * Nat.pow base (e + 1), den)

theorem scaleDown_den_pos (base num den : Nat) (e : Int) (hbase : 0 < base) (hden : 0 < den) :
    0 < (scaleDown base num den e).2 := by
  cases e with
  | ofNat e => exact Nat.mul_pos hden (Nat.pow_pos hbase)
  | negSucc e => exact hden

theorem scaleDown_le_iff (num den k x y : Nat) :
    Nat.pow 2 k * (scaleDown 2 num den (x - y)).2 ≤ (scaleDown 2 num den (x - y)).1 ↔
      Nat.pow 2 (k + x) * den ≤ num * Nat.pow 2 y := by
  have hadd : ∀ i j, Nat.pow 2 (i + j) = Nat.pow 2 i * Nat.pow 2 j := Nat.pow_add 2
  by_cases h : y ≤ x
  · obtain ⟨e, rfl⟩ := Nat.exists_eq_add_of_le h
    have hdiff : ((y + e : Nat) - y : Int) = .ofNat e := by simp only [Int.ofNat_eq_natCast]; omega
    have hscaled : Nat.pow 2 (k + (y + e)) * den = Nat.pow 2 k * (den * Nat.pow 2 e) * Nat.pow 2 y := by
      rw [hadd, hadd]
      ac_rfl
    rw [hdiff, scaleDown, hscaled]
    exact (Nat.mul_le_mul_right_iff (Nat.two_pow_pos y)).symm
  · obtain ⟨e, rfl⟩ := Nat.exists_eq_add_of_lt (Nat.lt_of_not_le h)
    have hdiff : (x - (x + e + 1 : Nat) : Int) = .negSucc e := by omega
    have hscaled : Nat.pow 2 (k + x) * den = Nat.pow 2 k * den * Nat.pow 2 x := by
      rw [hadd]
      ac_rfl
    have hscaled' : num * Nat.pow 2 (x + e + 1) = num * Nat.pow 2 (e + 1) * Nat.pow 2 x := by
      rw [Nat.add_assoc, hadd]
      ac_rfl
    rw [hdiff, scaleDown, hscaled, hscaled']
    exact (Nat.mul_le_mul_right_iff (Nat.two_pow_pos x)).symm

def IsAtLeast (num den : Nat) (e : Int) : Prop := (scaleDown 2 num den e).2 ≤ (scaleDown 2 num den e).1

theorem isAtLeast_iff (num den x y : Nat) :
    IsAtLeast num den (x - y) ↔ Nat.pow 2 x * den ≤ num * Nat.pow 2 y := by
  have h := scaleDown_le_iff num den 0 x y
  have hone : Nat.pow 2 0 = 1 := rfl
  rwa [hone, Nat.one_mul, Nat.zero_add] at h

theorem scaleDown_le_iff_isAtLeast (num den k : Nat) (e : Int) :
    Nat.pow 2 k * (scaleDown 2 num den e).2 ≤ (scaleDown 2 num den e).1 ↔ IsAtLeast num den (e + k) := by
  have he : e = (e.toNat : Int) - (-e).toNat := by omega
  have hek : e + k = (k + e.toNat : Nat) - ((-e).toNat : Int) := by omega
  rw [hek, isAtLeast_iff, ← scaleDown_le_iff, ← he]

theorem IsAtLeast.of_le {num den : Nat} {e e' : Int} (h : IsAtLeast num den e) (hle : e' ≤ e) :
    IsAtLeast num den e' := by
  have he : e = e' + ((e - e').toNat : Int) := by omega
  rw [he, ← scaleDown_le_iff_isAtLeast] at h
  exact Nat.le_trans (Nat.le_mul_of_pos_left _ (Nat.two_pow_pos _)) h

def floorLog (num den : Nat) : Int :=
  let e : Int := (num.log2 : Int) - den.log2
  let (a, b) := scaleDown 2 num den e
  if b ≤ a then e else e - 1

theorem isAtLeast_floorLog (num den : Nat) (hnum : num ≠ 0) :
    IsAtLeast num den (floorLog num den) := by
  unfold floorLog
  dsimp only
  split
  · assumption
  · have hlow : 2 ^ num.log2 ≤ num := Nat.log2_self_le hnum
    have hhigh : den < 2 ^ (den.log2 + 1) := Nat.lt_log2_self
    have he : (num.log2 : Int) - den.log2 - 1 = num.log2 - (den.log2 + 1 : Nat) := by omega
    rw [he, isAtLeast_iff]
    exact Nat.mul_le_mul hlow (Nat.le_of_lt hhigh)

theorem not_isAtLeast_floorLog (num den : Nat) (hden : den ≠ 0) : ¬IsAtLeast num den (floorLog num den + 1) := by
  unfold floorLog
  dsimp only
  split
  · have hhigh : num < 2 ^ (num.log2 + 1) := Nat.lt_log2_self
    have hlow : 2 ^ den.log2 ≤ den := Nat.log2_self_le hden
    have he : (num.log2 : Int) - den.log2 + 1 = (num.log2 + 1 : Nat) - den.log2 := by omega
    rw [he, isAtLeast_iff, Nat.not_le]
    exact Nat.mul_lt_mul_of_lt_of_le hhigh hlow (Nat.pos_of_ne_zero hden)
  · rw [Int.sub_add_cancel]
    assumption

/-- The exponent of the number nearest to `num / den`, before rounding. -/
def exponentOf (num den : Nat) : Int := max (floorLog num den - 52) leastExponent

def mantissaOf (num den : Nat) : Nat :=
  roundQuotient (scaleDown 2 num den (exponentOf num den)).1 (scaleDown 2 num den (exponentOf num den)).2

theorem mantissaOf_le (num den : Nat) (hden : 0 < den) : mantissaOf num den ≤ mantissaBound := by
  refine roundQuotient_le _ _ _ (scaleDown_den_pos 2 num den _ Nat.two_pos hden) (Nat.lt_of_not_le fun h => ?_)
  have hatLeast := (scaleDown_le_iff_isAtLeast num den 53 _).1 h
  exact not_isAtLeast_floorLog num den (Nat.ne_of_gt hden) (hatLeast.of_le (by unfold exponentOf; omega))

theorem leadingBit_le_mantissaOf (num den : Nat) (hnum : num ≠ 0) (hden : 0 < den)
    (h : exponentOf num den ≠ leastExponent) : leadingBit ≤ mantissaOf num den := by
  refine le_roundQuotient _ _ _ (scaleDown_den_pos 2 num den _ Nat.two_pos hden) ?_
  refine (scaleDown_le_iff_isAtLeast num den 52 _).2 ((isAtLeast_floorLog num den hnum).of_le ?_)
  unfold exponentOf at h ⊢
  omega

/-- The exponent and the mantissa after rounding, which may have reached the next power of two. -/
def carried (num den : Nat) : Nat × Int :=
  if mantissaOf num den = mantissaBound then (leadingBit, exponentOf num den + 1)
  else (mantissaOf num den, exponentOf num den)

theorem isCanonical_carried (num den : Nat) (hnum : num ≠ 0) (hden : 0 < den)
    (hgreatest : (carried num den).2 ≤ greatestExponent) :
    IsCanonical (carried num den).1 (carried num den).2 := by
  have hleast : leastExponent ≤ exponentOf num den := Int.le_max_right ..
  unfold carried at hgreatest ⊢
  split at hgreatest
  · rename_i hm
    rw [if_pos hm]
    have hbounded : leadingBit < mantissaBound := by decide
    exact ⟨hbounded, Int.le_trans hleast (Int.le_add_one (Int.le_refl _)), hgreatest, .inl (Nat.le_refl _)⟩
  · rename_i hm
    rw [if_neg hm]
    refine ⟨Nat.lt_of_le_of_ne (mantissaOf_le num den hden) hm, hleast, hgreatest, ?_⟩
    by_cases he : exponentOf num den = leastExponent
    · exact .inr he
    · exact .inl (leadingBit_le_mantissaOf num den hnum hden he)

def zero (negative : Bool) : Binary64 :=
  finite negative 0 leastExponent ⟨by decide, Int.le_refl _, by decide, .inr rfl⟩

/-- The number nearest to `num / den`, or infinity beyond the largest one. -/
def ofQuotient (negative : Bool) (num den : Nat) (hden : 0 < den) : Binary64 :=
  if hnum : num = 0 then zero negative
  else if h : greatestExponent < (carried num den).2 then infinite negative
  else finite negative _ _ (isCanonical_carried num den hnum hden (Int.not_lt.1 h))

/-- The number nearest to `digits · 10 ^ e`. Beyond 400 places on either side no rounding is needed, and
none is done. -/
def ofDecimal (negative : Bool) (digits : Nat) (e : Int) : Binary64 :=
  let places : Int := e + (Nat.toDigits 10 digits).length
  if digits = 0 ∨ places < -400 then zero negative
  else if 400 < places then infinite negative
  else
    ofQuotient negative (scaleDown 10 digits 1 (-e)).1 (scaleDown 10 digits 1 (-e)).2
      (scaleDown_den_pos 10 digits 1 (-e) (by decide) Nat.one_pos)

def signed (negative : Bool) (n : Nat) : Int := if negative then -n else n

def toInt? : Binary64 → Option Int
  | nan => none
  | infinite _ => none
  | finite s m (.ofNat q) _ => some (signed s (m * Nat.pow 2 q))
  | finite s m (.negSucc q) _ =>
    if m % Nat.pow 2 (q + 1) = 0 then some (signed s (m / Nat.pow 2 (q + 1))) else none

def isZero : Binary64 → Bool
  | finite _ 0 _ _ => true
  | _ => false

end Binary64
end DeskScript
