import Mathlib.Data.Option.Basic

namespace Option.Rel

variable {α β γ δ : Type} {r : α → β → Prop} {s : γ → δ → Prop}

theorem bind {x : Option α} {y : Option β} {f : α → Option γ} {g : β → Option δ} (h : Option.Rel r x y)
    (hf : ∀ a b, r a b → Option.Rel s (f a) (g b)) : Option.Rel s (x >>= f) (y >>= g) := by
  cases h with
  | none => exact .none
  | some hab => exact hf _ _ hab

theorem isSome_eq {x : Option α} {y : Option β} (h : Option.Rel r x y) : x.isSome = y.isSome := by
  cases h <;> rfl

end Option.Rel

namespace Except

variable {ε ε' α β γ δ : Type} {r : ε → ε' → Prop} {s : α → β → Prop} {s' : γ → δ → Prop}

/-- Both succeed, or both fail, with related results or related errors. -/
inductive Rel (r : ε → ε' → Prop) (s : α → β → Prop) : Except ε α → Except ε' β → Prop where
  | ok {a : α} {b : β} (h : s a b) : Rel r s (.ok a) (.ok b)
  | error {e : ε} {e' : ε'} (h : r e e') : Rel r s (.error e) (.error e')

namespace Rel

variable {x : Except ε α} {y : Except ε' β}

theorem refl {q : ε → ε → Prop} {p : α → α → Prop} (hq : ∀ e, q e e) (hp : ∀ a, p a a)
    (x : Except ε α) : Rel q p x x := by
  cases x with
  | ok a => exact .ok (hp a)
  | error e => exact .error (hq e)

theorem bind {f : α → Except ε γ} {g : β → Except ε' δ} (h : Rel r s x y)
    (hf : ∀ a b, s a b → Rel r s' (f a) (g b)) : Rel r s' (x >>= f) (y >>= g) := by
  cases h with
  | ok hab => exact hf _ _ hab
  | error he => exact .error he

theorem map {f : α → γ} {g : β → δ} (h : Rel r s x y) (hf : ∀ a b, s a b → s' (f a) (g b)) :
    Rel r s' (x.map f) (y.map g) := by
  cases h with
  | ok hab => exact .ok (hf _ _ hab)
  | error he => exact .error he

theorem mapError {ζ ζ' : Type} {r' : ζ → ζ' → Prop} {f : ε → ζ} {g : ε' → ζ'} (h : Rel r s x y)
    (hf : ∀ e e', r e e' → r' (f e) (g e')) : Rel r' s (x.mapError f) (y.mapError g) := by
  cases h with
  | ok hab => exact .ok hab
  | error he => exact .error (hf _ _ he)

end Rel

end Except
