import Mathlib.Data.List.Forall2

namespace Except

variable {ε ε' α β : Type}

theorem bind_eq_ok_iff (x : Except ε α) (f : α → Except ε β) (b : β) :
    x >>= f = .ok b ↔ ∃ a, x = .ok a ∧ f a = .ok b := by
  cases x <;> simp [bind, Except.bind]

theorem bind_eq_error_iff (x : Except ε α) (f : α → Except ε β) (e : ε) :
    x >>= f = .error e ↔ x = .error e ∨ ∃ a, x = .ok a ∧ f a = .error e := by
  cases x <;> simp [bind, Except.bind]

theorem map_eq_ok_iff (f : α → β) (x : Except ε α) (b : β) :
    x.map f = .ok b ↔ ∃ a, x = .ok a ∧ f a = b := by
  cases x <;> simp [Except.map]

theorem map_eq_error_iff (f : α → β) (x : Except ε α) (e : ε) : x.map f = .error e ↔ x = .error e := by
  cases x <;> simp [Except.map]

theorem mapError_eq_ok_iff (f : ε → ε') (x : Except ε α) (a : α) : x.mapError f = .ok a ↔ x = .ok a := by
  cases x with
  | error e => exact ⟨nofun, nofun⟩
  | ok b =>
    constructor <;> intro h <;> cases h <;> rfl

theorem mapError_eq_error_iff (f : ε → ε') (x : Except ε α) (e : ε') :
    x.mapError f = .error e ↔ ∃ e', x = .error e' ∧ f e' = e := by
  cases x with
  | error e' =>
    constructor
    · intro h
      cases h
      exact ⟨e', rfl, rfl⟩
    · rintro ⟨_, h, rfl⟩
      cases h
      rfl
  | ok b => exact ⟨nofun, nofun⟩

theorem pure_eq_ok_iff (a b : α) : (pure a : Except ε α) = .ok b ↔ a = b := by
  simp [pure, Except.pure]

theorem pure_ne_error (a : α) (e : ε) : (pure a : Except ε α) ≠ .error e := by
  simp [pure, Except.pure]

theorem exists_of_mapM_eq_error (f : α → Except ε β) (l : List α) (e : ε) (h : l.mapM f = .error e) :
    ∃ a ∈ l, f a = .error e := by
  induction l with
  | nil => simp [pure, Except.pure] at h
  | cons a l ih =>
    rw [List.mapM_cons, bind_eq_error_iff] at h
    obtain h | ⟨b, -, h⟩ := h
    · exact ⟨a, List.mem_cons_self .., h⟩
    · obtain h | ⟨bs, -, h⟩ := (bind_eq_error_iff _ _ _).1 h
      · obtain ⟨c, hc, hf⟩ := ih h
        exact ⟨c, List.mem_cons_of_mem _ hc, hf⟩
      · simp [pure, Except.pure] at h

theorem mapM_eq_ok_iff (f : α → Except ε β) (l : List α) (l' : List β) :
    l.mapM f = .ok l' ↔ List.Forall₂ (fun a b => f a = .ok b) l l' := by
  induction l generalizing l' with
  | nil => simp [pure, Except.pure, eq_comm]
  | cons a l ih =>
    simp only [List.mapM_cons, bind_eq_ok_iff, pure_eq_ok_iff, List.forall₂_cons_left_iff, ih]
    constructor
    · rintro ⟨b, hb, bs, hbs, rfl⟩
      exact ⟨b, bs, hb, hbs, rfl⟩
    · rintro ⟨b, bs, hb, hbs, rfl⟩
      exact ⟨b, hb, bs, hbs, rfl⟩

theorem exists_of_mem_of_mapM_eq_ok (f : α → Except ε β) (l : List α) (l' : List β) (h : l.mapM f = .ok l') (b : β)
    (hb : b ∈ l') : ∃ a ∈ l, f a = .ok b := by
  induction (mapM_eq_ok_iff f l l').1 h with
  | nil => cases hb
  | @cons a c l l' hac hrest ih =>
    obtain rfl | hb := List.mem_cons.1 hb
    · exact ⟨a, List.mem_cons_self, hac⟩
    · obtain ⟨a', ha', hf⟩ := ih ((mapM_eq_ok_iff f l l').2 hrest) hb
      exact ⟨a', List.mem_cons_of_mem _ ha', hf⟩

theorem exists_mapM_eq_error_iff (f : α → Except ε β) (l : List α) :
    (∃ e, l.mapM f = .error e) ↔ ∃ a ∈ l, ∃ e, f a = .error e := by
  constructor
  · rintro ⟨e, h⟩
    obtain ⟨a, ha, hf⟩ := exists_of_mapM_eq_error f l e h
    exact ⟨a, ha, e, hf⟩
  · rintro ⟨a, ha, e, hf⟩
    induction l with
    | nil => cases ha
    | cons b l ih =>
      rw [List.mapM_cons]
      cases hb : f b with
      | error e' => exact ⟨e', rfl⟩
      | ok b' =>
        obtain rfl | ha := List.mem_cons.1 ha
        · cases hb.symm.trans hf
        · obtain ⟨e', he'⟩ := ih ha
          exact ⟨e', by rw [he']; rfl⟩

theorem exists_ok_of_mapM_eq_ok (f : α → Except ε β) (l : List α) (l' : List β) (h : l.mapM f = .ok l') (a : α)
    (ha : a ∈ l) : ∃ b, f a = .ok b := by
  cases hf : f a with
  | ok b => exact ⟨b, rfl⟩
  | error e =>
    obtain ⟨e', he'⟩ := (exists_mapM_eq_error_iff f l).2 ⟨a, ha, e, hf⟩
    cases h.symm.trans he'

end Except
