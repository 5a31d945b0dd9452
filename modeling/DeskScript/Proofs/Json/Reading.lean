import DeskScript.Proofs.Except
import DeskScript.Proofs.Json.Scalars
import DeskScript.Proofs.Table

namespace DeskScript.Json

theorem digitsValue_concat (digits : Text) (c : Char) :
    digitsValue (digits ++ [c]) = 10 * digitsValue digits + (c.toNat - 48) := by
  simp [digitsValue]

theorem digitsValue_lt (digits : Text) (h : ∀ c ∈ digits, c.isDigit = true) :
    digitsValue digits < 10 ^ digits.length := by
  induction digits using List.reverseRecOn with
  | nil => exact Nat.one_pos
  | append_singleton digits c ih =>
    have hc : c.toNat ≤ 57 := by
      have hdigit := h c (by simp)
      simp only [Char.isDigit, Bool.and_eq_true, decide_eq_true_eq] at hdigit
      exact hdigit.2
    have hrest := ih fun d hd => h d (by simp [hd])
    rw [digitsValue_concat, List.length_append, List.length_singleton, Nat.pow_succ]
    omega

theorem isDigit_of_readWhole? (t digits rest : Text) (h : readWhole? t = some (digits, rest)) :
    ∀ c ∈ digits, c.isDigit = true := by
  have hspan : ∀ t : Text, ∀ c ∈ (spanDigits t).1, c.isDigit = true := by
    intro t c hc
    rw [spanDigits, List.span_eq_takeWhile_dropWhile] at hc
    exact List.mem_takeWhile_imp hc
  unfold readWhole? at h
  split at h
  · cases h
    exact List.forall_mem_singleton.2 rfl
  · split at h
    · cases h
    · rename_i hdigits
      cases h
      exact fun c hc => hspan _ c (by rw [hdigits]; exact hc)

theorem canWrite_of_readMagnitude (negative : Bool) (t rest : Text) (j : Json)
    (h : readMagnitude negative t = .ok (j, rest)) : j.canWrite = true := by
  unfold readMagnitude at h
  split at h
  · cases h
  · rename_i whole t' hwhole
    dsimp only at h
    split at h
    · split at h
      · cases h
      · rename_i hlength
        cases h
        -- No more digits are needed to write the number than were there to read.
        have hvalue := digitsValue_lt whole (isDigit_of_readWhole? t whole t' hwhole)
        have habs : (Binary64.signed negative (digitsValue whole)).natAbs = digitsValue whole := by
          cases negative <;> simp [Binary64.signed]
        rw [canWrite, Text.canWrite_iff, habs]
        exact Nat.lt_of_lt_of_le hvalue (Nat.pow_le_pow_right (by decide) (Nat.le_of_not_lt hlength))
    · cases h
      rfl

theorem canWrite_of_readNumber (t rest : Text) (j : Json) (h : readNumber t = .ok (j, rest)) : j.canWrite = true := by
  unfold readNumber at h
  split at h <;> exact canWrite_of_readMagnitude _ _ _ _ h

theorem canWrite_of_readConstant? (t rest : Text) (j : Json) (h : readConstant? t = some (j, rest)) :
    j.canWrite = true := by
  obtain ⟨⟨word, i⟩, hmem, hword⟩ := List.exists_of_findSome?_eq_some h
  obtain ⟨_, -, he⟩ := Option.map_eq_some_iff.1 hword
  cases he
  simp only [constants, List.mem_cons, List.not_mem_nil, or_false, Prod.mk.injEq] at hmem
  obtain ⟨-, rfl⟩ | ⟨-, rfl⟩ | ⟨-, rfl⟩ | ⟨-, rfl⟩ | ⟨-, rfl⟩ | ⟨-, rfl⟩ := hmem <;> rfl

/-- What is read with this much fuel can be put into words again. -/
structure ReadsShort (fuel : Nat) : Prop where
  value : ∀ t j rest, readValue fuel t = .ok (j, rest) → j.canWrite = true
  items : ∀ t items rest, readItems fuel t = .ok (items, rest) → ∀ j ∈ items, j.canWrite = true
  members : ∀ t members rest, readMembers fuel t = .ok (members, rest) → ∀ m ∈ members, m.2.canWrite = true

theorem ReadsShort.succ_value {fuel : Nat} (ih : ReadsShort fuel) (t : Text) (j : Json) (rest : Text)
    (h : readValue (fuel + 1) t = .ok (j, rest)) : j.canWrite = true := by
  unfold readValue at h
  split at h
  · obtain ⟨⟨s, r⟩, -, he⟩ := (Except.map_eq_ok_iff _ _ _).1 h
    cases he
    rfl
  · split at h
    · cases h
      rfl
    · obtain ⟨⟨items, r⟩, hitems, he⟩ := (Except.map_eq_ok_iff _ _ _).1 h
      cases he
      simpa using ih.items _ _ _ hitems
  · split at h
    · cases h
      rfl
    · obtain ⟨⟨members, r⟩, hmembers, he⟩ := (Except.map_eq_ok_iff _ _ _).1 h
      cases he
      have hall : (Table.ofList members).All fun j => j.canWrite = true :=
        Table.all_ofList members (ih.members _ _ _ hmembers)
      rw [canWrite_object, List.all_eq_true]
      exact fun m hm => hall m.1 m.2 ((Table.mem_toList_iff _ _).1 hm).2
  · split at h
    · cases h
      exact canWrite_of_readConstant? _ _ _ ‹_›
    · exact canWrite_of_readNumber _ _ _ h

theorem ReadsShort.succ_items {fuel : Nat} (ih : ReadsShort fuel) (t : Text) (items : List Json) (rest : Text)
    (h : readItems (fuel + 1) t = .ok (items, rest)) : ∀ j ∈ items, j.canWrite = true := by
  unfold readItems at h
  split at h
  · cases h
  · rename_i hvalue
    have hfirst := ih.value _ _ _ hvalue
    split at h
    · cases h
      exact List.forall_mem_singleton.2 hfirst
    · obtain ⟨⟨more, r⟩, hmore, he⟩ := (Except.map_eq_ok_iff _ _ _).1 h
      cases he
      exact List.forall_mem_cons.2 ⟨hfirst, ih.items _ _ _ hmore⟩
    · cases h

theorem ReadsShort.succ_members {fuel : Nat} (ih : ReadsShort fuel) (t : Text) (members : List (Text × Json))
    (rest : Text) (h : readMembers (fuel + 1) t = .ok (members, rest)) : ∀ m ∈ members, m.2.canWrite = true := by
  unfold readMembers at h
  split at h
  · split at h
    · cases h
    · split at h
      · split at h
        · cases h
        · rename_i hvalue
          have hfirst := ih.value _ _ _ hvalue
          split at h
          · cases h
            exact List.forall_mem_singleton.2 hfirst
          · obtain ⟨⟨more, r⟩, hmore, he⟩ := (Except.map_eq_ok_iff _ _ _).1 h
            cases he
            exact List.forall_mem_cons.2 ⟨hfirst, ih.members _ _ _ hmore⟩
          · cases h
      · cases h
  · cases h

theorem readsShort (fuel : Nat) : ReadsShort fuel := by
  induction fuel with
  | zero => exact ⟨nofun, nofun, nofun⟩
  | succ fuel ih => exact ⟨ih.succ_value, ih.succ_items, ih.succ_members⟩

/-- No number that is read is too long to be written. -/
theorem canWrite_of_read (t : Text) (j : Json) (h : read t = .ok j) : j.canWrite = true := by
  unfold read at h
  split at h
  · cases h
  · rename_i hvalue
    split at h
    · cases h
      exact (readsShort _).value _ _ _ hvalue
    · cases h

end DeskScript.Json
