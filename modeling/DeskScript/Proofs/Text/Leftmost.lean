import DeskScript.Proofs.Text.Word

namespace DeskScript.Text

variable {α : Type}

/-- Behind some text stands `a`, and behind no shorter one does anything of the kind. -/
def Leftmost (At : Text → α → Prop) (a : α) : Prop :=
  ∃ before, At before a ∧ ∀ before' a', At before' a' → before.length ≤ before'.length

/-- At most one thing stands at a place. -/
def Unambiguous (At : Text → α → Prop) : Prop :=
  ∀ before before' a a', At before a → At before' a' → before.length = before'.length → a = a'

section Leftmost

variable {At At' : Text → α → Prop}

theorem leftmost_congr (h : ∀ before a, At before a ↔ At' before a) (a : α) : Leftmost At a ↔ Leftmost At' a := by
  simp only [Leftmost, h]

theorem Leftmost.not_forall {a : α} (h : Leftmost At a) : ¬∀ before a, ¬At before a := by
  obtain ⟨before, ha, -⟩ := h
  exact fun hno => hno before a ha

theorem Leftmost.unique {a a' : α} (hat : Unambiguous At) (h : Leftmost At a) (h' : Leftmost At a') : a = a' := by
  obtain ⟨before, ha, hfirst⟩ := h
  obtain ⟨before', ha', hfirst'⟩ := h'
  exact hat before before' a a' ha ha' (Nat.le_antisymm (hfirst _ _ ha') (hfirst' _ _ ha))

/-- The outcome of a search: the leftmost thing of the kind, or nothing if there is none. -/
structure Finds (At : Text → α → Prop) (found : Option α) : Prop where
  none : found = none → ∀ before a, ¬At before a
  some : ∀ a, found = some a → Leftmost At a

theorem Finds.front {a : α} (h : At [] a) : Finds At (.some a) where
  none := nofun
  some _ ha := Option.some.inj ha ▸ ⟨[], h, fun _ _ _ => Nat.zero_le _⟩

theorem Finds.behind {found : Option α} (h : Finds At found) (p : Text)
    (hat : ∀ before a, At' before a ↔ ∃ u, before = p ++ u ∧ At u a) : Finds At' found where
  none hnone before a ha := by
    obtain ⟨u, -, hu⟩ := (hat before a).1 ha
    exact h.none hnone u a hu
  some a ha := by
    obtain ⟨before, hbefore, hfirst⟩ := h.some a ha
    refine ⟨p ++ before, (hat _ a).2 ⟨before, rfl, hbefore⟩, fun before' a' ha' => ?_⟩
    obtain ⟨u, rfl, hu⟩ := (hat before' a').1 ha'
    have hle := hfirst u a' hu
    rw [List.length_append, List.length_append]
    omega

theorem Finds.congr {found : Option α} (h : Finds At found) (hat : ∀ before a, At before a ↔ At' before a) :
    Finds At' found where
  none hnone before a ha := h.none hnone before a ((hat before a).2 ha)
  some a ha := (leftmost_congr hat a).1 (h.some a ha)

theorem Finds.eq_none_iff {found : Option α} (h : Finds At found) : found = .none ↔ ∀ before a, ¬At before a := by
  refine ⟨h.none, fun hno => ?_⟩
  cases found with
  | none => rfl
  | some a => exact absurd hno (h.some a rfl).not_forall

theorem Finds.eq_some_iff {found : Option α} (h : Finds At found) (hat : Unambiguous At) (a : α) :
    found = .some a ↔ Leftmost At a := by
  refine ⟨h.some a, fun ha => ?_⟩
  cases found with
  | none => exact absurd (h.none rfl) ha.not_forall
  | some a' => rw [(h.some a' rfl).unique hat ha]

end Leftmost

/-- `m` has the result `a` on what stands behind `before`. -/
def MatchesAt (m : Text → Option α) (t before : Text) (a : α) : Prop := ∃ u, t = before ++ u ∧ m u = some a

theorem matchesAt_unambiguous (m : Text → Option α) (t : Text) : Unambiguous (MatchesAt m t) := by
  rintro before before' a a' ⟨u, rfl, ha⟩ ⟨u', ht, ha'⟩ hlength
  rw [(List.append_inj ht hlength).2, ha'] at ha
  exact (Option.some.inj ha).symm

theorem firstMatch_finds (m : Text → Option α) (t : Text) : Finds (MatchesAt m t) (firstMatch m t) := by
  induction t with
  | nil =>
    cases hm : m [] with
    | some a =>
      rw [firstMatch, hm]
      exact .front ⟨[], rfl, hm⟩
    | none =>
      rw [firstMatch, hm]
      refine ⟨fun _ before a => ?_, nofun⟩
      rintro ⟨u, hu, ha⟩
      rw [(List.append_eq_nil_iff.1 hu.symm).2, hm] at ha
      cases ha
  | cons c t ih =>
    cases hm : m (c :: t) with
    | some a =>
      rw [firstMatch, hm]
      exact .front ⟨c :: t, rfl, hm⟩
    | none =>
      rw [firstMatch, hm]
      -- Nothing matches at the front, so the places in the rest move on by one.
      refine ih.behind [c] fun before a => ⟨?_, ?_⟩
      · rintro ⟨v, hv, ha⟩
        cases before with
        | nil =>
          obtain rfl : c :: t = v := hv
          rw [hm] at ha
          cases ha
        | cons d u =>
          obtain ⟨rfl, ht⟩ := List.cons.inj hv
          exact ⟨u, rfl, v, ht, ha⟩
      · rintro ⟨u, rfl, v, rfl, ha⟩
        exact ⟨v, rfl, ha⟩

/-- Behind `before` stands a word, or the end of one, on which `m` has the result `a` with what stands behind it. -/
def FindsAt (m : Text → Text → Option α) (t before : Text) (a : α) : Prop :=
  ∃ w r, t = before ++ (w ++ r) ∧ IsName w ∧ (∀ c ∈ r.head?, isWord c = false) ∧ m w r = some a

variable (m : Text → Text → Option α)

theorem findsAt_unambiguous (t : Text) : Unambiguous (FindsAt m t) := by
  rintro before before' a a' ⟨w, r, rfl, hw, hr, ha⟩ ⟨w', r', ht, hw', hr', ha'⟩ hlength
  have hsame : w ++ r = w' ++ r' := (List.append_inj ht hlength).2
  obtain ⟨htake, hdrop⟩ := hw.takeWhile_dropWhile r hr
  obtain ⟨htake', hdrop'⟩ := hw'.takeWhile_dropWhile r' hr'
  rw [hsame, htake'] at htake
  rw [hsame, hdrop'] at hdrop
  rw [← htake, ← hdrop, ha'] at ha
  exact (Option.some.inj ha).symm

theorem not_findsAt_nil (before : Text) (a : α) : ¬FindsAt m [] before a := by
  rintro ⟨w, r, h, hw, -⟩
  exact hw.nonempty (List.append_eq_nil_iff.1 (List.append_eq_nil_iff.1 h.symm).2).1

/-- Nothing is found at a character that is none of a word. -/
theorem findsAt_cons_iff (c : Char) (t before : Text) (a : α) (hc : isWord c = false) :
    FindsAt m (c :: t) before a ↔ ∃ u, before = c :: u ∧ FindsAt m t u a := by
  constructor
  · rintro ⟨w, r, h, hw, hr, ha⟩
    cases before with
    | nil =>
      obtain ⟨d, u, rfl⟩ := List.exists_cons_of_ne_nil hw.nonempty
      obtain rfl : c = d := (List.cons.inj h).1
      rw [hw.word c (List.mem_cons_self ..)] at hc
      cases hc
    | cons d u =>
      obtain ⟨rfl, ht⟩ := List.cons.inj h
      exact ⟨u, rfl, w, r, ht, hw, hr, ha⟩
  · rintro ⟨u, rfl, w, r, rfl, hw, hr, ha⟩
    exact ⟨w, r, rfl, hw, hr, ha⟩

theorem findsAt_append_iff (w r before : Text) (a : α) (hw : IsName w) (hr : ∀ c ∈ r.head?, isWord c = false) :
    FindsAt m (w ++ r) before a ↔
      (∃ w', IsName w' ∧ w = before ++ w' ∧ m w' r = some a) ∨ ∃ u, before = w ++ u ∧ FindsAt m r u a := by
  constructor
  · rintro ⟨w', r', h, hw', hr', ha⟩
    obtain ⟨u, rfl, rfl⟩ | ⟨u, rfl, hu⟩ := List.append_eq_append_iff.1 h
    · exact .inr ⟨u, rfl, w', r', rfl, hw', hr', ha⟩
    · -- It is found inside the word, or right behind it.
      by_cases hne : u = []
      · subst hne
        exact .inr ⟨[], by simp, w', r', by simpa using hu.symm, hw', hr', ha⟩
      · have hu' : IsName u := ⟨hne, fun c hc => hw.word c (List.mem_append_right _ hc)⟩
        obtain ⟨htake, hdrop⟩ := hw'.takeWhile_dropWhile r' hr'
        obtain ⟨htake', hdrop'⟩ := hu'.takeWhile_dropWhile r hr
        rw [hu, htake'] at htake
        rw [hu, hdrop'] at hdrop
        subst htake hdrop
        exact .inl ⟨u, hu', rfl, ha⟩
  · rintro (⟨w', hw', rfl, ha⟩ | ⟨u, rfl, w', r', rfl, hw', hr', ha⟩)
    · exact ⟨w', r, List.append_assoc .., hw', hr, ha⟩
    · exact ⟨w', r', (List.append_assoc ..).symm, hw', hr', ha⟩

/-- Where it depends on what stands behind a word whether `m` has a result, it is enough to look at whole words. -/
theorem firstWord_finds (hm : ∀ w w' r, m w r = none → m w' r = none) (t : Text) :
    Finds (FindsAt m t) (firstWord m false t) := by
  induction t using wordInduction with
  | nil => exact ⟨fun _ => not_findsAt_nil m, nofun⟩
  | gap c t hc ih =>
    rw [firstWord_cons_of_not_word m false c t hc]
    exact ih.behind [c] fun before a => findsAt_cons_iff m c t before a hc
  | word w r hw hr ih =>
    rw [firstWord_append m w r hw hr]
    cases hword : m w r with
    | some a => exact .front ⟨w, r, rfl, hw, hr, hword⟩
    | none =>
      refine ih.behind w fun before a => (findsAt_append_iff m w r before a hw hr).trans (or_iff_right ?_)
      rintro ⟨w', -, -, ha⟩
      rw [hm w w' r hword] at ha
      cases ha

end DeskScript.Text
