import DeskScript.Proofs.Except
import DeskScript.Proofs.Text.Word
import DeskScript.Script.Header

namespace DeskScript

namespace Cursor

def IsGap (g : Text) : Prop := ∀ c ∈ g, isGap c = true

instance (g : Text) : Decidable (IsGap g) := List.decidableBAll _ g

/-- What can stand to the end of a line, from something that is no white space on. -/
structure IsRemainder (t : Text) : Prop where
  nonempty : t ≠ []
  head : ∀ c ∈ t.head?, Text.isBlank c = false
  line : '\n' ∉ t

/-- What can stand between parentheses, from something that is no white space on. -/
structure IsParameters (t : Text) : Prop where
  nonempty : t ≠ []
  head : ∀ c ∈ t.head?, Text.isBlank c = false
  closing : ')' ∉ t

theorem isGap_eq_false_of_isWord (c : Char) (h : Text.isWord c = true) : isGap c = false := by
  have hb : Text.isBlank c = false := Text.isBlank_eq_false_of_isWord c h
  unfold isGap
  simp only [Bool.or_eq_false_iff, decide_eq_false_iff_not]
  constructor <;> rintro rfl <;> exact absurd hb (by decide)

theorem isBlank_of_isGap (c : Char) (h : isGap c = true) : Text.isBlank c = true := by
  simp only [isGap, Bool.or_eq_true, decide_eq_true_eq] at h
  obtain rfl | rfl := h <;> decide

theorem rest_skipGap (c : Cursor) (g t : Text) (hg : IsGap g) (ht : ∀ c ∈ t.head?, isGap c = false)
    (hrest : c.rest = g ++ t) : c.skipGap.rest = t := by
  rw [skipGap, hrest]
  exact (Text.takeWhile_dropWhile_append isGap g t hg ht).2

theorem exists_token (c : Cursor) (take : Text → Option (Text × Text)) (g t token rest : Text) (hg : IsGap g)
    (ht : ∀ c ∈ t.head?, isGap c = false) (hrest : c.rest = g ++ t) (htake : take t = some (token, rest)) :
    ∃ c', c.token take = .ok (token, c') ∧ c'.rest = rest := by
  refine ⟨c.skipGap.advance token rest, ?_, rfl⟩
  unfold Cursor.token
  dsimp only
  rw [c.rest_skipGap g t hg ht hrest, htake]

theorem exists_mark (c : Cursor) (m : String) (g rest : Text) (hg : IsGap g)
    (hm : ∀ c ∈ (m.toList ++ rest).head?, isGap c = false) (hrest : c.rest = g ++ (m.toList ++ rest)) :
    ∃ c', c.mark m = .ok c' ∧ c'.rest = rest := by
  have htake : takeMark m.toList (m.toList ++ rest) = some (m.toList, rest) := by
    rw [takeMark, Text.afterPrefix?_append]
    rfl
  obtain ⟨c', hc', hr⟩ := c.exists_token (takeMark m.toList) g _ _ _ hg hm hrest htake
  refine ⟨c', ?_, hr⟩
  rw [mark, hc']
  rfl

/-- A name ends at a gap, or at what stands behind it. -/
theorem isWord_eq_false_of_gap (g t : Text) (hg : IsGap g) (ht : ∀ c ∈ t.head?, Text.isWord c = false) :
    ∀ c ∈ (g ++ t).head?, Text.isWord c = false := by
  cases g with
  | nil => exact ht
  | cons d g =>
    intro c hc
    obtain rfl : d = c := by simpa using hc
    exact Text.isWord_eq_false_of_isBlank d (isBlank_of_isGap d (hg d (List.mem_cons_self ..)))

theorem exists_word (c : Cursor) (g name rest : Text) (hg : IsGap g) (hname : Text.IsName name)
    (hr : ∀ c ∈ rest.head?, Text.isWord c = false) (hrest : c.rest = g ++ (name ++ rest)) :
    ∃ c', c.word = .ok (name, c') ∧ c'.rest = rest := by
  have hhead : ∀ c ∈ (name ++ rest).head?, isGap c = false := by
    obtain ⟨d, u, rfl⟩ := List.exists_cons_of_ne_nil hname.nonempty
    intro c hc
    obtain rfl : d = c := by simpa using hc
    exact isGap_eq_false_of_isWord d (hname.word d (List.mem_cons_self ..))
  exact c.exists_token Text.takeWord? g _ _ _ hg hhead hrest (hname.takeWord?_append rest hr)

theorem isGap_eq_false_of_not_blank (t : Text) (h : ∀ c ∈ t.head?, Text.isBlank c = false) :
    ∀ c ∈ t.head?, isGap c = false := by
  intro c hc
  cases hgap : isGap c with
  | false => rfl
  | true =>
    have hblank := h c hc
    rw [isBlank_of_isGap c hgap] at hblank
    cases hblank

theorem IsRemainder.takeRemainder_eq {t : Text} (h : IsRemainder t) : takeRemainder t = some (t, []) := by
  obtain ⟨c, u, rfl⟩ := List.exists_cons_of_ne_nil h.nonempty
  have hc : Text.isBlank c = false := h.head c rfl
  have hall : ∀ d ∈ u, decide (d ≠ '\n') = true := by
    intro d hd
    have hne : d ≠ '\n' := by
      rintro rfl
      exact h.line (List.mem_cons_of_mem _ hd)
    simpa using hne
  have htake : u.takeWhile (· ≠ '\n') = u := List.takeWhile_eq_self_iff.2 hall
  have hdrop : u.dropWhile (· ≠ '\n') = [] := List.dropWhile_eq_nil_iff.2 hall
  rw [takeRemainder, hc, htake, hdrop]
  rfl

theorem IsParameters.takeParameters_append {t : Text} (h : IsParameters t) (rest : Text) :
    takeParameters (t ++ ')' :: rest) = some (t, ')' :: rest) := by
  obtain ⟨c, u, rfl⟩ := List.exists_cons_of_ne_nil h.nonempty
  have hc : Text.isBlank c = false := h.head c rfl
  have hne : c ≠ ')' := fun he => h.closing (he ▸ List.mem_cons_self ..)
  have hu : ')' ∉ u := fun hmem => h.closing (List.mem_cons_of_mem _ hmem)
  rw [List.cons_append, takeParameters, Text.takeWhile_append_cons _ _ _ hu, Text.dropWhile_append_cons _ _ _ hu]
  simp [hc, hne]

theorem exists_remainder (c : Cursor) (g t : Text) (hg : IsGap g) (ht : IsRemainder t) (hrest : c.rest = g ++ t) :
    ∃ c', c.token takeRemainder = .ok (t, c') ∧ c'.rest = [] :=
  c.exists_token takeRemainder g t t [] hg (isGap_eq_false_of_not_blank t ht.head) hrest ht.takeRemainder_eq

theorem finish_eq_ok_iff (c : Cursor) : c.finish = .ok () ↔ IsGap c.rest := by
  have hskip : c.skipGap.rest = [] ↔ IsGap c.rest := List.dropWhile_eq_nil_iff
  rw [← hskip, finish]
  cases c.skipGap.rest <;> simp

theorem optional_eq_of_ok (c c' : Cursor) (take : Text → Option (Text × Text)) (t : Text)
    (h : c.token take = .ok (t, c')) : c.optional take = (t, c') := by
  rw [optional, h]

theorem optional_eq_none (c : Cursor) (take : Text → Option (Text × Text)) (h : take c.skipGap.rest = none) :
    c.optional take = ([], c) := by
  have htoken : c.token take = .error c.skipGap.failure := by
    unfold token
    dsimp only
    rw [h]
  rw [optional, htoken]

theorem exists_parameters (c : Cursor) (g t rest : Text) (hg : IsGap g) (ht : t = [] ∨ IsParameters t)
    (hrest : c.rest = g ++ (t ++ ')' :: rest)) :
    ∃ c' g', c.optional takeParameters = (t, c') ∧ IsGap g' ∧ c'.rest = g' ++ ')' :: rest := by
  obtain rfl | ht := ht
  · have hskip : c.skipGap.rest = ')' :: rest := c.rest_skipGap g _ hg (by simp; decide) hrest
    refine ⟨c, g, c.optional_eq_none _ ?_, hg, hrest⟩
    rw [hskip]
    rfl
  · have hhead : ∀ d ∈ (t ++ ')' :: rest).head?, isGap d = false := by
      rw [List.head?_append_of_ne_nil _ ht.nonempty]
      exact isGap_eq_false_of_not_blank t ht.head
    obtain ⟨c', hc', hr⟩ := c.exists_token takeParameters g _ t _ hg hhead hrest (ht.takeParameters_append rest)
    exact ⟨c', [], c.optional_eq_of_ok c' _ t hc', nofun, hr⟩

theorem exists_optional_remainder (c : Cursor) (g t : Text) (hg : IsGap g) (ht : t = [] ∨ IsRemainder t)
    (hrest : c.rest = g ++ t) : ∃ c', c.optional takeRemainder = (t, c') ∧ c'.finish = .ok () := by
  obtain rfl | ht := ht
  · rw [List.append_nil] at hrest
    have hskip : c.skipGap.rest = [] := List.dropWhile_eq_nil_iff.2 (hrest ▸ hg)
    refine ⟨c, c.optional_eq_none _ ?_, (c.finish_eq_ok_iff).2 (hrest ▸ hg)⟩
    rw [hskip]
    rfl
  · obtain ⟨c', hc', hr⟩ := c.exists_remainder g t hg ht hrest
    refine ⟨c', c.optional_eq_of_ok c' _ t hc', (c'.finish_eq_ok_iff).2 ?_⟩
    rw [hr]
    exact nofun

/-- What holds of a text but for a gap in front of it holds of a text without white space at its ends. -/
theorem of_exists_gap {P : Text → Prop} (t : Text) (ht : Text.strip t = t)
    (h : ∃ g t', IsGap g ∧ t = g ++ t' ∧ P t') : P t := by
  obtain ⟨g, t', hg, rfl, hP⟩ := h
  cases g with
  | nil => exact hP
  | cons c g =>
    have hc := (Text.not_blank_of_strip_eq_self _ ht).1 c rfl
    rw [isBlank_of_isGap c (hg c (List.mem_cons_self ..))] at hc
    cases hc

theorem exists_of_token_eq_ok (c c' : Cursor) (take : Text → Option (Text × Text)) (token : Text)
    (h : c.token take = .ok (token, c')) : ∃ g t, IsGap g ∧ c.rest = g ++ t ∧ take t = some (token, c'.rest) := by
  unfold Cursor.token at h
  dsimp only at h
  split at h
  · rename_i t rest hsome
    cases h
    refine ⟨c.rest.takeWhile isGap, c.rest.dropWhile isGap, ?_, List.takeWhile_append_dropWhile.symm, hsome⟩
    exact fun d hd => List.mem_takeWhile_imp hd
  · cases h

theorem exists_of_mark_eq_ok (c c' : Cursor) (m : String) (h : c.mark m = .ok c') :
    ∃ g, IsGap g ∧ c.rest = g ++ (m.toList ++ c'.rest) := by
  obtain ⟨⟨token, c''⟩, htoken, rfl⟩ := (Except.map_eq_ok_iff _ _ _).1 h
  obtain ⟨g, t, hg, hrest, htake⟩ := c.exists_of_token_eq_ok c'' _ token htoken
  obtain ⟨r, hr, he⟩ := Option.map_eq_some_iff.1 htake
  cases he
  exact ⟨g, hg, by rw [hrest, (Text.afterPrefix?_eq_some_iff _ _ _).1 hr]⟩

theorem exists_of_word_eq_ok (c c' : Cursor) (name : Text) (h : c.word = .ok (name, c')) :
    Text.IsName name ∧ ∃ g, IsGap g ∧ c.rest = g ++ (name ++ c'.rest) := by
  obtain ⟨g, t, hg, hrest, htake⟩ := c.exists_of_token_eq_ok c' _ name h
  refine ⟨Text.isName_of_takeWord? t name _ htake, g, hg, ?_⟩
  rw [hrest, Text.takeWord?_append t name _ htake]

theorem takeRemainder_eq_some (t token rest : Text) (h : takeRemainder t = some (token, rest)) :
    IsRemainder token ∧ token ++ rest = t ∧ ∀ c ∈ rest.head?, c = '\n' := by
  cases t with
  | nil => cases h
  | cons c t =>
    rw [takeRemainder, Option.ite_none_left_eq_some] at h
    obtain ⟨hc, he⟩ := h
    cases he
    have hblank : Text.isBlank c = false := by simpa using hc
    have hne : '\n' ≠ c := fun he => absurd (he ▸ hblank) (by decide)
    have hline : '\n' ∉ c :: t.takeWhile (· ≠ '\n') := by
      rw [List.mem_cons, not_or]
      exact ⟨hne, Text.notMem_takeWhile_ne '\n' t⟩
    refine ⟨⟨List.cons_ne_nil _ _, by simpa using hblank, hline⟩, ?_, Text.head?_dropWhile_ne '\n' t⟩
    rw [List.cons_append, List.takeWhile_append_dropWhile]

theorem exists_of_remainder_eq_ok (c c' : Cursor) (t : Text) (h : c.token takeRemainder = .ok (t, c'))
    (hfinish : c'.finish = .ok ()) : IsRemainder t ∧ ∃ g, IsGap g ∧ c.rest = g ++ t := by
  obtain ⟨g, u, hg, hrest, htake⟩ := c.exists_of_token_eq_ok c' _ t h
  obtain ⟨ht, rfl, hfeed⟩ := takeRemainder_eq_some u t _ htake
  refine ⟨ht, g, hg, ?_⟩
  have hend : c'.rest = [] := by
    cases hleft : c'.rest with
    | nil => rfl
    | cons d r =>
      have hgap := (c'.finish_eq_ok_iff).1 hfinish d (by rw [hleft]; exact List.mem_cons_self ..)
      rw [hfeed d (by rw [hleft]; rfl)] at hgap
      exact absurd hgap (by decide)
  rw [hrest, hend, List.append_nil]

theorem takeParameters_eq_some (t token rest : Text) (h : takeParameters t = some (token, rest)) :
    IsParameters token ∧ token ++ rest = t ∧ ∀ c ∈ rest.head?, c = ')' := by
  cases t with
  | nil => cases h
  | cons c t =>
    rw [takeParameters, Option.ite_none_left_eq_some] at h
    obtain ⟨hc, he⟩ := h
    cases he
    obtain ⟨hblank, hne⟩ : Text.isBlank c = false ∧ c ≠ ')' := by simpa using hc
    have hclosing : ')' ∉ c :: t.takeWhile (· ≠ ')') := by
      rw [List.mem_cons, not_or]
      exact ⟨hne.symm, Text.notMem_takeWhile_ne ')' t⟩
    refine ⟨⟨List.cons_ne_nil _ _, by simpa using hblank, hclosing⟩, ?_, Text.head?_dropWhile_ne ')' t⟩
    rw [List.cons_append, List.takeWhile_append_dropWhile]

/-- A part that may be left out is there, behind a gap, or the place stays as it is. -/
theorem optional_cases (c c' : Cursor) (take : Text → Option (Text × Text)) (t : Text)
    (h : c.optional take = (t, c')) : c.token take = .ok (t, c') ∨ t = [] ∧ c' = c := by
  unfold optional at h
  split at h
  · rename_i found hfound
    exact .inl (h ▸ hfound)
  · cases h
    exact .inr ⟨rfl, rfl⟩

theorem exists_of_parameters (c c' c'' : Cursor) (t : Text) (h : c.optional takeParameters = (t, c'))
    (hmark : c'.mark ")" = .ok c'') :
    (t = [] ∨ IsParameters t) ∧ ∃ g, IsGap g ∧ c.rest = g ++ (t ++ ')' :: c''.rest) := by
  obtain ⟨g', hg', hrest'⟩ := c'.exists_of_mark_eq_ok c'' _ hmark
  obtain htoken | ⟨rfl, rfl⟩ := c.optional_cases c' _ t h
  · obtain ⟨g, u, hg, hrest, htake⟩ := c.exists_of_token_eq_ok c' _ t htoken
    obtain ⟨ht, rfl, hclosing⟩ := takeParameters_eq_some u t _ htake
    -- The parameters go up to the parenthesis, so there is no gap before it.
    have hnone : g' = [] := by
      cases g' with
      | nil => rfl
      | cons d g' =>
        have hd : d = ')' := hclosing d (by rw [hrest']; rfl)
        have hgap : isGap d = true := hg' d (List.mem_cons_self ..)
        rw [hd] at hgap
        exact absurd hgap (by decide)
    refine ⟨.inr ht, g, hg, ?_⟩
    rw [hrest, hrest', hnone]
    rfl
  · exact ⟨.inl rfl, g', hg', hrest'⟩

theorem exists_of_optional_remainder (c c' : Cursor) (t : Text) (h : c.optional takeRemainder = (t, c'))
    (hfinish : c'.finish = .ok ()) : (t = [] ∨ IsRemainder t) ∧ ∃ g, IsGap g ∧ c.rest = g ++ t := by
  obtain htoken | ⟨rfl, rfl⟩ := c.optional_cases c' _ t h
  · obtain ⟨ht, hrest⟩ := c.exists_of_remainder_eq_ok c' t htoken hfinish
    exact ⟨.inr ht, hrest⟩
  · exact ⟨.inl rfl, c'.rest, (c'.finish_eq_ok_iff).1 hfinish, (List.append_nil _).symm⟩

end Cursor

end DeskScript
