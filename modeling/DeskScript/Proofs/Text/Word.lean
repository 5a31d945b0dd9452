import DeskScript.Proofs.Text.Blank
import DeskScript.Script.Shape

namespace DeskScript.Text

/-- A nonempty run of name characters. -/
structure IsName (w : Text) : Prop where
  nonempty : w ≠ []
  word : ∀ c ∈ w, isWord c = true

instance (w : Text) : Decidable (IsName w) :=
  decidable_of_iff (w ≠ [] ∧ w.all isWord = true)
    ⟨fun h => ⟨h.1, List.all_eq_true.1 h.2⟩, fun h => ⟨h.nonempty, List.all_eq_true.2 h.word⟩⟩

namespace IsName

variable {w : Text}

theorem notMem (h : IsName w) (c : Char) (hc : isWord c = false) : c ∉ w := by
  intro hmem
  rw [h.word c hmem] at hc
  cases hc

theorem takeWhile_dropWhile (h : IsName w) (r : Text) (hr : ∀ c ∈ r.head?, isWord c = false) :
    (w ++ r).takeWhile isWord = w ∧ (w ++ r).dropWhile isWord = r :=
  takeWhile_dropWhile_append isWord w r h.word hr

theorem takeWord?_append (h : IsName w) (r : Text) (hr : ∀ c ∈ r.head?, isWord c = false) :
    takeWord? (w ++ r) = some (w, r) := by
  obtain ⟨htake, hdrop⟩ := h.takeWhile_dropWhile r hr
  obtain ⟨c, u, rfl⟩ := List.exists_cons_of_ne_nil h.nonempty
  unfold takeWord?
  rw [htake, hdrop]

theorem startsWith_eq_false {p : Text} (h : IsName w) (hp : IsName p) (c d : Char) (p' r : Text) (hne : c ≠ d)
    (hc : isWord c = false) (hd : isWord d = false) : startsWith (p ++ c :: p') (w ++ d :: r) = false := by
  rw [← Bool.not_eq_true, startsWith_iff_isPrefix]
  rintro ⟨u, hu⟩
  have hp' := (hp.takeWhile_dropWhile (c :: (p' ++ u)) (by simpa using hc)).2
  have hw := (h.takeWhile_dropWhile (d :: r) (by simpa using hd)).2
  have hsame : p ++ c :: (p' ++ u) = w ++ d :: r := by simpa using hu
  rw [hsame, hw] at hp'
  exact hne (List.cons.inj hp').1.symm

end IsName

theorem isName_of_takeWord? (t w rest : Text) (h : takeWord? t = some (w, rest)) : IsName w := by
  unfold takeWord? at h
  split at h
  · cases h
  · cases h
    exact ⟨‹_›, fun c hc => List.mem_takeWhile_imp hc⟩

theorem firstWord_inWord {α : Type} (m : Text → Text → Option α) (w r : Text) (hw : ∀ c ∈ w, isWord c = true)
    (hr : ∀ c ∈ r.head?, isWord c = false) : firstWord m true (w ++ r) = firstWord m false r := by
  induction w with
  | nil =>
    cases r with
    | nil => rfl
    | cons c r =>
      have hc : isWord c = false := hr c rfl
      simp [firstWord, hc]
  | cons c w ih =>
    have hc : isWord c = true := hw c (List.mem_cons_self ..)
    rw [List.cons_append, firstWord, if_neg (by simp [hc]), if_pos rfl]
    exact ih fun d hd => hw d (List.mem_cons_of_mem _ hd)

theorem firstWord_append {α : Type} (m : Text → Text → Option α) (w r : Text) (hw : IsName w)
    (hr : ∀ c ∈ r.head?, isWord c = false) :
    firstWord m false (w ++ r) = (m w r).or (firstWord m false r) := by
  obtain ⟨htake, hdrop⟩ := hw.takeWhile_dropWhile r hr
  obtain ⟨c, u, rfl⟩ := List.exists_cons_of_ne_nil hw.nonempty
  have hc : isWord c = true := hw.word c (List.mem_cons_self ..)
  have hu : ∀ d ∈ u, isWord d = true := fun d hd => hw.word d (List.mem_cons_of_mem _ hd)
  rw [List.cons_append, List.takeWhile_cons_of_pos hc, List.cons.injEq] at htake
  rw [List.cons_append, List.dropWhile_cons_of_pos hc] at hdrop
  rw [List.cons_append, firstWord, if_neg (by simp [hc]), if_neg (by simp), htake.2, hdrop,
    firstWord_inWord m u r hu hr]
  cases m (c :: u) r <;> rfl

theorem firstWord_cons_of_not_word {α : Type} (m : Text → Text → Option α) (inWord : Bool) (c : Char) (r : Text)
    (hc : isWord c = false) : firstWord m inWord (c :: r) = firstWord m false r := by
  rw [firstWord, if_pos (by simp [hc])]

/-- A text is gone through word by word: a character that is none of a word, or a whole word, stands at its front. -/
@[elab_as_elim]
theorem wordInduction {motive : Text → Prop} (nil : motive [])
    (gap : ∀ c t, isWord c = false → motive t → motive (c :: t))
    (word : ∀ w r, IsName w → (∀ c ∈ r.head?, isWord c = false) → motive r → motive (w ++ r)) (t : Text) :
    motive t := by
  match t with
  | [] => exact nil
  | c :: t =>
    cases hc : isWord c with
    | false => exact gap c t hc (wordInduction nil gap word t)
    | true =>
      have hname : IsName (c :: t.takeWhile isWord) := by
        refine ⟨List.cons_ne_nil _ _, fun d hd => ?_⟩
        obtain rfl | hd := List.mem_cons.1 hd
        · exact hc
        · exact List.mem_takeWhile_imp hd
      have hend : ∀ d ∈ (t.dropWhile isWord).head?, isWord d = false := by
        intro d hd
        have hstop := List.head?_dropWhile_not isWord t
        rw [Option.mem_def.1 hd] at hstop
        simpa using hstop
      have hsmaller : (t.dropWhile isWord).length < (c :: t).length :=
        Nat.lt_succ_of_le (List.dropWhile_suffix _).length_le
      have h := word _ _ hname hend (wordInduction nil gap word (t.dropWhile isWord))
      rwa [List.cons_append, List.takeWhile_append_dropWhile] at h
termination_by t.length
decreasing_by
  · exact Nat.lt_succ_self _
  · exact hsmaller

@[simp] theorem afterPrefix?_append (p r : Text) : afterPrefix? p (p ++ r) = some r :=
  (afterPrefix?_eq_some_iff _ _ _).2 rfl

theorem upToClose?_append (t r : Text) (h : ')' ∉ t) : upToClose? (t ++ ')' :: r) = some (t, r) := by
  unfold upToClose?
  rw [dropWhile_append_cons _ _ _ h, takeWhile_append_cons _ _ _ h]

theorem upToClose?_eq_some_iff (t inside rest : Text) :
    upToClose? t = some (inside, rest) ↔ ')' ∉ inside ∧ t = inside ++ ')' :: rest := by
  constructor
  · intro h
    unfold upToClose? at h
    split at h
    · cases h
    · rename_i c rest hdrop
      cases h
      obtain rfl : c = ')' := head?_dropWhile_ne ')' t c (by rw [hdrop]; rfl)
      refine ⟨notMem_takeWhile_ne _ t, ?_⟩
      rw [← hdrop, List.takeWhile_append_dropWhile]
  · rintro ⟨hinside, rfl⟩
    exact upToClose?_append inside rest hinside

end DeskScript.Text

namespace DeskScript.Shape

open Text

theorem callAfter?_eq (name group action arguments rest : Text) (hgroup : IsName group) (haction : IsName action)
    (harguments : ')' ∉ arguments) :
    callAfter? name ('.' :: (group ++ ':' :: (action ++ '(' :: (arguments ++ ')' :: rest)))) =
      some ⟨name, group, action, arguments⟩ := by
  have hdot : ∀ t : Text, afterPrefix? ['.'] ('.' :: t) = some t := fun t => afterPrefix?_append ['.'] t
  have hcolon : ∀ t : Text, afterPrefix? [':'] (':' :: t) = some t := fun t => afterPrefix?_append [':'] t
  have hopen : ∀ t : Text, afterPrefix? ['('] ('(' :: t) = some t := fun t => afterPrefix?_append ['('] t
  have hgroup' := fun t : Text => hgroup.takeWord?_append (':' :: t) (by simp; decide)
  have haction' := fun t : Text => haction.takeWord?_append ('(' :: t) (by simp; decide)
  simp only [callAfter?, hdot, hgroup', hcolon, haction', hopen, upToClose?_append _ _ harguments,
    Option.bind_eq_bind, Option.bind_some, Option.pure_def]

theorem callAfter?_eq_some_iff (name t : Text) (c : Call) :
    callAfter? name t = some c ↔ c.name = name ∧ IsName c.group ∧ IsName c.action ∧ ')' ∉ c.arguments ∧
      ∃ rest, t = '.' :: (c.group ++ ':' :: (c.action ++ '(' :: (c.arguments ++ ')' :: rest))) := by
  constructor
  · intro h
    simp only [callAfter?, Option.bind_eq_bind, Option.bind_eq_some_iff, Option.pure_def, Option.some.injEq] at h
    obtain ⟨t₁, h₁, ⟨group, t₂⟩, h₂, t₃, h₃, ⟨action, t₄⟩, h₄, t₅, h₅, ⟨arguments, t₆⟩, h₆, rfl⟩ := h
    obtain ⟨harguments, ht₅⟩ := (upToClose?_eq_some_iff _ _ _).1 h₆
    refine ⟨rfl, isName_of_takeWord? _ _ _ h₂, isName_of_takeWord? _ _ _ h₄, harguments, t₆, ?_⟩
    have ht : t = ['.'] ++ t₁ := (afterPrefix?_eq_some_iff _ _ _).1 h₁
    have ht₂ : t₂ = [':'] ++ t₃ := (afterPrefix?_eq_some_iff _ _ _).1 h₃
    have ht₄ : t₄ = ['('] ++ t₅ := (afterPrefix?_eq_some_iff _ _ _).1 h₅
    rw [ht, ← takeWord?_append _ _ _ h₂, ht₂, ← takeWord?_append _ _ _ h₄, ht₄, ht₅]
    rfl
  · rintro ⟨rfl, hgroup, haction, harguments, rest, rfl⟩
    exact callAfter?_eq c.name c.group c.action c.arguments rest hgroup haction harguments

theorem call?_eq (name group action arguments rest : Text) (hname : IsName name) (hgroup : IsName group)
    (haction : IsName action) (harguments : ')' ∉ arguments) :
    call? (name ++ '.' :: (group ++ ':' :: (action ++ '(' :: (arguments ++ ')' :: rest)))) =
      some ⟨name, group, action, arguments⟩ := by
  rw [call?, firstWord_append _ _ _ hname (by simp; decide), callAfter?_eq _ _ _ _ _ hgroup haction harguments]
  rfl

namespace Call

def write (c : Call) : Text := c.name ++ '.' :: (c.group ++ ':' :: (c.action ++ '(' :: (c.arguments ++ [')'])))

variable (c : Call)

theorem call?_write (hname : IsName c.name) (hgroup : IsName c.group) (haction : IsName c.action)
    (harguments : ')' ∉ c.arguments) : call? c.write = some c :=
  call?_eq c.name c.group c.action c.arguments [] hname hgroup haction harguments

theorem strip_write (hname : IsName c.name) : strip c.write = c.write := by
  have hlast : c.write = (c.name ++ '.' :: (c.group ++ ':' :: (c.action ++ '(' :: c.arguments))) ++ [')'] := by
    simp only [write, List.append_assoc, List.cons_append]
  rw [hlast]
  refine strip_append_eq_self _ _ (by simp) ?_ (List.cons_ne_nil _ _) (by decide)
  rw [List.head?_append_of_ne_nil _ hname.nonempty]
  exact fun d hd => isBlank_eq_false_of_isWord d (hname.word d (List.mem_of_mem_head? hd))

end Call

end DeskScript.Shape
