import DeskScript.Proofs.Rel
import DeskScript.Proofs.Text.Blank
import DeskScript.Script.Shape

namespace DeskScript

namespace Text

/-- White space with a line feed in it may be other white space with a line feed in it; all else is the same. -/
inductive Respaced : Text → Text → Prop where
  | nil : Respaced [] []
  | char (c : Char) {t t' : Text} (h : Respaced t t') : Respaced (c :: t) (c :: t')
  | gap {g g' t t' : Text} (hg : isBlankLine g = true) (hg' : isBlankLine g' = true) (hn : '\n' ∈ g)
      (hn' : '\n' ∈ g') (h : Respaced t t') : Respaced (g ++ t) (g' ++ t')

namespace Respaced

variable {t t' u u' : Text}

theorem refl (t : Text) : Respaced t t := by
  induction t with
  | nil => exact .nil
  | cons c t ih => exact .char c ih

theorem append (h : Respaced t t') (hu : Respaced u u') : Respaced (t ++ u) (t' ++ u') := by
  induction h with
  | nil => exact hu
  | char c _ ih => exact .char c ih
  | gap hg hg' hn hn' _ ih =>
    rw [List.append_assoc, List.append_assoc]
    exact .gap hg hg' hn hn' ih

theorem reverse (h : Respaced t t') : Respaced t.reverse t'.reverse := by
  induction h with
  | nil => exact .nil
  | char c _ ih =>
    rw [List.reverse_cons, List.reverse_cons]
    exact ih.append (.refl [c])
  | gap hg hg' hn hn' _ ih =>
    rename_i g g' t t' _
    have hgap : Respaced (g.reverse ++ []) (g'.reverse ++ []) :=
      .gap (by rwa [isBlankLine_reverse]) (by rwa [isBlankLine_reverse]) (List.mem_reverse.2 hn)
        (List.mem_reverse.2 hn') .nil
    rw [List.append_nil, List.append_nil] at hgap
    rw [List.reverse_append, List.reverse_append]
    exact ih.append hgap

theorem eq_or_mem (h : Respaced t t') : t = t' ∨ '\n' ∈ t ∧ '\n' ∈ t' := by
  induction h with
  | nil => exact .inl rfl
  | char c _ ih =>
    obtain rfl | ⟨hn, hn'⟩ := ih
    · exact .inl rfl
    · exact .inr ⟨List.mem_cons_of_mem _ hn, List.mem_cons_of_mem _ hn'⟩
  | gap _ _ hn hn' => exact .inr ⟨List.mem_append_left _ hn, List.mem_append_left _ hn'⟩

theorem exists_cons_of_gap {g : Text} (hg : isBlankLine g = true) (hn : '\n' ∈ g) :
    ∃ c u, g = c :: u ∧ isBlank c = true := by
  obtain ⟨c, u, rfl⟩ := List.exists_cons_of_ne_nil (List.ne_nil_of_mem hn)
  exact ⟨c, u, rfl, ((isBlankLine_cons c u).1 hg).1⟩

theorem isEmpty_eq (h : Respaced t t') : t.isEmpty = t'.isEmpty := by
  cases h with
  | nil => rfl
  | char => rfl
  | @gap g g' u u' hg hg' hn hn' h =>
    obtain ⟨c, v, rfl, -⟩ := exists_cons_of_gap hg hn
    obtain ⟨c', v', rfl, -⟩ := exists_cons_of_gap hg' hn'
    rfl

theorem filter (p : Char → Bool) (hp : ∀ c, isBlank c = true → p c = true) (h : Respaced t t') :
    Respaced (t.filter p) (t'.filter p) := by
  have hall : ∀ g : Text, isBlankLine g = true → g.filter p = g := by
    intro g hg
    exact List.filter_eq_self.2 fun c hc => hp c (List.all_eq_true.1 hg c hc)
  induction h with
  | nil => exact .nil
  | char c _ ih =>
    rw [List.filter_cons, List.filter_cons]
    split
    · exact .char c ih
    · exact ih
  | gap hg hg' hn hn' _ ih =>
    rw [List.filter_append, List.filter_append, hall _ hg, hall _ hg']
    exact .gap hg hg' hn hn' ih

theorem takeWhile_dropWhile (p : Char → Bool) (hp : ∀ c, isBlank c = true → p c = true)
    (h : Respaced t t') :
    Respaced (t.takeWhile p) (t'.takeWhile p) ∧ Respaced (t.dropWhile p) (t'.dropWhile p) := by
  have hall : ∀ g : Text, isBlankLine g = true → ∀ c ∈ g, p c = true := by
    intro g hg c hc
    exact hp c (List.all_eq_true.1 hg c hc)
  induction h with
  | nil => exact ⟨.nil, .nil⟩
  | char c h ih =>
    rw [List.takeWhile_cons, List.takeWhile_cons, List.dropWhile_cons, List.dropWhile_cons]
    split
    · exact ⟨.char c ih.1, ih.2⟩
    · exact ⟨.nil, .char c h⟩
  | gap hg hg' hn hn' _ ih =>
    rw [List.takeWhile_append_of_pos (hall _ hg), List.takeWhile_append_of_pos (hall _ hg'),
      List.dropWhile_append_of_pos (hall _ hg), List.dropWhile_append_of_pos (hall _ hg')]
    exact ⟨.gap hg hg' hn hn' ih.1, ih.2⟩

theorem takeWhile_eq_dropWhile (p : Char → Bool) (hp : ∀ c, isBlank c = true → p c = false)
    (h : Respaced t t') :
    t.takeWhile p = t'.takeWhile p ∧ Respaced (t.dropWhile p) (t'.dropWhile p) := by
  have hstop : ∀ g u : Text, isBlankLine g = true → '\n' ∈ g →
      (g ++ u).takeWhile p = [] ∧ (g ++ u).dropWhile p = g ++ u := by
    intro g u hg hn
    cases g with
    | nil => cases hn
    | cons c g =>
      have hc : p c = false := hp c (List.all_eq_true.1 hg c (List.mem_cons_self ..))
      simp [hc]
  induction h with
  | nil => exact ⟨rfl, .nil⟩
  | char c h ih =>
    rw [List.takeWhile_cons, List.takeWhile_cons, List.dropWhile_cons, List.dropWhile_cons, ih.1]
    split
    · exact ⟨rfl, ih.2⟩
    · exact ⟨rfl, .char c h⟩
  | gap hg hg' hn hn' h =>
    rw [(hstop _ _ hg hn).1, (hstop _ _ hg' hn').1, (hstop _ _ hg hn).2, (hstop _ _ hg' hn').2]
    exact ⟨rfl, .gap hg hg' hn hn' h⟩

theorem trimStart (h : Respaced t t') : Respaced (trimStart t) (Text.trimStart t') := by
  induction h with
  | nil => exact .nil
  | char c h ih =>
    unfold Text.trimStart at ih ⊢
    rw [List.dropWhile_cons, List.dropWhile_cons]
    split
    · exact ih
    · exact .char c h
  | gap hg hg' _ _ _ ih =>
    rw [trimStart_append_of_blank _ _ hg, trimStart_append_of_blank _ _ hg']
    exact ih

theorem strip (h : Respaced t t') : Respaced (strip t) (Text.strip t') :=
  h.trimStart.reverse.trimStart.reverse

theorem unquote (h : Respaced t t') : Respaced (unquote t) (Text.unquote t') := by
  apply h.filter
  intro c hc
  have hquote : c ≠ '"' ∧ c ≠ '\'' := by
    constructor <;> rintro rfl <;> exact absurd hc (by decide)
  simp [hquote.1, hquote.2]

theorem dropWhile_ne (c : Char) (hc : isBlank c = false) (h : Respaced t t') :
    (t.dropWhile (· ≠ c) = [] ∧ t'.dropWhile (· ≠ c) = []) ∨
      ∃ r r', t.dropWhile (· ≠ c) = c :: r ∧ t'.dropWhile (· ≠ c) = c :: r' ∧ Respaced r r' := by
  have hgap : ∀ g u : Text, isBlankLine g = true → (g ++ u).dropWhile (· ≠ c) = u.dropWhile (· ≠ c) := by
    intro g u hg
    apply List.dropWhile_append_of_pos
    intro d hd
    have hb : isBlank d = true := List.all_eq_true.1 hg d hd
    have hne : d ≠ c := by
      rintro rfl
      rw [hc] at hb
      cases hb
    simpa using hne
  induction h with
  | nil => exact .inl ⟨rfl, rfl⟩
  | char d h ih =>
    by_cases hd : d = c
    · subst hd
      refine .inr ⟨_, _, ?_, ?_, h⟩ <;> simp
    · rw [List.dropWhile_cons_of_pos (by simpa using hd), List.dropWhile_cons_of_pos (by simpa using hd)]
      exact ih
  | gap hg hg' _ _ _ ih =>
    rw [hgap _ _ hg, hgap _ _ hg']
    exact ih

theorem afterPrefix? (p : Text) (hp : ∀ c ∈ p, isBlank c = false) (h : Respaced t t') :
    Option.Rel Respaced (afterPrefix? p t) (Text.afterPrefix? p t') := by
  induction p generalizing t t' with
  | nil => exact .some h
  | cons c p ih =>
    have hc : isBlank c = false := hp c (List.mem_cons_self ..)
    have hgap : ∀ g u : Text, isBlankLine g = true → '\n' ∈ g → Text.afterPrefix? (c :: p) (g ++ u) = none := by
      intro g u hg hn
      obtain ⟨d, v, rfl, hd⟩ := exists_cons_of_gap hg hn
      have hne : c ≠ d := by
        rintro rfl
        rw [hc] at hd
        cases hd
      rw [List.cons_append, Text.afterPrefix?, if_neg hne]
    cases h with
    | nil => exact .none
    | char d h =>
      rw [Text.afterPrefix?, Text.afterPrefix?]
      split
      · exact ih (fun e he => hp e (List.mem_cons_of_mem _ he)) h
      · exact .none
    | gap hg hg' hn hn' =>
      rw [hgap _ _ hg hn, hgap _ _ hg' hn']
      exact .none

theorem cutAt? (c : Char) (hc : isBlank c = false) (h : Respaced t t') :
    Option.Rel (fun p q => Respaced p.2 q.2) (cutAt? [c] t) (Text.cutAt? [c] t') := by
  rw [cutAt?_singleton, cutAt?_singleton]
  obtain ⟨ht, ht'⟩ | ⟨r, r', ht, ht', hr⟩ := h.dropWhile_ne c hc
  · rw [ht, ht']
    exact .none
  · rw [ht, ht']
    exact .some hr

theorem beforeLast? (c : Char) (hc : isBlank c = false) (h : Respaced t t') :
    Option.Rel Respaced (beforeLast? c t) (Text.beforeLast? c t') := by
  unfold Text.beforeLast?
  obtain ⟨ht, ht'⟩ | ⟨r, r', ht, ht', hr⟩ := h.reverse.dropWhile_ne c hc
  · rw [ht, ht']
    exact .none
  · rw [ht, ht']
    exact .some hr.reverse

theorem upToClose? (h : Respaced t t') :
    Option.Rel (fun p q => Respaced p.1 q.1 ∧ Respaced p.2 q.2) (upToClose? t) (Text.upToClose? t') := by
  have htake : Respaced (t.takeWhile (· ≠ ')')) (t'.takeWhile (· ≠ ')')) := by
    refine (h.takeWhile_dropWhile _ fun c hc => ?_).1
    have hne : c ≠ ')' := by
      rintro rfl
      exact absurd hc (by decide)
    simpa using hne
  unfold Text.upToClose?
  obtain ⟨ht, ht'⟩ | ⟨r, r', ht, ht', hr⟩ := h.dropWhile_ne ')' (by decide)
  · rw [ht, ht']
    exact .none
  · rw [ht, ht']
    exact .some ⟨htake, hr⟩

theorem takeWord? (h : Respaced t t') :
    Option.Rel (fun p q => p.1 = q.1 ∧ Respaced p.2 q.2) (takeWord? t) (Text.takeWord? t') := by
  obtain ⟨htake, hdrop⟩ := h.takeWhile_eq_dropWhile isWord isWord_eq_false_of_isBlank
  unfold Text.takeWord?
  rw [← htake]
  split
  · exact .none
  · exact .some ⟨rfl, hdrop⟩

theorem firstWord_append_of_blank {α : Type} (m : Text → Text → Option α) (inWord : Bool) (g t : Text)
    (hg : isBlankLine g = true) (hn : '\n' ∈ g) : firstWord m inWord (g ++ t) = firstWord m false t := by
  have hskip : ∀ g : Text, isBlankLine g = true → firstWord m false (g ++ t) = firstWord m false t := by
    intro g hg
    induction g with
    | nil => rfl
    | cons c g ih =>
      obtain ⟨hc, hg'⟩ := (isBlankLine_cons c g).1 hg
      rw [List.cons_append, firstWord, if_pos (by simp [isWord_eq_false_of_isBlank c hc]), ih hg']
  obtain ⟨c, u, rfl, hc⟩ := exists_cons_of_gap hg hn
  have hu : isBlankLine u = true := ((isBlankLine_cons c u).1 hg).2
  rw [List.cons_append, firstWord, if_pos (by simp [isWord_eq_false_of_isBlank c hc]), hskip u hu]

theorem firstWord {α : Type} (m : Text → Text → Option α) (R : α → α → Prop)
    (hm : ∀ w t t', Respaced t t' → Option.Rel R (m w t) (m w t')) (inWord : Bool) (h : Respaced t t') :
    Option.Rel R (firstWord m inWord t) (Text.firstWord m inWord t') := by
  induction h generalizing inWord with
  | nil => exact .none
  | @char c t t' h ih =>
    obtain ⟨htake, hdrop⟩ := h.takeWhile_eq_dropWhile isWord isWord_eq_false_of_isBlank
    have hrel := hm (c :: t.takeWhile isWord) _ _ hdrop
    rw [Text.firstWord, Text.firstWord, ← htake]
    split
    · exact ih false
    · split
      · exact ih true
      · cases hm : m (c :: t.takeWhile isWord) (t.dropWhile isWord) <;>
          cases hm' : m (c :: t.takeWhile isWord) (t'.dropWhile isWord) <;> rw [hm, hm'] at hrel
        · exact ih true
        · cases hrel
        · cases hrel
        · cases hrel with
          | some hab => exact .some hab
  | gap hg hg' hn hn' _ ih =>
    rw [firstWord_append_of_blank _ _ _ _ hg hn, firstWord_append_of_blank _ _ _ _ hg' hn']
    exact ih false

end Respaced

/-- The lines of a text that are not blank, without the white space around them. -/
def saidLines (t : Text) : List Text := ((splitOn '\n' t).filter fun l => !isBlankLine l).map strip

theorem saidLines_append_cons (a b : Text) : saidLines (a ++ '\n' :: b) = saidLines a ++ saidLines b := by
  simp only [saidLines, splitOn_append_cons, List.filter_append, List.map_append]

theorem saidLines_eq (l : Text) (h : '\n' ∉ l) : saidLines l = if isBlankLine l then [] else [strip l] := by
  rw [saidLines, splitOn_of_notMem _ _ h]
  cases hl : isBlankLine l <;> simp [hl]

theorem saidLines_joinWith (lines : List Text) (hne : ∀ l ∈ lines, l ≠ []) (hstrip : ∀ l ∈ lines, strip l = l)
    (hn : ∀ l ∈ lines, '\n' ∉ l) : saidLines (joinWith ['\n'] lines) = lines := by
  have hsaid : ∀ l ∈ lines, (!isBlankLine l) = true := by
    intro l hl
    rw [Bool.not_eq_true', ← Bool.not_eq_true, ← strip_eq_nil_iff, hstrip l hl]
    exact hne l hl
  cases lines with
  | nil => rfl
  | cons l lines =>
    rw [saidLines, splitOn_joinWith _ _ _ hn, List.filter_eq_self.2 hsaid]
    exact (List.map_congr_left hstrip).trans (List.map_id' _)

theorem saidLines_append_left (g t : Text) (hg : isBlankLine g = true) : saidLines (g ++ t) = saidLines t := by
  induction g with
  | nil => rfl
  | cons c g ih =>
    obtain ⟨hc, hg'⟩ := (isBlankLine_cons c g).1 hg
    rw [List.cons_append, ← ih hg']
    by_cases hn : c = '\n'
    · subst hn
      exact saidLines_append_cons [] (g ++ t)
    · -- The character goes to the front of the first line.
      obtain ⟨p, ps, hp⟩ := List.exists_cons_of_ne_nil (splitOn_ne_nil '\n' (g ++ t))
      have hblank : isBlankLine (c :: p) = isBlankLine p := by simp [isBlankLine, hc]
      have hstrip : strip (c :: p) = strip p := strip_append_left [c] p (by simp [isBlankLine, hc])
      simp only [saidLines, splitOn, hn, if_false, hp, List.filter_cons, hblank]
      cases isBlankLine p <;> simp [hstrip]

theorem saidLines_append_gap (p g t : Text) (hp : '\n' ∉ p) (hg : isBlankLine g = true) (hn : '\n' ∈ g) :
    saidLines (p ++ (g ++ t)) = saidLines p ++ saidLines t := by
  obtain ⟨a, b, rfl, ha⟩ := List.eq_append_cons_of_mem hn
  rw [isBlankLine_append, Bool.and_eq_true] at hg
  have hb : isBlankLine b = true := ((isBlankLine_cons _ _).1 hg.2).2
  have hblank : isBlankLine (p ++ a) = isBlankLine p := by rw [isBlankLine_append, hg.1, Bool.and_true]
  have hfirst : saidLines (p ++ a) = saidLines p := by
    rw [saidLines_eq (p ++ a) (by simp [hp, ha]), saidLines_eq p hp, hblank, strip_append_right p a hg.1]
  have hsplit : p ++ (a ++ '\n' :: b ++ t) = (p ++ a) ++ '\n' :: (b ++ t) := by simp
  rw [hsplit, saidLines_append_cons, hfirst, saidLines_append_left b t hb]

theorem Respaced.saidLines {t t' : Text} (h : Respaced t t') : saidLines t = Text.saidLines t' := by
  -- What stands on the line before is carried along.
  suffices hall : ∀ p : Text, '\n' ∉ p → Text.saidLines (p ++ t) = Text.saidLines (p ++ t') from
    hall [] List.not_mem_nil
  induction h with
  | nil => exact fun _ _ => rfl
  | @char c t t' h ih =>
    intro p hp
    by_cases hc : c = '\n'
    · subst hc
      have hrest : Text.saidLines t = Text.saidLines t' := ih [] List.not_mem_nil
      rw [saidLines_append_cons, saidLines_append_cons, hrest]
    · have hp' : '\n' ∉ p ++ [c] := by simp [hp, Ne.symm hc]
      have hrest := ih (p ++ [c]) hp'
      rwa [List.append_assoc, List.append_assoc] at hrest
  | @gap g g' t t' hg hg' hn hn' h ih =>
    intro p hp
    have hrest : Text.saidLines t = Text.saidLines t' := ih [] List.not_mem_nil
    rw [saidLines_append_gap p g t hp hg hn, saidLines_append_gap p g' t' hp hg' hn', hrest]

end Text

namespace Shape

open Text (Respaced)

structure Call.Respaced (call call' : Call) : Prop where
  name : call.name = call'.name
  group : call.group = call'.group
  action : call.action = call'.action
  arguments : Text.Respaced call.arguments call'.arguments

theorem callAfter?_respaced (name : Text) {t t' : Text} (h : Respaced t t') :
    Option.Rel Call.Respaced (callAfter? name t) (callAfter? name t') := by
  refine (h.afterPrefix? ['.'] (List.forall_mem_singleton.2 (by decide))).bind fun t t' h => ?_
  refine h.takeWord?.bind fun ⟨group, t⟩ ⟨group', t'⟩ ⟨hgroup, h⟩ => ?_
  refine (h.afterPrefix? [':'] (List.forall_mem_singleton.2 (by decide))).bind fun t t' h => ?_
  refine h.takeWord?.bind fun ⟨action, t⟩ ⟨action', t'⟩ ⟨haction, h⟩ => ?_
  refine (h.afterPrefix? ['('] (List.forall_mem_singleton.2 (by decide))).bind fun t t' h => ?_
  refine h.upToClose?.bind fun ⟨arguments, _⟩ ⟨arguments', _⟩ ⟨harguments, _⟩ => ?_
  exact .some ⟨rfl, hgroup, haction, harguments⟩

theorem nonempty?_respaced {t t' : Text} (h : Respaced t t') :
    Option.Rel Respaced (Text.nonempty? t) (Text.nonempty? t') := by
  unfold Text.nonempty?
  rw [h.isEmpty_eq]
  split
  · exact .none
  · exact .some h

theorem findAfter?_respaced (name : Text) {t t' : Text} (h : Respaced t t') :
    Option.Rel (fun p q => p.1 = q.1 ∧ Respaced p.2 q.2) (findAfter? name t) (findAfter? name t') := by
  refine (callAfter?_respaced name h).bind fun call call' hcall => ?_
  rw [hcall.action]
  split
  · refine (nonempty?_respaced hcall.arguments).bind fun argument argument' hargument => ?_
    exact .some ⟨hcall.name, hargument⟩
  · exact .none

theorem find?_respaced {t t' : Text} (h : Respaced t t') :
    Option.Rel (fun p q => p.1 = q.1 ∧ Respaced p.2 q.2) (find? t) (find? t') :=
  h.firstWord findAfter? _ (fun w _ _ => findAfter?_respaced w) false

end Shape

end DeskScript
