import DeskScript.Text.Blank
import DeskScript.Text.Word
import Mathlib.Data.List.Infix
import Mathlib.Data.List.TakeWhile

namespace DeskScript

theorem CharSet.exists_of_rangeOf? (set : CharSet) (n : Nat) (r : Nat × Nat) (h : set.rangeOf? n = some r) :
    r ∈ set ∧ r.1 ≤ n ∧ n ≤ r.2 := by
  induction set with
  | nil => cases h
  | cons range ranges ih =>
    obtain ⟨lo, hi⟩ := range
    unfold rangeOf? at h
    split at h
    · cases h
    · split at h
      · cases h
        refine ⟨List.mem_cons_self .., ?_, ?_⟩ <;> dsimp only <;> omega
      · obtain ⟨hr, hn⟩ := ih h
        exact ⟨List.mem_cons_of_mem _ hr, hn⟩

namespace Text

theorem isWord_eq_false_of_isBlank (c : Char) (h : isBlank c = true) : isWord c = false := by
  obtain ⟨r, hr⟩ := Option.isSome_iff_exists.1 h
  obtain ⟨hmem, hlo, hhi⟩ := CharSet.exists_of_rangeOf? blanks c.toNat r hr
  have hall : ∀ r ∈ blanks, ∀ n ∈ List.range' r.1 (r.2 + 1 - r.1), ((wordPages.page n).rangeOf? n).isSome = false := by
    decide
  have hn : c.toNat ∈ List.range' r.1 (r.2 + 1 - r.1) := by
    rw [List.mem_range'_1]
    omega
  exact hall r hmem c.toNat hn

theorem isBlank_eq_false_of_isWord (c : Char) (h : isWord c = true) : isBlank c = false := by
  cases hb : isBlank c with
  | false => rfl
  | true =>
    have hw := isWord_eq_false_of_isBlank c hb
    rw [h] at hw
    cases hw

theorem trimEnd_eq (t : Text) : trimEnd t = (trimStart t.reverse).reverse := rfl

theorem trimStart_append_of_blank (g t : Text) (h : isBlankLine g = true) : trimStart (g ++ t) = trimStart t :=
  List.dropWhile_append_of_pos fun c hc => List.all_eq_true.1 h c hc

@[simp] theorem isBlankLine_reverse (g : Text) : isBlankLine g.reverse = isBlankLine g := by
  simp [isBlankLine]

theorem isBlankLine_cons (c : Char) (g : Text) :
    isBlankLine (c :: g) = true ↔ isBlank c = true ∧ isBlankLine g = true := by
  simp [isBlankLine]

@[simp] theorem isBlankLine_append (g g' : Text) : isBlankLine (g ++ g') = (isBlankLine g && isBlankLine g') := by
  simp [isBlankLine]

theorem trimEnd_append_of_blank (t g : Text) (h : isBlankLine g = true) : trimEnd (t ++ g) = trimEnd t := by
  rw [trimEnd_eq, trimEnd_eq, List.reverse_append, trimStart_append_of_blank]
  rwa [isBlankLine_reverse]

theorem exists_trimStart (t : Text) : ∃ g, isBlankLine g = true ∧ t = g ++ trimStart t := by
  refine ⟨t.takeWhile isBlank, ?_, List.takeWhile_append_dropWhile.symm⟩
  exact List.all_eq_true.2 fun c hc => List.mem_takeWhile_imp hc

theorem exists_trimEnd (t : Text) : ∃ g, isBlankLine g = true ∧ t = trimEnd t ++ g := by
  obtain ⟨g, hg, ht⟩ := exists_trimStart t.reverse
  refine ⟨g.reverse, by rwa [isBlankLine_reverse], ?_⟩
  have h := congrArg List.reverse ht
  rwa [List.reverse_reverse, List.reverse_append] at h

theorem exists_strip (t : Text) :
    ∃ g g', isBlankLine g = true ∧ isBlankLine g' = true ∧ t = g ++ strip t ++ g' := by
  obtain ⟨g, hg, ht⟩ := exists_trimStart t
  obtain ⟨g', hg', ht'⟩ := exists_trimEnd (trimStart t)
  refine ⟨g, g', hg, hg', ?_⟩
  rw [List.append_assoc, strip, ← ht']
  exact ht

theorem strip_append_left (g t : Text) (h : isBlankLine g = true) : strip (g ++ t) = strip t := by
  rw [strip, trimStart_append_of_blank g t h, strip]

theorem strip_append_right (t g : Text) (h : isBlankLine g = true) : strip (t ++ g) = strip t := by
  have hnil : trimStart g = [] := (trimStart_eq_nil_iff g).2 h
  unfold strip trimStart
  rw [List.dropWhile_append]
  split
  · rename_i he
    have hg : g.dropWhile isBlank = [] := hnil
    rw [hg, List.isEmpty_iff.1 he]
  · exact trimEnd_append_of_blank _ _ h

theorem strip_append (g t g' : Text) (h : isBlankLine g = true) (h' : isBlankLine g' = true) :
    strip (g ++ t ++ g') = strip t := by
  rw [strip_append_right _ _ h', strip_append_left _ _ h]

theorem trimStart_eq_self (t : Text) (h : ∀ c ∈ t.head?, isBlank c = false) : trimStart t = t := by
  cases t with
  | nil => rfl
  | cons c t => exact trimStart_cons_of_not_blank c t (h c rfl)

theorem strip_eq_self (t : Text) (hhead : ∀ c ∈ t.head?, isBlank c = false)
    (hlast : ∀ c ∈ t.getLast?, isBlank c = false) : strip t = t := by
  have hstart : trimStart t = t := trimStart_eq_self t hhead
  have hend : trimStart t.reverse = t.reverse := by
    apply trimStart_eq_self
    rwa [List.head?_reverse]
  rw [strip, hstart, trimEnd_eq, hend, List.reverse_reverse]

@[simp] theorem strip_strip (t : Text) : strip (strip t) = strip t := by
  obtain ⟨g, g', hg, hg', ht⟩ := exists_strip t
  conv_rhs => rw [ht]
  exact (strip_append g _ g' hg hg').symm

theorem length_strip_le (t : Text) : (strip t).length ≤ t.length := by
  obtain ⟨g, g', -, -, ht⟩ := exists_strip t
  have hlength := congrArg List.length ht
  rw [List.length_append, List.length_append] at hlength
  omega

theorem not_blank_of_strip_eq_self (t : Text) (h : strip t = t) :
    (∀ c ∈ t.head?, isBlank c = false) ∧ ∀ c ∈ t.getLast?, isBlank c = false := by
  have hshorter : ∀ u : Text, strip u = t → t.length ≤ u.length := by
    rintro u rfl
    exact length_strip_le u
  constructor
  · intro c hc
    by_contra hb
    obtain ⟨u, rfl⟩ := List.head?_eq_some_iff.1 hc
    have hu : strip u = c :: u := (strip_append_left [c] u (by simpa [isBlankLine] using hb)).symm.trans h
    have hlength := hshorter u hu
    rw [List.length_cons] at hlength
    omega
  · intro c hc
    by_contra hb
    obtain ⟨u, rfl⟩ := List.getLast?_eq_some_iff.1 hc
    have hu : strip u = u ++ [c] := (strip_append_right u [c] (by simpa [isBlankLine] using hb)).symm.trans h
    have hlength := hshorter u hu
    rw [List.length_append, List.length_singleton] at hlength
    omega

/-- No white space is lost between a text that begins with none and one that has none at its ends. -/
theorem strip_append_eq_self (p t : Text) (hp : p ≠ []) (hhead : ∀ c ∈ p.head?, isBlank c = false) (ht : t ≠ [])
    (hstrip : strip t = t) : strip (p ++ t) = p ++ t := by
  apply strip_eq_self
  · rwa [List.head?_append_of_ne_nil _ hp]
  · rw [List.getLast?_append_of_ne_nil _ ht]
    exact (not_blank_of_strip_eq_self t hstrip).2

theorem strip_eq_nil_iff (t : Text) : strip t = [] ↔ isBlankLine t = true := by
  constructor
  · intro h
    obtain ⟨g, g', hg, hg', ht⟩ := exists_strip t
    rw [ht, h, List.append_nil, isBlankLine_append, hg, hg']
    rfl
  · intro h
    have h' := strip_append_left t [] h
    rwa [List.append_nil] at h'

theorem mem_of_mem_strip (t : Text) (c : Char) (h : c ∈ strip t) : c ∈ t := by
  obtain ⟨g, g', -, -, ht⟩ := exists_strip t
  rw [ht]
  simp [h]

theorem mem_strip_iff (t : Text) (c : Char) (h : isBlank c = false) : c ∈ strip t ↔ c ∈ t := by
  obtain ⟨g, g', hg, hg', ht⟩ := exists_strip t
  have hno : ∀ g : Text, isBlankLine g = true → c ∉ g := by
    intro g hg hc
    rw [List.all_eq_true.1 hg c hc] at h
    cases h
  conv_rhs => rw [ht]
  simp [hno g hg, hno g' hg']

theorem count_strip (t : Text) (c : Char) (h : isBlank c = false) : (strip t).count c = t.count c := by
  obtain ⟨g, g', hg, hg', ht⟩ := exists_strip t
  have hno : ∀ g : Text, isBlankLine g = true → g.count c = 0 := by
    intro g hg
    rw [List.count_eq_zero]
    intro hc
    rw [List.all_eq_true.1 hg c hc] at h
    cases h
  conv_rhs => rw [ht]
  simp [hno g hg, hno g' hg']

theorem splitOn_append_cons (sep : Char) (a b : Text) :
    splitOn sep (a ++ sep :: b) = splitOn sep a ++ splitOn sep b := by
  induction a with
  | nil => simp [splitOn]
  | cons c a ih =>
    obtain ⟨p, ps, hp⟩ := List.exists_cons_of_ne_nil (splitOn_ne_nil sep a)
    rw [List.cons_append, splitOn, splitOn, ih, hp]
    split <;> rfl

theorem notMem_of_mem_splitOn (sep : Char) (t p : Text) (h : p ∈ splitOn sep t) : sep ∉ p := by
  induction t generalizing p with
  | nil =>
    rw [splitOn, List.mem_singleton] at h
    rw [h]
    exact List.not_mem_nil
  | cons c t ih =>
    obtain ⟨q, qs, hq⟩ := List.exists_cons_of_ne_nil (splitOn_ne_nil sep t)
    rw [splitOn] at h
    split at h
    · obtain rfl | h := List.mem_cons.1 h
      · exact List.not_mem_nil
      · exact ih p h
    · rename_i hc
      rw [hq] at h ih
      obtain rfl | h := List.mem_cons.1 h
      · have hsep := ih q (List.mem_cons_self ..)
        simp [hsep, Ne.symm hc]
      · exact ih p (List.mem_cons_of_mem _ h)

theorem flatMap_eq_joinWith (sep : Char) (p : Text) (ps : List Text) :
    (p :: ps).flatMap (· ++ [sep]) = joinWith [sep] (p :: ps) ++ [sep] := by
  induction ps generalizing p with
  | nil => simp [joinWith, List.intercalate]
  | cons q ps ih =>
    rw [List.flatMap_cons, ih, joinWith_cons_cons]
    simp

theorem notMem_joinWith (sep c : Char) (pieces : List Text) (hne : c ≠ sep) (h : ∀ p ∈ pieces, c ∉ p) :
    c ∉ joinWith [sep] pieces := by
  cases pieces with
  | nil => exact List.not_mem_nil
  | cons p ps =>
    intro hmem
    have hflat : c ∈ (p :: ps).flatMap (· ++ [sep]) := by
      rw [flatMap_eq_joinWith]
      exact List.mem_append_left _ hmem
    obtain ⟨q, hq, hc⟩ := List.mem_flatMap.1 hflat
    obtain hc | hc := List.mem_append.1 hc
    · exact h q hq hc
    · exact hne (List.mem_singleton.1 hc)

theorem mem_of_mem_splitOn (sep : Char) (t p : Text) (c : Char) (hp : p ∈ splitOn sep t) (hc : c ∈ p) : c ∈ t := by
  obtain ⟨q, qs, hq⟩ := List.exists_cons_of_ne_nil (splitOn_ne_nil sep t)
  have ht : (q :: qs).flatMap (· ++ [sep]) = t ++ [sep] := by rw [flatMap_eq_joinWith, ← hq, joinWith_splitOn]
  have hmem : c ∈ t ++ [sep] := by
    rw [← ht, ← hq]
    exact List.mem_flatMap.2 ⟨p, hp, List.mem_append_left _ hc⟩
  obtain h | h := List.mem_append.1 hmem
  · exact h
  · rw [List.mem_singleton.1 h] at hc
    exact absurd hc (notMem_of_mem_splitOn sep t p hp)

theorem splitOn_joinWith_eq (sep : Char) (p : Text) (ps : List Text) :
    splitOn sep (joinWith [sep] (p :: ps)) = (p :: ps).flatMap (splitOn sep) := by
  induction ps generalizing p with
  | nil => simp [joinWith, List.intercalate]
  | cons q ps ih =>
    rw [joinWith_cons_cons, List.append_assoc, List.singleton_append, splitOn_append_cons, ih]
    rfl

theorem splitOn_joinWith (sep : Char) (p : Text) (ps : List Text) (h : ∀ q ∈ p :: ps, sep ∉ q) :
    splitOn sep (joinWith [sep] (p :: ps)) = p :: ps := by
  have hpieces : ∀ q ∈ p :: ps, splitOn sep q = [q] := fun q hq => splitOn_of_notMem sep q (h q hq)
  rw [splitOn_joinWith_eq, List.flatMap_congr hpieces, List.flatMap_singleton']

theorem strip_joinWith (sep : Text) (pieces : List Text) (h : ∀ p ∈ pieces, p ≠ [] ∧ strip p = p) :
    strip (joinWith sep pieces) = joinWith sep pieces := by
  suffices hends : (∀ c ∈ (joinWith sep pieces).head?, isBlank c = false) ∧
      ∀ c ∈ (joinWith sep pieces).getLast?, isBlank c = false from strip_eq_self _ hends.1 hends.2
  induction pieces with
  | nil => exact ⟨nofun, nofun⟩
  | cons p ps ih =>
    obtain ⟨hne, hp⟩ := h p (List.mem_cons_self ..)
    obtain ⟨hhead, hlast⟩ := not_blank_of_strip_eq_self p hp
    cases ps with
    | nil => simpa [joinWith, List.intercalate] using ⟨hhead, hlast⟩
    | cons q qs =>
      have hqs := (ih fun r hr => h r (List.mem_cons_of_mem _ hr)).2
      rw [joinWith_cons_cons, List.append_assoc]
      constructor
      · rwa [List.head?_append_of_ne_nil _ hne]
      · have hrest : joinWith sep (q :: qs) ≠ [] := by
          have hq : q ≠ [] := (h q (List.mem_cons_of_mem _ (List.mem_cons_self ..))).1
          cases qs <;> simp [joinWith, List.intercalate, hq]
        rwa [← List.append_assoc, List.getLast?_append_of_ne_nil _ hrest]

theorem strip_flatMap (lines : List Text) (h : ∀ l ∈ lines, l ≠ [] ∧ strip l = l) :
    strip (lines.flatMap (· ++ ['\n'])) = joinWith ['\n'] lines := by
  cases lines with
  | nil => rfl
  | cons l lines =>
    rw [flatMap_eq_joinWith, strip_append_right _ _ (by decide)]
    exact strip_joinWith _ _ h

theorem takeWhile_dropWhile_append (p : Char → Bool) (g t : Text) (hg : ∀ c ∈ g, p c = true)
    (ht : ∀ c ∈ t.head?, p c = false) : (g ++ t).takeWhile p = g ∧ (g ++ t).dropWhile p = t := by
  have hstop : t.takeWhile p = [] ∧ t.dropWhile p = t := by
    cases t with
    | nil => exact ⟨rfl, rfl⟩
    | cons c t =>
      have hc : p c = false := ht c rfl
      simp [hc]
  rw [List.takeWhile_append_of_pos hg, List.dropWhile_append_of_pos hg, hstop.1, hstop.2, List.append_nil]
  exact ⟨rfl, rfl⟩

theorem takeWhile_dropWhile_append_cons (c : Char) (a b : Text) (h : c ∉ a) :
    (a ++ c :: b).takeWhile (· ≠ c) = a ∧ (a ++ c :: b).dropWhile (· ≠ c) = c :: b := by
  refine takeWhile_dropWhile_append _ a (c :: b) (fun d hd => ?_) ?_
  · simpa using fun he : d = c => h (he ▸ hd)
  · rintro _ ⟨⟩
    simp

theorem takeWhile_append_cons (c : Char) (a b : Text) (h : c ∉ a) : (a ++ c :: b).takeWhile (· ≠ c) = a :=
  (takeWhile_dropWhile_append_cons c a b h).1

theorem dropWhile_append_cons (c : Char) (a b : Text) (h : c ∉ a) : (a ++ c :: b).dropWhile (· ≠ c) = c :: b :=
  (takeWhile_dropWhile_append_cons c a b h).2

theorem notMem_takeWhile_ne (c : Char) (t : Text) : c ∉ t.takeWhile (· ≠ c) :=
  fun hmem => absurd (List.mem_takeWhile_imp hmem) (by simp)

theorem head?_dropWhile_ne (c : Char) (t : Text) : ∀ d ∈ (t.dropWhile (· ≠ c)).head?, d = c := by
  intro d hd
  have hstop := List.head?_dropWhile_not (fun d => decide (d ≠ c)) t
  rw [Option.mem_def.1 hd] at hstop
  simpa using hstop

theorem cutAt?_singleton (c : Char) (t : Text) :
    cutAt? [c] t =
      match t.dropWhile (· ≠ c) with
      | [] => none
      | _ :: after => some (t.takeWhile (· ≠ c), after) := by
  induction t with
  | nil => rfl
  | cons d t ih =>
    rw [cutAt?, afterPrefix?]
    by_cases hd : c = d
    · subst hd
      simp [afterPrefix?]
    · have hdrop : (d :: t).dropWhile (· ≠ c) = t.dropWhile (· ≠ c) :=
        List.dropWhile_cons_of_pos (by simpa using Ne.symm hd)
      have htake : (d :: t).takeWhile (· ≠ c) = d :: t.takeWhile (· ≠ c) :=
        List.takeWhile_cons_of_pos (by simpa using Ne.symm hd)
      rw [if_neg hd, hdrop, htake, ih]
      dsimp only
      split <;> rfl

theorem cutAt?_append_cons (c : Char) (a b : Text) (h : c ∉ a) : cutAt? [c] (a ++ c :: b) = some (a, b) := by
  rw [cutAt?_singleton, takeWhile_append_cons c a b h, dropWhile_append_cons c a b h]

theorem beforeLast?_append_cons (c : Char) (a b : Text) (h : c ∉ b) : beforeLast? c (a ++ c :: b) = some a := by
  have hreverse : (a ++ c :: b).reverse = b.reverse ++ c :: a.reverse := by simp
  unfold beforeLast?
  rw [hreverse, dropWhile_append_cons c _ _ (by simpa using h)]
  simp

theorem startsWith_iff_isPrefix (p t : Text) : startsWith p t = true ↔ p <+: t := by
  rw [startsWith, Option.isSome_iff_exists]
  refine exists_congr fun r => ?_
  rw [afterPrefix?_eq_some_iff, eq_comm]

theorem contains_iff_isInfix (p t : Text) : contains p t = true ↔ p <:+: t := by
  induction t with
  | nil => rw [contains, startsWith_iff_isPrefix, List.prefix_nil, List.infix_nil]
  | cons c t ih => rw [contains, Bool.or_eq_true, startsWith_iff_isPrefix, ih, List.infix_cons_iff]

/-- The end of a pattern can only stand where its last character does. -/
theorem suffix_of_contains_concat (p a b : Text) (c : Char) (ha : c ∉ a) (hb : c ∉ b) (hp : c ∉ p)
    (h : contains (p ++ [c]) (a ++ c :: b) = true) : p <:+ a := by
  obtain ⟨x, y, hxy⟩ := (contains_iff_isInfix _ _).1 h
  have hxy' : (x ++ p) ++ c :: y = a ++ c :: b := by simpa using hxy
  have hcount := congrArg (List.count c) hxy'
  have hx : c ∉ x := by
    rw [← List.count_eq_zero]
    rw [← List.count_eq_zero] at ha hb hp
    simp only [List.count_append, List.count_cons_self] at hcount
    omega
  have hxp : c ∉ x ++ p := by simp [hx, hp]
  refine ⟨x, ?_⟩
  rw [← takeWhile_append_cons c _ y hxp, hxy', takeWhile_append_cons c _ b ha]

theorem contains_append_of_blank (p g t : Text) (hne : p ≠ []) (hp : ∀ c ∈ p, isBlank c = false)
    (hg : isBlankLine g = true) : contains p (g ++ t) = contains p t := by
  obtain ⟨c, p, rfl⟩ := List.exists_cons_of_ne_nil hne
  induction g with
  | nil => rfl
  | cons d g ih =>
    obtain ⟨hd, hg⟩ := (isBlankLine_cons d g).1 hg
    have hcd : c ≠ d := by
      rintro rfl
      rw [hp c (List.mem_cons_self ..)] at hd
      cases hd
    have hstart : startsWith (c :: p) (d :: (g ++ t)) = false := by
      rw [startsWith, afterPrefix?, if_neg hcd]
      rfl
    rw [List.cons_append, contains, hstart, ih hg, Bool.false_or]

@[simp] theorem contains_reverse (p t : Text) : contains p.reverse t.reverse = contains p t := by
  rw [Bool.eq_iff_iff, contains_iff_isInfix, contains_iff_isInfix, List.reverse_infix]

theorem contains_strip (p t : Text) (hne : p ≠ []) (hp : ∀ c ∈ p, isBlank c = false) :
    contains p (strip t) = contains p t := by
  obtain ⟨g, g', hg, hg', ht⟩ := exists_strip t
  have hend : contains p (strip t ++ g') = contains p (strip t) := by
    rw [← contains_reverse, List.reverse_append, contains_append_of_blank, contains_reverse]
    · simpa using hne
    · simpa using hp
    · rwa [isBlankLine_reverse]
  conv_rhs => rw [ht]
  rw [List.append_assoc, contains_append_of_blank p g _ hne hp hg, hend]

end Text

end DeskScript
