import DeskScript.Proofs.Text.Word
import DeskScript.Script.Block

namespace DeskScript.Text

theorem strip_isInfix (t : Text) : strip t <:+: t := by
  obtain ⟨g, g', -, -, ht⟩ := exists_strip t
  exact ⟨g, g', ht.symm⟩

theorem isInfix_joinWith (sep p : Text) (ps : List Text) (h : p ∈ ps) : p <:+: joinWith sep ps := by
  induction ps with
  | nil => cases h
  | cons q ps ih =>
    cases ps with
    | nil =>
      obtain rfl := List.mem_singleton.1 h
      simp [joinWith, List.intercalate]
    | cons r ps =>
      rw [joinWith_cons_cons, List.append_assoc]
      obtain rfl | h := List.mem_cons.1 h
      · exact (List.prefix_append _ _).isInfix
      · have hrest : joinWith sep (r :: ps) <:+ q ++ (sep ++ joinWith sep (r :: ps)) :=
          (List.suffix_append _ _).trans (List.suffix_append _ _)
        exact (ih h).trans hrest.isInfix

theorem isInfix_of_mem_splitOn (sep : Char) (t p : Text) (h : p ∈ splitOn sep t) : p <:+: t := by
  have hp := isInfix_joinWith [sep] p _ h
  rwa [joinWith_splitOn] at hp

theorem beforeLast?_isPrefix (c : Char) (t u : Text) (h : beforeLast? c t = some u) : u <+: t := by
  unfold beforeLast? at h
  split at h
  · cases h
  · rename_i d r hr
    cases h
    have hsuffix : d :: r <:+ t.reverse := hr ▸ List.dropWhile_suffix _
    have hprefix := List.reverse_prefix.2 ((List.suffix_cons d r).trans hsuffix)
    rwa [List.reverse_reverse] at hprefix

theorem isInfix_of_append_cons (p a b : Text) (c : Char) (hc : c ∉ p) (h : p <:+: a ++ c :: b) :
    p <:+: a ∨ p <:+: b := by
  obtain ⟨x, y, hxy⟩ := h
  obtain ⟨u, ha, -⟩ | ⟨u, hu, hb⟩ := List.append_eq_append_iff.1 hxy
  · exact .inl ⟨x, u, ha.symm⟩
  · cases u with
    | nil =>
      rw [List.append_nil] at hu
      exact .inl ⟨x, [], by rw [List.append_nil, hu]⟩
    | cons d u =>
      obtain ⟨rfl, rfl⟩ := List.cons.inj hb
      obtain ⟨v, -, hp⟩ | ⟨v, -, hv⟩ := List.append_eq_append_iff.1 hu
      · exact absurd (by simp [hp]) hc
      · cases v with
        | nil => exact absurd (by rw [← List.nil_append p, ← hv]; exact List.mem_cons_self ..) hc
        | cons d v =>
          obtain ⟨rfl, rfl⟩ := List.cons.inj hv
          exact .inr ⟨v, y, rfl⟩

theorem exists_of_isInfix_flatMap (p : Text) (lines : List Text) (hn : '\n' ∉ p) (hne : p ≠ [])
    (h : p <:+: lines.flatMap (· ++ ['\n'])) : ∃ l ∈ lines, p <:+: l := by
  induction lines with
  | nil => exact absurd (List.infix_nil.1 h) hne
  | cons l lines ih =>
    have h' : p <:+: l ++ '\n' :: lines.flatMap (· ++ ['\n']) := by simpa using h
    obtain hl | hrest := isInfix_of_append_cons p l _ '\n' hn h'
    · exact ⟨l, List.mem_cons_self .., hl⟩
    · obtain ⟨l', hl', hp⟩ := ih hrest
      exact ⟨l', List.mem_cons_of_mem _ hl', hp⟩

/-- What is found at a word is found at the end of the text that begins there. -/
theorem exists_of_firstWord {α : Type} (m : Text → Text → Option α) (inWord : Bool) (t : Text) (a : α)
    (h : firstWord m inWord t = some a) : ∃ w r, r <:+ t ∧ m w r = some a := by
  induction t generalizing inWord with
  | nil => cases h
  | cons c t ih =>
    have hnext : ∀ b, firstWord m b t = some a → ∃ w r, r <:+ c :: t ∧ m w r = some a := by
      intro b hb
      obtain ⟨w, r, hr, hm⟩ := ih b hb
      exact ⟨w, r, hr.trans (List.suffix_cons c t), hm⟩
    unfold firstWord at h
    split at h
    · exact hnext _ h
    · split at h
      · exact hnext _ h
      · split at h
        · cases h
          exact ⟨_, _, (List.dropWhile_suffix _).trans (List.suffix_cons c t), ‹_›⟩
        · exact hnext _ h

end DeskScript.Text

namespace DeskScript.Block

theorem inner_isInfix (t : Text) : inner t <:+: t := by
  unfold inner
  split
  · exact List.nil_infix
  · rename_i before after hcut
    have hafter : after <:+: t := ⟨before ++ ['\x7b'], [], by
      rw [List.append_nil]
      exact (Text.cutAt?_eq _ _ _ _ hcut).symm⟩
    split
    · exact List.nil_infix
    · rename_i body hbody
      exact ((Text.strip_isInfix body).trans (Text.beforeLast?_isPrefix _ _ _ hbody).isInfix).trans hafter

theorem mem_of_mem_scanFrom (depth : Int) (opened : Bool) (lines block : List Text) (taken : Nat)
    (h : scanFrom depth opened lines = some (block, taken)) : ∀ l ∈ block, l ∈ lines := by
  induction lines generalizing depth opened block taken with
  | nil => simp [scanFrom] at h
  | cons line lines ih =>
    unfold scanFrom at h
    dsimp only at h
    split at h
    · cases h
      simp
    · obtain ⟨⟨b, n⟩, hb, he⟩ := Option.map_eq_some_iff.1 h
      cases he
      intro l hl
      have hb' := ih _ _ _ _ hb
      split at hl
      · obtain rfl | hl := List.mem_cons.1 hl
        · exact List.mem_cons_self ..
        · exact List.mem_cons_of_mem _ (hb' l hl)
      · exact List.mem_cons_of_mem _ (hb' l hl)

/-- A piece without a line feed of a block is a piece of one of its lines. -/
theorem exists_of_isInfix_require (p : Text) (head : Line) (rest : List Line) (block : Block) (hn : '\n' ∉ p)
    (hne : p ≠ []) (hblock : require head rest = .ok block) (h : p <:+: block.text) :
    ∃ l ∈ head :: rest, p <:+: l.text := by
  unfold require at hblock
  split at hblock
  · rename_i b hb
    cases hblock
    obtain ⟨⟨lines, n⟩, hscan, rfl⟩ := Option.map_eq_some_iff.1 hb
    obtain ⟨t, ht, hp⟩ := Text.exists_of_isInfix_flatMap p lines hn hne h
    obtain ⟨l, hl, rfl⟩ := List.mem_map.1 (mem_of_mem_scanFrom _ _ _ _ _ hscan t ht)
    exact ⟨l, hl, hp⟩
  · cases hblock

end DeskScript.Block
