import DeskScript.Proofs.Text.Blank
import DeskScript.Text.Lines

namespace DeskScript.Text

theorem displayLines_cons_of_boundary (c : Char) (t : Text) (hc : isLineBoundary c = true)
    (h : c = '\r' → t.head? ≠ some '\n') : displayLines (c :: t) = [c] :: displayLines t := by
  rw [displayLines, if_pos hc]
  rintro u rfl rfl
  exact h rfl rfl

theorem displayLines_cons_of_not_boundary (c : Char) (t : Text) (hc : isLineBoundary c = false) :
    displayLines (c :: t) = pushFront c (displayLines t) := by
  rw [displayLines, hc]
  · rfl
  · rintro u rfl rfl
    exact absurd hc (by decide)

theorem displayLines_ne_nil (t : Text) (h : t ≠ []) : displayLines t ≠ [] := by
  intro hnil
  rw [← flatten_displayLines t, hnil] at h
  exact h rfl

theorem exists_of_mem_displayLines (t d : Text) (h : d ∈ displayLines t) :
    ∃ u, '\n' ∉ u ∧ (d = u ∨ d = u ++ ['\n']) := by
  fun_induction displayLines t generalizing d with
  | case1 => cases h
  | case2 t ih =>
    obtain rfl | h := List.mem_cons.1 h
    · exact ⟨['\r'], by decide, .inr rfl⟩
    · exact ih d h
  | case3 c t _ _ ih =>
    obtain rfl | h := List.mem_cons.1 h
    · by_cases hc : c = '\n'
      · exact ⟨[], by decide, .inr (hc ▸ rfl)⟩
      · exact ⟨[c], by simpa using Ne.symm hc, .inl rfl⟩
    · exact ih d h
  | case4 c t _ hboundary ih =>
    have hc : '\n' ≠ c := by
      rintro rfl
      exact hboundary rfl
    cases hlines : displayLines t with
    | nil =>
      rw [hlines] at h
      obtain rfl := List.mem_singleton.1 h
      exact ⟨[c], by simpa using hc, .inl rfl⟩
    | cons line lines =>
      rw [hlines] at h ih
      obtain rfl | h := List.mem_cons.1 h
      · obtain ⟨u, hu, rfl | rfl⟩ := ih line (List.mem_cons_self ..)
        · exact ⟨c :: line, by simp [hc, hu], .inl rfl⟩
        · exact ⟨c :: u, by simp [hc, hu], .inr rfl⟩
      · exact ih d (List.mem_cons_of_mem _ h)

theorem mem_of_mem_displayLines (t d : Text) (c : Char) (h : d ∈ displayLines t) (hc : c ∈ d) : c ∈ t := by
  rw [← flatten_displayLines t]
  exact List.mem_flatten.2 ⟨d, h, hc⟩

theorem displayLines_append_cons (a b : Text) :
    displayLines (a ++ '\n' :: b) = displayLines (a ++ ['\n']) ++ displayLines b := by
  fun_induction displayLines a with
  | case1 => rfl
  | case2 t ih => simp only [List.cons_append, displayLines, ih]
  | case3 c t h hc ih =>
    by_cases hr : c = '\r' ∧ t = []
    · obtain ⟨rfl, rfl⟩ := hr
      rfl
    · -- A carriage return here has something else than a line feed behind it.
      have hnext : ∀ u : Text, c = '\r' → (t ++ '\n' :: u).head? ≠ some '\n' := by
        intro u hcr hhead
        cases t with
        | nil => exact hr ⟨hcr, rfl⟩
        | cons d t => exact h t hcr (congrArg (· :: t) (Option.some.inj hhead))
      rw [List.cons_append, List.cons_append, displayLines_cons_of_boundary c _ hc (hnext b),
        displayLines_cons_of_boundary c _ hc (hnext []), ih]
      rfl
  | case4 c t h hc ih =>
    rw [Bool.not_eq_true] at hc
    have hne : displayLines (t ++ ['\n']) ≠ [] := displayLines_ne_nil _ (by simp)
    obtain ⟨line, lines, hlines⟩ := List.exists_cons_of_ne_nil hne
    rw [List.cons_append, List.cons_append, displayLines_cons_of_not_boundary c _ hc,
      displayLines_cons_of_not_boundary c _ hc, ih, hlines]
    rfl

/-- No line boundary is in the line, but for a carriage return at its end. -/
def IsPlainLine (p : Text) : Prop :=
  ∃ q, (∀ c ∈ q, isLineBoundary c = false) ∧ (p = q ∨ p = q ++ ['\r'])

theorem displayLines_append_of_plain (q t line : Text) (lines : List Text)
    (hq : ∀ c ∈ q, isLineBoundary c = false) (ht : displayLines t = line :: lines) :
    displayLines (q ++ t) = (q ++ line) :: lines := by
  induction q with
  | nil => exact ht
  | cons c q ih =>
    have hc : isLineBoundary c = false := hq c (List.mem_cons_self ..)
    rw [List.cons_append, displayLines_cons_of_not_boundary c _ hc, ih fun d hd => hq d (List.mem_cons_of_mem _ hd)]
    rfl

theorem IsPlainLine.displayLines_append_feed {p : Text} (h : IsPlainLine p) :
    displayLines (p ++ ['\n']) = [p ++ ['\n']] := by
  obtain ⟨q, hq, rfl | rfl⟩ := h
  · exact displayLines_append_of_plain _ _ _ _ hq rfl
  · rw [List.append_assoc]
    exact displayLines_append_of_plain _ _ _ _ hq rfl

theorem IsPlainLine.displayLines_eq {p : Text} (h : IsPlainLine p) (hne : p ≠ []) : displayLines p = [p] := by
  obtain ⟨q, hq, rfl | rfl⟩ := h
  · obtain ⟨u, c, rfl⟩ := (List.eq_nil_or_concat' p).resolve_left hne
    have hc : displayLines [c] = [[c]] := by
      rw [displayLines_cons_of_not_boundary c [] (hq c (by simp))]
      rfl
    exact displayLines_append_of_plain _ _ _ _ (fun d hd => hq d (List.mem_append_left _ hd)) hc
  · exact displayLines_append_of_plain _ _ _ _ hq rfl

theorem exists_of_splitOn (t : Text) : (splitOn '\n' t = [t] ∧ '\n' ∉ t) ∨
    ∃ p rest, t = p ++ '\n' :: rest ∧ splitOn '\n' t = p :: splitOn '\n' rest := by
  by_cases hn : '\n' ∈ t
  · obtain ⟨p, rest, rfl, hp⟩ := List.eq_append_cons_of_mem hn
    refine .inr ⟨p, rest, rfl, ?_⟩
    rw [splitOn_append_cons, splitOn_of_notMem _ _ hp]
    rfl
  · exact .inl ⟨splitOn_of_notMem _ _ hn, hn⟩

/-- Each piece that is not empty has a displayed line of its number. -/
theorem lt_length_displayLines (t : Text) (i : Nat) (p : Text) (hp : (splitOn '\n' t)[i]? = some p) (hne : p ≠ []) :
    i < (displayLines t).length := by
  induction i generalizing t with
  | zero =>
    apply List.length_pos_iff.2
    apply displayLines_ne_nil
    rintro rfl
    cases hp
    exact hne rfl
  | succ i ih =>
    obtain ⟨hsplit, -⟩ | ⟨q, rest, rfl, hsplit⟩ := exists_of_splitOn t
    · rw [hsplit] at hp
      cases hp
    · rw [hsplit, List.getElem?_cons_succ] at hp
      have hrest := ih rest hp
      have hfirst : 0 < (displayLines (q ++ ['\n'])).length :=
        List.length_pos_iff.2 (displayLines_ne_nil _ (by simp))
      rw [displayLines_append_cons, List.length_append]
      omega

theorem getElem?_displayLines (t : Text) (i : Nat) (p : Text) (hp : (splitOn '\n' t)[i]? = some p) (hne : p ≠ [])
    (hplain : ∀ q ∈ (splitOn '\n' t).take (i + 1), IsPlainLine q) :
    (displayLines t)[i]? = some p ∨ (displayLines t)[i]? = some (p ++ ['\n']) := by
  -- The pieces before are plain, so each of them with its line feed is one displayed line.
  induction i generalizing t with
  | zero =>
    obtain ⟨hsplit, -⟩ | ⟨q, rest, rfl, hsplit⟩ := exists_of_splitOn t
    · rw [hsplit] at hp hplain
      cases hp
      rw [(hplain p (by simp)).displayLines_eq hne]
      exact .inl rfl
    · rw [hsplit] at hp hplain
      cases hp
      rw [displayLines_append_cons, (hplain p (by simp)).displayLines_append_feed]
      exact .inr rfl
  | succ i ih =>
    obtain ⟨hsplit, -⟩ | ⟨q, rest, rfl, hsplit⟩ := exists_of_splitOn t
    · rw [hsplit] at hp
      cases hp
    · rw [hsplit, List.getElem?_cons_succ] at hp
      rw [hsplit, List.take_succ_cons] at hplain
      rw [displayLines_append_cons, (hplain q (by simp)).displayLines_append_feed]
      exact ih rest hp fun r hr => hplain r (List.mem_cons_of_mem _ hr)

end DeskScript.Text
