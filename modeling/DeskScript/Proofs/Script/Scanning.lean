import DeskScript.Proofs.Script.Locality
import Mathlib.Order.Bounds.Basic

namespace DeskScript.Block

/-- Some brace opens in the lines, and as many close as open, in whatever order. -/
def Balanced (lines : List Text) : Prop :=
  '{' ∈ lines.flatten ∧ lines.flatten.count '{' = lines.flatten.count '}'

instance (lines : List Text) : Decidable (Balanced lines) := inferInstanceAs (Decidable (_ ∧ _))

/-- The lines end a scan that has come to `depth` before them, `opened` telling whether a brace has opened yet. -/
def Ends (depth : Int) (opened : Bool) (lines : List Text) : Prop :=
  (opened = true ∨ '{' ∈ lines.flatten) ∧ depth + depthOf lines.flatten = 0

theorem ends_zero_false_iff (lines : List Text) : Ends 0 false lines ↔ Balanced lines := by
  have hdepth : 0 + depthOf lines.flatten = 0 ↔ lines.flatten.count '{' = lines.flatten.count '}' := by
    unfold depthOf
    omega
  rw [Ends, Balanced, hdepth]
  simp

theorem ends_cons_iff (depth : Int) (opened : Bool) (line : Text) (lines : List Text) :
    Ends depth opened (line :: lines) ↔ Ends (depth + depthOf line) (opened || line.elem '{') lines := by
  have hdepth : depthOf (line ++ lines.flatten) = depthOf line + depthOf lines.flatten := by
    unfold depthOf
    rw [List.count_append, List.count_append]
    omega
  simp [Ends, hdepth, or_assoc, Int.add_assoc]

theorem ends_singleton_iff (depth : Int) (opened : Bool) (line : Text) :
    Ends depth opened [line] ↔ ((opened || line.elem '{') && depth + depthOf line == 0) = true := by
  simp [Ends]

/-- No run of lines shorter than `k` ends the scan if the first line does not and none of the others does behind it. -/
theorem not_ends_take_cons (depth : Int) (opened : Bool) (line : Text) (lines : List Text) (k : Nat)
    (hline : ¬Ends depth opened [line])
    (hlines : ∀ n, 0 < n → n < k → ¬Ends (depth + depthOf line) (opened || line.elem '{') (lines.take n)) (n : Nat)
    (hpos : 0 < n) (hn : n < k + 1) : ¬Ends depth opened ((line :: lines).take n) := by
  obtain ⟨n, rfl⟩ := Nat.exists_eq_add_one.2 hpos
  rw [List.take_succ_cons]
  cases n with
  | zero => exact hline
  | succ n =>
    rw [ends_cons_iff]
    exact hlines (n + 1) (by omega) (by omega)

theorem scanFrom_sound (depth : Int) (opened : Bool) (lines block : List Text) (taken : Nat)
    (h : scanFrom depth opened lines = some (block, taken)) :
    Ends depth opened (lines.take taken) ∧ (∀ n, 0 < n → n < taken → ¬Ends depth opened (lines.take n)) ∧
      block = if opened then lines.take taken else (lines.take taken).dropWhile fun line => '{' ∉ line := by
  induction lines generalizing depth opened block taken with
  | nil => cases h
  | cons line lines ih =>
    rw [scanFrom] at h
    dsimp only at h
    split at h
    · rename_i hends
      cases h
      refine ⟨(ends_singleton_iff _ _ _).2 hends, fun n hpos hlt => by omega, ?_⟩
      cases opened with
      | true => rfl
      | false =>
        have hopens : '{' ∈ line := by simpa using (Bool.and_eq_true_iff.1 hends).1
        simp [hopens]
    · rename_i hgoes
      obtain ⟨⟨b, n⟩, hrest, he⟩ := Option.map_eq_some_iff.1 h
      cases he
      obtain ⟨hends, hfirst, rfl⟩ := ih _ _ _ _ hrest
      refine ⟨(ends_cons_iff _ _ _ _).2 hends, ?_, ?_⟩
      · -- The scan has not ended on the first line, nor before the last one of the rest.
        exact not_ends_take_cons _ _ _ _ _ (mt (ends_singleton_iff _ _ _).1 hgoes) hfirst
      · rw [List.take_succ_cons]
        cases opened with
        | true => rfl
        | false => by_cases hopens : '{' ∈ line <;> simp [hopens]

theorem scanFrom_eq_none (depth : Int) (opened : Bool) (lines : List Text) (h : scanFrom depth opened lines = none)
    (n : Nat) (hpos : 0 < n) (hn : n < lines.length + 1) : ¬Ends depth opened (lines.take n) := by
  induction lines generalizing depth opened n with
  | nil => exact absurd hpos (by simpa using hn)
  | cons line lines ih =>
    rw [scanFrom] at h
    dsimp only at h
    split at h
    · cases h
    · rename_i hgoes
      exact not_ends_take_cons _ _ _ _ _ (mt (ends_singleton_iff _ _ _).1 hgoes)
        (ih _ _ (Option.map_eq_none_iff.1 h)) n hpos hn

/-- What is dropped before the first brace that opens are the lines before that brace's line. -/
theorem exists_first_brace (lines : List Text) (n : Nat) (h : '{' ∈ (lines.take n).flatten) :
    ∃ k, IsLeast {i | ∃ line, lines[i]? = some line ∧ '{' ∈ line} k ∧
      (lines.take n).dropWhile (fun line => '{' ∉ line) = lines.extract k n := by
  obtain ⟨line, hline, hbrace⟩ := List.mem_flatten.1 h
  have hlt : (lines.take n).findIdx (fun line => '{' ∈ line) < (lines.take n).length :=
    List.findIdx_lt_length.2 ⟨line, hline, by simpa using hbrace⟩
  refine ⟨(lines.take n).findIdx fun line => '{' ∈ line, ⟨?_, ?_⟩, ?_⟩
  · refine ⟨(lines.take n)[(lines.take n).findIdx fun line => '{' ∈ line], ?_, ?_⟩
    · rw [List.getElem_take, List.getElem?_eq_getElem]
    · have hfound := List.findIdx_getElem (w := hlt)
      simpa using hfound
  · rintro i ⟨line', hi, hbrace'⟩
    by_contra hbefore
    have hi' : i < (lines.take n).findIdx fun line => '{' ∈ line := Nat.lt_of_not_ge hbefore
    have hnot := List.not_of_lt_findIdx hi'
    have hget : (lines.take n)[i] = line' := by
      rw [List.getElem_take]
      exact (List.getElem_eq_iff _).2 hi
    rw [hget] at hnot
    exact absurd hbrace' (by simpa using hnot)
  · rw [List.dropWhile_eq_drop_findIdx_not, List.drop_take]
    simp

theorem scan_eq_some (lines : List Text) (block : Block) (h : scan lines = some block) :
    Balanced (lines.take block.taken) ∧ (∀ n, 0 < n → n < block.taken → ¬Balanced (lines.take n)) ∧
      ∃ k, IsLeast {i | ∃ line, lines[i]? = some line ∧ '{' ∈ line} k ∧
        block.text = (lines.extract k block.taken).flatMap (· ++ ['\n']) := by
  obtain ⟨⟨b, taken⟩, hscan, rfl⟩ := Option.map_eq_some_iff.1 h
  obtain ⟨hends, hfirst, hblock⟩ := scanFrom_sound _ _ _ _ _ hscan
  have hbalanced := (ends_zero_false_iff _).1 hends
  obtain ⟨k, hk, htext⟩ := exists_first_brace lines taken hbalanced.1
  refine ⟨hbalanced, fun n hpos hlt => ?_, k, hk, ?_⟩
  · exact mt (ends_zero_false_iff _).2 (hfirst n hpos hlt)
  · rw [if_neg Bool.false_ne_true, htext] at hblock
    rw [hblock]

theorem scan_eq_none (lines : List Text) (h : scan lines = none) (n : Nat) (hpos : 0 < n) (hn : n ≤ lines.length) :
    ¬Balanced (lines.take n) :=
  mt (ends_zero_false_iff _).2 (scanFrom_eq_none _ _ _ (Option.map_eq_none_iff.1 h) n hpos (Nat.lt_succ_of_le hn))

theorem isLeast_of_drop {P : Text → Prop} {lines : List Text} {start k : Nat}
    (h : IsLeast {i | ∃ line, (lines.drop start)[i]? = some line ∧ P line} k) :
    IsLeast {i | start ≤ i ∧ ∃ line, lines[i]? = some line ∧ P line} (start + k) := by
  obtain ⟨⟨line, hline, hP⟩, hfirst⟩ := h
  rw [List.getElem?_drop] at hline
  refine ⟨⟨Nat.le_add_right _ _, line, hline, hP⟩, ?_⟩
  rintro i ⟨hi, line', hline', hP'⟩
  obtain ⟨j, rfl⟩ := Nat.exists_eq_add_of_le hi
  rw [← List.getElem?_drop] at hline'
  exact Nat.add_le_add_left (hfirst ⟨line', hline', hP'⟩) start

/-- The block at a place, read off the lines: it takes the lines from there to the first one at which as many braces
have closed as opened, one at least, and its text are those lines from the first brace that opens on. Where there is
no such line, there is no block. What stands behind a block plays no part in it. -/
theorem scan_drop (lines : List Text) (start : Nat) (hstart : start ≤ lines.length) :
    (∀ e, IsLeast {e | start ≤ e ∧ e < lines.length ∧ Balanced (lines.extract start (e + 1))} e →
      ∃ f, IsLeast {f | start ≤ f ∧ ∃ line, lines[f]? = some line ∧ '{' ∈ line} f ∧
        scan (lines.drop start) = some ⟨(lines.extract f (e + 1)).flatMap (· ++ ['\n']), e - start + 1⟩) ∧
    ((¬∃ e, start ≤ e ∧ e < lines.length ∧ Balanced (lines.extract start (e + 1))) →
      scan (lines.drop start) = none) ∧
    ∀ block, scan (lines.drop start) = some block →
      block.taken ≤ lines.length - start ∧ ∀ more, scan ((lines ++ more).drop start) = some block := by
  -- The last line of a block, as an index into all lines.
  have hlast : ∀ block, scan (lines.drop start) = some block → start ≤ start + block.taken - 1 ∧
      start + block.taken - 1 < lines.length ∧ Balanced (lines.extract start (start + block.taken - 1 + 1)) := by
    intro block hblock
    obtain ⟨hpos, htaken⟩ := scan_taken _ _ hblock
    rw [List.length_drop] at htaken
    have hcount : start + block.taken - 1 + 1 - start = block.taken := by omega
    refine ⟨by omega, by omega, ?_⟩
    rw [List.extract, hcount]
    exact (scan_eq_some _ _ hblock).1
  refine ⟨fun e he => ?_, fun hnone => ?_, fun block hblock => ⟨?_, fun more => ?_⟩⟩
  · obtain ⟨⟨hstart_le, hlt, hbalanced⟩, hleast⟩ := he
    have hcount : e + 1 - start = e - start + 1 := by omega
    rw [List.extract, hcount] at hbalanced
    cases hscan : scan (lines.drop start) with
    | none => exact absurd hbalanced (scan_eq_none _ hscan _ (by omega) (by rw [List.length_drop]; omega))
    | some block =>
      obtain ⟨-, hfirst, k, hk, htext⟩ := scan_eq_some _ _ hscan
      have hge := hleast (hlast block hscan)
      have hpos := (scan_taken _ _ hscan).1
      have htaken : block.taken = e - start + 1 := by
        by_contra hne
        exact hfirst (e - start + 1) (by omega) (by omega) hbalanced
      refine ⟨start + k, isLeast_of_drop hk, congrArg some ?_⟩
      have hlines : (lines.drop start).extract k (e - start + 1) = lines.extract (start + k) (e + 1) := by
        have hrest : e - start + 1 - k = e + 1 - (start + k) := by omega
        rw [List.extract, List.extract, List.drop_drop, hrest]
      cases block
      simp only at htaken htext
      rw [htext, htaken, hlines]
  · cases hscan : scan (lines.drop start) with
    | none => rfl
    | some block => exact absurd ⟨_, hlast block hscan⟩ hnone
  · have htaken := (scan_taken _ _ hblock).2
    rwa [List.length_drop] at htaken
  · rw [List.drop_append_of_le_length hstart, scan_append_iff _ _ _ (scan_taken _ _ hblock).2]
    exact hblock

/-- A brace that closes too early has to be made up for, so that the block ends with the second brace that opens. -/
theorem scan_drop_closed_early :
    let lines : List Text := ["x".toList, "\x7d else".toList, "\x7b a \x7b".toList, "\x7d".toList, "\x7d".toList]
    1 ≤ lines.length ∧ IsLeast {e | 1 ≤ e ∧ e < lines.length ∧ Balanced (lines.extract 1 (e + 1))} 3 ∧
      ∃ f, IsLeast {f | 1 ≤ f ∧ ∃ line, lines[f]? = some line ∧ '{' ∈ line} f ∧
        scan (lines.drop 1) = some ⟨(lines.extract f 4).flatMap (· ++ ['\n']), 3⟩ ∧
        (lines.extract f 4).flatMap (· ++ ['\n']) = "\x7b a \x7b\n\x7d\n".toList := by
  intro lines
  have hleast : IsLeast {e | 1 ≤ e ∧ e < lines.length ∧ Balanced (lines.extract 1 (e + 1))} 3 := by
    refine ⟨⟨by decide, by decide, by decide⟩, ?_⟩
    rintro e ⟨hle, -, hbalanced⟩
    by_contra hlt
    have he : ∀ e < 3, 1 ≤ e → ¬Balanced (lines.extract 1 (e + 1)) := by decide
    exact he e (Nat.lt_of_not_ge hlt) hle hbalanced
  obtain ⟨f, hf, hscan⟩ := (scan_drop lines 1 (by decide)).1 3 hleast
  refine ⟨by decide, hleast, f, hf, hscan, ?_⟩
  have htext : scan (lines.drop 1) = some ⟨"\x7b a \x7b\n\x7d\n".toList, 3⟩ := by decide
  rw [hscan] at htext
  exact (Block.mk.inj (Option.some.inj htext)).1

end DeskScript.Block
