import DeskScript.Proofs.Script.Outcomes

namespace DeskScript

namespace Block

theorem scanFrom_of_append (depth : Int) (opened : Bool) (lines more block : List Text) (taken : Nat)
    (h : scanFrom depth opened (lines ++ more) = some (block, taken)) (ht : taken ≤ lines.length) :
    scanFrom depth opened lines = some (block, taken) := by
  induction lines generalizing depth opened block taken with
  | nil =>
    have hpos := (scanFrom_taken_pos _ _ _ _ _ h).1
    rw [List.length_nil] at ht
    omega
  | cons line lines ih =>
    rw [List.cons_append] at h
    unfold scanFrom at h ⊢
    dsimp only at h ⊢
    split at h
    · rw [if_pos ‹_›]
      exact h
    · rw [if_neg ‹_›]
      obtain ⟨⟨b, n⟩, hb, he⟩ := Option.map_eq_some_iff.1 h
      cases he
      have hn : n ≤ lines.length := by
        rw [List.length_cons] at ht
        omega
      rw [ih _ _ _ _ hb hn]
      rfl

theorem scan_append_iff (lines more : List Text) (block : Block) (ht : block.taken ≤ lines.length) :
    scan (lines ++ more) = some block ↔ scan lines = some block := by
  simp only [scan, Option.map_eq_some_iff]
  constructor
  · rintro ⟨⟨b, n⟩, hs, rfl⟩
    exact ⟨(b, n), scanFrom_of_append _ _ _ _ _ _ hs ht, rfl⟩
  · rintro ⟨⟨b, n⟩, hs, rfl⟩
    exact ⟨(b, n), scanFrom_append _ _ _ _ _ _ hs, rfl⟩

theorem scan_taken (lines : List Text) (block : Block) (h : scan lines = some block) :
    0 < block.taken ∧ block.taken ≤ lines.length := by
  obtain ⟨⟨b, n⟩, hs, rfl⟩ := Option.map_eq_some_iff.1 h
  exact scanFrom_taken_pos _ _ _ _ _ hs

theorem require_eq_ok_iff (head : Line) (rest : List Line) (block : Block) :
    require head rest = .ok block ↔ scan (head.text :: rest.map Line.text) = some block := by
  rw [require, List.map_cons]
  cases scan (head.text :: rest.map Line.text) <;> simp

theorem require_taken (head : Line) (rest : List Line) (block : Block)
    (h : require head rest = .ok block) : 0 < block.taken ∧ block.taken ≤ rest.length + 1 := by
  simpa using scan_taken _ _ ((require_eq_ok_iff _ _ _).1 h)

theorem require_append_iff (head : Line) (rest more : List Line) (block : Block)
    (ht : block.taken ≤ rest.length + 1) :
    require head (rest ++ more) = .ok block ↔ require head rest = .ok block := by
  have hl : block.taken ≤ (head.text :: rest.map Line.text).length := by simpa using ht
  rw [require_eq_ok_iff, require_eq_ok_iff, List.map_append, ← List.cons_append, scan_append_iff _ _ _ hl]

end Block

namespace Declaration

theorem read_taken (head : Line) (rest : List Line) (d : Declaration) (h : read head rest = .ok d) :
    d.taken ≤ rest.length := by
  obtain ⟨header, -, h⟩ := (read_eq_ok_iff _ _ _).1 h
  split at h
  · obtain ⟨block, hblock, rfl⟩ := h
    have ht := (Block.require_taken _ _ _ hblock).2
    dsimp only
    omega
  · rw [← h]
    exact Nat.zero_le _

theorem read_append_iff (head : Line) (rest more : List Line) (d : Declaration)
    (ht : d.taken ≤ rest.length) : read head (rest ++ more) = .ok d ↔ read head rest = .ok d := by
  rw [read_eq_ok_iff, read_eq_ok_iff]
  refine exists_congr fun header => and_congr_right fun _ => ?_
  split
  · refine exists_congr fun block => and_congr_left fun hd => Block.require_append_iff _ _ _ _ ?_
    subst hd
    dsimp only at ht
    omega
  · exact Iff.rfl

end Declaration

namespace Session

theorem step_taken (s : Session) (head : Line) (rest : List Line) (s' : Session) (n : Nat)
    (h : s.step head rest = .ok (s', n)) : n ≤ rest.length := by
  unfold step at h
  dsimp only at h
  split at h
  · rw [declare_eq_ok_iff] at h
    obtain ⟨d, hd, -, rfl⟩ := h
    exact Declaration.read_taken _ _ _ hd
  · rw [define_eq_ok_iff] at h
    obtain ⟨header, -, block, hb, -, rfl⟩ := h
    have ht := (Block.require_taken _ _ _ hb).2
    omega
  -- Every other kind of statement takes its own line only.
  all_goals
    simp only [Except.map_eq_ok_iff, Except.ok.injEq, Prod.mk.injEq] at h
    omega

/-- Lines behind those that a statement takes play no part in it. -/
theorem step_append_iff (s : Session) (head : Line) (rest more : List Line) (s' : Session) (n : Nat)
    (ht : n ≤ rest.length) : s.step head (rest ++ more) = .ok (s', n) ↔ s.step head rest = .ok (s', n) := by
  unfold step
  dsimp only
  split
  · rw [declare_eq_ok_iff, declare_eq_ok_iff]
    refine exists_congr fun d => and_congr_left fun ⟨_, hn⟩ => Declaration.read_append_iff _ _ _ _ ?_
    omega
  · rw [define_eq_ok_iff, define_eq_ok_iff]
    refine exists_congr fun header => and_congr_right fun _ => ?_
    refine exists_congr fun block => and_congr_left fun ⟨_, hn⟩ => Block.require_append_iff _ _ _ _ ?_
    omega
  all_goals exact Iff.rfl

end Session

end DeskScript
