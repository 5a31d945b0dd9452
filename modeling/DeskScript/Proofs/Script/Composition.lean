import DeskScript.Proofs.Script.Locality

namespace DeskScript

def Dispatch.shift (steps lines : Nat) (d : Dispatch) : Dispatch :=
  { d with step := d.step + steps, position := d.position + lines }

namespace Run

def shift (steps lines : Nat) (r : Run) : Run :=
  { r with dispatched := r.dispatched.map (.shift steps lines) }

def followedBy (r r' : Run) : Run := { r' with dispatched := r.dispatched ++ r'.dispatched }

theorem statements?_eq_some_iff (r : Run) (n : Nat) :
    r.statements? = some n ↔ r.error = none ∧ r.dispatched.length = n := by
  cases he : r.error <;> simp [statements?, he]

end Run

namespace Session

theorem runFrom_zero_cons_of_ok (s : Session) (step position : Nat) (head : Line) (rest : List Line)
    (s' : Session) (taken : Nat) (h : s.step head rest = .ok (s', taken)) :
    s.runFrom step position 0 (head :: rest) =
      let run := s'.runFrom (step + 1) (position + 1) taken rest
      { run with dispatched := ⟨step, position, head, s⟩ :: run.dispatched } := by
  rw [runFrom, h]

theorem runFrom_zero_cons_of_error (s : Session) (step position : Nat) (head : Line) (rest : List Line)
    (failure : Failure Session) (h : s.step head rest = .error failure) :
    s.runFrom step position 0 (head :: rest) =
      ⟨failure.reached, [⟨step, position, head, s⟩], some failure.error⟩ := by
  rw [runFrom, h]

theorem runFrom_shift (s : Session) (step position taken : Nat) (lines : List Line) (steps more : Nat) :
    s.runFrom (step + steps) (position + more) taken lines =
      (s.runFrom step position taken lines).shift steps more := by
  fun_induction runFrom s step position taken lines with
  | case1 s step position taken => simp [runFrom, Run.shift]
  | case2 s step position taken head rest ih => rw [runFrom, ← ih, Nat.add_right_comm]
  | case3 s step position head rest failure h =>
    rw [runFrom_zero_cons_of_error _ _ _ _ _ _ h]
    rfl
  | case4 s step position head rest s' taken h run ih =>
    rw [runFrom_zero_cons_of_ok _ _ _ _ _ _ _ h, Nat.add_right_comm step, Nat.add_right_comm position]
    simp only [ih]
    rfl

theorem runFrom_append (s : Session) (step position taken : Nat) (lines more : List Line)
    (ht : taken ≤ lines.length) (h : (s.runFrom step position taken lines).error = none) :
    s.runFrom step position taken (lines ++ more) =
      (s.runFrom step position taken lines).followedBy
        ((s.runFrom step position taken lines).session.runFrom
          (step + (s.runFrom step position taken lines).dispatched.length) (position + lines.length) 0 more) := by
  fun_induction runFrom s step position taken lines with
  | case1 s step position taken =>
    obtain rfl : taken = 0 := Nat.le_zero.1 ht
    simp [Run.followedBy]
  | case2 s step position taken head rest ih =>
    rw [List.cons_append, runFrom, ih (Nat.le_of_succ_le_succ ht) h, List.length_cons, Nat.add_right_comm,
      Nat.add_assoc]
  | case3 => cases h
  | case4 s step position head rest s' taken hs run ih =>
    -- The statement does not reach beyond `rest`, so it is the same with `more` behind it.
    have hn : taken ≤ rest.length := step_taken _ _ _ _ _ hs
    have hs' : s.step head (rest ++ more) = .ok (s', taken) := (step_append_iff _ _ _ _ _ _ hn).2 hs
    have hsteps : step + (run.dispatched.length + 1) = step + 1 + run.dispatched.length := by omega
    have hlines : position + (rest.length + 1) = position + 1 + rest.length := by omega
    rw [List.cons_append, runFrom_zero_cons_of_ok _ _ _ _ _ _ _ hs', ih hn h]
    simp only [Run.followedBy, List.cons_append, List.length_cons, hsteps, hlines, run]

/-- Lines that run through may be followed by any others. What those come to, their error and what it leaves
included, is what they come to on the session that the first ones reached. -/
theorem run_append (s : Session) (lines more : List Line) (h : (s.run lines).error = none) :
    let first := s.run lines
    let second := first.session.run more
    (s.run (lines ++ more)).session = second.session ∧
      (s.run (lines ++ more)).error = second.error ∧
      (s.run (lines ++ more)).dispatched =
        first.dispatched ++ second.dispatched.map (.shift first.dispatched.length lines.length) ∧
      ∀ n, second.statements? = some n →
        ∃ m, first.statements? = some m ∧ (s.run (lines ++ more)).statements? = some (m + n) := by
  intro first second
  have hrun : s.run (lines ++ more) =
      first.followedBy (second.shift first.dispatched.length lines.length) := by
    rw [run, runFrom_append s 0 0 0 lines more (Nat.zero_le _) h, runFrom_shift]
    rfl
  rw [hrun]
  refine ⟨rfl, rfl, rfl, fun n hn => ⟨first.dispatched.length, ?_, ?_⟩⟩
  · exact (Run.statements?_eq_some_iff _ _).2 ⟨h, rfl⟩
  · obtain ⟨he, rfl⟩ := (Run.statements?_eq_some_iff _ _).1 hn
    refine (Run.statements?_eq_some_iff _ _).2 ⟨he, ?_⟩
    simp [Run.followedBy, Run.shift]

/-- A function that is defined by the first lines and called by the others, which then fail. -/
theorem run_append_call :
    let s : Session := .start (.ofWindows []) none
    let lines : List Line := [⟨"export function f() \x7b".toList, some 1⟩, ⟨"sys.log(a)".toList, some 2⟩,
      ⟨"\x7d".toList, some 3⟩]
    let more : List Line := [⟨"f()".toList, some 4⟩, ⟨"local = 1".toList, some 5⟩]
    (s.run lines).error = none ∧ (s.run (lines ++ more)).error = ((s.run lines).session.run more).error := by
  intro s lines more
  have h : (s.run lines).error = none := by decide +kernel
  exact ⟨h, (run_append s lines more h).2.1⟩

/-- A failing run stops in one of its statements, and the lines before that run through to where it began. -/
theorem runFrom_of_error (s : Session) (step position taken : Nat) (lines : List Line) (e : ScriptError)
    (h : (s.runFrom step position taken lines).error = some e) :
    ∃ d i, (s.runFrom step position taken lines).dispatched.getLast? = some d ∧
      d.position = position + i ∧ taken ≤ i ∧ lines[i]? = some d.line ∧
      d.before.step d.line (lines.drop (i + 1)) =
        .error ⟨e, (s.runFrom step position taken lines).session⟩ ∧
      s.runFrom step position taken (lines.take i) =
        ⟨d.before, (s.runFrom step position taken lines).dispatched.dropLast, none⟩ := by
  fun_induction runFrom s step position taken lines with
  | case1 => cases h
  | case2 s step position taken head rest ih =>
    obtain ⟨d, i, hlast, hpos, ht, hline, hstep, hrun⟩ := ih h
    refine ⟨d, i + 1, hlast, by omega, Nat.succ_le_succ ht, hline, hstep, ?_⟩
    rw [List.take_succ_cons, runFrom, hrun]
  | case3 s step position head rest failure hs =>
    cases h
    exact ⟨⟨step, position, head, s⟩, 0, rfl, rfl, Nat.le_refl _, rfl, hs, rfl⟩
  | case4 s step position head rest s' taken hs run ih =>
    obtain ⟨d, i, hlast, hpos, ht, hline, hstep, hrun⟩ := ih h
    have hne : run.dispatched ≠ [] := List.ne_nil_of_mem (List.mem_of_getLast? hlast)
    -- The run stops behind the lines that this statement takes, so they are all in the prefix.
    have hn : taken ≤ (rest.take i).length := by
      have := step_taken _ _ _ _ _ hs
      rw [List.length_take]
      omega
    have hs' : s.step head (rest.take i) = .ok (s', taken) := by
      rw [← step_append_iff _ _ _ (rest.drop i) _ _ hn, List.take_append_drop]
      exact hs
    refine ⟨d, i + 1, ?_, by omega, Nat.zero_le _, hline, hstep, ?_⟩
    · rw [List.getLast?_cons_of_ne_nil hne]
      exact hlast
    · rw [List.take_succ_cons, runFrom_zero_cons_of_ok _ _ _ _ _ _ _ hs', hrun,
        List.dropLast_cons_of_ne_nil hne]

end Session

end DeskScript
