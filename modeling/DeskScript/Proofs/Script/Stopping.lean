import DeskScript.Proofs.Script.Failures
import DeskScript.Proofs.Script.Watching

namespace DeskScript

namespace Session

/-- An expression that fails for want of a key leaves the library or the table that was stored before the key was made;
if it fails for anything else, nothing has changed. -/
theorem reached_of_value (s : Session) (e : Expression) (failure : Failure Session) (h : s.value e = .error failure) :
    failure.reached = { s with desktop := failure.reached.desktop } ∧
      s.desktop.Fills failure.reached.desktop ∧ (failure.error ≠ .longNumber → failure.reached = s) := by
  obtain ⟨f, hf, rfl⟩ := (s.value_eq_error_iff e failure).1 h
  refine ⟨rfl, (s.fills_of_evaluate_eq_error e f hf).2, fun hkey => ?_⟩
  dsimp only
  rw [s.reached_of_evaluate e f hf hkey]

theorem reached_of_step (s : Session) (head : Line) (rest : List Line) (failure : Failure Session)
    (h : s.step head rest = .error failure) (hk : s.kindOf head.stripped ≠ .call) :
    failure.reached = { s with desktop := failure.reached.desktop } ∧
      s.desktop.Fills failure.reached.desktop ∧ (failure.error ≠ .longNumber → failure.reached = s) := by
  have hnothing (hs : failure.reached = s) : failure.reached = { s with desktop := failure.reached.desktop } ∧
      s.desktop.Fills failure.reached.desktop ∧ (failure.error ≠ .longNumber → failure.reached = s) := by
    rw [hs]
    exact ⟨rfl, .nothing, fun _ => rfl⟩
  cases hkind : s.kindOf head.stripped with
  | declaration =>
    rw [s.step_of_kind_declaration head rest hkind] at h
    obtain ⟨fault, -, rfl⟩ | ⟨d, -, hvalue⟩ := (s.declare_eq_error_iff _ _ _).1 h
    · exact hnothing rfl
    · exact s.reached_of_value d.value failure hvalue
  | definition =>
    rw [s.step_of_kind_definition head rest hkind] at h
    obtain ⟨fault, rfl, -⟩ := (s.define_eq_error_iff _ _ _).1 h
    exact hnothing rfl
  | log =>
    rw [s.step_of_kind_log head rest hkind] at h
    exact hnothing (s.reached_of_logLine _ failure ((Except.map_eq_error_iff _ _ _).1 h))
  | call => exact absurd hkind hk
  | action =>
    rw [s.step_of_kind_action head rest hkind] at h
    exact s.reached_of_value _ failure ((Except.map_eq_error_iff _ _ _).1 h)
  | other =>
    rw [s.step_of_kind_other head rest hkind] at h
    cases h

end Session

end DeskScript
