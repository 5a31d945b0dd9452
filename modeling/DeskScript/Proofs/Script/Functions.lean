import DeskScript.Proofs.Script.Frames

namespace DeskScript

namespace Session

def withFunctions (s : Session) (functions : Table Text Function) : Session := { s with functions }

def outcomeWith (functions : Table Text Function) : Except (Failure Session) Session → Except (Failure Session) Session
  | .ok s => .ok (s.withFunctions functions)
  | .error failure => .error ⟨failure.error, failure.reached.withFunctions functions⟩

variable (s : Session) (functions : Table Text Function)

@[simp] theorem evaluate_withFunctions (e : Expression) :
    (s.withFunctions functions).evaluate e = s.evaluate e :=
  s.evaluate_reframe (fun _ => functions) id e

theorem reframed_eq_outcomeWith (x : Except (Failure Session) Session) :
    reframed (fun _ => functions) id (.reframe (fun _ => functions) id) x = outcomeWith functions x := by
  cases x with
  | ok s' => rfl
  | error failure =>
    change Except.error (Failure.mk (failure.error.rename id) _) = _
    simp [outcomeWith]
    rfl

theorem assign_withFunctions (name : Text) (e : Expression) :
    (s.withFunctions functions).assign name e = outcomeWith functions (s.assign name e) :=
  (s.assign_reframe (fun _ => functions) id name e).trans (reframed_eq_outcomeWith functions _)

theorem logLine_withFunctions (statement : Text) :
    (s.withFunctions functions).logLine statement = outcomeWith functions (s.logLine statement) :=
  (s.logLine_reframe (fun _ => functions) id statement).trans (reframed_eq_outcomeWith functions _)

theorem followAll_withFunctions (is : List (Thunk Instruction)) :
    (s.withFunctions functions).followAll is = outcomeWith functions (s.followAll is) :=
  (s.followAll_reframe (fun _ => functions) id is).trans (reframed_eq_outcomeWith functions _)

theorem functions_leftBy_of_outcomeWith {x : Except (Failure Session) Session} (h : x = outcomeWith functions x) :
    (leftBy id x).functions = functions := by
  rw [h]
  cases x <;> rfl

@[simp] theorem followAll_functions (is : List (Thunk Instruction)) :
    (leftBy id (s.followAll is)).functions = s.functions :=
  functions_leftBy_of_outcomeWith _ (s.followAll_withFunctions s.functions is)

@[simp] theorem assign_functions (name : Text) (e : Expression) :
    (leftBy id (s.assign name e)).functions = s.functions :=
  functions_leftBy_of_outcomeWith _ (s.assign_withFunctions s.functions name e)

@[simp] theorem logLine_functions (statement : Text) : (leftBy id (s.logLine statement)).functions = s.functions :=
  functions_leftBy_of_outcomeWith _ (s.logLine_withFunctions s.functions statement)

end Session

end DeskScript
