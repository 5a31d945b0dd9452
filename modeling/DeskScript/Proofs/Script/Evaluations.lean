import DeskScript.Proofs.Script.Outcomes

namespace DeskScript

structure Evaluation where
  session : Session
  expression : Expression

/-- The desktop that is left, also by an evaluation that fails. -/
def Evaluation.after (x : Evaluation) : Desktop :=
  match x.session.evaluate x.expression with
  | .ok (_, d) => d
  | .error failure => failure.reached

theorem Evaluation.after_of_ok {s : Session} {e : Expression} {result : Value × Desktop}
    (h : s.evaluate e = .ok result) : after ⟨s, e⟩ = result.2 := by
  rw [after, h]

theorem Evaluation.after_of_error {s : Session} {e : Expression} {failure : Failure Desktop}
    (h : s.evaluate e = .error failure) : after ⟨s, e⟩ = failure.reached := by
  rw [after, h]

namespace Desktop

/-- Evaluations in a row lead from a desktop to another if each finds what the one before it has left. -/
def Leads : Desktop → List Evaluation → Desktop → Prop
  | d, [], d' => d = d'
  | d, x :: xs, d' => x.session.desktop = d ∧ Leads x.after xs d'

theorem Leads.append {d d' d'' : Desktop} {xs ys : List Evaluation} (h : Leads d xs d')
    (h' : Leads d' ys d'') : Leads d (xs ++ ys) d'' := by
  induction xs generalizing d with
  | nil =>
    obtain rfl : d = d' := h
    exact h'
  | cons x xs ih => exact ⟨h.1, ih h.2⟩

end Desktop

namespace Session

/-- The session at the end of something that gives one with its result, or fails. -/
def leftBy {α : Type} (session : α → Session) : Except (Failure Session) α → Session
  | .ok a => session a
  | .error failure => failure.reached

def evaluationsBy (s : Session) : Instruction → List Evaluation
  | .declare (.ok d) => [⟨s, d.value⟩]
  | .answer e => [⟨s, e⟩]
  | _ => []

def evaluationsByAll (s : Session) : List (Thunk Instruction) → List Evaluation
  | [] => []
  | i :: is =>
    match s.follow i.get with
    | .error _ => s.evaluationsBy i.get
    | .ok s' => s.evaluationsBy i.get ++ evaluationsByAll s' is

/-- What the statement at `head` evaluates; a call evaluates what the function's body does. -/
def evaluationsAt (s : Session) (head : Line) (rest : List Line) : List Evaluation :=
  match s.kindOf head.stripped with
  | .declaration =>
    match Declaration.read head rest with
    | .ok d => [⟨s, d.value⟩]
    | .error _ => []
  | .call =>
    match (Shape.invokedName? head.stripped).bind s.functions.get? with
    | some f => s.evaluationsByAll f.instructions
    | none => []
  | .action => [⟨s, .ofText head.stripped⟩]
  | _ => []

end Session

def Run.evaluations (r : Run) (lines : List Line) : List Evaluation :=
  r.dispatched.flatMap fun d => d.before.evaluationsAt d.line (lines.drop (d.position + 1))

namespace Session

theorem value_leads (s : Session) (e : Expression) :
    s.desktop.Leads [⟨s, e⟩] (leftBy Prod.snd (s.value e)).desktop := by
  refine ⟨rfl, ?_⟩
  rw [Desktop.Leads, Evaluation.after, value]
  cases s.evaluate e <;> rfl

theorem assign_leads (s : Session) (name : Text) (e : Expression) :
    s.desktop.Leads [⟨s, e⟩] (leftBy id (s.assign name e)).desktop := by
  have h := s.value_leads e
  rw [assign]
  cases hv : s.value e <;> rwa [hv] at h

theorem answer_leads (s : Session) (e : Expression) :
    s.desktop.Leads [⟨s, e⟩] (leftBy id (s.answer e)).desktop := by
  have h := s.value_leads e
  rw [answer]
  cases hv : s.value e with
  | error failure => rwa [hv] at h
  | ok result =>
    -- The value may be one that cannot be shown, but its evaluation is done.
    rw [hv] at h
    change s.desktop.Leads _
      (leftBy id (reading result.2 (result.2.desktop.renderCompact (.value result.1)) >>= _)).desktop
    cases result.2.desktop.renderCompact (.value result.1) <;> exact h

@[simp] theorem log_desktop (s : Session) (arguments : List Argument) :
    (leftBy id (s.log arguments)).desktop = s.desktop := by
  rw [log]
  cases arguments.mapM s.logArgument <;> rfl

@[simp] theorem logLine_desktop (s : Session) (statement : Text) :
    (leftBy id (s.logLine statement)).desktop = s.desktop := by
  rw [logLine]
  cases logArguments? statement with
  | none => rfl
  | some arguments => simp

@[simp] theorem noteCall_desktop (s : Session) (name : Text) (arguments : List Text) :
    (leftBy id (s.noteCall name arguments)).desktop = s.desktop := by
  rw [noteCall]
  cases s.desktop.renderList (arguments.map s.lookupOrText) <;> rfl

@[simp] theorem define_desktop (s : Session) (head : Line) (rest : List Line) :
    (leftBy Prod.fst (s.define head rest)).desktop = s.desktop := by
  cases h : s.define head rest with
  | error failure =>
    obtain ⟨_, rfl, -⟩ := (s.define_eq_error_iff _ _ _).1 h
    rfl
  | ok result =>
    obtain ⟨_, -, _, -, hs, -⟩ := (s.define_eq_ok_iff _ _ _ _).1 h
    rw [leftBy, ← hs]

theorem leftBy_map {α : Type} (session : α → Session) (f : Session → α) (hf : ∀ s, session (f s) = s)
    (x : Except (Failure Session) Session) : leftBy session (x.map f) = leftBy id x := by
  cases x with
  | error failure => rfl
  | ok s => exact hf s

theorem follow_leads (s : Session) (i : Instruction) :
    s.desktop.Leads (s.evaluationsBy i) (leftBy id (s.follow i)).desktop := by
  cases i with
  | declare d =>
    cases d with
    | error fault => exact rfl
    | ok d => exact s.assign_leads d.name d.value
  | log arguments => exact (s.log_desktop arguments).symm
  | answer e => exact s.answer_leads e
  | note name arguments => exact (s.noteCall_desktop name arguments).symm
  | nothing => exact rfl

theorem followAll_leads (s : Session) (is : List (Thunk Instruction)) :
    s.desktop.Leads (s.evaluationsByAll is) (leftBy id (s.followAll is)).desktop := by
  induction is generalizing s with
  | nil => exact rfl
  | cons i is ih =>
    have hi := s.follow_leads i.get
    rw [followAll, evaluationsByAll]
    cases hf : s.follow i.get with
    | error failure =>
      rw [hf] at hi
      exact hi
    | ok s' =>
      rw [hf] at hi
      exact hi.append (ih s')

theorem declare_leads (s : Session) (head : Line) (rest : List Line) :
    s.desktop.Leads
      (match Declaration.read head rest with
        | .ok d => [⟨s, d.value⟩]
        | .error _ => [])
      (leftBy Prod.fst (s.declare head rest)).desktop := by
  rw [declare]
  cases Declaration.read head rest with
  | error fault => exact rfl
  | ok d =>
    have h := s.assign_leads d.name d.value
    change s.desktop.Leads _ (leftBy Prod.fst (s.assign d.name d.value >>= _)).desktop
    cases ha : s.assign d.name d.value <;> rwa [ha] at h

theorem invoke_leads (s : Session) (statement : Text) :
    s.desktop.Leads
      (match (Shape.invokedName? statement).bind s.functions.get? with
        | some f => s.evaluationsByAll f.instructions
        | none => [])
      (leftBy id (s.invoke statement)).desktop := by
  rw [invoke]
  cases (Shape.invokedName? statement).bind s.functions.get? with
  | none => exact rfl
  | some f => exact s.followAll_leads f.instructions

/-- A statement leads to the desktop of the session after it, or of the one it has reached if it fails. -/
theorem step_leads (s : Session) (head : Line) (rest : List Line) :
    s.desktop.Leads (s.evaluationsAt head rest) (leftBy Prod.fst (s.step head rest)).desktop := by
  cases hk : s.kindOf head.stripped with
  | declaration =>
    rw [s.step_of_kind_declaration head rest hk]
    simp only [evaluationsAt, hk]
    exact s.declare_leads head rest
  | definition =>
    rw [s.step_of_kind_definition head rest hk]
    simp only [evaluationsAt, hk]
    exact (s.define_desktop head rest).symm
  | log =>
    rw [s.step_of_kind_log head rest hk]
    simp only [evaluationsAt, hk]
    rw [leftBy_map _ _ fun _ => rfl]
    exact (s.logLine_desktop head.stripped).symm
  | call =>
    rw [s.step_of_kind_call head rest hk, leftBy_map _ _ fun _ => rfl]
    simp only [evaluationsAt, hk]
    exact s.invoke_leads head.stripped
  | action =>
    rw [s.step_of_kind_action head rest hk]
    simp only [evaluationsAt, hk]
    have h := s.value_leads (.ofText head.stripped)
    cases hv : s.value (.ofText head.stripped) <;> rwa [hv] at h
  | other =>
    rw [s.step_of_kind_other head rest hk]
    simp only [evaluationsAt, hk]
    exact rfl

/-- What holds of each statement, from the session that it finds to the one that it leaves, holds of a run, if it holds
of nothing and of two parts in a row. -/
theorem runFrom_joins {α : Type} (R : Session → List α → Session → Prop) (parts : Session → Line → List Line → List α)
    (hnil : ∀ s, R s [] s) (happend : ∀ s s' s'' xs ys, R s xs s' → R s' ys s'' → R s (xs ++ ys) s'')
    (hstep : ∀ s head rest, R s (parts s head rest) (leftBy Prod.fst (s.step head rest)))
    (s : Session) (step position taken : Nat) (rest lines : List Line) (h : lines.drop position = rest) :
    R s ((s.runFrom step position taken rest).dispatched.flatMap fun d =>
      parts d.before d.line (lines.drop (d.position + 1))) (s.runFrom step position taken rest).session := by
  -- `lines` stays whole, since the statements dispatched count their place from its beginning.
  fun_induction runFrom s step position taken rest with
  | case1 => exact hnil _
  | case2 s step position taken head rest ih => exact ih (by rw [← List.tail_drop, h, List.tail_cons])
  | case3 s step position head rest failure hs =>
    have hhead := hstep s head rest
    rw [hs] at hhead
    simpa [← List.tail_drop, h, leftBy] using hhead
  | case4 s step position head rest s' taken hs run ih =>
    have hrest : lines.drop (position + 1) = rest := by rw [← List.tail_drop, h, List.tail_cons]
    have hhead := hstep s head rest
    rw [hs] at hhead
    rw [List.flatMap_cons, hrest]
    exact happend _ _ _ _ _ hhead (ih hrest)

/-- The evaluations of a run, in order, lead from the desktop it finds to the one it leaves. -/
theorem run_leads (s : Session) (lines : List Line) :
    s.desktop.Leads ((s.run lines).evaluations lines) (s.run lines).session.desktop :=
  runFrom_joins (fun s xs s' => s.desktop.Leads xs s'.desktop) evaluationsAt (fun _ => rfl)
    (fun _ _ _ _ _ h h' => h.append h') step_leads s 0 0 0 lines lines rfl

end Session

end DeskScript
