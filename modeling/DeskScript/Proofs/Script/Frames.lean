import DeskScript.Proofs.Script.Failures

namespace DeskScript

namespace Session

variable (s : Session)

theorem NoValue.place?_eq_none {e : Expression} {err : ScriptError} (h : s.NoValue e err) : err.place? = none := by
  cases h <;> rfl

theorem place?_of_evaluate (e : Expression) (failure : Failure Desktop) (h : s.evaluate e = .error failure) :
    failure.error.place? = none :=
  (s.noValue_of_evaluate e failure h).place?_eq_none

theorem place?_of_value (e : Expression) (failure : Failure Session) (h : s.value e = .error failure) :
    failure.error.place? = none := by
  obtain ⟨f, hf, rfl⟩ := (s.value_eq_error_iff _ _).1 h
  exact s.place?_of_evaluate e f hf

theorem place?_of_log (arguments : List Argument) (failure : Failure Session) (h : s.log arguments = .error failure) :
    failure.error.place? = none :=
  (s.log_error arguments failure h).place?_eq_none

theorem place?_of_logLine (statement : Text) (failure : Failure Session) (h : s.logLine statement = .error failure) :
    failure.error.place? = none :=
  (s.logLine_error statement failure h).place?_eq_none

theorem place?_of_noteCall (name : Text) (arguments : List Text) (failure : Failure Session)
    (h : s.noteCall name arguments = .error failure) : failure.error.place? = none :=
  (s.noteCall_error name arguments failure h).place?_eq_none

theorem place?_of_answer (e : Expression) (failure : Failure Session) (h : s.answer e = .error failure) :
    failure.error.place? = none := by
  obtain he | ⟨v, d, -, err, hshown, rfl⟩ := (s.answer_eq_error_iff _ _).1 h
  · exact s.place?_of_value e failure he
  · obtain ⟨rfl, -⟩ | ⟨rfl, -⟩ := d.renderIn_eq_error_cases _ _ _ hshown <;> rfl

end Session

variable (φ : Table Text Function → Table Text Function) (ψ : Option Text → Option Text)

def ScriptError.rename : ScriptError → ScriptError
  | malformed fault place => malformed fault { place with file := ψ place.file }
  | e => e

theorem ScriptError.rename_of_place?_eq_none (e : ScriptError) (h : e.place? = none) : e.rename ψ = e := by
  cases e with
  | malformed => cases h
  | _ => rfl

@[simp] theorem ScriptError.rename_id (e : ScriptError) : e.rename id = e := by cases e <;> rfl

/-- The session with other functions and another name. -/
def Session.reframe (s : Session) : Session := { s with functions := φ s.functions, file := ψ s.file }

def Failure.reframe (failure : Failure Session) : Failure Session :=
  ⟨failure.error.rename ψ, failure.reached.reframe φ ψ⟩

namespace Session

/-- What comes of something on such a session, where `f` does to a result what is done to the session. -/
def reframed {α : Type} (f : α → α) (x : Except (Failure Session) α) : Except (Failure Session) α :=
  (x.map f).mapError (.reframe φ ψ)

variable (s : Session)

theorem eq_reframed {α : Type} (f : α → α) (x y : Except (Failure Session) α)
    (hx : ∀ failure, x = .error failure → failure.error.place? = none)
    (hy : y = (x.map f).mapError fun failure => ⟨failure.error, failure.reached.reframe φ ψ⟩) :
    y = reframed φ ψ f x := by
  rw [hy]
  cases x with
  | ok a => rfl
  | error failure =>
    have hplace := failure.error.rename_of_place?_eq_none ψ (hx failure rfl)
    change Except.error _ = Except.error (Failure.mk (failure.error.rename ψ) _)
    rw [hplace]

@[simp] theorem evaluate_reframe (e : Expression) : (s.reframe φ ψ).evaluate e = s.evaluate e := by
  cases e <;> rfl

theorem value_reframe (e : Expression) :
    (s.reframe φ ψ).value e = reframed φ ψ (fun r => (r.1, r.2.reframe φ ψ)) (s.value e) := by
  refine eq_reframed φ ψ _ _ _ (s.place?_of_value e) ?_
  rw [value, value, evaluate_reframe]
  cases s.evaluate e <;> rfl

theorem assign_reframe (name : Text) (e : Expression) :
    (s.reframe φ ψ).assign name e = reframed φ ψ (.reframe φ ψ) (s.assign name e) := by
  rw [assign, assign, value_reframe]
  cases s.value e <;> rfl

theorem log_reframe (arguments : List Argument) :
    (s.reframe φ ψ).log arguments = reframed φ ψ (.reframe φ ψ) (s.log arguments) := by
  have harguments : (s.reframe φ ψ).logArgument = s.logArgument := by
    funext a
    cases a <;> rfl
  refine eq_reframed φ ψ _ _ _ (s.place?_of_log arguments) ?_
  rw [log, log, harguments]
  cases arguments.mapM s.logArgument <;> rfl

theorem logLine_reframe (statement : Text) :
    (s.reframe φ ψ).logLine statement = reframed φ ψ (.reframe φ ψ) (s.logLine statement) := by
  unfold logLine
  split
  · rfl
  · exact s.log_reframe φ ψ _

theorem noteCall_reframe (name : Text) (arguments : List Text) :
    (s.reframe φ ψ).noteCall name arguments = reframed φ ψ (.reframe φ ψ) (s.noteCall name arguments) := by
  have hvalues : (s.reframe φ ψ).lookupOrText = s.lookupOrText := rfl
  have hdesktop : (s.reframe φ ψ).desktop = s.desktop := rfl
  refine eq_reframed φ ψ _ _ _ (s.place?_of_noteCall name arguments) ?_
  rw [noteCall, noteCall, hvalues, hdesktop]
  cases s.desktop.renderList (arguments.map s.lookupOrText) <;> rfl

theorem answer_reframe (e : Expression) :
    (s.reframe φ ψ).answer e = reframed φ ψ (.reframe φ ψ) (s.answer e) := by
  refine eq_reframed φ ψ _ _ _ (s.place?_of_answer e) ?_
  unfold answer value
  rw [evaluate_reframe]
  cases s.evaluate e with
  | error failure => rfl
  | ok r =>
    obtain ⟨v, d⟩ := r
    change (reading _ (d.renderCompact (.value v)) >>= _) =
      ((reading _ (d.renderCompact (.value v)) >>= _).map _).mapError _
    cases d.renderCompact (.value v) <;> rfl

theorem follow_reframe (i : Instruction) :
    (s.reframe φ ψ).follow i = reframed φ ψ (.reframe φ ψ) (s.follow i) := by
  cases i with
  | declare d =>
    cases d with
    | error fault => rfl
    | ok d => exact s.assign_reframe φ ψ d.name d.value
  | log arguments => exact s.log_reframe φ ψ arguments
  | answer e => exact s.answer_reframe φ ψ e
  | note name arguments => exact s.noteCall_reframe φ ψ name arguments
  | nothing => rfl

theorem followAll_reframe (is : List (Thunk Instruction)) :
    (s.reframe φ ψ).followAll is = reframed φ ψ (.reframe φ ψ) (s.followAll is) := by
  induction is generalizing s with
  | nil => rfl
  | cons i is ih =>
    rw [followAll, followAll, follow_reframe]
    cases s.follow i.get with
    | error failure => rfl
    | ok s' => exact ih s'

end Session

end DeskScript
