import DeskScript.Proofs.Desktop.Actions
import DeskScript.Proofs.Script.Evaluations
import Mathlib.Logic.Relation

namespace DeskScript

/-- The instruction evaluates nothing but expressions of `P`. -/
def Instruction.Only (P : Expression → Prop) : Instruction → Prop
  | .declare (.ok d) => P d.value
  | .answer e => P e
  | _ => True

theorem Instruction.only_true (i : Instruction) : i.Only fun _ => True := by
  cases i with
  | declare d => cases d <;> trivial
  | _ => trivial

def Function.Only (P : Expression → Prop) (f : Function) : Prop := ∀ i ∈ f.instructions, i.get.Only P

/-- All functions that the session knows evaluate nothing but expressions of `P`. -/
def Session.Only (P : Expression → Prop) (s : Session) : Prop :=
  ∀ name f, s.functions.get? name = some f → f.Only P

/-- Whatever kind of statement begins at `head`, it evaluates nothing but expressions of `P`, and neither does a
function that it defines. -/
structure Line.Only (P : Expression → Prop) (head : Line) (rest : List Line) : Prop where
  declaration : ∀ d, Declaration.read head rest = .ok d → P d.value
  definition : ∀ parameters block, Block.require head rest = .ok block →
    (Function.ofBody parameters block.text).Only P
  action : P (.ofText head.stripped)

/-- The lines of a script, at whichever of them a statement begins. -/
def Line.AllOnly (P : Expression → Prop) (lines : List Line) : Prop :=
  ∀ head rest, head :: rest <:+ lines → Line.Only P head rest

theorem Line.AllOnly.tail {P : Expression → Prop} {head : Line} {rest : List Line}
    (h : Line.AllOnly P (head :: rest)) : Line.AllOnly P rest :=
  fun head' rest' hs => h head' rest' (hs.trans (List.suffix_cons head rest))

theorem Session.only_start (P : Expression → Prop) (d : Desktop) (file : Option Text) :
    (Session.start d file).Only P := by
  intro name f hf
  rw [start, Table.get?_empty] at hf
  cases hf

namespace Session

/-- The value is null or a text, or that of a variable. -/
def Knows (s : Session) (v : Value) : Prop :=
  (∃ j, v = .plain j ∧ (j = .null ∨ ∃ t, j = .text t)) ∨ ∃ name, s.bindings.get? name = some v

theorem knows_null (s : Session) : s.Knows .null := .inl ⟨.null, rfl, .inl rfl⟩

theorem knows_text (s : Session) (t : Text) : s.Knows (.text t) := .inl ⟨.text t, rfl, .inr ⟨t, rfl⟩⟩

theorem knows_lookup (s : Session) (name : Text) : s.Knows (s.lookup name) := by
  unfold lookup
  cases h : s.bindings.get? name with
  | none => exact s.knows_null
  | some v => exact .inr ⟨name, h⟩

theorem knows_lookupOrText (s : Session) (name : Text) : s.Knows (s.lookupOrText name) := by
  unfold lookupOrText
  dsimp only
  split
  · exact s.knows_text name
  · exact s.knows_lookup name

theorem knows_argumentValue (s : Session) (a : Argument) : s.Knows (s.argumentValue a) := by
  cases a with
  | text t => exact s.knows_text t
  | name t => exact s.knows_lookupOrText t

theorem knows_argument (s : Session) (arguments : List Argument) (i : Nat) :
    s.Knows ((arguments.map s.argumentValue)[i]?.getD .null) := by
  rw [List.getElem?_map]
  cases arguments[i]? with
  | none => exact s.knows_null
  | some a => exact s.knows_argumentValue a

/-- An evaluation gives a known value or a window and leaves the desktop as it is, or else it is an action, on a
window that a variable names and with known values. -/
theorem evaluate_cases (s : Session) (e : Expression) (v : Value) (d : Desktop) (h : s.evaluate e = .ok (v, d)) :
    (d = s.desktop ∧ (s.Knows v ∨ ∃ pattern n, e = .window pattern ∧ v = .window n ∧
        Desktop.resolve s.desktop.windows pattern = .ok (some n))) ∨
      ∃ name n a arguments, s.window? name = some n ∧ s.desktop.perform n a arguments = .ok (v, d) ∧
        (∀ u ∈ arguments, s.Knows u) ∧ (a ≠ .info → ∃ words, e = .action name a words) := by
  cases e with
  | null =>
    cases h
    exact .inl ⟨rfl, .inl s.knows_null⟩
  | text t =>
    cases h
    exact .inl ⟨rfl, .inl (s.knows_text t)⟩
  | word t =>
    cases h
    -- An unbound word stands for itself.
    refine .inl ⟨rfl, .inl ?_⟩
    cases ht : s.bindings.get? t with
    | none => exact s.knows_text t
    | some v => exact .inr ⟨t, ht⟩
  | window pattern =>
    simp only [evaluate, Except.map_eq_ok_iff, reading_eq_ok_iff] at h
    obtain ⟨_, hu, he⟩ := h
    cases he
    obtain ⟨n, rfl, hn⟩ := (s.evaluateWindow_eq_ok_iff _ _).1 hu
    exact .inl ⟨rfl, .inr ⟨pattern, n, rfl, rfl, hn⟩⟩
  | action name a words =>
    simp only [evaluate] at h
    split at h
    · cases h
      exact .inl ⟨rfl, .inl s.knows_null⟩
    · rename_i n hn
      refine .inr ⟨name, n, a, _, hn, h, fun u hu => ?_, fun _ => ⟨words, rfl⟩⟩
      obtain ⟨w, -, rfl⟩ := List.mem_map.1 hu
      exact s.knows_argumentValue w
  | info name argument =>
    simp only [evaluate] at h
    split at h
    · cases h
    · rename_i n hn
      refine .inr ⟨name, n, .info, _, hn, h, fun u hu => ?_, fun hinfo => absurd rfl hinfo⟩
      rw [List.mem_singleton.1 hu]
      cases argument with
      | none => exact s.knows_null
      | some t => exact s.knows_lookup t

/-- An evaluation that fails finds no window, or else it is an action, on a window that a variable names and with known
values, that fails. -/
theorem evaluate_fails (s : Session) (e : Expression) (failure : Failure Desktop) (h : s.evaluate e = .error failure) :
    failure.reached = s.desktop ∧ ((∃ pattern, e = .window pattern ∧ s.evaluateWindow pattern = .error failure.error) ∨
        ∃ name argument, e = .info name argument ∧ s.window? name = none ∧ failure.error = .notAWindow name) ∨
      ∃ name n a arguments, s.window? name = some n ∧ s.desktop.Fails n arguments a failure ∧
        (∀ u ∈ arguments, s.Knows u) ∧ ∃ words, e = .action name a words ∧ arguments = words.map s.argumentValue := by
  cases e with
  | null | text | word => cases h
  | window pattern =>
    simp only [evaluate, Except.map_eq_error_iff, reading_eq_error_iff] at h
    obtain ⟨err, herr, rfl⟩ := h
    exact .inl ⟨rfl, .inl ⟨pattern, rfl, herr⟩⟩
  | action name a words =>
    simp only [evaluate] at h
    split at h
    · cases h
    · rename_i n hn
      refine .inr ⟨name, n, a, _, hn, s.desktop.fails _ _ _ _ h, fun u hu => ?_, words, rfl, rfl⟩
      obtain ⟨w, -, rfl⟩ := List.mem_map.1 hu
      exact s.knows_argumentValue w
  | info name argument =>
    simp only [evaluate] at h
    split at h
    · rename_i hn
      cases h
      exact .inl ⟨rfl, .inr ⟨name, argument, rfl, hn, rfl⟩⟩
    · cases s.desktop.fails _ _ _ _ h

/-- A session emits a line, evaluates an expression for what that does to the desktop, binds the value of one, or
takes up a function. -/
inductive Move (P : Expression → Prop) (s : Session) : Session → Prop where
  | emit (line : Text) : Move P s (s.emit line)
  | evaluate (e : Expression) (v : Value) (d : Desktop) (he : P e) (h : s.evaluate e = .ok (v, d)) :
      Move P s { s with desktop := d }
  | bind (name : Text) (e : Expression) (v : Value) (d : Desktop) (he : P e) (h : s.evaluate e = .ok (v, d)) :
      Move P s ({ s with desktop := d }.bind name v)
  | fail (e : Expression) (failure : Failure Desktop) (he : P e) (h : s.evaluate e = .error failure) :
      Move P s { s with desktop := failure.reached }
  | define (name : Text) (f : Function) (hf : f.Only P) :
      Move P s { s with functions := s.functions.put name f }

/-- Any number of moves, one after another. -/
def Moves (P : Expression → Prop) : Session → Session → Prop := Relation.ReflTransGen (Move P)

variable {P : Expression → Prop}

theorem Moves.keep {s s' : Session} (h : Moves P s s') (I : Session → Prop)
    (hmove : ∀ s s', Move P s s' → I s → I s') (hs : I s) : I s' := by
  induction h with
  | refl => exact hs
  | tail _ hlast ih => exact hmove _ _ hlast ih

theorem Move.desktop_cases {s s' : Session} (h : Move P s s') :
    s'.desktop = s.desktop ∨ ∃ e, P e ∧ s'.desktop = Evaluation.after ⟨s, e⟩ := by
  cases h with
  | emit | define => exact .inl rfl
  | evaluate e v d he h => exact .inr ⟨e, he, (Evaluation.after_of_ok h).symm⟩
  | bind name e v d he h => exact .inr ⟨e, he, (Evaluation.after_of_ok h).symm⟩
  | fail e failure he h => exact .inr ⟨e, he, (Evaluation.after_of_error h).symm⟩

theorem Moves.only {s s' : Session} (h : Moves P s s') (hs : s.Only P) : s'.Only P := by
  refine h.keep (Session.Only P) (fun s s' hmove hs => ?_) hs
  cases hmove with
  | emit | evaluate | bind | fail => exact hs
  | define name f hf =>
    intro name' f' hf'
    dsimp only at hf'
    rw [Table.get?_put] at hf'
    split at hf'
    · cases hf'
      exact hf
    · exact hs name' f' hf'

theorem value_moves (s : Session) (e : Expression) (he : P e) : Moves P s (leftBy Prod.snd (s.value e)) := by
  cases h : s.value e with
  | error failure =>
    obtain ⟨f, hf, rfl⟩ := (s.value_eq_error_iff _ _).1 h
    exact .single (.fail e f he hf)
  | ok result =>
    obtain ⟨d, hd, hs⟩ := (s.value_eq_ok_iff _ _ _).1 h
    rw [leftBy, ← hs]
    exact .single (.evaluate e _ d he hd)

theorem assign_moves (s : Session) (name : Text) (e : Expression) (he : P e) :
    Moves P s (leftBy id (s.assign name e)) := by
  cases h : s.assign name e with
  | error failure =>
    have hvalue := s.value_moves e he
    rwa [(s.assign_eq_error_iff _ _ _).1 h] at hvalue
  | ok s' =>
    obtain ⟨v, d, hv, rfl⟩ := (s.assign_eq_ok_iff _ _ _).1 h
    exact .single (.bind name e v d he hv)

theorem log_moves (s : Session) (arguments : List Argument) : Moves P s (leftBy id (s.log arguments)) := by
  cases h : s.log arguments with
  | error failure =>
    obtain ⟨_, -, rfl⟩ := (s.log_eq_error_iff _ _).1 h
    exact .refl
  | ok s' =>
    obtain ⟨shown, -, rfl⟩ := (s.log_eq_ok_iff _ _).1 h
    exact .single (.emit _)

theorem logLine_moves (s : Session) (statement : Text) : Moves P s (leftBy id (s.logLine statement)) := by
  unfold logLine
  split
  · exact .refl
  · exact s.log_moves _

theorem noteCall_moves (s : Session) (name : Text) (arguments : List Text) :
    Moves P s (leftBy id (s.noteCall name arguments)) := by
  cases h : s.noteCall name arguments with
  | error failure =>
    obtain ⟨_, -, rfl⟩ := (s.noteCall_eq_error_iff _ _ _).1 h
    exact .refl
  | ok s' =>
    obtain ⟨shown, -, rfl⟩ := (s.noteCall_eq_ok_iff _ _ _).1 h
    exact .single (.emit _)

theorem answer_moves (s : Session) (e : Expression) (he : P e) : Moves P s (leftBy id (s.answer e)) := by
  cases h : s.answer e with
  | error failure =>
    obtain hvalue | ⟨v, d, hv, err, -, rfl⟩ := (s.answer_eq_error_iff _ _).1 h
    · have hmoves := s.value_moves e he
      rwa [hvalue] at hmoves
    · exact .single (.evaluate e v d he hv)
  | ok s' =>
    obtain ⟨v, d, hv, shown, -, rfl⟩ := (s.answer_eq_ok_iff _ _).1 h
    exact Relation.ReflTransGen.tail (.single (.evaluate e v d he hv)) (.emit _)

theorem follow_moves (s : Session) (i : Instruction) (hi : i.Only P) : Moves P s (leftBy id (s.follow i)) := by
  cases i with
  | declare d =>
    cases d with
    | error fault => exact .refl
    | ok d => exact s.assign_moves d.name d.value hi
  | log arguments => exact s.log_moves arguments
  | answer e => exact s.answer_moves e hi
  | note name arguments => exact s.noteCall_moves name arguments
  | nothing => exact .refl

def passedBy (s : Session) : List (Thunk Instruction) → List Session
  | [] => [s]
  | i :: is =>
    s :: match s.follow i.get with
      | .error failure => [failure.reached]
      | .ok s' => passedBy s' is

theorem passedBy_moves (s : Session) (is : List (Thunk Instruction)) (his : ∀ i ∈ is, i.get.Only P) :
    ∀ s' ∈ s.passedBy is, Moves P s s' := by
  -- The first instruction is one move or none, and the others begin where it has led.
  induction is generalizing s with
  | nil =>
    intro s' hs'
    rw [List.mem_singleton.1 hs']
    exact .refl
  | cons i is ih =>
    intro s' hs'
    have hi := s.follow_moves i.get (his i (List.mem_cons_self ..))
    rw [passedBy] at hs'
    obtain rfl | hs' := List.mem_cons.1 hs'
    · exact .refl
    · cases hf : s.follow i.get with
      | error failure =>
        simp only [hf] at hs' hi
        rw [List.mem_singleton.1 hs']
        exact hi
      | ok next =>
        simp only [hf] at hs' hi
        exact hi.trans (ih next (fun j hj => his j (List.mem_cons_of_mem _ hj)) s' hs')

theorem followAll_mem_passedBy (s : Session) (is : List (Thunk Instruction)) :
    leftBy id (s.followAll is) ∈ s.passedBy is := by
  induction is generalizing s with
  | nil => exact List.mem_singleton.2 rfl
  | cons i is ih =>
    rw [followAll, passedBy]
    cases s.follow i.get with
    | error failure => exact List.mem_cons_of_mem _ (List.mem_singleton.2 rfl)
    | ok next => exact List.mem_cons_of_mem _ (ih next)

/-- The sessions within the statement on a line: a call passes those of the body that it runs. -/
def passedAt (s : Session) (line : Line) : List Session :=
  match s.kindOf line.stripped, (Shape.invokedName? line.stripped).bind s.functions.get? with
  | .call, some f => s.passedBy f.instructions
  | _, _ => [s]

theorem only_of_invoked {s : Session} (hs : s.Only P) {statement : Text} {f : Function}
    (h : (Shape.invokedName? statement).bind s.functions.get? = some f) : f.Only P := by
  obtain ⟨name, -, hf⟩ := Option.bind_eq_some_iff.1 h
  exact hs name f hf

theorem passedAt_moves (s : Session) (hs : s.Only P) (line : Line) : ∀ s' ∈ s.passedAt line, Moves P s s' := by
  intro s' hs'
  unfold passedAt at hs'
  split at hs'
  · rename_i f _ hf
    exact s.passedBy_moves _ (only_of_invoked hs hf) s' hs'
  · rw [List.mem_singleton.1 hs']
    exact .refl

theorem invoke_moves (s : Session) (hs : s.Only P) (statement : Text) :
    Moves P s (leftBy id (s.invoke statement)) := by
  unfold invoke
  split
  · exact .refl
  · rename_i f hf
    exact s.passedBy_moves _ (only_of_invoked hs hf) _ (s.followAll_mem_passedBy _)

theorem declare_moves (s : Session) (head : Line) (rest : List Line) (hline : Line.Only P head rest) :
    Moves P s (leftBy Prod.fst (s.declare head rest)) := by
  cases h : s.declare head rest with
  | error failure =>
    obtain ⟨_, -, rfl⟩ | ⟨d, hd, hvalue⟩ := (s.declare_eq_error_iff _ _ _).1 h
    · exact .refl
    · have hmoves := s.value_moves d.value (hline.declaration d hd)
      rwa [hvalue] at hmoves
  | ok result =>
    obtain ⟨d, hd, hassign, -⟩ := (s.declare_eq_ok_iff _ _ _ _).1 h
    have hmoves := s.assign_moves d.name d.value (hline.declaration d hd)
    rwa [hassign] at hmoves

theorem define_moves (s : Session) (head : Line) (rest : List Line) (hline : Line.Only P head rest) :
    Moves P s (leftBy Prod.fst (s.define head rest)) := by
  cases h : s.define head rest with
  | error failure =>
    obtain ⟨_, rfl, -⟩ := (s.define_eq_error_iff _ _ _).1 h
    exact .refl
  | ok result =>
    obtain ⟨header, -, block, hb, hs, -⟩ := (s.define_eq_ok_iff _ _ _ _).1 h
    rw [leftBy, ← hs]
    exact .single (.define _ _ (hline.definition header.parameters block hb))

/-- A statement moves to the session after it, or to the one it has reached if it fails. -/
theorem step_moves (s : Session) (hs : s.Only P) (head : Line) (rest : List Line) (hline : Line.Only P head rest) :
    Moves P s (leftBy Prod.fst (s.step head rest)) := by
  cases hk : s.kindOf head.stripped with
  | declaration =>
    rw [s.step_of_kind_declaration head rest hk]
    exact s.declare_moves head rest hline
  | definition =>
    rw [s.step_of_kind_definition head rest hk]
    exact s.define_moves head rest hline
  | log =>
    rw [s.step_of_kind_log head rest hk, leftBy_map _ _ fun _ => rfl]
    exact s.logLine_moves head.stripped
  | call =>
    rw [s.step_of_kind_call head rest hk, leftBy_map _ _ fun _ => rfl]
    exact s.invoke_moves hs head.stripped
  | action =>
    have h := s.value_moves _ hline.action
    rw [s.step_of_kind_action head rest hk]
    cases hv : s.value (.ofText head.stripped) <;> rwa [hv] at h
  | other =>
    rw [s.step_of_kind_other head rest hk]
    exact .refl

end Session

/-- The sessions at the boundaries between the statements of a run, those of bodies that it calls included, and
the one that it reaches. -/
def Run.boundaries (r : Run) : List Session :=
  r.dispatched.flatMap (fun d => d.before.passedAt d.line) ++ [r.session]

theorem Run.session_mem_boundaries (r : Run) : r.session ∈ r.boundaries :=
  List.mem_append_right _ (List.mem_singleton.2 rfl)

namespace Session

variable {P : Expression → Prop}

theorem runFrom_moves (s : Session) (hs : s.Only P) (step position taken : Nat) (lines : List Line)
    (hlines : Line.AllOnly P lines) : ∀ s' ∈ (s.runFrom step position taken lines).boundaries, Moves P s s' := by
  fun_induction runFrom s step position taken lines with
  | case1 s =>
    intro s' hs'
    obtain rfl : s' = s := by simpa [Run.boundaries] using hs'
    exact .refl
  | case2 s step position taken head rest ih => exact ih hs hlines.tail
  | case3 s step position head rest failure hfail =>
    have hstep := s.step_moves hs head rest (hlines head rest List.suffix_rfl)
    rw [hfail] at hstep
    intro s' hs'
    have hs'' : s' ∈ s.passedAt head ∨ s' = failure.reached := by simpa [Run.boundaries] using hs'
    obtain hpassed | rfl := hs''
    · exact s.passedAt_moves hs head s' hpassed
    · exact hstep
  | case4 s step position head rest next taken hok run ih =>
    have hstep := s.step_moves hs head rest (hlines head rest List.suffix_rfl)
    rw [hok] at hstep
    intro s' hs'
    have hs'' : s' ∈ s.passedAt head ∨ s' ∈ run.boundaries := by
      simpa [Run.boundaries, or_assoc] using hs'
    -- The boundary is inside a body that the first statement calls, or it comes later.
    obtain hpassed | hlater := hs''
    · exact s.passedAt_moves hs head s' hpassed
    · exact hstep.trans (ih (Moves.only hstep hs) hlines.tail s' hlater)

theorem run_moves (s : Session) (hs : s.Only P) (lines : List Line) (hlines : Line.AllOnly P lines) :
    ∀ s' ∈ (s.run lines).boundaries, Moves P s s' :=
  s.runFrom_moves hs 0 0 0 lines hlines

theorem only_true (s : Session) : s.Only fun _ => True := fun _ _ _ i _ => i.get.only_true

theorem run_anyMoves (s : Session) (lines : List Line) :
    ∀ s' ∈ (s.run lines).boundaries, Moves (fun _ => True) s s' :=
  s.run_moves s.only_true lines fun _ _ _ => ⟨fun _ _ => trivial, fun _ _ _ i _ => i.get.only_true, trivial⟩

end Session

end DeskScript
