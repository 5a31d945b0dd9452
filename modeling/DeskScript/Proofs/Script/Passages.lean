import DeskScript.Proofs.Script.Header
import DeskScript.Proofs.Script.Moves

namespace DeskScript

theorem Declaration.isName_of_read (head : Line) (rest : List Line) (d : Declaration) (h : read head rest = .ok d) :
    Text.IsName d.name := by
  obtain ⟨header, hheader, hd⟩ := (read_eq_ok_iff _ _ _).1 h
  have hname : header.name = d.name := by
    split at hd
    · obtain ⟨block, -, rfl⟩ := hd
      rfl
    · rw [← hd]
  have hread := (Except.mapError_eq_ok_iff _ _ _).1 hheader
  simp only [DeclarationHeader.read, Except.bind_eq_ok_iff, Prod.exists, Except.pure_eq_ok_iff] at hread
  obtain ⟨c, -, name, c', hword, _, -, _, _, -, _, -, rfl⟩ := hread
  exact hname ▸ (c.exists_of_word_eq_ok c' name hword).1

theorem Instruction.isName_of_ofLine (line : Line) (rest : List Line) (d : Declaration)
    (h : ofLine line rest = .declare (.ok d)) : Text.IsName d.name := by
  unfold ofLine at h
  dsimp only at h
  split at h
  · cases h
  · split at h
    · exact Declaration.isName_of_read line rest d (Instruction.declare.inj h)
    · split at h
      · split at h <;> cases h
      · split at h
        · cases h
        · split at h <;> cases h

theorem Instruction.isName_of_mem_ofLines (lines : List Line) (i : Thunk Instruction) (hi : i ∈ ofLines lines)
    (d : Declaration) (h : i.get = .declare (.ok d)) : Text.IsName d.name := by
  induction lines with
  | nil => cases hi
  | cons line rest ih =>
    obtain rfl | hi := List.mem_cons.1 hi
    · exact isName_of_ofLine line rest d h
    · exact ih hi

theorem Function.isName_of_mem (f : Function) (i : Thunk Instruction) (hi : i ∈ f.instructions) (d : Declaration)
    (h : i.get = .declare (.ok d)) : Text.IsName d.name :=
  Instruction.isName_of_mem_ofLines _ i (f.instructions_eq ▸ hi) d h

/-- Something that a run carries out: the session that it finds and the one that it leaves, and the variable that it
declares and with which expression, unless that fails. -/
structure Passage where
  before : Session
  declared : Option (Text × Expression)
  after : Session

namespace Session

variable (s : Session)

def passageBy (i : Instruction) : Passage where
  before := s
  declared :=
    match i, s.follow i with
    | .declare (.ok d), .ok _ => some (d.name, d.value)
    | _, _ => none
  after := leftBy id (s.follow i)

def passagesByAll (s : Session) : List (Thunk Instruction) → List Passage
  | [] => []
  | i :: is =>
    s.passageBy i.get ::
      match s.follow i.get with
      | .error _ => []
      | .ok s' => passagesByAll s' is

def passageOf (head : Line) (rest : List Line) : Passage where
  before := s
  declared :=
    match s.kindOf head.stripped, Declaration.read head rest, s.step head rest with
    | .declaration, .ok d, .ok _ => some (d.name, d.value)
    | _, _, _ => none
  after := leftBy Prod.fst (s.step head rest)

/-- The passages of the statement at `head`. A call has those of the body that it runs. -/
def passagesAt (head : Line) (rest : List Line) : List Passage :=
  match s.kindOf head.stripped, (Shape.invokedName? head.stripped).bind s.functions.get? with
  | .call, some f => s.passagesByAll f.instructions
  | _, _ => [s.passageOf head rest]

end Session

def Run.passages (r : Run) (lines : List Line) : List Passage :=
  r.dispatched.flatMap fun d => d.before.passagesAt d.line (lines.drop (d.position + 1))

/-- A passage takes moves. It binds the value of the expression that it declares to the variable and no other, and no
variable if it declares none. -/
structure Passage.Sound (p : Passage) : Prop where
  moves : Session.Moves (fun _ => True) p.before p.after
  undeclared : p.declared = none → p.after.bindings = p.before.bindings
  declared : ∀ name e, p.declared = some (name, e) → Text.IsName name ∧
    ∃ v d, p.before.evaluate e = .ok (v, d) ∧ p.after = { p.before with desktop := d }.bind name v

namespace Session

/-- Passages in a row lead from a session to another if each finds what the one before it has left. -/
def Passes : Session → List Passage → Session → Prop
  | s, [], s' => s = s'
  | s, p :: ps, s' => p.before = s ∧ p.Sound ∧ Passes p.after ps s'

theorem passes_append_iff {s s'' : Session} {ps qs : List Passage} :
    s.Passes (ps ++ qs) s'' ↔ ∃ s', s.Passes ps s' ∧ s'.Passes qs s'' := by
  induction ps generalizing s with
  | nil => exact ⟨fun h => ⟨s, rfl, h⟩, fun ⟨s', hs', h⟩ => hs' ▸ h⟩
  | cons p ps ih =>
    constructor
    · rintro ⟨hbefore, hsound, h⟩
      obtain ⟨s', hps, hqs⟩ := ih.1 h
      exact ⟨s', ⟨hbefore, hsound, hps⟩, hqs⟩
    · rintro ⟨s', ⟨hbefore, hsound, hps⟩, hqs⟩
      exact ⟨hbefore, hsound, ih.2 ⟨s', hps, hqs⟩⟩

variable (s : Session)

@[simp] theorem value_bindings (e : Expression) : (leftBy Prod.snd (s.value e)).bindings = s.bindings := by
  unfold value
  cases s.evaluate e <;> rfl

@[simp] theorem log_bindings (arguments : List Argument) : (leftBy id (s.log arguments)).bindings = s.bindings := by
  unfold log
  cases arguments.mapM s.logArgument <;> rfl

@[simp] theorem logLine_bindings (statement : Text) : (leftBy id (s.logLine statement)).bindings = s.bindings := by
  unfold logLine
  split
  · rfl
  · simp

@[simp] theorem noteCall_bindings (name : Text) (arguments : List Text) :
    (leftBy id (s.noteCall name arguments)).bindings = s.bindings := by
  unfold noteCall
  cases s.desktop.renderList (arguments.map s.lookupOrText) <;> rfl

@[simp] theorem answer_bindings (e : Expression) : (leftBy id (s.answer e)).bindings = s.bindings := by
  have hvalue := s.value_bindings e
  unfold answer
  cases h : s.value e with
  | error failure => rwa [h] at hvalue
  | ok result =>
    rw [h] at hvalue
    change (leftBy id (reading result.2 (result.2.desktop.renderCompact (.value result.1)) >>= _)).bindings = _
    cases result.2.desktop.renderCompact (.value result.1) <;> exact hvalue

@[simp] theorem define_bindings (head : Line) (rest : List Line) :
    (leftBy Prod.fst (s.define head rest)).bindings = s.bindings := by
  cases h : s.define head rest with
  | error failure =>
    obtain ⟨_, rfl, -⟩ := (s.define_eq_error_iff _ _ _).1 h
    rfl
  | ok result =>
    obtain ⟨_, -, _, -, hs, -⟩ := (s.define_eq_ok_iff _ _ _ _).1 h
    rw [leftBy, ← hs]

/-- An assignment that fails binds nothing. -/
theorem bindings_of_assign_eq_error (name : Text) (e : Expression) (failure : Failure Session)
    (h : s.assign name e = .error failure) : failure.reached.bindings = s.bindings := by
  have hvalue := s.value_bindings e
  rwa [(s.assign_eq_error_iff _ _ _).1 h] at hvalue

theorem passageBy_sound (i : Instruction) (hi : ∀ d, i = .declare (.ok d) → Text.IsName d.name) :
    (s.passageBy i).Sound where
  moves := s.follow_moves i i.only_true
  undeclared h := by
    change (leftBy id (s.follow i)).bindings = s.bindings
    cases i with
    | declare d =>
      cases d with
      | error fault => rfl
      | ok d =>
        cases hf : s.follow (.declare (.ok d)) with
        | ok s' => simp [passageBy, hf] at h
        | error failure => exact s.bindings_of_assign_eq_error _ _ failure hf
    | log arguments | answer e | note name arguments => simp [follow]
    | nothing => rfl
  declared name e h := by
    cases i with
    | declare d =>
      cases d with
      | error fault => cases h
      | ok d =>
        cases hf : s.follow (.declare (.ok d)) with
        | error failure => simp [passageBy, hf] at h
        | ok s' =>
          have hdeclared : (d.name, d.value) = (name, e) := by simpa [passageBy, hf] using h
          cases hdeclared
          obtain ⟨v, desktop, hv, rfl⟩ := (s.assign_eq_ok_iff _ _ _).1 hf
          refine ⟨hi d rfl, v, desktop, hv, ?_⟩
          change leftBy id (s.follow (.declare (.ok d))) = _
          rw [hf]
          rfl
    | _ => cases h

theorem passagesByAll_passes (is : List (Thunk Instruction))
    (his : ∀ i ∈ is, ∀ d, i.get = .declare (.ok d) → Text.IsName d.name) :
    s.Passes (s.passagesByAll is) (leftBy id (s.followAll is)) := by
  induction is generalizing s with
  | nil => exact rfl
  | cons i is ih =>
    have hi := s.passageBy_sound i.get (his i (List.mem_cons_self ..))
    refine ⟨rfl, hi, ?_⟩
    change Passes (leftBy id (s.follow i.get)) _ _
    rw [followAll]
    cases hf : s.follow i.get with
    | error failure => exact rfl
    | ok s' => exact ih s' fun j hj => his j (List.mem_cons_of_mem _ hj)

theorem step_declaration_cases (head : Line) (rest : List Line) (hk : s.kindOf head.stripped = .declaration) :
    (∃ failure, s.step head rest = .error failure ∧ failure.reached.bindings = s.bindings) ∨
      ∃ d s', Declaration.read head rest = .ok d ∧ s.step head rest = .ok (s', d.taken) ∧
        s.assign d.name d.value = .ok s' := by
  rw [s.step_of_kind_declaration head rest hk]
  cases h : s.declare head rest with
  | error failure =>
    refine .inl ⟨failure, rfl, ?_⟩
    obtain ⟨_, -, rfl⟩ | ⟨d, -, hvalue⟩ := (s.declare_eq_error_iff _ _ _).1 h
    · rfl
    · exact s.bindings_of_assign_eq_error d.name _ failure ((s.assign_eq_error_iff _ _ _).2 hvalue)
  | ok p =>
    obtain ⟨d, hd, hassign, htaken⟩ := (s.declare_eq_ok_iff _ _ p.1 p.2).1 h
    exact .inr ⟨d, p.1, hd, htaken ▸ rfl, hassign⟩

theorem passageOf_sound (head : Line) (rest : List Line)
    (hcall : s.kindOf head.stripped = .call → (Shape.invokedName? head.stripped).bind s.functions.get? = none) :
    (s.passageOf head rest).Sound where
  moves := s.step_moves s.only_true head rest ⟨fun _ _ => trivial, fun _ _ _ i _ => i.get.only_true, trivial⟩
  undeclared h := by
    change (leftBy Prod.fst (s.step head rest)).bindings = s.bindings
    cases hk : s.kindOf head.stripped with
    | declaration =>
      obtain ⟨failure, hstep, hbindings⟩ | ⟨d, s', hd, hstep, -⟩ := s.step_declaration_cases head rest hk
      · rw [hstep]
        exact hbindings
      · simp [passageOf, hk, hd, hstep] at h
    | definition =>
      simp [s.step_of_kind_definition head rest hk]
    | log =>
      simp [s.step_of_kind_log head rest hk, leftBy_map]
    | call =>
      -- With a function, the passages are those of its body. Here there is none.
      rw [s.step_of_kind_call head rest hk, invoke, hcall hk]
      rfl
    | action =>
      have hvalue := s.value_bindings (.ofText head.stripped)
      rw [s.step_of_kind_action head rest hk]
      cases h : s.value (.ofText head.stripped) <;> rwa [h] at hvalue
    | other =>
      rw [s.step_of_kind_other head rest hk]
      rfl
  declared name e h := by
    cases hk : s.kindOf head.stripped with
    | declaration =>
      obtain ⟨failure, hstep, -⟩ | ⟨d, s', hd, hstep, hassign⟩ := s.step_declaration_cases head rest hk
      · simp [passageOf, hk, hstep] at h
      · have hdeclared : (d.name, d.value) = (name, e) := by simpa [passageOf, hk, hd, hstep] using h
        cases hdeclared
        obtain ⟨v, desktop, hv, rfl⟩ := (s.assign_eq_ok_iff _ _ _).1 hassign
        refine ⟨Declaration.isName_of_read head rest d hd, v, desktop, hv, ?_⟩
        change leftBy Prod.fst (s.step head rest) = _
        rw [hstep]
        rfl
    | _ => simp [passageOf, hk] at h

theorem passagesAt_passes (head : Line) (rest : List Line) :
    s.Passes (s.passagesAt head rest) (leftBy Prod.fst (s.step head rest)) := by
  unfold passagesAt
  split
  · rename_i f hk hf
    have hbody := s.passagesByAll_passes f.instructions f.isName_of_mem
    rw [s.step_of_kind_call head rest hk, invoke, hf]
    dsimp only
    cases h : s.followAll f.instructions <;> rwa [h] at hbody
  · rename_i hnone
    refine ⟨rfl, s.passageOf_sound head rest fun hk => ?_, rfl⟩
    exact Option.eq_none_iff_forall_ne_some.2 fun f hf => hnone f hk hf

theorem run_passes (lines : List Line) : s.Passes ((s.run lines).passages lines) (s.run lines).session :=
  runFrom_joins Passes passagesAt (fun _ => rfl) (fun _ s' _ _ _ h h' => passes_append_iff.2 ⟨s', h, h'⟩)
    passagesAt_passes s 0 0 0 lines lines rfl

variable {s s' : Session} {ps : List Passage}

theorem Passes.eq_after {p : Passage} (h : s.Passes (p :: ps) s') : s' = (ps.getLastD p).after := by
  induction ps generalizing s p with
  | nil => exact h.2.2.symm
  | cons q ps ih =>
    rw [List.getLastD_cons]
    exact ih h.2.2

theorem Passes.moves (h : s.Passes ps s') : Moves (fun _ => True) s s' := by
  induction ps generalizing s with
  | nil =>
    obtain rfl : s = s' := h
    exact .refl
  | cons p ps ih =>
    obtain ⟨rfl, hsound, hps⟩ := h
    exact hsound.moves.trans (ih hps)

theorem Passes.get?_bindings (h : s.Passes ps s') (name : Text) (hname : ∀ p ∈ ps, ∀ e, p.declared ≠ some (name, e)) :
    s'.bindings.get? name = s.bindings.get? name := by
  induction ps generalizing s with
  | nil => rw [show s = s' from h]
  | cons p ps ih =>
    obtain ⟨rfl, hsound, hps⟩ := h
    rw [ih hps fun q hq => hname q (List.mem_cons_of_mem _ hq)]
    cases hp : p.declared with
    | none => rw [hsound.undeclared hp]
    | some declared =>
      obtain ⟨name', e⟩ := declared
      obtain ⟨-, v, d, -, hafter⟩ := hsound.declared name' e hp
      have hne : compare name' name ≠ .eq := fun he => by
        obtain rfl := Std.compare_eq_iff_eq.1 he
        exact hname p (List.mem_cons_self ..) e hp
      rw [hafter, bind, Table.get?_put, if_neg hne]

theorem Passes.isName (h : s.Passes ps s') (hs : ∀ name v, s.bindings.get? name = some v → Text.IsName name) :
    ∀ name v, s'.bindings.get? name = some v → Text.IsName name := by
  induction ps generalizing s with
  | nil =>
    obtain rfl : s = s' := h
    exact hs
  | cons p ps ih =>
    obtain ⟨rfl, hsound, hps⟩ := h
    refine ih hps fun name v hv => ?_
    cases hp : p.declared with
    | none =>
      rw [hsound.undeclared hp] at hv
      exact hs name v hv
    | some declared =>
      obtain ⟨name', e⟩ := declared
      obtain ⟨hname', u, d, -, hafter⟩ := hsound.declared name' e hp
      rw [hafter, bind, Table.get?_put] at hv
      split at hv
      · rename_i he
        exact Std.compare_eq_iff_eq.1 he ▸ hname'
      · exact hs name v hv

end Session

end DeskScript
