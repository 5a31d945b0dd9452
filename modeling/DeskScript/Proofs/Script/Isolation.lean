import DeskScript.Proofs.Script.Wording

namespace DeskScript

namespace Desktop

theorem json_plain_eq (d d' : Desktop) (j : Json) : d.json (.plain j) = d'.json (.plain j) := rfl

theorem renderList_plain (d d' : Desktop) (vs : List Value) (hvs : ∀ v ∈ vs, ∃ j, v = .plain j) :
    d.renderList vs = d'.renderList vs := by
  have hmap : vs.mapM d.json = vs.mapM d'.json := by
    induction vs with
    | nil => rfl
    | cons v vs ih =>
      obtain ⟨j, rfl⟩ := hvs v (List.mem_cons_self ..)
      rw [List.mapM_cons, List.mapM_cons, ih fun u hu => hvs u (List.mem_cons_of_mem _ hu), d.json_plain_eq d']
  rw [renderList, renderList, hmap]

end Desktop

def Failure.withDesktop (failure : Failure Session) (d : Desktop) : Failure Session :=
  { failure with reached := { failure.reached with desktop := d } }

namespace Session

def withDesktop (s : Session) (d : Desktop) : Session := { s with desktop := d }

def outcomeOn (d : Desktop) (x : Except (Failure Session) Session) : Except (Failure Session) Session :=
  (x.map (·.withDesktop d)).mapError (·.withDesktop d)

/-- All variables hold plain data. -/
def Plain (s : Session) : Prop := ∀ name v, s.bindings.get? name = some v → ∃ j, v = .plain j

variable {s : Session}

theorem plain_start (d : Desktop) (file : Option Text) : (start d file).Plain := by
  intro name v hv
  rw [start, Table.get?_empty] at hv
  cases hv

theorem Plain.of_knows (hs : s.Plain) {v : Value} (h : s.Knows v) : ∃ j, v = .plain j := by
  obtain ⟨j, h, -⟩ | ⟨name, h⟩ := h
  · exact ⟨j, h⟩
  · exact hs name v h

theorem Plain.lookup (hs : s.Plain) (name : Text) : ∃ j, s.lookup name = .plain j := hs.of_knows (s.knows_lookup name)

theorem Plain.window?_eq_none (hs : s.Plain) (name : Text) : s.window? name = none := by
  obtain ⟨j, hj⟩ := hs.lookup name
  rw [window?, hj]

theorem Plain.evaluate (hs : s.Plain) (e : Expression) (he : ∀ pattern, e ≠ .window pattern) (v : Value) (d : Desktop)
    (h : s.evaluate e = .ok (v, d)) : d = s.desktop ∧ ∃ j, v = .plain j := by
  obtain ⟨hd, hv | ⟨pattern, n, hwindow, -⟩⟩ | ⟨name, n, a, arguments, hname, -⟩ := s.evaluate_cases e v d h
  · exact ⟨hd, hs.of_knows hv⟩
  · exact absurd hwindow (he pattern)
  · rw [hs.window?_eq_none] at hname
    cases hname

/-- What fails without a window leaves the desktop as it is. -/
theorem Plain.evaluate_error (hs : s.Plain) (e : Expression) (he : ∀ pattern, e ≠ .window pattern)
    (failure : Failure Desktop) (h : s.evaluate e = .error failure) : failure.reached = s.desktop := by
  cases e with
  | null | text | word => cases h
  | window pattern => exact absurd rfl (he pattern)
  | action name a arguments =>
    simp only [Session.evaluate, hs.window?_eq_none] at h
    cases h
  | info name argument =>
    simp only [Session.evaluate, hs.window?_eq_none] at h
    cases h
    rfl

variable {P : Expression → Prop} {s' : Session}

theorem Moves.plain (h : Moves P s s') (hP : ∀ pattern, ¬P (.window pattern)) (hs : s.Plain) :
    s'.Plain ∧ s'.desktop = s.desktop := by
  refine h.keep (fun s' => s'.Plain ∧ s'.desktop = s.desktop) (fun s₁ s₂ hmove hs₁ => ?_) ⟨hs, rfl⟩
  obtain ⟨hplain, hdesktop⟩ := hs₁
  cases hmove with
  | emit | define => exact ⟨hplain, hdesktop⟩
  | evaluate e v d he hv =>
    obtain ⟨rfl, -⟩ := hplain.evaluate e (fun pattern hwindow => hP pattern (hwindow ▸ he)) v d hv
    exact ⟨hplain, hdesktop⟩
  | bind name e v d he hv =>
    obtain ⟨rfl, hj⟩ := hplain.evaluate e (fun pattern hwindow => hP pattern (hwindow ▸ he)) v d hv
    refine ⟨fun name' v' hv' => ?_, hdesktop⟩
    rw [Session.bind, Table.get?_put] at hv'
    split at hv'
    · cases hv'
      exact hj
    · exact hplain name' v' hv'
  | fail e failure he hfail =>
    have hleft := hplain.evaluate_error e (fun pattern hwindow => hP pattern (hwindow ▸ he)) failure hfail
    exact ⟨hplain, hleft.trans hdesktop⟩

variable (d : Desktop)

theorem evaluate_withDesktop (hs : s.Plain) (e : Expression) (he : ∀ pattern, e ≠ .window pattern) :
    (s.withDesktop d).evaluate e = ((s.evaluate e).map fun r => (r.1, d)).mapError fun f => ⟨f.error, d⟩ := by
  have hsame : (s.withDesktop d).window? = s.window? := rfl
  cases e with
  | null | text | word => rfl
  | window pattern => exact absurd rfl (he pattern)
  | action name a arguments =>
    simp only [evaluate, hsame, hs.window?_eq_none]
    rfl
  | info name argument =>
    simp only [evaluate, hsame, hs.window?_eq_none]
    rfl

theorem value_withDesktop (hs : s.Plain) (e : Expression) (he : ∀ pattern, e ≠ .window pattern) :
    (s.withDesktop d).value e =
      ((s.value e).map fun r => (r.1, r.2.withDesktop d)).mapError (·.withDesktop d) := by
  rw [value, value, evaluate_withDesktop d hs e he]
  cases s.evaluate e <;> rfl

theorem assign_withDesktop (hs : s.Plain) (name : Text) (e : Expression) (he : ∀ pattern, e ≠ .window pattern) :
    (s.withDesktop d).assign name e = outcomeOn d (s.assign name e) := by
  rw [assign, assign, value_withDesktop d hs e he]
  cases s.value e <;> rfl

theorem descend_plain (j : Json) (segment : Text) :
    ∃ x : Except ScriptError Json, ∀ d, descend d (.value (.plain j)) segment = x.map fun j => .value (.plain j) := by
  cases j with
  | array items =>
    cases hdigits : Text.isDigits segment with
    | true =>
      refine ⟨(indexOf segment).map fun i => items[i]?.getD .null, fun d => ?_⟩
      simp only [descend, hdigits, if_pos]
      cases indexOf segment <;> rfl
    | false =>
      refine ⟨.ok .null, fun d => ?_⟩
      simp only [descend, hdigits]
      rfl
  | object members => exact ⟨.ok ((members.lookup segment).getD .null), fun d => rfl⟩
  | _ => exact ⟨.ok .null, fun d => rfl⟩

theorem descendAll_plain (j : Json) (segments : List Text) :
    ∃ x : Except ScriptError Json,
      ∀ d, descendAll d (.value (.plain j)) segments = x.map fun j => .value (.plain j) := by
  induction segments generalizing j with
  | nil => exact ⟨.ok j, fun d => rfl⟩
  | cons segment segments ih =>
    obtain ⟨x, hx⟩ := descend_plain j segment
    cases x with
    | error e =>
      refine ⟨.error e, fun d => ?_⟩
      rw [descendAll, hx d]
      rfl
    | ok j' =>
      obtain ⟨y, hy⟩ := ih j'
      refine ⟨y, fun d => ?_⟩
      rw [descendAll, hx d]
      exact hy d

theorem resolvePath_plain (hs : s.Plain) (path : Text) :
    ∃ x : Except ScriptError Json, ∀ d, (s.withDesktop d).resolvePath path = x.map fun j => .value (.plain j) := by
  unfold resolvePath
  split
  · exact ⟨.ok .null, fun d => rfl⟩
  · rename_i name segments _
    obtain ⟨j, hj⟩ := hs.lookup name
    obtain ⟨x, hx⟩ := descendAll_plain j segments
    refine ⟨x, fun d => ?_⟩
    have hname : (s.withDesktop d).lookup name = .plain j := hj
    rw [hname]
    exact hx d

theorem logArgument_withDesktop (hs : s.Plain) (a : Argument) :
    (s.withDesktop d).logArgument a = s.logArgument a := by
  cases a with
  | text t => rfl
  | name t =>
    obtain ⟨j, hj⟩ := hs.lookup t
    obtain ⟨x, hx⟩ := resolvePath_plain hs t
    have hlookup : (s.withDesktop d).lookup t = .plain j := hj
    have hhere : s.resolvePath t = x.map fun j => .value (.plain j) := hx s.desktop
    simp only [logArgument, hlookup, hj, hx d, hhere]
    split
    · cases x with
      | error e => rfl
      | ok j' => cases j' <;> rfl
    · cases j <;> rfl

theorem log_withDesktop (hs : s.Plain) (arguments : List Argument) :
    (s.withDesktop d).log arguments = outcomeOn d (s.log arguments) := by
  have harguments : (s.withDesktop d).logArgument = s.logArgument :=
    funext fun a => logArgument_withDesktop d hs a
  rw [log, log, harguments]
  cases arguments.mapM s.logArgument <;> rfl

theorem logLine_withDesktop (hs : s.Plain) (statement : Text) :
    (s.withDesktop d).logLine statement = outcomeOn d (s.logLine statement) := by
  unfold logLine
  split
  · rfl
  · exact log_withDesktop d hs _

theorem noteCall_withDesktop (hs : s.Plain) (name : Text) (arguments : List Text) :
    (s.withDesktop d).noteCall name arguments = outcomeOn d (s.noteCall name arguments) := by
  have hvalues : (s.withDesktop d).lookupOrText = s.lookupOrText := rfl
  have hlist : d.renderList (arguments.map s.lookupOrText) = s.desktop.renderList (arguments.map s.lookupOrText) := by
    refine Desktop.renderList_plain _ _ _ fun v hv => ?_
    obtain ⟨t, -, rfl⟩ := List.mem_map.1 hv
    exact hs.of_knows (s.knows_lookupOrText t)
  have hdesktop : (s.withDesktop d).desktop = d := rfl
  rw [noteCall, noteCall, hvalues, hdesktop, hlist]
  cases s.desktop.renderList (arguments.map s.lookupOrText) <;> rfl

theorem answer_withDesktop (hs : s.Plain) (e : Expression) (he : ∀ pattern, e ≠ .window pattern) :
    (s.withDesktop d).answer e = outcomeOn d (s.answer e) := by
  have hplain := hs.evaluate e he
  unfold answer value
  rw [evaluate_withDesktop d hs e he]
  cases h : s.evaluate e with
  | error failure => rfl
  | ok r =>
    obtain ⟨v, d'⟩ := r
    obtain ⟨-, j, rfl⟩ := hplain v d' h
    change (reading _ (d.renderCompact (.value (.plain j))) >>= _) =
      outcomeOn d (reading _ (d.renderCompact (.value (.plain j))) >>= _)
    cases d.renderCompact (.value (.plain j)) <;> rfl

variable (hP : ∀ pattern, ¬P (.window pattern))

include hP

theorem follow_withDesktop (hs : s.Plain) (i : Instruction) (hi : i.Only P) :
    (s.withDesktop d).follow i = outcomeOn d (s.follow i) := by
  have hno : ∀ e, P e → ∀ pattern, e ≠ .window pattern := fun e he pattern hwindow => hP pattern (hwindow ▸ he)
  cases i with
  | declare x =>
    cases x with
    | error fault => rfl
    | ok x => exact assign_withDesktop d hs x.name x.value (hno _ hi)
  | log arguments => exact log_withDesktop d hs arguments
  | answer e => exact answer_withDesktop d hs e (hno e hi)
  | note name arguments => exact noteCall_withDesktop d hs name arguments
  | nothing => rfl

theorem followAll_withDesktop (hs : s.Plain) (is : List (Thunk Instruction)) (his : ∀ i ∈ is, i.get.Only P) :
    (s.withDesktop d).followAll is = outcomeOn d (s.followAll is) := by
  induction is generalizing s with
  | nil => rfl
  | cons i is ih =>
    have hi := his i (List.mem_cons_self ..)
    have hmoves := s.follow_moves i.get hi
    rw [followAll, followAll, follow_withDesktop d hP hs i.get hi]
    cases hf : s.follow i.get with
    | error failure => rfl
    | ok next =>
      rw [hf] at hmoves
      exact ih (hmoves.plain hP hs).1 fun j hj => his j (List.mem_cons_of_mem _ hj)

theorem invoke_withDesktop (hs : s.Plain) (hfunctions : s.Only P) (statement : Text) :
    (s.withDesktop d).invoke statement = outcomeOn d (s.invoke statement) := by
  have hsame : (s.withDesktop d).functions = s.functions := rfl
  unfold invoke
  rw [hsame]
  cases hf : (Shape.invokedName? statement).bind s.functions.get? with
  | none => rfl
  | some f => exact followAll_withDesktop d hP hs f.instructions (only_of_invoked hfunctions hf)

theorem step_withDesktop (hs : s.Plain) (hfunctions : s.Only P) (head : Line) (rest : List Line)
    (hline : Line.Only P head rest) :
    (s.withDesktop d).step head rest =
      ((s.step head rest).map fun r => (r.1.withDesktop d, r.2)).mapError (·.withDesktop d) := by
  -- Only where a window is asked for does the desktop decide on an evaluation.
  have hno : ∀ e, P e → ∀ pattern, e ≠ .window pattern := fun e he pattern hwindow => hP pattern (hwindow ▸ he)
  have hkind : (s.withDesktop d).kindOf head.stripped = s.kindOf head.stripped := rfl
  have hfile : (s.withDesktop d).file = s.file := rfl
  unfold step
  dsimp only
  rw [hkind]
  cases s.kindOf head.stripped with
  | declaration =>
    dsimp only
    rw [declare, declare, hfile]
    cases hd : Declaration.read head rest with
    | error fault => rfl
    | ok x =>
      change ((s.withDesktop d).assign x.name x.value >>= _) = _
      rw [assign_withDesktop d hs x.name x.value (hno _ (hline.declaration x hd))]
      change _ = ((s.assign x.name x.value >>= _).map _).mapError _
      cases s.assign x.name x.value <;> rfl
  | definition =>
    dsimp only
    rw [define, define, hfile]
    cases FunctionHeader.ofLine head with
    | error fault => rfl
    | ok header => cases Block.require head rest <;> rfl
  | log =>
    dsimp only
    rw [logLine_withDesktop d hs]
    cases s.logLine head.stripped <;> rfl
  | call =>
    dsimp only
    rw [invoke_withDesktop d hP hs hfunctions]
    cases s.invoke head.stripped <;> rfl
  | action =>
    dsimp only
    rw [value_withDesktop d hs _ (hno _ hline.action)]
    cases s.value (.ofText head.stripped) <;> rfl
  | other => rfl

/-- A run that asks for no window ends on another desktop as it ends here, in all but the desktop. -/
theorem runFrom_withDesktop (hs : s.Plain) (hfunctions : s.Only P) (step position taken : Nat) (lines : List Line)
    (hlines : Line.AllOnly P lines) :
    ((s.withDesktop d).runFrom step position taken lines).session =
        (s.runFrom step position taken lines).session.withDesktop d ∧
      ((s.withDesktop d).runFrom step position taken lines).error = (s.runFrom step position taken lines).error := by
  fun_induction runFrom s step position taken lines with
  | case1 => exact ⟨rfl, rfl⟩
  | case2 s step position taken head rest ih => exact ih hs hfunctions hlines.tail
  | case3 s step position head rest failure hfail =>
    have hstep := step_withDesktop d hP hs hfunctions head rest (hlines head rest List.suffix_rfl)
    rw [hfail] at hstep
    rw [runFrom, hstep]
    exact ⟨rfl, rfl⟩
  | case4 s step position head rest next taken hok run ih =>
    have hline := hlines head rest List.suffix_rfl
    have hmoves := s.step_moves hfunctions head rest hline
    have hstep := step_withDesktop d hP hs hfunctions head rest hline
    rw [hok] at hstep hmoves
    rw [runFrom, hstep]
    -- The session behind the step is plain again, and its functions ask for no window.
    exact ih (hmoves.plain hP hs).1 (hmoves.only hfunctions) hlines.tail

end Session

namespace Desktop

/-- A source without `window_Id(` in it comes to the same on any two desktops, with the same transcript or the same
error, and leaves both as they are. -/
theorem run_same_of_no_window (source : Text) (h : Text.contains "window_Id(".toList source = false)
    (d d' : Desktop) (file : Option Text) :
    (d.run source file).session.transcript = (d'.run source file).session.transcript ∧
      (d.run source file).error = (d'.run source file).error ∧
      (d.run source file).session.desktop = d ∧ (d'.run source file).session.desktop = d' := by
  have hlines := Line.allOnly_ofSource (by decide) (by decide) source h
  have hP : ∀ pattern, ¬(Expression.window pattern).FreeOf "window_Id(".toList :=
    fun pattern hfree => hfree.ne_window pattern rfl
  have hleft : ∀ d : Desktop, (d.run source file).session.desktop = d := by
    intro d
    have hmoves := d.run_moves_freeOf source file (by decide) (by decide) h _ (Run.session_mem_boundaries _)
    exact (hmoves.plain hP (Session.plain_start d file)).2
  obtain ⟨hsession, herror⟩ := Session.runFrom_withDesktop d' hP (Session.plain_start d file)
    (Session.only_start _ d file) 0 0 0 (Line.ofSource source) hlines
  exact ⟨(congrArg Session.transcript hsession).symm, herror.symm, hleft d, hleft d'⟩

/-- A script that finds, writes and asks for information, but has no window to do so, on no window and on one. -/
theorem run_same_of_no_window_info :
    let w : Window := ⟨['a'], .text [], .text [], .null, .null, .null, .null, .null, .null, .null, .absent, .null⟩
    let source : Text := Text.joinWith ['\n'] ["local w = window-1".toList, "w.database:write(k, v)".toList,
      "local c = w.library:find(components)".toList, "sys.log(w, c)".toList, "local i = w.info:(null)".toList]
    let d : Desktop := .ofWindows []
    let d' : Desktop := .ofWindows [w]
    Text.contains "window_Id(".toList source = false ∧ (d.run source none).error.isSome = true ∧
      (d.run source none).session.transcript = (d'.run source none).session.transcript ∧
      (d.run source none).error = (d'.run source none).error ∧ (d'.run source none).session.desktop = d' := by
  intro w source d d'
  have h : Text.contains "window_Id(".toList source = false := by decide +kernel
  obtain ⟨htranscript, herror, -, hleft⟩ := run_same_of_no_window source h d d' none
  exact ⟨h, by decide +kernel, htranscript, herror, hleft⟩

end Desktop

end DeskScript
