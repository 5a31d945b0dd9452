import DeskScript.Proofs.Except
import DeskScript.Script.Run

namespace DeskScript

namespace Line

variable {α : Type}

theorem locate_eq_ok_iff (l : Line) (file : Option Text) (x : Except Fault α) (a : α) :
    l.locate file x = .ok a ↔ x = .ok a :=
  Except.mapError_eq_ok_iff _ _ _

theorem locate_eq_error_iff (l : Line) (file : Option Text) (x : Except Fault α) (e : ScriptError) :
    l.locate file x = .error e ↔ ∃ fault, x = .error fault ∧ .malformed fault ⟨file, l.number⟩ = e :=
  Except.mapError_eq_error_iff _ _ _

end Line

theorem Declaration.read_eq_ok_iff (head : Line) (rest : List Line) (d : Declaration) :
    read head rest = .ok d ↔ ∃ header, DeclarationHeader.ofLine head = .ok header ∧
      if header.expression.elem '{' then
        ∃ block, Block.require head rest = .ok block ∧
          ⟨header.name, .ofBlock (Block.inner block.text), block.taken - 1⟩ = d
      else ⟨header.name, .ofText (Text.strip header.expression), 0⟩ = d := by
  rw [read, Except.bind_eq_ok_iff]
  refine exists_congr fun header => and_congr_right fun _ => ?_
  split
  · simp only [Except.bind_eq_ok_iff, Except.pure_eq_ok_iff]
  · rw [Except.pure_eq_ok_iff]

namespace Session

variable (s : Session)

theorem evaluateWindow_eq_ok_iff (pattern : Text) (v : Value) :
    s.evaluateWindow pattern = .ok v ↔
      ∃ n, v = .window n ∧ Desktop.resolve s.desktop.windows pattern = .ok (some n) := by
  unfold evaluateWindow
  split <;> simp [*, eq_comm]

theorem value_eq_ok_iff (e : Expression) (v : Value) (s' : Session) :
    s.value e = .ok (v, s') ↔ ∃ d, s.evaluate e = .ok (v, d) ∧ { s with desktop := d } = s' := by
  unfold value
  cases s.evaluate e with
  | error failure => simp
  | ok result =>
    obtain ⟨u, d⟩ := result
    simp only [Except.ok.injEq, Prod.mk.injEq]
    exact ⟨fun ⟨hv, hs⟩ => ⟨d, ⟨hv, rfl⟩, hs⟩, fun ⟨_, ⟨hv, rfl⟩, hs⟩ => ⟨hv, hs⟩⟩

theorem value_eq_error_iff (e : Expression) (failure : Failure Session) :
    s.value e = .error failure ↔
      ∃ f, s.evaluate e = .error f ∧ ⟨f.error, { s with desktop := f.reached }⟩ = failure := by
  unfold value
  cases s.evaluate e <;> simp

theorem assign_eq_ok_iff (name : Text) (e : Expression) (s' : Session) :
    s.assign name e = .ok s' ↔
      ∃ v d, s.evaluate e = .ok (v, d) ∧ { s with desktop := d }.bind name v = s' := by
  simp only [assign, Except.bind_eq_ok_iff, Except.pure_eq_ok_iff, Prod.exists, value_eq_ok_iff]
  exact ⟨fun ⟨v, _, ⟨d, h, rfl⟩, hs⟩ => ⟨v, d, h, hs⟩, fun ⟨v, d, h, hs⟩ => ⟨v, _, ⟨d, h, rfl⟩, hs⟩⟩

theorem assign_eq_error_iff (name : Text) (e : Expression) (failure : Failure Session) :
    s.assign name e = .error failure ↔ s.value e = .error failure := by
  simp only [assign, Except.bind_eq_error_iff, Except.pure_ne_error, and_false, exists_false, or_false]

theorem declare_eq_ok_iff (head : Line) (rest : List Line) (s' : Session) (n : Nat) :
    s.declare head rest = .ok (s', n) ↔
      ∃ d, Declaration.read head rest = .ok d ∧ s.assign d.name d.value = .ok s' ∧ d.taken = n := by
  simp only [declare, Except.bind_eq_ok_iff, Except.pure_eq_ok_iff, reading_eq_ok_iff, Line.locate_eq_ok_iff,
    Prod.mk.injEq]
  refine exists_congr fun d => and_congr_right fun _ => ⟨?_, ?_⟩
  · rintro ⟨_, hs, rfl, hn⟩
    exact ⟨hs, hn⟩
  · rintro ⟨hs, hn⟩
    exact ⟨_, hs, rfl, hn⟩

theorem declare_eq_error_iff (head : Line) (rest : List Line) (failure : Failure Session) :
    s.declare head rest = .error failure ↔
      (∃ fault, Declaration.read head rest = .error fault ∧ ⟨.malformed fault ⟨s.file, head.number⟩, s⟩ = failure) ∨
        ∃ d, Declaration.read head rest = .ok d ∧ s.value d.value = .error failure := by
  simp only [declare, Except.bind_eq_error_iff, reading_eq_ok_iff, reading_eq_error_iff, Line.locate_eq_ok_iff,
    Line.locate_eq_error_iff, assign_eq_error_iff, Except.pure_ne_error, and_false, exists_false, or_false]
  refine or_congr_left ⟨?_, ?_⟩
  · rintro ⟨_, ⟨fault, h, rfl⟩, rfl⟩
    exact ⟨fault, h, rfl⟩
  · rintro ⟨fault, h, rfl⟩
    exact ⟨_, ⟨fault, h, rfl⟩, rfl⟩

theorem define_eq_ok_iff (head : Line) (rest : List Line) (s' : Session) (n : Nat) :
    s.define head rest = .ok (s', n) ↔
      ∃ header, FunctionHeader.ofLine head = .ok header ∧ ∃ block, Block.require head rest = .ok block ∧
        { s with functions := s.functions.put header.name (.ofBody header.parameters block.text) } = s' ∧
        block.taken - 1 = n := by
  simp only [define, Except.bind_eq_ok_iff, Except.pure_eq_ok_iff, reading_eq_ok_iff, Line.locate_eq_ok_iff,
    Prod.mk.injEq]

/-- A definition can only fail for the text of its header or its block. -/
theorem define_eq_error_iff (head : Line) (rest : List Line) (failure : Failure Session) :
    s.define head rest = .error failure ↔ ∃ fault, ⟨.malformed fault ⟨s.file, head.number⟩, s⟩ = failure ∧
      (FunctionHeader.ofLine head = .error fault ∨
        ∃ header, FunctionHeader.ofLine head = .ok header ∧ Block.require head rest = .error fault) := by
  simp only [define, Except.bind_eq_error_iff, reading_eq_ok_iff, reading_eq_error_iff, Line.locate_eq_ok_iff,
    Line.locate_eq_error_iff, Except.pure_ne_error, and_false, exists_false, or_false]
  constructor
  · rintro (⟨_, ⟨fault, h, rfl⟩, rfl⟩ | ⟨header, h, _, ⟨fault, hb, rfl⟩, rfl⟩)
    · exact ⟨fault, rfl, .inl h⟩
    · exact ⟨fault, rfl, .inr ⟨header, h, hb⟩⟩
  · rintro ⟨fault, rfl, h | ⟨header, h, hb⟩⟩
    · exact .inl ⟨_, ⟨fault, h, rfl⟩, rfl⟩
    · exact .inr ⟨header, h, _, ⟨fault, hb, rfl⟩, rfl⟩

theorem log_eq_ok_iff (arguments : List Argument) (s' : Session) :
    s.log arguments = .ok s' ↔
      ∃ shown, arguments.mapM s.logArgument = .ok shown ∧ s.emit (Text.joinWith [' '] shown) = s' := by
  simp only [log, Except.bind_eq_ok_iff, Except.pure_eq_ok_iff, reading_eq_ok_iff]

theorem log_eq_error_iff (arguments : List Argument) (failure : Failure Session) :
    s.log arguments = .error failure ↔ ∃ e, arguments.mapM s.logArgument = .error e ∧ ⟨e, s⟩ = failure := by
  simp only [log, Except.bind_eq_error_iff, reading_eq_error_iff, Except.pure_ne_error, and_false, exists_false,
    or_false]

theorem reached_of_logLine (line : Text) (failure : Failure Session) (h : s.logLine line = .error failure) :
    failure.reached = s := by
  unfold logLine at h
  split at h
  · cases h
  · obtain ⟨e, -, rfl⟩ := (s.log_eq_error_iff _ _).1 h
    rfl

theorem noteCall_eq_ok_iff (name : Text) (arguments : List Text) (s' : Session) :
    s.noteCall name arguments = .ok s' ↔
      ∃ shown, s.desktop.renderList (arguments.map s.lookupOrText) = .ok shown ∧
        s.emit ("Called ".toList ++ name ++ " with: ".toList ++ shown) = s' := by
  simp only [noteCall, Except.bind_eq_ok_iff, Except.pure_eq_ok_iff, reading_eq_ok_iff]

theorem noteCall_eq_error_iff (name : Text) (arguments : List Text) (failure : Failure Session) :
    s.noteCall name arguments = .error failure ↔
      ∃ e, s.desktop.renderList (arguments.map s.lookupOrText) = .error e ∧ ⟨e, s⟩ = failure := by
  simp only [noteCall, Except.bind_eq_error_iff, reading_eq_error_iff, Except.pure_ne_error, and_false, exists_false,
    or_false]

theorem answer_eq_ok_iff (e : Expression) (s' : Session) :
    s.answer e = .ok s' ↔ ∃ v d, s.evaluate e = .ok (v, d) ∧
      ∃ shown, d.renderCompact (.value v) = .ok shown ∧
        { s with desktop := d }.emit ("Return: ".toList ++ shown) = s' := by
  simp only [answer, Except.bind_eq_ok_iff, Except.pure_eq_ok_iff, reading_eq_ok_iff, Prod.exists, value_eq_ok_iff]
  constructor
  · rintro ⟨v, _, ⟨d, h, rfl⟩, shown, hshown, hs⟩
    exact ⟨v, d, h, shown, hshown, hs⟩
  · rintro ⟨v, d, h, shown, hshown, hs⟩
    exact ⟨v, _, ⟨d, h, rfl⟩, shown, hshown, hs⟩

/-- An answer that cannot be shown fails after its evaluation has changed the desktop. -/
theorem answer_eq_error_iff (e : Expression) (failure : Failure Session) :
    s.answer e = .error failure ↔ s.value e = .error failure ∨
      ∃ v d, s.evaluate e = .ok (v, d) ∧
        ∃ err, d.renderCompact (.value v) = .error err ∧ ⟨err, { s with desktop := d }⟩ = failure := by
  simp only [answer, Except.bind_eq_error_iff, reading_eq_ok_iff, reading_eq_error_iff, Except.pure_ne_error,
    and_false, exists_false, or_false, Prod.exists, value_eq_ok_iff]
  refine or_congr_right ⟨?_, ?_⟩
  · rintro ⟨v, _, ⟨d, h, rfl⟩, err, herr, hs⟩
    exact ⟨v, d, h, err, herr, hs⟩
  · rintro ⟨v, d, h, err, herr, hs⟩
    exact ⟨v, _, ⟨d, h, rfl⟩, err, herr, hs⟩

theorem step_of_kind_declaration (head : Line) (rest : List Line) (h : s.kindOf head.stripped = .declaration) :
    s.step head rest = s.declare head rest := by
  simp only [step, h]

theorem step_of_kind_definition (head : Line) (rest : List Line) (h : s.kindOf head.stripped = .definition) :
    s.step head rest = s.define head rest := by
  simp only [step, h]

theorem step_of_kind_log (head : Line) (rest : List Line) (h : s.kindOf head.stripped = .log) :
    s.step head rest = (s.logLine head.stripped).map fun s => (s, 0) := by
  simp only [step, h]

theorem step_of_kind_call (head : Line) (rest : List Line) (h : s.kindOf head.stripped = .call) :
    s.step head rest = (s.invoke head.stripped).map fun s => (s, 0) := by
  simp only [step, h]

theorem step_of_kind_action (head : Line) (rest : List Line) (h : s.kindOf head.stripped = .action) :
    s.step head rest = (s.value (.ofText head.stripped)).map fun result => (result.2, 0) := by
  simp only [step, h]

theorem step_of_kind_other (head : Line) (rest : List Line) (h : s.kindOf head.stripped = .other) :
    s.step head rest = .ok (s, 0) := by
  simp only [step, h]

/-- What neither declares nor defines nor logs something is a call, or else an action, if it has the shape of one. -/
theorem kindOf_of_not_words (statement : Text) (hword : Text.startsWith declarationWord statement = false)
    (hdefinition : Text.startsWith definitionWord statement = false)
    (hlog : Text.contains logMark statement = false) :
    s.kindOf statement =
      if s.callsFunction statement then .call
      else if (Shape.call? statement).isSome then .action else .other := by
  rw [kindOf, hword, hdefinition, hlog]
  rfl

theorem step_of_declaration (head : Line) (rest : List Line)
    (h : Text.startsWith declarationWord head.stripped = true) :
    s.step head rest = s.declare head rest :=
  s.step_of_kind_declaration head rest (by rw [kindOf, if_pos h])

theorem step_of_read (head : Line) (rest : List Line) (declaration : Declaration) (v : Value) (d : Desktop)
    (h : Text.startsWith declarationWord head.stripped = true) (hread : Declaration.read head rest = .ok declaration)
    (hvalue : s.evaluate declaration.value = .ok (v, d)) :
    s.step head rest = .ok ({ s with desktop := d }.bind declaration.name v, declaration.taken) := by
  rw [s.step_of_declaration head rest h, declare_eq_ok_iff]
  exact ⟨declaration, hread, (s.assign_eq_ok_iff _ _ _).2 ⟨v, d, hvalue, rfl⟩, rfl⟩

theorem step_of_definition (head : Line) (rest : List Line)
    (hword : Text.startsWith declarationWord head.stripped = false)
    (h : Text.startsWith definitionWord head.stripped = true) :
    s.step head rest = s.define head rest :=
  s.step_of_kind_definition head rest (by rw [kindOf, hword, if_neg Bool.false_ne_true, if_pos h])

theorem step_of_log (head : Line) (rest : List Line)
    (hword : Text.startsWith declarationWord head.stripped = false)
    (hdefinition : Text.startsWith definitionWord head.stripped = false)
    (h : Text.contains logMark head.stripped = true) :
    s.step head rest = (s.logLine head.stripped).map fun s => (s, 0) := by
  refine s.step_of_kind_log head rest ?_
  rw [kindOf, hword, if_neg Bool.false_ne_true, hdefinition, if_neg Bool.false_ne_true, if_pos h]

end Session

end DeskScript
