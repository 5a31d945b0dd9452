import DeskScript.Proofs.Script.Composition
import DeskScript.Proofs.Script.Frames
import DeskScript.Proofs.Script.Source

namespace DeskScript

def Session.withFile (file : Option Text) (s : Session) : Session := s.reframe id fun _ => file

def Dispatch.withFile (file : Option Text) (d : Dispatch) : Dispatch := { d with before := d.before.withFile file }

def Run.withFile (file : Option Text) (r : Run) : Run :=
  ⟨r.session.withFile file, r.dispatched.map (.withFile file), r.error.map (.rename fun _ => file)⟩

namespace Session

variable (file : Option Text) (s : Session)

theorem invoke_withFile (statement : Text) :
    (s.withFile file).invoke statement = reframed id (fun _ => file) (.withFile file) (s.invoke statement) := by
  have hfunctions : (s.withFile file).functions = s.functions := rfl
  unfold invoke
  rw [hfunctions]
  split
  · rfl
  · exact s.followAll_reframe id (fun _ => file) _

theorem declare_withFile (head : Line) (rest : List Line) :
    (s.withFile file).declare head rest =
      reframed id (fun _ => file) (fun r => (r.1.withFile file, r.2)) (s.declare head rest) := by
  have hassign : ∀ name e, (s.withFile file).assign name e =
      reframed id (fun _ => file) (.withFile file) (s.assign name e) := s.assign_reframe id fun _ => file
  rw [declare, declare]
  cases Declaration.read head rest with
  | error fault => rfl
  | ok d =>
    change ((s.withFile file).assign d.name d.value >>= _) = reframed _ _ _ (s.assign d.name d.value >>= _)
    rw [hassign]
    cases s.assign d.name d.value <;> rfl

theorem define_withFile (head : Line) (rest : List Line) :
    (s.withFile file).define head rest =
      reframed id (fun _ => file) (fun r => (r.1.withFile file, r.2)) (s.define head rest) := by
  rw [define, define]
  cases FunctionHeader.ofLine head with
  | error fault => rfl
  | ok header => cases Block.require head rest <;> rfl

theorem step_withFile (head : Line) (rest : List Line) :
    (s.withFile file).step head rest =
      reframed id (fun _ => file) (fun r => (r.1.withFile file, r.2)) (s.step head rest) := by
  have hkind : (s.withFile file).kindOf head.stripped = s.kindOf head.stripped := rfl
  unfold step
  dsimp only
  rw [hkind]
  cases s.kindOf head.stripped with
  | declaration =>
    exact s.declare_withFile file head rest
  | definition =>
    exact s.define_withFile file head rest
  | log =>
    have hlog : (s.withFile file).logLine head.stripped =
        reframed id (fun _ => file) (.withFile file) (s.logLine head.stripped) :=
      s.logLine_reframe id (fun _ => file) head.stripped
    dsimp only
    rw [hlog]
    cases s.logLine head.stripped <;> rfl
  | call =>
    dsimp only
    rw [invoke_withFile]
    cases s.invoke head.stripped <;> rfl
  | action =>
    have hvalue : (s.withFile file).value (.ofText head.stripped) =
        reframed id (fun _ => file) (fun r => (r.1, r.2.withFile file)) (s.value (.ofText head.stripped)) :=
      s.value_reframe id (fun _ => file) _
    dsimp only
    rw [hvalue]
    cases s.value (.ofText head.stripped) <;> rfl
  | other => rfl

/-- A run under another name differs in that name only. -/
theorem runFrom_withFile (step position taken : Nat) (lines : List Line) :
    (s.withFile file).runFrom step position taken lines = (s.runFrom step position taken lines).withFile file := by
  fun_induction runFrom s step position taken lines with
  | case1 => rfl
  | case2 s step position taken head rest ih => exact ih
  | case3 s step position head rest failure hfail =>
    rw [runFrom, step_withFile, hfail]
    rfl
  | case4 s step position head rest s' taken hok run ih =>
    have hstep : (s.withFile file).step head rest = .ok (s'.withFile file, taken) := by
      rw [step_withFile, hok]
      rfl
    rw [runFrom_zero_cons_of_ok _ _ _ _ _ _ _ hstep, ih]
    rfl

end Session

theorem Desktop.run_withFile (d : Desktop) (source : Text) (file : Option Text) :
    d.run source file = (d.run source none).withFile file :=
  (Session.start d none).runFrom_withFile file 0 0 0 (Line.ofSource source)

theorem ScriptError.file_of_rename (file : Option Text) (e : ScriptError) (place : Place)
    (h : (e.rename fun _ => file).place? = some place) : place.file = file := by
  cases e with
  | malformed =>
    cases h
    rfl
  | _ => cases h

theorem ScriptError.className_of_place?_eq_some (e : ScriptError) (place : Place) (h : e.place? = some place) :
    e.className ∈ ["FluxoParseError".toList, "FluxoIncompleteParse".toList] := by
  cases e with
  | malformed fault =>
    cases fault with
    | badHeader => exact .head _
    | unterminatedBlock => exact .tail _ (.head _)
  | _ => cases h

theorem ScriptError.className_of_place?_eq_none (e : ScriptError) (h : e.place? = none) :
    e.className ∈ ["FluxoNameError".toList, "FluxoTypeError".toList, "ValueError".toList,
      "AttributeError".toList] := by
  cases e with
  | malformed => cases h
  | unknownWindow => exact .head _
  | notAWindow | notWritable => exact .tail _ (.head _)
  | badIndex | longIndex | circular | longNumber => exact .tail _ (.tail _ (.head _))
  | titleNotText | libraryNotTable => exact .tail _ (.tail _ (.tail _ (.head _)))

theorem ScriptError.exists_place_of_className (e : ScriptError)
    (h : e.className ∈ ["FluxoParseError".toList, "FluxoIncompleteParse".toList]) :
    ∃ place, e.place? = some place := by
  cases hplace : e.place? with
  | some place => exact ⟨place, rfl⟩
  | none =>
    have hdisjoint : ∀ name ∈ ["FluxoNameError".toList, "FluxoTypeError".toList, "ValueError".toList,
        "AttributeError".toList], name ∉ ["FluxoParseError".toList, "FluxoIncompleteParse".toList] := by
      decide +kernel
    exact absurd h (hdisjoint _ (e.className_of_place?_eq_none hplace))

theorem ScriptError.place?_of_className (e : ScriptError)
    (h : e.className ∈ ["FluxoNameError".toList, "FluxoTypeError".toList]) : e.place? = none := by
  cases hplace : e.place? with
  | none => rfl
  | some place =>
    have hdisjoint : ∀ name ∈ ["FluxoParseError".toList, "FluxoIncompleteParse".toList],
        name ∉ ["FluxoNameError".toList, "FluxoTypeError".toList] := by decide +kernel
    exact absurd h (hdisjoint _ (e.className_of_place?_eq_some place hplace))

/-- The message of a fault ends with the first line of its statement. -/
def Fault.Tells (fault : Fault) (statement : Text) : Prop := ": ".toList ++ statement <:+ fault.message

theorem Fault.tells_badHeader (kind : HeaderKind) (text : Text) (column : Nat) :
    (badHeader kind text column).Tells text :=
  ⟨"Invalid ".toList ++ kind.title, (List.append_assoc ..).symm⟩

theorem Fault.tells_unterminatedBlock (head : Text) : (unterminatedBlock head).Tells head := by
  have hfront : "Unterminated block starting at: ".toList = "Unterminated block starting at".toList ++ ": ".toList := by
    decide +kernel
  exact ⟨_, (List.append_assoc ..).symm.trans (congrArg (· ++ head) hfront.symm)⟩

theorem Block.tells_of_require (head : Line) (rest : List Line) (fault : Fault)
    (h : require head rest = .error fault) : fault.Tells head.stripped := by
  unfold require at h
  split at h <;> cases h
  exact Fault.tells_unterminatedBlock _

theorem Declaration.tells_of_read (head : Line) (rest : List Line) (fault : Fault)
    (h : read head rest = .error fault) : fault.Tells head.stripped := by
  obtain h | ⟨header, -, h⟩ := (Except.bind_eq_error_iff _ _ _).1 h
  · obtain ⟨column, -, rfl⟩ := (Except.mapError_eq_error_iff _ _ _).1 h
    exact Fault.tells_badHeader ..
  · split at h
    · obtain h | ⟨block, -, h⟩ := (Except.bind_eq_error_iff _ _ _).1 h
      · exact Block.tells_of_require head rest fault h
      · exact absurd h (Except.pure_ne_error _ _)
    · exact absurd h (Except.pure_ne_error _ _)

theorem FunctionHeader.tells_of_ofLine (head : Line) (fault : Fault) (h : ofLine head = .error fault) :
    fault.Tells head.stripped := by
  obtain ⟨column, -, rfl⟩ := (Except.mapError_eq_error_iff _ _ _).1 h
  exact Fault.tells_badHeader ..

namespace Session

variable (s : Session)

theorem line_of_follow (i : Instruction) (failure : Failure Session) (place : Place) (h : s.follow i = .error failure)
    (hplace : failure.error.place? = some place) : place.line = none := by
  cases i with
  | declare d =>
    cases d with
    | error fault =>
      cases h
      cases hplace
      rfl
    | ok d =>
      rw [s.place?_of_value _ failure ((s.assign_eq_error_iff _ _ _).1 h)] at hplace
      cases hplace
  | log arguments =>
    rw [s.place?_of_log _ failure h] at hplace
    cases hplace
  | answer e =>
    rw [s.place?_of_answer e failure h] at hplace
    cases hplace
  | note name arguments =>
    rw [s.place?_of_noteCall _ _ failure h] at hplace
    cases hplace
  | nothing => cases h

theorem line_of_followAll (is : List (Thunk Instruction)) (failure : Failure Session) (place : Place)
    (h : s.followAll is = .error failure) (hplace : failure.error.place? = some place) : place.line = none := by
  -- In a body no line has a number, so the instruction that fails has none to tell.
  induction is generalizing s with
  | nil => cases h
  | cons i is ih =>
    rw [followAll] at h
    cases hi : s.follow i.get with
    | error failure' =>
      simp only [hi] at h
      cases h
      exact s.line_of_follow _ _ place hi hplace
    | ok s' =>
      simp only [hi] at h
      exact ih s' h

/-- A statement that fails with a place calls a function, or else it is told in the error with its number. -/
theorem line_of_step (head : Line) (rest : List Line) (failure : Failure Session) (place : Place)
    (h : s.step head rest = .error failure) (hplace : failure.error.place? = some place) :
    s.kindOf head.stripped = .call ∧ place.line = none ∨
      place.line = head.number ∧ ": ".toList ++ head.stripped <:+ failure.error.message := by
  cases hk : s.kindOf head.stripped with
  | declaration =>
    rw [s.step_of_kind_declaration head rest hk] at h
    obtain ⟨fault, hread, rfl⟩ | ⟨d, -, he⟩ := (s.declare_eq_error_iff _ _ _).1 h
    · cases hplace
      exact .inr ⟨rfl, Declaration.tells_of_read head rest fault hread⟩
    · rw [s.place?_of_value _ failure he] at hplace
      cases hplace
  | definition =>
    rw [s.step_of_kind_definition head rest hk] at h
    obtain ⟨fault, rfl, hheader | ⟨header, -, hblock⟩⟩ := (s.define_eq_error_iff _ _ _).1 h <;> cases hplace
    · exact .inr ⟨rfl, FunctionHeader.tells_of_ofLine head fault hheader⟩
    · exact .inr ⟨rfl, Block.tells_of_require head rest fault hblock⟩
  | log =>
    rw [s.step_of_kind_log head rest hk] at h
    rw [s.place?_of_logLine _ failure ((Except.map_eq_error_iff _ _ _).1 h)] at hplace
    cases hplace
  | call =>
    rw [s.step_of_kind_call head rest hk] at h
    have hi : s.invoke head.stripped = .error failure := (Except.map_eq_error_iff _ _ _).1 h
    unfold invoke at hi
    split at hi
    · cases hi
    · -- The body is read again without numbers.
      exact .inl ⟨rfl, s.line_of_followAll _ failure place hi hplace⟩
  | action =>
    rw [s.step_of_kind_action head rest hk] at h
    rw [s.place?_of_value _ failure ((Except.map_eq_error_iff _ _ _).1 h)] at hplace
    cases hplace
  | other =>
    rw [s.step_of_kind_other head rest hk] at h
    cases h

end Session

namespace Desktop

/-- A run that fails stops in one statement, and the lines before that run through. If its error is in the shape of
the script, it names the file; and the line that it names is the one on which the statement begins, which the message
tells at its end, unless the statement calls a function and no line is named. An error for want of a window or of the
right type names no line. -/
theorem run_error_place (d : Desktop) (source : Text) (file : Option Text) (e : ScriptError)
    (h : (d.run source file).error = some e) :
    let run := d.run source file
    let lines := Line.ofSource source
    ∃ x, run.dispatched.getLast? = some x ∧ lines[x.position]? = some x.line ∧
      x.before.step x.line (lines.drop (x.position + 1)) = .error ⟨e, run.session⟩ ∧
      (Session.start d file).run (lines.take x.position) = ⟨x.before, run.dispatched.dropLast, none⟩ ∧
      (e.className ∈ ["FluxoParseError".toList, "FluxoIncompleteParse".toList] →
        ∃ place, e.place? = some place ∧ place.file = file ∧
          (x.before.kindOf x.line.stripped = .call ∧ place.line = none ∨
            ∃ i t, place.line = some (i + 1) ∧ (Text.splitOn '\n' source)[i]? = some t ∧
              Text.strip t = x.line.stripped ∧ ": ".toList ++ Text.strip t <:+ e.message)) ∧
      (e.className ∈ ["FluxoNameError".toList, "FluxoTypeError".toList] → e.place?.bind Place.line = none) := by
  intro run lines
  obtain ⟨x, i, hlast, hpos, -, hline, hstep, hrun⟩ := (Session.start d file).runFrom_of_error 0 0 0 lines e h
  obtain rfl : x.position = i := hpos.trans (Nat.zero_add i)
  refine ⟨x, hlast, hline, hstep, hrun, fun hclass => ?_, fun hclass => ?_⟩
  · obtain ⟨place, hplace⟩ := e.exists_place_of_className hclass
    refine ⟨place, hplace, ?_, ?_⟩
    · -- The run is the nameless one, under the name.
      rw [d.run_withFile source file] at h
      obtain ⟨e', -, rfl⟩ := Option.map_eq_some_iff.1 h
      exact e'.file_of_rename file place hplace
    · obtain hcall | ⟨hnumber, hmessage⟩ := x.before.line_of_step x.line _ _ place hstep hplace
      · exact .inl hcall
      · obtain ⟨i, hi, ht, -⟩ := Line.exists_of_mem_ofSource source x.line (List.mem_of_getElem? hline)
        exact .inr ⟨i, x.line.text, hnumber.trans hi, ht, rfl, hmessage⟩
  · rw [e.place?_of_className hclass]
    rfl

/-- A block that does not end, behind a comment and a blank line. -/
theorem run_error_place_block :
    let source : Text := "sys.log(a)\n// b\n\n  local x = \x7b\r\nw.library:find(k)".toList
    let file : Option Text := some "f".toList
    let e : ScriptError := .malformed (.unterminatedBlock "local x = \x7b".toList) ⟨file, some 4⟩
    let run := (ofWindows []).run source file
    run.error = some e ∧ ∃ x, run.dispatched.getLast? = some x ∧
      ∃ place, e.place? = some place ∧ place.file = file ∧
        (x.before.kindOf x.line.stripped = .call ∧ place.line = none ∨
          ∃ i t, place.line = some (i + 1) ∧ (Text.splitOn '\n' source)[i]? = some t ∧
            Text.strip t = x.line.stripped ∧ ": ".toList ++ Text.strip t <:+ e.message) := by
  intro source file e run
  have h : run.error = some e := by decide +kernel
  obtain ⟨x, hlast, -, -, -, hplace, -⟩ := run_error_place (ofWindows []) source file e h
  exact ⟨h, x, hlast, hplace (by decide)⟩

end Desktop

end DeskScript
