import DeskScript.Proofs.Desktop.Replay
import DeskScript.Proofs.Script.Composition
import DeskScript.Proofs.Script.Functions
import DeskScript.Proofs.Script.Source
import DeskScript.Proofs.Script.Spacing

namespace DeskScript

/-- Lines laid out in another way: some have other white space around them, and silent ones come and go. -/
inductive Relaid : List Text → List Text → Prop where
  | nil : Relaid [] []
  | line (g₁ g₂ g₁' g₂' l : Text) {lines lines' : List Text} (h₁ : Text.isBlankLine g₁ = true)
      (h₂ : Text.isBlankLine g₂ = true) (h₁' : Text.isBlankLine g₁' = true)
      (h₂' : Text.isBlankLine g₂' = true) (h : Relaid lines lines') :
      Relaid ((g₁ ++ l ++ g₂) :: lines) ((g₁' ++ l ++ g₂') :: lines')
  | left (l : Text) {lines lines' : List Text} (hl : Line.isSilent l = true) (h : Relaid lines lines') :
      Relaid (l :: lines) lines'
  | right (l : Text) {lines lines' : List Text} (hl : Line.isSilent l = true) (h : Relaid lines lines') :
      Relaid lines (l :: lines')

theorem Relaid.agrees {lines lines' : List Text} (h : Relaid lines lines') (n n' : Nat) :
    List.Forall₂ Line.Agrees (Line.numberedFrom n lines) (Line.numberedFrom n' lines') := by
  induction h generalizing n n' with
  | nil => exact .nil
  | @line g₁ g₂ g₁' g₂' l lines lines' h₁ h₂ h₁' h₂' h ih =>
    have hl : Text.strip (g₁ ++ l ++ g₂) = Text.strip l := Text.strip_append _ _ _ h₁ h₂
    have hl' : Text.strip (g₁' ++ l ++ g₂') = Text.strip l := Text.strip_append _ _ _ h₁' h₂'
    have hsilent : Line.isSilent (g₁' ++ l ++ g₂') = Line.isSilent (g₁ ++ l ++ g₂) := by
      rw [Line.isSilent, Line.isSilent, hl, hl']
    -- White space around a line does not make it silent, nor a silent line a statement.
    cases hs : Line.isSilent (g₁ ++ l ++ g₂) with
    | true =>
      rw [Line.numberedFrom_of_silent _ _ _ hs, Line.numberedFrom_of_silent _ _ _ (hsilent.trans hs)]
      exact ih _ _
    | false =>
      rw [Line.numberedFrom_of_not_silent _ _ _ hs, Line.numberedFrom_of_not_silent _ _ _ (hsilent.trans hs)]
      exact .cons (hl.trans hl'.symm) (ih _ _)
  | left l hl h ih =>
    rw [Line.numberedFrom_of_silent _ _ _ hl]
    exact ih _ _
  | right l hl h ih =>
    rw [Line.numberedFrom_of_silent _ _ _ hl]
    exact ih _ _

/-- No library has a text of several lines as a key. -/
def Desktop.SingleLineKeys (d : Desktop) : Prop :=
  ∀ w ∈ d.windows, ∀ members, w.library = .object members → ∀ m ∈ members, '\n' ∉ m.1

theorem Window.newline_notMem_defaultLibrary (w : Window) : ∀ m ∈ w.defaultLibrary, '\n' ∉ m.1 := by
  intro m hm
  have hnames : w.defaultLibrary.map Prod.fst =
      ["mainSection".toList, "crossSection".toList, "components".toList] := rfl
  have hall : ∀ name ∈ ["mainSection".toList, "crossSection".toList, "components".toList], '\n' ∉ name := by
    decide
  exact hall m.1 (hnames ▸ List.mem_map_of_mem hm)

theorem Desktop.Evolves.singleLineKeys {writes : List Write} {d d' : Desktop}
    (h : Desktop.Evolves writes d d') (hd : d.SingleLineKeys) : d'.SingleLineKeys := by
  intro w' hw' members hmembers
  obtain ⟨n, w, hw, he⟩ := Window.exists_evolves_of_mem h.length h.windows hw'
  obtain hl | ⟨-, hl⟩ := he.library
  · exact hd w hw members (hl ▸ hmembers)
  · obtain rfl : w.defaultLibrary = members := by
      rw [hl] at hmembers
      exact Json.object.inj hmembers
    exact w.newline_notMem_defaultLibrary

namespace Desktop

theorem SingleLineKeys.lookup_eq_none {d : Desktop} (hd : d.SingleLineKeys) {w : Window} (hw : w ∈ d.windows)
    {members : List (Text × Json)} (hm : w.libraryOrDefault = .object members) {k : Text} (hk : '\n' ∈ k) :
    members.lookup k = none := by
  have hkeys : ∀ m ∈ members, '\n' ∉ m.1 := by
    unfold Window.libraryOrDefault at hm
    split at hm
    · obtain rfl := Json.object.inj hm
      exact w.newline_notMem_defaultLibrary
    · exact hd w hw members hm
  rw [List.lookup_eq_none_iff]
  intro m hmem
  have hne : k ≠ m.1 := by
    rintro rfl
    exact hkeys m hmem hk
  simpa using hne

/-- Texts of several lines are looked up in vain, so it makes no difference which. -/
theorem find_eq_of_newline (d : Desktop) (hd : d.SingleLineKeys) (n : Nat) (w : Window) (hw : w ∈ d.windows)
    {k k' : Text} (hk : '\n' ∈ k) (hk' : '\n' ∈ k') : d.find n w (.text k) = d.find n w (.text k') := by
  unfold find
  split
  · rename_i members hm
    have hkey : ∀ k : Text, d.keyFor (.text k) = .ok (.text k) := fun _ => rfl
    rw [hkey, hkey]
    dsimp only [entryUnder]
    rw [hd.lookup_eq_none hw hm hk, hd.lookup_eq_none hw hm hk']
  · rfl

end Desktop

namespace Session

theorem evaluate_alike (s : Session) (hd : s.desktop.SingleLineKeys) {e e' : Expression} (h : e.Alike e') :
    s.evaluate e = s.evaluate e' := by
  cases h with
  | refl => rfl
  | @find name k k' hk hk' =>
    rw [evaluate, evaluate]
    split
    · rfl
    · rename_i n _
      change s.desktop.perform n .find [.text k] = s.desktop.perform n .find [.text k']
      unfold Desktop.perform
      dsimp only
      split
      · rfl
      · exact s.desktop.find_eq_of_newline hd n _ (List.mem_of_getElem? ‹_›) hk hk'

theorem assign_alike (s : Session) (hd : s.desktop.SingleLineKeys) {d d' : Declaration} (h : d.Alike d') :
    s.assign d.name d.value = s.assign d'.name d'.value := by
  rw [assign, assign, h.name, value, value, s.evaluate_alike hd h.value]

theorem follow_alike (s : Session) (hd : s.desktop.SingleLineKeys) {i i' : Instruction} (h : i.Alike i') :
    s.follow i = s.follow i' := by
  cases h with
  | refl => rfl
  | declare h =>
    cases h with
    | error he => rw [he]
    | ok h => rw [follow, follow, s.assign_alike hd h]

theorem followAll_alike (s : Session) (hd : s.desktop.SingleLineKeys) {is is' : List (Thunk Instruction)}
    (h : List.Forall₂ (fun i i' => i.get.Alike i'.get) is is') : s.followAll is = s.followAll is' := by
  induction h generalizing s with
  | nil => rfl
  | @cons i i' is is' hi h ih =>
    have hleads := s.follow_leads i.get
    rw [followAll, followAll, ← s.follow_alike hd hi]
    cases hs : s.follow i.get with
    | error failure => rfl
    | ok s' =>
      rw [hs] at hleads
      exact ih s' (hleads.evolves.singleLineKeys hd)

end Session

def ScriptError.unnumbered : ScriptError → ScriptError
  | malformed fault place => malformed fault { place with line := none }
  | e => e

@[simp] theorem ScriptError.className_unnumbered (e : ScriptError) : e.unnumbered.className = e.className := by
  cases e <;> rfl

@[simp] theorem ScriptError.message_unnumbered (e : ScriptError) : e.unnumbered.message = e.message := by
  cases e <;> rfl

theorem ScriptError.map_told_eq {x y : Option ScriptError} (h : x.map unnumbered = y.map unnumbered) :
    x.map (fun e => (e.className, e.message)) = y.map fun e => (e.className, e.message) := by
  have htold : ∀ z : Option ScriptError, (z.map unnumbered).map (fun e => (e.className, e.message)) =
      z.map fun e => (e.className, e.message) := by
    intro z
    simp only [Option.map_map, Function.comp_def, className_unnumbered, message_unnumbered]
  rw [← htold x, h, htold y]

def FunctionsAlike (functions functions' : Table Text Function) : Prop :=
  ∀ name, Option.Rel Function.Alike (functions.get? name) (functions'.get? name)

theorem FunctionsAlike.put {functions functions' : Table Text Function} (h : FunctionsAlike functions functions')
    (name : Text) {f f' : Function} (hf : f.Alike f') :
    FunctionsAlike (functions.put name f) (functions'.put name f') := by
  intro name'
  rw [Table.get?_put, Table.get?_put]
  split
  · exact .some hf
  · exact h name'

namespace Session

/-- The same session, but for functions that are alike. -/
def Alike (s s' : Session) : Prop :=
  ∃ functions, s' = s.withFunctions functions ∧ FunctionsAlike s.functions functions

end Session

def Failure.Alike (failure failure' : Failure Session) : Prop :=
  failure.error.unnumbered = failure'.error.unnumbered ∧ failure.reached.Alike failure'.reached

namespace Session

theorem reading_alike {α β : Type} {R : α → β → Prop} {s s' : Session} (hs : s.Alike s')
    {x : Except ScriptError α} {y : Except ScriptError β}
    (h : Except.Rel (fun e e' => e.unnumbered = e'.unnumbered) R x y) :
    Except.Rel Failure.Alike R (reading s x) (reading s' y) :=
  h.mapError fun _ _ he => ⟨he, hs⟩

theorem outcomeWith_alike {x : Except (Failure Session) Session} {functions functions' : Table Text Function}
    (hkeep : (leftBy id x).functions = functions) (hfunctions : FunctionsAlike functions functions') :
    Except.Rel Failure.Alike Alike x (outcomeWith functions' x) := by
  subst hkeep
  cases x with
  | ok s' => exact .ok ⟨functions', rfl, hfunctions⟩
  | error failure => exact .error ⟨rfl, functions', rfl, hfunctions⟩

theorem locate_alike {α β : Type} {R : α → β → Prop} (l l' : Line) (file : Option Text) {x : Except Fault α}
    {y : Except Fault β} (h : Except.Rel Eq R x y) :
    Except.Rel (fun e e' => e.unnumbered = e'.unnumbered) R (l.locate file x) (l'.locate file y) := by
  refine h.mapError ?_
  rintro fault _ rfl
  rfl

variable {head head' : Line} {rest rest' : List Line}

theorem declare_alike (s : Session) (functions : Table Text Function)
    (hfunctions : FunctionsAlike s.functions functions) (hd : s.desktop.SingleLineKeys)
    (hhead : head.Agrees head') (hrest : List.Forall₂ Line.Agrees rest rest') :
    Except.Rel Failure.Alike (fun p q => p.1.Alike q.1 ∧ p.2 = q.2)
      (s.declare head rest) ((s.withFunctions functions).declare head' rest') := by
  have hs : s.Alike (s.withFunctions functions) := ⟨functions, rfl, hfunctions⟩
  refine (reading_alike hs (locate_alike head head' s.file (Declaration.read_alike hhead hrest))).bind
    fun d d' h => ?_
  rw [assign_withFunctions, ← s.assign_alike hd h]
  have hassign := outcomeWith_alike (s.assign_functions d.name d.value) hfunctions
  exact hassign.bind fun _ _ halike => .ok ⟨halike, h.taken⟩

theorem define_alike (s : Session) (functions : Table Text Function)
    (hfunctions : FunctionsAlike s.functions functions) (hhead : head.Agrees head')
    (hrest : List.Forall₂ Line.Agrees rest rest') :
    Except.Rel Failure.Alike (fun p q => p.1.Alike q.1 ∧ p.2 = q.2)
      (s.define head rest) ((s.withFunctions functions).define head' rest') := by
  have hs : s.Alike (s.withFunctions functions) := ⟨functions, rfl, hfunctions⟩
  have hheader : FunctionHeader.ofLine head = FunctionHeader.ofLine head' := by
    rw [FunctionHeader.ofLine, FunctionHeader.ofLine, hhead]
  unfold define
  rw [hheader]
  refine (reading_alike hs (locate_alike head head' s.file
    (Except.Rel.refl (fun _ => rfl) (fun _ => rfl) (FunctionHeader.ofLine head')))).bind ?_
  rintro header _ rfl
  refine (reading_alike hs (locate_alike head head' s.file (Block.require_alike hhead hrest))).bind
    fun block block' h => ?_
  refine .ok ⟨⟨_, rfl, ?_⟩, congrArg (· - 1) h.taken⟩
  exact hfunctions.put header.name (Function.ofBody_alike header.parameters h.inner)

theorem invoke_alike (s : Session) (functions : Table Text Function)
    (hfunctions : FunctionsAlike s.functions functions) (hd : s.desktop.SingleLineKeys) (statement : Text) :
    Except.Rel Failure.Alike Alike (s.invoke statement) ((s.withFunctions functions).invoke statement) := by
  have hfound : Option.Rel Function.Alike ((Shape.invokedName? statement).bind s.functions.get?)
      ((Shape.invokedName? statement).bind (s.withFunctions functions).functions.get?) := by
    cases Shape.invokedName? statement with
    | none => exact .none
    | some name => exact hfunctions name
  unfold invoke
  generalize (Shape.invokedName? statement).bind s.functions.get? = x at hfound ⊢
  generalize (Shape.invokedName? statement).bind (s.withFunctions functions).functions.get? = y at hfound ⊢
  cases hfound with
  | none => exact .ok ⟨functions, rfl, hfunctions⟩
  | @some f f' hf =>
    dsimp only
    rw [followAll_withFunctions, ← s.followAll_alike hd hf]
    exact outcomeWith_alike (s.followAll_functions f.instructions) hfunctions

theorem callsFunction_alike (s : Session) (functions : Table Text Function)
    (hfunctions : FunctionsAlike s.functions functions) (statement : Text) :
    (s.withFunctions functions).callsFunction statement = s.callsFunction statement := by
  unfold callsFunction
  split
  · exact (hfunctions _).isSome_eq.symm
  · rfl

theorem kindOf_alike (s : Session) (functions : Table Text Function)
    (hfunctions : FunctionsAlike s.functions functions) (statement : Text) :
    (s.withFunctions functions).kindOf statement = s.kindOf statement := by
  rw [kindOf, kindOf, s.callsFunction_alike functions hfunctions]

/-- Statements that are laid out in another way do the same, or fail alike. -/
theorem step_alike {s s' : Session} (h : s.Alike s') (hd : s.desktop.SingleLineKeys)
    (hhead : head.Agrees head') (hrest : List.Forall₂ Line.Agrees rest rest') :
    Except.Rel Failure.Alike (fun p q => p.1.Alike q.1 ∧ p.2 = q.2) (s.step head rest)
      (s'.step head' rest') := by
  have hs := h
  obtain ⟨functions, rfl, hfunctions⟩ := h
  have hstatement : head'.stripped = head.stripped := Eq.symm hhead
  unfold step
  rw [hstatement]
  dsimp only
  -- The functions may differ in the layout of their bodies, but not in their names, so the kind is the same.
  rw [s.kindOf_alike functions hfunctions]
  cases s.kindOf head.stripped with
  | declaration => exact s.declare_alike functions hfunctions hd hhead hrest
  | definition => exact s.define_alike functions hfunctions hhead hrest
  | log =>
    dsimp only
    rw [logLine_withFunctions]
    exact (outcomeWith_alike (s.logLine_functions _) hfunctions).map fun _ _ h => ⟨h, rfl⟩
  | call => exact (s.invoke_alike functions hfunctions hd head.stripped).map fun _ _ h => ⟨h, rfl⟩
  | action =>
    dsimp only [value]
    rw [evaluate_withFunctions]
    cases s.evaluate (.ofText head.stripped) with
    | error failure => exact .error ⟨rfl, functions, rfl, hfunctions⟩
    | ok r => exact .ok ⟨⟨functions, rfl, hfunctions⟩, rfl⟩
  | other => exact .ok ⟨hs, rfl⟩

theorem runFrom_alike {s s' : Session} (h : s.Alike s') (hd : s.desktop.SingleLineKeys)
    (step position step' position' taken : Nat) {lines lines' : List Line}
    (hlines : List.Forall₂ Line.Agrees lines lines') :
    (s.runFrom step position taken lines).session.Alike
        (s'.runFrom step' position' taken lines').session ∧
      (s.runFrom step position taken lines).error.map ScriptError.unnumbered =
        (s'.runFrom step' position' taken lines').error.map ScriptError.unnumbered := by
  induction hlines generalizing s s' step position step' position' taken with
  | nil => exact ⟨by simpa [runFrom] using h, by simp [runFrom]⟩
  | @cons head head' rest rest' hhead hrest ih =>
    cases taken with
    | succ taken => exact ih h hd _ _ _ _ _
    | zero =>
      -- The keys of the libraries have no line feeds at first, and no step puts one there.
      have hstep := step_alike h hd hhead hrest
      have hleads := s.step_leads head rest
      cases hs : s.step head rest with
      | error failure =>
        cases hs' : s'.step head' rest' with
        | ok => rw [hs, hs'] at hstep; cases hstep
        | error failure' =>
          rw [hs, hs'] at hstep
          cases hstep with
          | error he =>
            rw [runFrom_zero_cons_of_error _ _ _ _ _ _ hs, runFrom_zero_cons_of_error _ _ _ _ _ _ hs']
            exact ⟨he.2, congrArg some he.1⟩
      | ok p =>
        cases hs' : s'.step head' rest' with
        | error => rw [hs, hs'] at hstep; cases hstep
        | ok p' =>
          obtain ⟨t, n⟩ := p
          obtain ⟨t', n'⟩ := p'
          rw [hs, hs'] at hstep
          cases hstep with
          | ok he =>
            obtain ⟨ht, rfl⟩ : t.Alike t' ∧ n = n' := he
            rw [hs] at hleads
            rw [runFrom_zero_cons_of_ok _ _ _ _ _ _ _ hs, runFrom_zero_cons_of_ok _ _ _ _ _ _ _ hs']
            exact ih ht (hleads.evolves.singleLineKeys hd) _ _ _ _ _

end Session

namespace Desktop

/-- A source that is laid out in another way does the same to the desktop and gives the same transcript, or stops
at an error of the same class with the same message. -/
theorem run_relaid (d : Desktop) (hd : d.SingleLineKeys) (source source' : Text)
    (h : Relaid (Text.splitOn '\n' source) (Text.splitOn '\n' source')) (file : Option Text) :
    (d.run source file).session.desktop = (d.run source' file).session.desktop ∧
      (d.run source file).session.transcript = (d.run source' file).session.transcript ∧
      (d.run source file).error.map (fun e => (e.className, e.message)) =
        (d.run source' file).error.map fun e => (e.className, e.message) := by
  have hlines : List.Forall₂ Line.Agrees (Line.ofSource source) (Line.ofSource source') := by
    rw [Line.ofSource_eq, Line.ofSource_eq]
    exact h.agrees 1 1
  have hstart : (Session.start d file).Alike (Session.start d file) := by
    refine ⟨_, rfl, fun name => ?_⟩
    have hempty : (Session.start d file).functions.get? name = none := Table.get?_empty name
    rw [hempty]
    exact .none
  obtain ⟨⟨functions, hsession, -⟩, herror⟩ := Session.runFrom_alike hstart hd 0 0 0 0 0 hlines
  refine ⟨?_, ?_, ?_⟩
  · exact (congrArg Session.desktop hsession).symm
  · exact (congrArg Session.transcript hsession).symm
  · exact ScriptError.map_told_eq herror

/-- Carriage returns, a comment and a blank line around and in a block that looks something up. -/
theorem run_relaid_block :
    let w : Window := ⟨['a'], .text [], .text [], .null, .null, .null, .null, .null, .null, .null, .absent,
      .object [(['k'], .int 1)]⟩
    let d : Desktop := .ofWindows [w]
    let source : Text :=
      "local w = window_Id(a)\nlocal x = \x7b\nw.library:find(k)\n\x7d\nsys.log(x)".toList
    let source' : Text :=
      "// a\nlocal w = window_Id(a)\r\nlocal x = \x7b\r\n\tw.library:find(k)\r\n\n\x7d\r\nsys.log(x)\r".toList
    d.SingleLineKeys ∧ Relaid (Text.splitOn '\n' source) (Text.splitOn '\n' source') ∧
      (d.run source none).session.transcript = (d.run source' none).session.transcript := by
  intro w d source source'
  have hd : d.SingleLineKeys := by
    intro v hv members hmembers
    obtain rfl := List.mem_singleton.1 hv
    obtain rfl := Json.object.inj hmembers
    decide
  have hsource : Text.splitOn '\n' source = ["local w = window_Id(a)".toList, "local x = \x7b".toList,
      "w.library:find(k)".toList, ['\x7d'], "sys.log(x)".toList] := by decide
  have hsource' : Text.splitOn '\n' source' = ["// a".toList, "local w = window_Id(a)\r".toList,
      "local x = \x7b\r".toList, "\tw.library:find(k)\r".toList, [], ['\x7d', '\r'],
      "sys.log(x)\r".toList] := by decide
  have h : Relaid (Text.splitOn '\n' source) (Text.splitOn '\n' source') := by
    rw [hsource, hsource']
    refine .right _ (by decide) ?_
    refine .line [] [] [] ['\r'] "local w = window_Id(a)".toList rfl rfl rfl rfl ?_
    refine .line [] [] [] ['\r'] "local x = \x7b".toList rfl rfl rfl rfl ?_
    refine .line [] [] ['\t'] ['\r'] "w.library:find(k)".toList rfl rfl rfl rfl ?_
    refine .right _ (by decide) ?_
    refine .line [] [] [] ['\r'] ['\x7d'] rfl rfl rfl rfl ?_
    exact .line [] [] [] ['\r'] "sys.log(x)".toList rfl rfl rfl rfl .nil
  exact ⟨hd, h, (run_relaid d hd source source' h none).2.1⟩

end Desktop

end DeskScript
