import DeskScript.Proofs.Desktop.Rendering
import DeskScript.Proofs.Script.Composition
import DeskScript.Proofs.Script.Paths

namespace DeskScript

/-- Why something cannot be shown: a segment of a path is no index, a table holds itself, or a number that the script
can get at is too long. -/
inductive Session.CannotBeShown (s : Session) : ScriptError → Prop where
  | badIndex (segment : Text) (c : Char) (hdigits : Text.isDigits segment = true) (hc : c ∈ segment)
      (hdecimal : Text.decimal? c = none) : CannotBeShown s (.badIndex segment)
  | longIndex (digits : Nat) (hmax : Text.maxDigits < digits) : CannotBeShown s (.longIndex digits)
  | circular (ref : TableRef) (hcycle : Relation.TransGen s.desktop.Holds ref ref) : CannotBeShown s .circular
  | longNumber (v : Value) (hv : s.Meets v) (hlong : s.desktop.HasLong v) : CannotBeShown s .longNumber

/-- Why an expression has no value: no window is found for it, it asks what is no window, or it asks a window for what
its library or its data does not give, or under what is no key. -/
inductive Session.NoValue (s : Session) : Expression → ScriptError → Prop where
  | title (pattern kind : Text) (h : Desktop.resolve s.desktop.windows pattern = .error (.titleNotText kind)) :
    NoValue s (.window pattern) (.titleNotText kind)
  | unknown (pattern : Text) (h : Desktop.resolve s.desktop.windows pattern = .ok none) :
    NoValue s (.window pattern) (.unknownWindow pattern)
  | info (name : Text) (argument : Option Text) (h : s.window? name = none) :
    NoValue s (.info name argument) (.notAWindow name)
  | find (name : Text) (arguments : List Argument) (n : Nat) (w : Window) (hname : s.window? name = some n)
      (hw : s.desktop.windows[n]? = some w) (hlibrary : ∀ members, w.libraryOrDefault ≠ .object members) :
    NoValue s (.action name .find arguments) (.libraryNotTable w.libraryOrDefault.kind)
  | write (name : Text) (arguments : List Argument) (n : Nat) (w : Window) (j : Json)
      (hname : s.window? name = some n) (hw : s.desktop.windows[n]? = some w) (hdata : w.data = .fixed j) :
    NoValue s (.action name .write arguments) (.notWritable w.id)
  | key (name : Text) (a : Action) (arguments : List Argument) (n : Nat) (hname : s.window? name = some n)
      (hlong : s.desktop.HasLong ((arguments.map s.argumentValue)[0]?.getD .null)) :
    NoValue s (.action name a arguments) .longNumber

/-- Why a run fails and leaves this session: for its text, for an expression on the desktop that there was before, or
for what cannot be shown. -/
inductive Session.FailsFor (s : Session) : ScriptError → Prop where
  | malformed (fault : Fault) (place : Place) : FailsFor s (.malformed fault place)
  | expression (d : Desktop) (e : Expression) {err : ScriptError}
      (h : { s with desktop := d }.evaluate e = .error ⟨err, s.desktop⟩) : FailsFor s err
  | showing {err : ScriptError} (h : s.CannotBeShown err) : FailsFor s err

namespace Session

variable {s : Session}

theorem CannotBeShown.place?_eq_none {e : ScriptError} (h : s.CannotBeShown e) : e.place? = none := by
  cases h <;> rfl

theorem CannotBeShown.className_eq {e : ScriptError} (h : s.CannotBeShown e) : e.className = "ValueError".toList := by
  cases h <;> rfl

theorem cannotBeShown_of_json {v : Value} (hv : s.Meets v) (e : ScriptError) (h : s.desktop.json v = .error e) :
    s.CannotBeShown e := by
  obtain rfl | ⟨rfl, hlong⟩ := s.desktop.jsonWithin_eq_error_cases _ _ v e h
  · obtain ⟨_, ref, -, -, hcycle⟩ := s.desktop.exists_cycle_of_json_eq_circular v h
    exact .circular ref hcycle
  · exact .longNumber v hv hlong

theorem cannotBeShown_of_renderIn (layout : Json.Layout) {t : Target} (ht : ∀ v, t = .value v → s.Meets v)
    (e : ScriptError) (h : s.desktop.renderIn layout t = .error e) : s.CannotBeShown e := by
  cases t with
  | value v => exact cannotBeShown_of_json (ht v rfl) e ((Except.map_eq_error_iff _ _ _).1 h)
  | handle => cases h
  | action => cases h

theorem cannotBeShown_of_renderList {vs : List Value} (hvs : ∀ v ∈ vs, s.Meets v) (e : ScriptError)
    (h : s.desktop.renderList vs = .error e) : s.CannotBeShown e := by
  obtain ⟨v, hv, he⟩ := Except.exists_of_mapM_eq_error _ _ _ ((Except.map_eq_error_iff _ _ _).1 h)
  exact cannotBeShown_of_json (hvs v hv) e he

variable (s)

theorem indexOf_error (segment : Text) (hdigits : Text.isDigits segment = true) (e : ScriptError)
    (h : indexOf segment = .error e) : s.CannotBeShown e := by
  obtain ⟨hlong, rfl⟩ | ⟨-, ⟨c, hc, hdecimal⟩, rfl⟩ := (indexOf_eq_error_iff segment e).1 h
  · exact .longIndex _ hlong
  · exact .badIndex segment c hdigits hc hdecimal

theorem descend_error (d : Desktop) (t : Target) (segment : Text) (e : ScriptError)
    (h : descend d t segment = .error e) : s.CannotBeShown e := by
  unfold descend at h
  split at h
  · cases h
  · cases h
  · split at h
    · exact s.indexOf_error segment ‹_› e ((Except.map_eq_error_iff _ _ _).1 h)
    · cases h
  · cases h
  · cases h

theorem descendAll_error (d : Desktop) (t : Target) (segments : List Text) (e : ScriptError)
    (h : descendAll d t segments = .error e) : s.CannotBeShown e := by
  induction segments generalizing t with
  | nil => cases h
  | cons segment segments ih =>
    rw [descendAll] at h
    cases hstep : descend d t segment with
    | error e' =>
      simp only [hstep] at h
      cases h
      exact s.descend_error d t segment _ hstep
    | ok t' =>
      simp only [hstep] at h
      exact ih t' h

theorem noValue_of_evaluate (x : Expression) (failure : Failure Desktop) (h : s.evaluate x = .error failure) :
    s.NoValue x failure.error := by
  cases x with
  | null | text | word => cases h
  | window pattern =>
    simp only [evaluate, Except.map_eq_error_iff, reading_eq_error_iff] at h
    obtain ⟨err, herr, rfl⟩ := h
    unfold evaluateWindow at herr
    split at herr
    · rename_i hresolve
      cases herr
      obtain ⟨kind, rfl⟩ := Desktop.exists_kind_of_resolve _ _ _ hresolve
      exact .title pattern kind hresolve
    · rename_i hresolve
      cases herr
      exact .unknown pattern hresolve
    · cases herr
  | action name a arguments =>
    simp only [evaluate] at h
    split at h
    · cases h
    · rename_i n hname
      -- A value without a key leads to a long number, whichever action has asked for its key.
      have hkey : ∀ v, s.desktop.canBeKey v = false → s.desktop.HasLong v := fun v hv =>
        ((s.desktop.canBeKey_eq_false_iff v).1 hv).2
      cases s.desktop.fails n a _ failure h with
      | noLibrary w hw hlibrary => exact .find name arguments n w hname hw hlibrary
      | notWritable w hw j hdata => exact .write name arguments n w j hname hw hdata
      | findKey _ _ _ _ hcannot | readKey _ _ _ _ hcannot | writeKey _ _ _ _ hcannot =>
        exact .key name _ arguments n hname (hkey _ hcannot)
  | info name argument =>
    simp only [evaluate] at h
    split at h
    · rename_i hname
      cases h
      exact .info name argument hname
    · -- The information about a window is always given.
      cases s.desktop.fails _ _ _ _ h

theorem reached_of_evaluate (x : Expression) (failure : Failure Desktop) (h : s.evaluate x = .error failure)
    (hkey : failure.error ≠ .longNumber) : failure.reached = s.desktop := by
  cases x with
  | null | text | word => cases h
  | window pattern =>
    simp only [evaluate, Except.map_eq_error_iff, reading_eq_error_iff] at h
    obtain ⟨err, -, rfl⟩ := h
    rfl
  | action name a arguments =>
    simp only [evaluate] at h
    split at h
    · cases h
    · exact (s.desktop.fails _ _ _ _ h).reached_eq hkey
  | info name argument =>
    simp only [evaluate] at h
    split at h
    · cases h
      rfl
    · exact (s.desktop.fails _ _ _ _ h).reached_eq hkey

theorem resolvePath_error (path : Text) (e : ScriptError) (h : s.resolvePath path = .error e) : s.CannotBeShown e := by
  unfold resolvePath at h
  split at h
  · cases h
  · exact s.descendAll_error _ _ _ _ h

theorem logArgument_error (a : Argument) (e : ScriptError) (h : s.logArgument a = .error e) : s.CannotBeShown e := by
  cases a with
  | text t => cases h
  | name t =>
    simp only [logArgument] at h
    split at h
    · obtain h | ⟨target, htarget, h⟩ := (Except.bind_eq_error_iff _ _ _).1 h
      · exact s.resolvePath_error t e h
      · split at h
        · exact absurd h (Except.pure_ne_error _ _)
        · exact cannotBeShown_of_renderIn _ (meets_of_resolvePath htarget) _ h
    · obtain h | ⟨target, htarget, h⟩ := (Except.bind_eq_error_iff _ _ _).1 h
      · cases h
      · cases htarget
        split at h
        · exact absurd h (Except.pure_ne_error _ _)
        · refine cannotBeShown_of_renderIn _ ?_ _ h
          rintro _ ⟨⟩
          exact (s.knows_lookup t).meets

theorem log_error (arguments : List Argument) (failure : Failure Session) (h : s.log arguments = .error failure) :
    failure.reached.CannotBeShown failure.error := by
  obtain ⟨e, he, rfl⟩ := (s.log_eq_error_iff _ _).1 h
  obtain ⟨a, -, ha⟩ := Except.exists_of_mapM_eq_error _ _ _ he
  exact s.logArgument_error a e ha

theorem logLine_error (statement : Text) (failure : Failure Session) (h : s.logLine statement = .error failure) :
    failure.reached.CannotBeShown failure.error := by
  unfold logLine at h
  split at h
  · cases h
  · exact s.log_error _ failure h

theorem noteCall_error (name : Text) (arguments : List Text) (failure : Failure Session)
    (h : s.noteCall name arguments = .error failure) : failure.reached.CannotBeShown failure.error := by
  obtain ⟨e, he, rfl⟩ := (s.noteCall_eq_error_iff _ _ _).1 h
  refine cannotBeShown_of_renderList (fun v hv => ?_) e he
  obtain ⟨word, -, rfl⟩ := List.mem_map.1 hv
  exact (s.knows_lookupOrText word).meets

theorem value_error (e : Expression) (failure : Failure Session) (h : s.value e = .error failure) :
    failure.reached.FailsFor failure.error := by
  obtain ⟨f, hf, rfl⟩ := (s.value_eq_error_iff _ _).1 h
  exact .expression s.desktop e hf

theorem answer_error (e : Expression) (failure : Failure Session) (h : s.answer e = .error failure) :
    failure.reached.FailsFor failure.error := by
  obtain he | ⟨v, d, hv, err, hshown, rfl⟩ := (s.answer_eq_error_iff _ _).1 h
  · exact s.value_error e failure he
  · refine .showing (cannotBeShown_of_renderIn (s := { s with desktop := d }) _ ?_ _ hshown)
    rintro _ ⟨⟩
    exact meets_of_evaluate e v d hv

theorem follow_error (i : Instruction) (failure : Failure Session) (h : s.follow i = .error failure) :
    failure.reached.FailsFor failure.error := by
  cases i with
  | declare d =>
    cases d with
    | error fault =>
      cases h
      exact .malformed _ _
    | ok d => exact s.value_error _ _ ((s.assign_eq_error_iff _ _ _).1 h)
  | log arguments => exact .showing (s.log_error _ _ h)
  | answer e => exact s.answer_error e failure h
  | note name arguments => exact .showing (s.noteCall_error _ _ _ h)
  | nothing => cases h

theorem followAll_error (is : List (Thunk Instruction)) (failure : Failure Session)
    (h : s.followAll is = .error failure) : failure.reached.FailsFor failure.error := by
  induction is generalizing s with
  | nil => cases h
  | cons i is ih =>
    rw [followAll] at h
    cases hi : s.follow i.get with
    | error failure' =>
      simp only [hi] at h
      cases h
      exact s.follow_error _ _ hi
    | ok s' =>
      simp only [hi] at h
      exact ih s' h

theorem step_error (head : Line) (rest : List Line) (failure : Failure Session)
    (h : s.step head rest = .error failure) : failure.reached.FailsFor failure.error := by
  cases hk : s.kindOf head.stripped with
  | declaration =>
    rw [s.step_of_kind_declaration head rest hk] at h
    obtain ⟨fault, -, rfl⟩ | ⟨d, -, he⟩ := (s.declare_eq_error_iff _ _ _).1 h
    · exact .malformed _ _
    · exact s.value_error _ _ he
  | definition =>
    rw [s.step_of_kind_definition head rest hk] at h
    obtain ⟨fault, rfl, -⟩ := (s.define_eq_error_iff _ _ _).1 h
    exact .malformed _ _
  | log =>
    rw [s.step_of_kind_log head rest hk] at h
    exact .showing (s.logLine_error _ _ ((Except.map_eq_error_iff _ _ _).1 h))
  | call =>
    rw [s.step_of_kind_call head rest hk] at h
    have hi : s.invoke head.stripped = .error failure := (Except.map_eq_error_iff _ _ _).1 h
    unfold invoke at hi
    split at hi
    · cases hi
    · exact s.followAll_error _ failure hi
  | action =>
    rw [s.step_of_kind_action head rest hk] at h
    exact s.value_error _ _ ((Except.map_eq_error_iff _ _ _).1 h)
  | other =>
    rw [s.step_of_kind_other head rest hk] at h
    cases h

theorem run_error (lines : List Line) (e : ScriptError) (h : (s.run lines).error = some e) :
    (s.run lines).session.FailsFor e := by
  obtain ⟨d, i, -, -, -, -, hstep, -⟩ := s.runFrom_of_error 0 0 0 lines e h
  exact d.before.step_error _ _ _ hstep

variable {s}

theorem CannotBeShown.ne_longNumber {e : ScriptError} (h : s.CannotBeShown e) (hs : s.Brief) : e ≠ .longNumber := by
  rintro rfl
  cases h with
  | longNumber v hv hlong => exact hs.desktop.not_hasLong (hs.of_meets hv) hlong

/-- The desktop may have been given a library or a table since, but its numbers are the same. -/
theorem FailsFor.ne_longNumber {e : ScriptError} (h : s.FailsFor e) (hs : s.Brief) : e ≠ .longNumber := by
  cases h with
  | malformed => nofun
  | showing h => exact h.ne_longNumber hs
  | expression d x h =>
    rintro rfl
    have hfields := (fills_of_evaluate_eq_error _ x _ h).2.fieldsOf_eq
    cases noValue_of_evaluate _ x _ h with
    | key name a arguments n hname hlong =>
      have hknown := knows_argument { s with desktop := d } arguments 0
      exact hs.desktop.not_hasLong (hs.of_knows hknown) ((Desktop.hasLong_congr hfields _).2 hlong)

theorem Brief.run_error_ne (hs : s.Brief) (lines : List Line) : (s.run lines).error ≠ some .longNumber := fun h =>
  (s.run_error lines _ h).ne_longNumber (hs.run lines _ (Run.session_mem_boundaries _)) rfl

end Session

end DeskScript
