import DeskScript.Proofs.Desktop.Brief
import DeskScript.Proofs.Script.Errors
import DeskScript.Proofs.Script.Wording
import DeskScript.Proofs.Text.Leftmost

namespace DeskScript

namespace Shape

open Text

/-- A window is asked for in `t`, behind `before`, by a pattern. -/
def AsksAt (t before pattern : Text) : Prop :=
  pattern ≠ [] ∧ ')' ∉ pattern ∧ ∃ after, t = before ++ ("window_Id(".toList ++ (pattern ++ ')' :: after))

/-- The text begins as if it asked for a window, and asks for one somewhere. -/
def AsksWindow (t : Text) : Prop := "window_Id(".toList <+: t ∧ ∃ before pattern, AsksAt t before pattern

theorem AsksWindow.of_leftmost {t pattern : Text} (hstart : "window_Id(".toList <+: t)
    (hpattern : Leftmost (AsksAt t) pattern) : AsksWindow t := by
  obtain ⟨before, h, -⟩ := hpattern
  exact ⟨hstart, before, pattern, h⟩

/-- The call stands in `t`, behind `before`. -/
def StandsAt (t before : Text) (c : Call) : Prop :=
  IsName c.name ∧ IsName c.group ∧ IsName c.action ∧ ')' ∉ c.arguments ∧ ∃ after, t = before ++ (c.write ++ after)

theorem enclosedHere?_eq_some_iff (opening : String) (t inside : Text) :
    enclosedHere? opening t = some inside ↔
      ')' ∉ inside ∧ ∃ after, t = opening.toList ++ (inside ++ ')' :: after) := by
  simp only [enclosedHere?, Option.bind_eq_bind, Option.bind_eq_some_iff, Option.pure_def, Option.some.injEq,
    afterPrefix?_eq_some_iff]
  constructor
  · rintro ⟨u, rfl, ⟨_, after⟩, hclose, rfl⟩
    obtain ⟨hinside, rfl⟩ := (upToClose?_eq_some_iff _ _ _).1 hclose
    exact ⟨hinside, after, rfl⟩
  · rintro ⟨hinside, after, rfl⟩
    exact ⟨_, rfl, (inside, after), upToClose?_append inside after hinside, rfl⟩

theorem nonempty?_eq_some_iff (t u : Text) : nonempty? t = some u ↔ t ≠ [] ∧ t = u := by
  unfold nonempty?
  cases t <;> simp

theorem windowPattern?_finds (t : Text) : Finds (AsksAt t) (windowPattern? t) := by
  refine (firstMatch_finds (fun t => (enclosedHere? "window_Id(" t).bind nonempty?) t).congr fun before pattern => ?_
  simp only [MatchesAt, AsksAt, Option.bind_eq_some_iff, enclosedHere?_eq_some_iff, nonempty?_eq_some_iff]
  constructor
  · rintro ⟨_, rfl, _, ⟨hclose, after, rfl⟩, hne, rfl⟩
    exact ⟨hne, hclose, after, rfl⟩
  · rintro ⟨hne, hclose, after, rfl⟩
    exact ⟨_, rfl, pattern, ⟨hclose, after, rfl⟩, hne, rfl⟩

theorem findsAt_iff_standsAt (t before : Text) (c : Call) : FindsAt callAfter? t before c ↔ StandsAt t before c := by
  constructor
  · rintro ⟨w, r, rfl, hw, -, hc⟩
    obtain ⟨rfl, hgroup, haction, harguments, after, rfl⟩ := (callAfter?_eq_some_iff w r c).1 hc
    exact ⟨hw, hgroup, haction, harguments, after, by simp [Call.write]⟩
  · rintro ⟨hname, hgroup, haction, harguments, after, rfl⟩
    refine ⟨c.name, '.' :: (c.group ++ ':' :: (c.action ++ '(' :: (c.arguments ++ ')' :: after))), ?_, hname, ?_,
      (callAfter?_eq_some_iff _ _ _).2 ⟨rfl, hgroup, haction, harguments, after, rfl⟩⟩
    · simp [Call.write]
    · rintro _ ⟨⟩
      decide

theorem call?_finds (t : Text) : Finds (StandsAt t) (call? t) := by
  refine (firstWord_finds callAfter? (fun w w' r h => ?_) t).congr (findsAt_iff_standsAt t)
  rw [Option.eq_none_iff_forall_ne_some] at h ⊢
  intro c hc
  obtain ⟨-, hrest⟩ := (callAfter?_eq_some_iff w' r c).1 hc
  exact h { c with name := w } ((callAfter?_eq_some_iff w r _).2 ⟨rfl, hrest⟩)

theorem asksAt_unambiguous (t : Text) : Unambiguous (AsksAt t) := by
  rintro before before' pattern pattern' ⟨-, hclose, after, rfl⟩ ⟨-, hclose', after', ht⟩ hlength
  have hsame := List.append_cancel_left (List.append_inj ht hlength).2
  have htake := takeWhile_append_cons ')' pattern after hclose
  rw [hsame, takeWhile_append_cons ')' pattern' after' hclose'] at htake
  exact htake.symm

theorem standsAt_unambiguous (t : Text) : Unambiguous (StandsAt t) := by
  intro before before' c c' hc hc'
  rw [← findsAt_iff_standsAt] at hc hc'
  exact findsAt_unambiguous callAfter? t before before' c c' hc hc'

/-- The property and the method by which a call asks for an action. -/
inductive Call.AsksFor (c : Call) : Action → Prop where
  | find (hgroup : c.group = "library".toList ∨ c.group = "libary".toList) (haction : c.action = "find".toList) :
    AsksFor c .find
  | read (hgroup : c.group = "database".toList) (haction : c.action = "read".toList) : AsksFor c .read
  | write (hgroup : c.group = "database".toList) (haction : c.action = "write".toList) : AsksFor c .write

end Shape

namespace Expression

open Text Shape

variable {t : Text}

theorem windowPattern?_eq_none_iff (t : Text) : windowPattern? t = none ↔ ¬AsksWindow t := by
  rw [windowPattern?, AsksWindow, ← startsWith_iff_isPrefix]
  split
  · rename_i hstart
    rw [(windowPattern?_finds t).eq_none_iff]
    exact ⟨fun hno ⟨_, before, pattern, h⟩ => hno before pattern h,
      fun hno before pattern h => hno ⟨hstart, before, pattern, h⟩⟩
  · rename_i hstart
    exact ⟨fun _ h => hstart h.1, fun _ => rfl⟩

theorem ofText_of_asksWindow (hstart : "window_Id(".toList <+: t) {pattern : Text}
    (hpattern : Leftmost (AsksAt t) pattern) : ofText t = window (strip (unquote pattern)) := by
  have hfound : windowPattern? t = some pattern := by
    rw [windowPattern?, if_pos ((startsWith_iff_isPrefix _ _).2 hstart)]
    exact ((windowPattern?_finds t).eq_some_iff (asksAt_unambiguous t) pattern).2 hpattern
  rw [ofText, hfound]

theorem ofText_of_call (hno : ¬AsksWindow t) {c : Call} (hc : Leftmost (StandsAt t) c) : ofText t = ofCall c := by
  rw [ofText, (windowPattern?_eq_none_iff t).2 hno]
  dsimp only
  rw [((call?_finds t).eq_some_iff (standsAt_unambiguous t) c).2 hc]

theorem ofText_of_not_call (hno : ¬AsksWindow t) (hcall : ∀ before c, ¬StandsAt t before c) :
    ofText t =
      if contains ".info:(".toList t then ofInfo t else if t.elem ':' && t.elem '(' then text t else ofWord t := by
  rw [ofText, (windowPattern?_eq_none_iff t).2 hno]
  dsimp only
  rw [(call?_finds t).eq_none_iff.2 hcall]

theorem shape_cases (t : Text) :
    ("window_Id(".toList <+: t ∧ ∃ pattern, Leftmost (AsksAt t) pattern) ∨
      ¬AsksWindow t ∧ ((∃ c, Leftmost (StandsAt t) c) ∨ ∀ before c, ¬StandsAt t before c) := by
  cases hwindow : windowPattern? t with
  | some pattern =>
    have hstart : startsWith "window_Id(".toList t = true := by
      by_contra hnot
      rw [windowPattern?, if_neg hnot] at hwindow
      cases hwindow
    rw [windowPattern?, if_pos hstart] at hwindow
    exact .inl ⟨(startsWith_iff_isPrefix _ _).1 hstart, pattern, (windowPattern?_finds t).some pattern hwindow⟩
  | none =>
    refine .inr ⟨(windowPattern?_eq_none_iff t).1 hwindow, ?_⟩
    cases hcall : call? t with
    | some c => exact .inl ⟨c, (call?_finds t).some c hcall⟩
    | none => exact .inr ((call?_finds t).none hcall)

theorem asksFor_iff (c : Call) (a : Action) :
    (Desktop.handleNamed? c.group).bind (fun h => h.action? c.action) = some a ↔ c.AsksFor a := by
  constructor
  · intro h
    obtain ⟨handle, hgroup, haction⟩ := Option.bind_eq_some_iff.1 h
    have hmem : a ∈ handle.actions := List.mem_of_find?_eq_some haction
    have hname : c.action = a.name := (handle.name_of_action? _ _ haction).symm
    unfold Desktop.handleNamed? at hgroup
    split_ifs at hgroup with hlibrary hdatabase
    · cases hgroup
      obtain rfl := List.mem_singleton.1 hmem
      exact .find hlibrary hname
    · cases hgroup
      obtain rfl | hmem := List.mem_cons.1 hmem
      · exact .write hdatabase hname
      · obtain rfl := List.mem_singleton.1 hmem
        exact .read hdatabase hname
  · rintro (⟨hgroup | hgroup, haction⟩ | ⟨hgroup, haction⟩ | ⟨hgroup, haction⟩)
    all_goals
      rw [hgroup, haction]
      decide

theorem ofCall_eq_action_iff (c : Call) (name : Text) (a : Action) (arguments : List Argument) :
    ofCall c = action name a arguments ↔ c.AsksFor a ∧ c.name = name ∧ Argument.listOf c.arguments = arguments := by
  rw [← asksFor_iff]
  unfold ofCall
  cases (Desktop.handleNamed? c.group).bind fun h => h.action? c.action <;> simp [and_left_comm]

end Expression

namespace Desktop

/-- At most one window is another one, and that only in its data or in its library. -/
def ChangesOne (d d' : Desktop) : Prop :=
  d'.windows = d.windows ∨ ∃ n w, d.windows[n]? = some w ∧
    ((∃ data, d'.windows = d.windows.set n { w with data }) ∨
      ∃ library, d'.windows = d.windows.set n { w with library })

theorem perform_changesOne (d : Desktop) (n : Nat) (a : Action) (arguments : List Value) (v : Value) (d' : Desktop)
    (h : d.perform n a arguments = .ok (v, d')) : d.ChangesOne d' := by
  cases d.performs n a arguments v d' h with
  | nothing | read => exact .inl rfl
  | info w hw v d' h =>
    cases h
    exact .inl rfl
  | find w hw members => exact .inr ⟨n, w, hw, .inr ⟨.object members, rfl⟩⟩
  | write w hw fields hfields key value hkey hvalue hcan v d' h =>
    cases h
    exact .inr ⟨n, w, hw, .inl ⟨.live (fields.put (d.keyOf key) value), rfl⟩⟩

theorem Fills.changesOne {d d' : Desktop} (h : d.Fills d') : d.ChangesOne d' := by
  cases h with
  | nothing => exact .inl rfl
  | library n w hw members => exact .inr ⟨n, w, hw, .inr ⟨.object members, rfl⟩⟩
  | data n w hw fields => exact .inr ⟨n, w, hw, .inl ⟨.live fields, rfl⟩⟩

end Desktop

/-- An evaluation changes one window at most. -/
theorem Evaluation.after_changesOne (x : Evaluation) : x.session.desktop.ChangesOne x.after := by
  cases h : x.session.evaluate x.expression with
  | error failure =>
    rw [Evaluation.after_of_error h]
    exact (x.session.fills_of_evaluate_eq_error _ failure h).2.changesOne
  | ok result =>
    obtain ⟨v, d⟩ := result
    rw [Evaluation.after_of_ok h]
    obtain ⟨rfl, -⟩ | ⟨name, n, a, arguments, -, hperform, -⟩ := x.session.evaluate_cases x.expression v d h
    · exact .inl rfl
    · exact x.session.desktop.perform_changesOne n a arguments v d hperform

/-- What an action needs of the window before it makes a key. -/
inductive Window.Keys (w : Window) : Action → Prop where
  | find : Keys w .find
  | read (fields : Fields) (h : w.data = .live fields) : Keys w .read
  | write (h : ∀ j, w.data ≠ .fixed j) : Keys w .write

theorem Window.exists_writableFields_iff (w : Window) :
    (∃ fields, Desktop.writableFields w = .ok fields) ↔ ∀ j, w.data ≠ .fixed j := by
  unfold Desktop.writableFields
  cases w.data <;> simp

/-- On proper windows an action fails for data that is no table, or for a structure with too long a number in it that is
to be its key. -/
theorem Desktop.Proper.exists_fails_iff {d : Desktop} (hd : d.Proper) (n : Nat) (a : Action) (arguments : List Value)
    (e : ScriptError) :
    (∃ d', d.Fails n arguments a ⟨e, d'⟩) ↔ ∃ w, d.windows[n]? = some w ∧
      ((∃ j, w.data = .fixed j ∧ a = .write ∧ e = .notWritable w.id) ∨
        w.Keys a ∧ d.canBeKey (arguments[0]?.getD .null) = false ∧ e = .longNumber) := by
  constructor
  · rintro ⟨d', h⟩
    cases h with
    | noLibrary w hw h =>
      obtain ⟨members, hmembers⟩ := hd.exists_libraryOrDefault (List.mem_of_getElem? hw)
      exact absurd hmembers (h members)
    | findKey w hw members h hcannot => exact ⟨w, hw, .inr ⟨.find, hcannot, rfl⟩⟩
    | readKey w hw fields h hcannot => exact ⟨w, hw, .inr ⟨.read fields h, hcannot, rfl⟩⟩
    | notWritable w hw j h => exact ⟨w, hw, .inl ⟨j, h, rfl, rfl⟩⟩
    | writeKey w hw fields h hcannot =>
      exact ⟨w, hw, .inr ⟨.write (w.exists_writableFields_iff.1 ⟨fields, h⟩), hcannot, rfl⟩⟩
  · rintro ⟨w, hw, ⟨j, h, rfl, rfl⟩ | ⟨hkeys, hcannot, rfl⟩⟩
    · exact ⟨d, .notWritable w hw j h⟩
    · cases hkeys with
      | find =>
        obtain ⟨members, hmembers⟩ := hd.exists_libraryOrDefault (List.mem_of_getElem? hw)
        exact ⟨_, .findKey w hw members hmembers hcannot⟩
      | read fields h => exact ⟨d, .readKey w hw fields h hcannot⟩
      | write h =>
        obtain ⟨fields, hfields⟩ := w.exists_writableFields_iff.2 h
        exact ⟨_, .writeKey w hw fields hfields hcannot⟩

namespace Session

open Text Shape

theorem window?_eq_some_iff (s : Session) (name : Text) (n : Nat) :
    s.window? name = some n ↔ s.lookup name = .window n := by
  unfold window?
  cases s.lookup name <;> simp

/-- The ways for a text to fail as an expression: a window is asked for and there is none, or the first call writes to a
window whose data is no table, or a name that stands for no window is asked for information. -/
inductive Refuses (s : Session) (t : Text) : ScriptError → Prop where
  | window (pattern : Text) (hstart : "window_Id(".toList <+: t) (hpattern : Leftmost (AsksAt t) pattern)
      (hnone : s.desktop.windows = []) : Refuses s t (.unknownWindow (strip (unquote pattern)))
  | write (c : Call) (n : Nat) (w : Window) (j : Json) (hno : ¬AsksWindow t) (hcall : Leftmost (StandsAt t) c)
      (hgroup : c.group = "database".toList) (haction : c.action = "write".toList)
      (hname : s.lookup c.name = .window n) (hw : s.desktop.windows[n]? = some w) (hdata : w.data = .fixed j) :
      Refuses s t (.notWritable w.id)
  | info (hno : ¬AsksWindow t) (hcall : ∀ before c, ¬StandsAt t before c) (hinfo : ".info:(".toList <:+: t)
      (hname : ∀ n, s.lookup (t.takeWhile (· ≠ '.')) ≠ .window n) :
      Refuses s t (.notAWindow (t.takeWhile (· ≠ '.')))

/-- The first call asks a window for something under a structure that leads to too long a number. Such a key is only
made of what a host has put there. -/
inductive KeyTooLong (s : Session) (t : Text) : Prop where
  | intro (c : Call) (n : Nat) (w : Window) (a : Action) (v : Value) (hno : ¬AsksWindow t)
    (hcall : Leftmost (StandsAt t) c) (hasks : c.AsksFor a) (hname : s.lookup c.name = .window n)
    (hw : s.desktop.windows[n]? = some w) (hkeys : w.Keys a)
    (hv : ((Argument.listOf c.arguments).map s.argumentValue)[0]?.getD .null = v)
    (hstructure : ∀ j, v = .plain j → j.isContainer = true) (hlong : s.desktop.HasLong v)

variable {s : Session} {t : Text}

theorem Refuses.className_eq {e : ScriptError} (h : s.Refuses t e) :
    AsksWindow t ∧ e.className = "FluxoNameError".toList ∨ ¬AsksWindow t ∧ e.className = "FluxoTypeError".toList := by
  cases h with
  | window pattern hstart hpattern => exact .inl ⟨.of_leftmost hstart hpattern, rfl⟩
  | write _ _ _ _ hno => exact .inr ⟨hno, rfl⟩
  | info hno => exact .inr ⟨hno, rfl⟩

theorem Refuses.ne_longNumber {e : ScriptError} (h : s.Refuses t e) : e ≠ .longNumber := by
  cases h <;> nofun

theorem Brief.not_keyTooLong (hs : s.Brief) : ¬s.KeyTooLong t := by
  rintro ⟨c, n, w, a, v, -, -, -, -, -, -, rfl, -, hlong⟩
  exact hs.desktop.not_hasLong (hs.of_knows (s.knows_argument _ 0)) hlong

theorem evaluate_window_eq_error_iff (hd : s.desktop.Proper) (pattern : Text) (e : ScriptError) :
    (∃ d, s.evaluate (.window pattern) = .error ⟨e, d⟩) ↔
      s.desktop.windows = [] ∧ e = .unknownWindow pattern := by
  simp only [evaluate, evaluateWindow]
  rw [← Desktop.resolve_eq_none_iff _ pattern]
  obtain ⟨h, -⟩ | ⟨-, ⟨-, h⟩ | ⟨n, -, h⟩⟩ := Desktop.resolve_cases s.desktop.windows pattern
  · exact absurd h (hd.not_stumbles pattern)
  · rw [h]
    constructor
    · rintro ⟨d, ⟨⟩⟩
      exact ⟨rfl, rfl⟩
    · rintro ⟨-, rfl⟩
      exact ⟨s.desktop, rfl⟩
  · rw [h]
    constructor
    · rintro ⟨d, ⟨⟩⟩
    · rintro ⟨⟨⟩, -⟩

theorem evaluate_ofCall_eq_error_iff (c : Call) (failure : Failure Desktop) :
    s.evaluate (.ofCall c) = .error failure ↔ ∃ n a, c.AsksFor a ∧ s.lookup c.name = .window n ∧
      s.desktop.Fails n ((Argument.listOf c.arguments).map s.argumentValue) a failure := by
  constructor
  · intro h
    cases hcall : Expression.ofCall c with
    | action name a arguments =>
      rw [hcall] at h
      simp only [evaluate] at h
      split at h
      · cases h
      · rename_i n hn
        obtain ⟨hasks, rfl, rfl⟩ := (Expression.ofCall_eq_action_iff c name a arguments).1 hcall
        exact ⟨n, a, hasks, (s.window?_eq_some_iff _ n).1 hn, (s.desktop.perform_eq_error_iff n a _ failure).1 h⟩
    | null =>
      rw [hcall] at h
      cases h
    | text | word | window | info =>
      unfold Expression.ofCall at hcall
      split at hcall <;> cases hcall
  · rintro ⟨n, a, hasks, hname, hfails⟩
    rw [(Expression.ofCall_eq_action_iff c c.name a _).2 ⟨hasks, rfl, rfl⟩]
    simp only [evaluate, (s.window?_eq_some_iff c.name n).2 hname]
    exact (s.desktop.perform_eq_error_iff n a _ failure).2 hfails

theorem evaluate_info_eq_error_iff (name : Text) (argument : Option Text) (e : ScriptError) :
    (∃ d, s.evaluate (.info name argument) = .error ⟨e, d⟩) ↔
      (∀ n, s.lookup name ≠ .window n) ∧ e = .notAWindow name := by
  simp only [evaluate]
  cases hn : s.window? name with
  | none =>
    have hno : ∀ n, s.lookup name ≠ .window n := by
      intro n h
      rw [(s.window?_eq_some_iff name n).2 h] at hn
      cases hn
    constructor
    · rintro ⟨d, ⟨⟩⟩
      exact ⟨hno, rfl⟩
    · rintro ⟨-, rfl⟩
      exact ⟨s.desktop, rfl⟩
  | some n =>
    dsimp only
    constructor
    · rintro ⟨d, he⟩
      cases s.desktop.fails _ _ _ _ he
    · rintro ⟨hno, -⟩
      exact absurd ((s.window?_eq_some_iff name n).1 hn) (hno n)

theorem evaluate_ofWord_ne_error (t : Text) (failure : Failure Desktop) : s.evaluate (.ofWord t) ≠ .error failure := by
  unfold Expression.ofWord
  split
  · nofun
  · split <;> nofun

theorem refuses_iff_of_asksWindow (hstart : "window_Id(".toList <+: t) {pattern : Text}
    (hpattern : Leftmost (AsksAt t) pattern) (e : ScriptError) :
    s.Refuses t e ↔ s.desktop.windows = [] ∧ e = .unknownWindow (strip (unquote pattern)) := by
  have hasks : AsksWindow t := .of_leftmost hstart hpattern
  constructor
  · intro h
    cases h with
    | window pattern' _ hpattern' hnone => exact ⟨hnone, by rw [hpattern'.unique (asksAt_unambiguous t) hpattern]⟩
    | write _ _ _ _ hno | info hno => exact absurd hasks hno
  · rintro ⟨hnone, rfl⟩
    exact .window pattern hstart hpattern hnone

theorem refuses_iff_of_call (hno : ¬AsksWindow t) {c : Call} (hc : Leftmost (StandsAt t) c) (e : ScriptError) :
    s.Refuses t e ↔ c.group = "database".toList ∧ c.action = "write".toList ∧
      ∃ n w j, s.lookup c.name = .window n ∧ s.desktop.windows[n]? = some w ∧ w.data = .fixed j ∧
        e = .notWritable w.id := by
  constructor
  · intro h
    cases h with
    | window pattern hstart hpattern => exact absurd (.of_leftmost hstart hpattern) hno
    | write c' n w j _ hc' hgroup haction hname hw hdata =>
      obtain rfl := hc'.unique (standsAt_unambiguous t) hc
      exact ⟨hgroup, haction, n, w, j, hname, hw, hdata, rfl⟩
    | info _ hcall => exact absurd hcall hc.not_forall
  · rintro ⟨hgroup, haction, n, w, j, hname, hw, hdata, rfl⟩
    exact .write c n w j hno hc hgroup haction hname hw hdata

theorem refuses_iff_of_not_call (hno : ¬AsksWindow t) (hcall : ∀ before c, ¬StandsAt t before c) (e : ScriptError) :
    s.Refuses t e ↔ ".info:(".toList <:+: t ∧ (∀ n, s.lookup (t.takeWhile (· ≠ '.')) ≠ .window n) ∧
      e = .notAWindow (t.takeWhile (· ≠ '.')) := by
  constructor
  · intro h
    cases h with
    | window pattern hstart hpattern => exact absurd (.of_leftmost hstart hpattern) hno
    | write c _ _ _ _ hc => exact absurd hcall hc.not_forall
    | info _ _ hinfo hname => exact ⟨hinfo, hname, rfl⟩
  · rintro ⟨hinfo, hname, rfl⟩
    exact .info hno hcall hinfo hname

theorem keyTooLong_iff_of_call (hno : ¬AsksWindow t) {c : Call} (hc : Leftmost (StandsAt t) c) :
    s.KeyTooLong t ↔ ∃ n w a, c.AsksFor a ∧ s.lookup c.name = .window n ∧ s.desktop.windows[n]? = some w ∧
      w.Keys a ∧ s.desktop.canBeKey (((Argument.listOf c.arguments).map s.argumentValue)[0]?.getD .null) = false := by
  simp only [Desktop.canBeKey_eq_false_iff]
  constructor
  · rintro ⟨c', n, w, a, v, -, hc', hasks, hname, hw, hkeys, rfl, hstructure, hlong⟩
    obtain rfl := hc'.unique (standsAt_unambiguous t) hc
    exact ⟨n, w, a, hasks, hname, hw, hkeys, hstructure, hlong⟩
  · rintro ⟨n, w, a, hasks, hname, hw, hkeys, hstructure, hlong⟩
    exact ⟨c, n, w, a, _, hno, hc, hasks, hname, hw, hkeys, rfl, hstructure, hlong⟩

theorem evaluate_ofCall_eq_error_iff_of_proper (hd : s.desktop.Proper) (hno : ¬AsksWindow t) {c : Call}
    (hc : Leftmost (StandsAt t) c) (e : ScriptError) :
    (∃ d, s.evaluate (.ofCall c) = .error ⟨e, d⟩) ↔ s.Refuses t e ∨ e = .longNumber ∧ s.KeyTooLong t := by
  simp only [refuses_iff_of_call hno hc, keyTooLong_iff_of_call hno hc, evaluate_ofCall_eq_error_iff]
  constructor
  · rintro ⟨d, n, a, hasks, hname, hfails⟩
    obtain ⟨w, hw, ⟨j, hdata, rfl, he⟩ | ⟨hkeys, hcannot, he⟩⟩ := (hd.exists_fails_iff n a _ e).1 ⟨d, hfails⟩
    · cases hasks with
      | write hgroup haction => exact .inl ⟨hgroup, haction, n, w, j, hname, hw, hdata, he⟩
    · exact .inr ⟨he, n, w, a, hasks, hname, hw, hkeys, hcannot⟩
  · rintro (⟨hgroup, haction, n, w, j, hname, hw, hdata, rfl⟩ | ⟨rfl, n, w, a, hasks, hname, hw, hkeys, hcannot⟩)
    · obtain ⟨d, hfails⟩ := (hd.exists_fails_iff n .write _ _).2 ⟨w, hw, .inl ⟨j, hdata, rfl, rfl⟩⟩
      exact ⟨d, n, .write, .write hgroup haction, hname, hfails⟩
    · obtain ⟨d, hfails⟩ := (hd.exists_fails_iff n a _ _).2 ⟨w, hw, .inr ⟨hkeys, hcannot, rfl⟩⟩
      exact ⟨d, n, a, hasks, hname, hfails⟩

theorem evaluate_eq_error_iff (hd : s.desktop.Proper) (t : Text) (e : ScriptError) :
    (∃ d, s.evaluate (.ofText t) = .error ⟨e, d⟩) ↔ s.Refuses t e ∨ e = .longNumber ∧ s.KeyTooLong t := by
  obtain ⟨hstart, pattern, hpattern⟩ | ⟨hno, ⟨c, hc⟩ | hcall⟩ := Expression.shape_cases t
  · have hkey : ¬s.KeyTooLong t := by
      rintro ⟨_, _, _, _, _, hno, -⟩
      exact hno (.of_leftmost hstart hpattern)
    rw [Expression.ofText_of_asksWindow hstart hpattern, refuses_iff_of_asksWindow hstart hpattern,
      evaluate_window_eq_error_iff hd]
    exact ⟨.inl, fun h => h.resolve_right fun hlong => hkey hlong.2⟩
  · rw [Expression.ofText_of_call hno hc]
    exact evaluate_ofCall_eq_error_iff_of_proper hd hno hc e
  · have hkey : ¬s.KeyTooLong t := by
      rintro ⟨_, _, _, _, _, -, hc, -⟩
      exact hc.not_forall hcall
    rw [Expression.ofText_of_not_call hno hcall, refuses_iff_of_not_call hno hcall, ← contains_iff_isInfix,
      or_iff_left fun h => hkey h.2]
    split_ifs with hinfo hcolon
    · rw [Expression.ofInfo, evaluate_info_eq_error_iff]
      exact ⟨fun h => ⟨hinfo, h⟩, And.right⟩
    · exact ⟨nofun, fun h => absurd h.1 hinfo⟩
    · exact ⟨fun ⟨_, h⟩ => absurd h (evaluate_ofWord_ne_error t _), fun h => absurd h.1 hinfo⟩

theorem leftBy_step_of_action (s : Session) (head : Line) (rest : List Line) (h : s.kindOf head.stripped = .action) :
    leftBy Prod.fst (s.step head rest) = { s with desktop := Evaluation.after ⟨s, .ofText head.stripped⟩ } := by
  rw [s.step_of_kind_action head rest h, value, Evaluation.after]
  cases s.evaluate (.ofText head.stripped) <;> rfl

end Session

end DeskScript
