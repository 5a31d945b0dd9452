import DeskScript.Console.Report
import DeskScript.Proofs.Script.Failures

namespace DeskScript

open Console

theorem ScriptError.eq_of_typeError (e : ScriptError) (h : e.className = "FluxoTypeError".toList) :
    (∃ name, e = .notAWindow name) ∨ ∃ id, e = .notWritable id := by
  have hother : ∀ name ∈ ["FluxoParseError".toList, "FluxoIncompleteParse".toList, "FluxoNameError".toList,
      "ValueError".toList, "AttributeError".toList], name ≠ "FluxoTypeError".toList := by decide +kernel
  cases e with
  | notAWindow name => exact .inl ⟨name, rfl⟩
  | notWritable id => exact .inr ⟨id, rfl⟩
  | malformed fault =>
    cases fault with
    | badHeader => exact absurd h (hother _ (.head _))
    | unterminatedBlock => exact absurd h (hother _ (.tail _ (.head _)))
  | unknownWindow => exact absurd h (hother _ (.tail _ (.tail _ (.head _))))
  | badIndex | longIndex | circular | longNumber => exact absurd h (hother _ (.tail _ (.tail _ (.tail _ (.head _)))))
  | titleNotText | libraryNotTable =>
    exact absurd h (hother _ (.tail _ (.tail _ (.tail _ (.tail _ (.head _))))))

/-- A run that fails for a type has asked what is no window, or has written to a window whose data is no table. -/
theorem Session.typeError_of_failsFor (s : Session) (e : ScriptError) (h : s.FailsFor e)
    (hclass : e.className = "FluxoTypeError".toList) :
    (∃ name, e = .notAWindow name ∧ s.window? name = none) ∨
      ∃ id, e = .notWritable id ∧
        ∃ name n w j, s.window? name = some n ∧ s.desktop.windows[n]? = some w ∧ w.id = id ∧
          w.data = .fixed j := by
  cases h with
  | malformed fault place => obtain ⟨name, he⟩ | ⟨id, he⟩ := ScriptError.eq_of_typeError _ hclass <;> cases he
  | showing h =>
    rw [h.className_eq] at hclass
    exact absurd hclass (by decide +kernel)
  | expression d x h =>
    have hcause := Session.noValue_of_evaluate _ x _ h
    obtain ⟨name, rfl⟩ | ⟨id, rfl⟩ := e.eq_of_typeError hclass
    · cases hcause with
      | info _ _ hname => exact .inl ⟨name, rfl, hname⟩
    · obtain rfl : s.desktop = d := Session.reached_of_evaluate _ x _ h nofun
      cases hcause with
      | write name _ n w j hname hw hdata => exact .inr ⟨w.id, rfl, name, n, w, j, hname, hw, rfl, hdata⟩

theorem Console.sentence_of_typeError (label source : Text) (e : ScriptError) (t : Text)
    (h : e = .notAWindow t ∨ e = .notWritable t) :
    (ErrorReport.of label source e).sentence = "Name ".toList ++ quotedIn Ansi.bold t ++
      (" from ".toList ++ quotedIn Ansi.bright label) ++ " is not a window object!".toList := by
  obtain rfl | rfl := h <;> rfl

/-- A type error has a token, which the console calls the name of something that is no window. It is that if something
was asked for information. But if a window takes no writes, some variable stands for that window, and the token is the
identifier of the window. -/
theorem Desktop.run_typeError (d : Desktop) (source : Text) (file : Option Text) (e : ScriptError)
    (h : (d.run source file).error = some e) (hclass : e.className = "FluxoTypeError".toList) :
    let s := (d.run source file).session
    ∃ t, e.token? = some t ∧
      (∀ label, (ErrorReport.of label source e).sentence = "Name ".toList ++ quotedIn Ansi.bold t ++
        (" from ".toList ++ quotedIn Ansi.bright label) ++ " is not a window object!".toList) ∧
      (e = .notAWindow t ∧ s.window? t = none ∨
        e = .notWritable t ∧ ∃ name n w j, s.window? name = some n ∧ s.desktop.windows[n]? = some w ∧
          w.id = t ∧ w.data = .fixed j) := by
  intro s
  have hfails : s.FailsFor e := (Session.start d file).run_error _ e h
  obtain ⟨name, rfl, hname⟩ | ⟨id, rfl, hwindow⟩ := s.typeError_of_failsFor e hfails hclass
  · exact ⟨name, rfl, fun label => sentence_of_typeError label source _ name (.inl rfl), .inl ⟨rfl, hname⟩⟩
  · exact ⟨id, rfl, fun label => sentence_of_typeError label source _ id (.inr rfl), .inr ⟨rfl, hwindow⟩⟩

theorem Desktop.run_typeError_info :
    let r := (Desktop.ofWindows []).run "local x = y\nlocal i = x.info:(null)".toList none
    r.error = some (.notAWindow ['x']) ∧ (ScriptError.notAWindow ['x']).className = "FluxoTypeError".toList ∧
      ∃ t, (ScriptError.notAWindow ['x']).token? = some t ∧ r.session.window? t = none := by
  intro r
  have h : r.error = some (.notAWindow ['x']) := by decide +kernel
  obtain ⟨t, htoken, -, ⟨-, hno⟩ | ⟨he, -⟩⟩ := Desktop.run_typeError _ _ none _ h rfl
  · exact ⟨h, rfl, t, htoken, hno⟩
  · cases he

/-- A window is written to by the name of a variable, which is its identifier as well. -/
theorem Desktop.run_typeError_identifier :
    let d : Desktop := .ofWindows [⟨['w'], .text [], .text [], .null, .null, .null, .null, .null, .null, .null,
      .fixed (.text "text".toList), .null⟩]
    let source : Text := "local w = window_Id(\"w\")\nw.database:write(\"k\", \"v\")".toList
    let e : ScriptError := .notWritable ['w']
    (d.run source none).error = some e ∧ e.className = "FluxoTypeError".toList ∧ e.token? = some ['w'] ∧
      (d.run source none).session.window? ['w'] = some 0 ∧
      Ansi.strip (ErrorReport.of ['s'] source e).sentence =
        "Name \x60w\x60 from \x60s\x60 is not a window object!".toList := by
  intro d source e
  exact ⟨by decide +kernel, rfl, rfl, by decide +kernel, by decide +kernel⟩

end DeskScript
