import DeskScript.Proofs.Desktop.Cycle
import DeskScript.Proofs.Desktop.Replay
import DeskScript.Proofs.Script.Wording

namespace DeskScript

namespace Desktop

variable {α : Type} (f : Window → α)

theorem map_setWindow (d : Desktop) (n : Nat) (w w' : Window) (hw : d.windows[n]? = some w) (hf : f w' = f w) :
    (d.setWindow n w').windows.map f = d.windows.map f := by
  obtain ⟨hn, rfl⟩ := List.getElem?_eq_some_iff.1 hw
  rw [setWindow, List.map_set, hf, ← List.getElem_map f (h := by simpa using hn), List.set_getElem_self]

/-- Only finding changes libraries, and only writing changes data. -/
theorem perform_map (d : Desktop) (n : Nat) (a : Action) (arguments : List Value) (v : Value) (d' : Desktop)
    (hfind : a = .find → ∀ w library, f { w with library } = f w)
    (hwrite : a = .write → ∀ w data, f { w with data } = f w) (h : d.perform n a arguments = .ok (v, d')) :
    d'.windows.map f = d.windows.map f := by
  cases d.performs n a arguments v d' h with
  | nothing | read => rfl
  | info w hw v d' h =>
    cases h
    rfl
  | find w hw => exact d.map_setWindow f n w _ hw (hfind rfl w _)
  | write w hw fields hfields key value hkey hvalue hcan v d' h =>
    cases h
    exact d.map_setWindow f n w _ hw (hwrite rfl w _)

theorem Fails.map_windows {d : Desktop} {n : Nat} {a : Action} {arguments : List Value} {failure : Failure Desktop}
    (h : d.Fails n arguments a failure) (hfind : a = .find → ∀ w library, f { w with library } = f w)
    (hwrite : a = .write → ∀ w data, f { w with data } = f w) : failure.reached.windows.map f = d.windows.map f := by
  cases h with
  | noLibrary | readKey | notWritable => rfl
  | findKey w hw => exact d.map_setWindow f n w _ hw (hfind rfl w _)
  | writeKey w hw => exact d.map_setWindow f n w _ hw (hwrite rfl w _)

theorem perform_replies (d : Desktop) (n : Nat) (a : Action) (arguments : List Value) (v : Value) (d' : Desktop)
    (h : d.perform n a arguments = .ok (v, d')) : d.replies.toList <+: d'.replies.toList := by
  have hreply : ∀ (d : Desktop) (fields : Fields), d.replies.toList <+: (d.reply fields).2.replies.toList := by
    intro d fields
    rw [reply, Journal.toList_push]
    exact List.prefix_append _ _
  cases d.performs n a arguments v d' h with
  | nothing | read | find => exact List.prefix_rfl
  | info w hw v d' h =>
    cases h
    exact hreply d _
  | write w hw fields hfields key value hkey hvalue hcan v d' h =>
    cases h
    exact hreply (d.setWindow _ _) _

theorem fieldsOf_eq (d d' : Desktop) (hdata : d'.windows.map Window.data = d.windows.map Window.data)
    (hreplies : d.replies.toList <+: d'.replies.toList) (ref : TableRef) (href : ref ∈ d.tables) :
    d'.fieldsOf ref = d.fieldsOf ref := by
  cases ref with
  | data n =>
    have hn : d'.windows[n]?.map Window.data = d.windows[n]?.map Window.data := by
      rw [← List.getElem?_map, ← List.getElem?_map, hdata]
    unfold fieldsOf
    cases h : d.windows[n]? <;> cases h' : d'.windows[n]? <;> simp_all
  | reply r =>
    have hr : r < d.replies.toList.length := by simpa [tables] using href
    obtain ⟨more, hmore⟩ := hreplies
    change (d'.replies.get? r).getD .empty = (d.replies.get? r).getD .empty
    rw [Journal.get?_eq, Journal.get?_eq, ← hmore, List.getElem?_append_left hr]

end Desktop

namespace Session

variable {P : Expression → Prop} {s s' : Session}

theorem after_map {α : Type} (f : Window → α) (s : Session) (e : Expression)
    (hfind : (∃ name arguments, e = .action name .find arguments) → ∀ w library, f { w with library } = f w)
    (hwrite : (∃ name arguments, e = .action name .write arguments) → ∀ w data, f { w with data } = f w) :
    (Evaluation.after ⟨s, e⟩).windows.map f = s.desktop.windows.map f := by
  cases h : s.evaluate e with
  | error failure =>
    rw [Evaluation.after_of_error h]
    obtain ⟨hd, -⟩ | ⟨name, n, a, arguments, -, hfails, -, words, rfl, -⟩ := s.evaluate_fails e failure h
    · rw [hd]
    · exact hfails.map_windows f (fun ha => hfind ⟨name, words, ha ▸ rfl⟩) fun ha => hwrite ⟨name, words, ha ▸ rfl⟩
  | ok result =>
    rw [Evaluation.after_of_ok h]
    obtain ⟨hd, -⟩ | ⟨name, n, a, arguments, -, hperform, -, haction⟩ := s.evaluate_cases e result.1 result.2 h
    · rw [hd]
    · refine Desktop.perform_map f _ n a arguments _ _ (fun ha => ?_) (fun ha => ?_) hperform
      · subst ha
        exact hfind ⟨name, haction (by decide)⟩
      · subst ha
        exact hwrite ⟨name, haction (by decide)⟩

theorem after_replies (s : Session) (e : Expression) :
    s.desktop.replies.toList <+: (Evaluation.after ⟨s, e⟩).replies.toList := by
  cases h : s.evaluate e with
  | error failure => rw [Evaluation.after_of_error h, (s.fills_of_evaluate_eq_error e failure h).2.replies]
  | ok result =>
    rw [Evaluation.after_of_ok h]
    obtain ⟨hd, -⟩ | ⟨name, n, a, arguments, -, hperform, -⟩ := s.evaluate_cases e result.1 result.2 h
    · rw [hd]
    · exact Desktop.perform_replies _ n a arguments _ _ hperform

/-- What neither finding nor writing can change of windows, as far as it is done, stays the same. -/
theorem Moves.map_windows {α : Type} (f : Window → α)
    (hfind : (∃ name arguments, P (.action name .find arguments)) → ∀ w library, f { w with library } = f w)
    (hwrite : (∃ name arguments, P (.action name .write arguments)) → ∀ w data, f { w with data } = f w)
    (h : Moves P s s') : s'.desktop.windows.map f = s.desktop.windows.map f := by
  refine h.keep (fun s' => s'.desktop.windows.map f = s.desktop.windows.map f) (fun s₁ s₂ hmove hs₁ => ?_) rfl
  rw [← hs₁]
  obtain hd | ⟨e, he, hd⟩ := hmove.desktop_cases
  · rw [hd]
  · rw [hd]
    refine s₁.after_map f e (fun ⟨name, arguments, hfound⟩ => ?_) fun ⟨name, arguments, hwritten⟩ => ?_
    · exact hfind ⟨name, arguments, hfound ▸ he⟩
    · exact hwrite ⟨name, arguments, hwritten ▸ he⟩

theorem Moves.replies (h : Moves P s s') : s.desktop.replies.toList <+: s'.desktop.replies.toList := by
  refine h.keep (fun s' => s.desktop.replies.toList <+: s'.desktop.replies.toList) (fun s₁ s₂ hmove hs₁ => ?_)
    List.prefix_rfl
  obtain hd | ⟨e, -, hd⟩ := hmove.desktop_cases
  · rw [hd]
    exact hs₁
  · rw [hd]
    exact hs₁.trans (s₁.after_replies e)

end Session

namespace Desktop

/-- However a run of it ends: a source without `:write(` in it changes the data of no window, nor any other table
that there is; one without `:find(` in it changes the library of no window. -/
theorem run_without_effect (d : Desktop) (source : Text) (file : Option Text) :
    let d' := (d.run source file).session.desktop
    (Text.contains ":write(".toList source = false →
      d'.windows.map Window.data = d.windows.map Window.data ∧ ∀ ref ∈ d.tables, d'.fieldsOf ref = d.fieldsOf ref) ∧
    (Text.contains ":find(".toList source = false →
      d'.windows.map Window.library = d.windows.map Window.library) := by
  intro d'
  constructor
  · intro h
    have hmoves := d.run_moves_freeOf source file (by decide) (by decide) h _ (Run.session_mem_boundaries _)
    have hdata : d'.windows.map Window.data = d.windows.map Window.data :=
      hmoves.map_windows Window.data (fun _ _ _ => rfl) fun ⟨name, arguments, hfree⟩ =>
        absurd rfl (hfree.ne_action (a := .write) name arguments)
    exact ⟨hdata, fun ref href => d.fieldsOf_eq d' hdata hmoves.replies ref href⟩
  · intro h
    have hmoves := d.run_moves_freeOf source file (by decide) (by decide) h _ (Run.session_mem_boundaries _)
    exact hmoves.map_windows Window.library (fun ⟨name, arguments, hfree⟩ =>
      absurd rfl (hfree.ne_action (a := .find) name arguments)) fun _ _ _ => rfl

/-- One script gives a library to a window without any and leaves its data absent, the other one writes to the data
and leaves the library missing. -/
theorem run_without_effect_find_write :
    let w : Window := ⟨['a'], .text [], .text [], .null, .null, .null, .null, .null, .null, .null, .absent, .null⟩
    let d : Desktop := .ofWindows [w]
    let finding : Text := Text.joinWith ['\n'] ["local w = window_Id(a)".toList,
      "local c = w.library:find(components)".toList]
    let writing : Text := Text.joinWith ['\n'] ["local w = window_Id(a)".toList,
      "w.database:write(k, v)".toList]
    Text.contains ":write(".toList finding = false ∧ Text.contains ":find(".toList writing = false ∧
      (d.run finding none).session.desktop.windows.map (fun w => w.library.isContainer) = [true] ∧
      (d.run finding none).session.desktop.windows.map Window.data = d.windows.map Window.data ∧
      (d.run writing none).session.desktop.windows.map Window.library = d.windows.map Window.library := by
  intro w d finding writing
  have hfinding : Text.contains ":write(".toList finding = false := by decide +kernel
  have hwriting : Text.contains ":find(".toList writing = false := by decide +kernel
  refine ⟨hfinding, hwriting, by decide +kernel, ?_, ?_⟩
  · exact ((d.run_without_effect finding none).1 hfinding).1
  · exact (d.run_without_effect writing none).2 hwriting

end Desktop

end DeskScript
