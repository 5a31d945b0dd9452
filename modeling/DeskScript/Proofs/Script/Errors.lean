import DeskScript.Proofs.Desktop.History
import DeskScript.Proofs.Desktop.Resolution
import DeskScript.Proofs.Script.Failures

namespace DeskScript

structure Window.Proper (w : Window) : Prop where
  title : ∃ t, w.title = .text t
  library : w.library = .null ∨ ∃ members, w.library = .object members

def Desktop.Proper (d : Desktop) : Prop := ∀ w ∈ d.windows, w.Proper

/-- How a script can fail on a desktop of proper windows. -/
inductive Desktop.MayFail (d : Desktop) : ScriptError → Prop where
  | malformed (fault : Fault) (place : Place) : MayFail d (.malformed fault place)
  | unknownWindow (pattern : Text) (hnone : d.windows = []) : MayFail d (.unknownWindow pattern)
  | notAWindow (name : Text) : MayFail d (.notAWindow name)
  | notWritable (id : Text) : MayFail d (.notWritable id)
  | badIndex (segment : Text) (c : Char) (hdigits : Text.isDigits segment = true) (hc : c ∈ segment)
      (hdecimal : Text.decimal? c = none) : MayFail d (.badIndex segment)
  | longIndex (digits : Nat) (hmax : Text.maxDigits < digits) : MayFail d (.longIndex digits)
  | circular (ref : TableRef) (hcycle : Relation.TransGen d.Holds ref ref) : MayFail d .circular

theorem Window.Evolves.proper_iff {n : Nat} {writes : List Write} {w w' : Window} (h : w.Evolves n writes w') :
    w'.Proper ↔ w.Proper := by
  have htitle : w'.title = w.title := by rw [h.others]
  constructor <;> rintro ⟨ht, hlibrary⟩
  · refine ⟨htitle ▸ ht, ?_⟩
    obtain hl | ⟨hl, -⟩ := h.library
    · exact hl ▸ hlibrary
    · exact .inl hl
  · refine ⟨htitle ▸ ht, ?_⟩
    obtain hl | ⟨-, hl⟩ := h.library
    · exact hl ▸ hlibrary
    · exact .inr ⟨_, hl⟩

theorem Desktop.Evolves.proper {writes : List Write} {d d' : Desktop} (h : Desktop.Evolves writes d d')
    (hd : d.Proper) : d'.Proper := by
  intro w' hw'
  obtain ⟨n, w, hw, he⟩ := Window.exists_evolves_of_mem h.length h.windows hw'
  exact he.proper_iff.2 (hd w hw)

/-- What was proper after an action was so before it. -/
theorem Desktop.Evolves.proper_of {writes : List Write} {d d' : Desktop} (h : Desktop.Evolves writes d d')
    (hd : d'.Proper) : d.Proper := by
  intro w hw
  obtain ⟨n, hn⟩ := List.mem_iff_getElem?.1 hw
  obtain ⟨w', hw', he⟩ := h.windows n w hn
  exact he.proper_iff.1 (hd w' (List.mem_of_getElem? hw'))

theorem Desktop.afterCalls_proper (d : Desktop) (hd : d.Proper) (calls : List HostCall)
    (hcalls : ∀ w ∈ calls.filterMap HostCall.added?, w.Proper) : (d.afterCalls calls).Proper := by
  obtain ⟨hlength, hwindows⟩ := d.afterCalls_evolves calls
  intro w' hw'
  obtain ⟨n, w, hw, he⟩ := Window.exists_evolves_of_mem hlength hwindows hw'
  exact he.proper_iff.2 ((List.mem_append.1 hw).elim (hd w) (hcalls w))

namespace Desktop

theorem Proper.not_stumbles {d : Desktop} (hd : d.Proper) (pattern : Text) : ¬Stumbles d.windows pattern :=
  fun h => not_untitled_of_forall (fun w hw => (hd w hw).title) h.2.2

theorem Proper.exists_libraryOrDefault {d : Desktop} (hd : d.Proper) {w : Window} (hw : w ∈ d.windows) :
    ∃ members, w.libraryOrDefault = .object members := by
  obtain hl | ⟨members, hl⟩ := (hd w hw).library
  · exact ⟨w.defaultLibrary, by simp [Window.libraryOrDefault, hl]⟩
  · exact ⟨members, by simp [Window.libraryOrDefault, hl]⟩

/-- What an action stores before it fails changes nothing about how scripts may fail. -/
theorem MayFail.of_fills {d d' : Desktop} (hfills : d.Fills d') {e : ScriptError} (h : d.MayFail e) : d'.MayFail e := by
  cases h with
  | malformed fault place => exact .malformed fault place
  | unknownWindow pattern hnone =>
    exact .unknownWindow pattern (List.length_eq_zero_iff.1 (hfills.evolves.length.trans (by rw [hnone]; rfl)))
  | notAWindow name => exact .notAWindow name
  | notWritable id => exact .notWritable id
  | badIndex segment c hdigits hc hdecimal => exact .badIndex segment c hdigits hc hdecimal
  | longIndex digits hmax => exact .longIndex digits hmax
  | circular ref hcycle =>
    refine .circular ref (Relation.TransGen.mono (fun a b hab => ?_) _ _ hcycle)
    unfold Holds at hab ⊢
    rwa [hfills.fieldsOf_eq]

end Desktop

namespace Session

theorem NoValue.mayFail {s : Session} {x : Expression} {e : ScriptError} (h : s.NoValue x e)
    (hd : s.desktop.Proper) (he : e ≠ .longNumber) : s.desktop.MayFail e := by
  cases h with
  | title pattern kind h =>
    exact absurd ((Desktop.exists_resolve_eq_error_iff _ _).1 ⟨_, h⟩) (hd.not_stumbles pattern)
  | unknown pattern h => exact .unknownWindow pattern ((Desktop.resolve_eq_none_iff _ _).1 h)
  | info name => exact .notAWindow name
  | find name arguments n w hname hw hlibrary =>
    obtain ⟨members, hl⟩ := hd.exists_libraryOrDefault (List.mem_of_getElem? hw)
    exact absurd hl (hlibrary members)
  | write name arguments n w => exact .notWritable w.id
  | key => exact absurd rfl he

/-- On a desktop of proper windows every reason to fail is one of those, unless it is a long number. -/
theorem FailsFor.mayFail {s : Session} {e : ScriptError} (h : s.FailsFor e) (hd : s.desktop.Proper)
    (he : e ≠ .longNumber) : s.desktop.MayFail e := by
  cases h with
  | malformed fault place => exact .malformed fault place
  | expression d x h =>
    have hfills := (Session.fills_of_evaluate_eq_error _ x _ h).2
    exact .of_fills hfills ((Session.noValue_of_evaluate _ x _ h).mayFail (hfills.evolves.proper_of hd) he)
  | showing h =>
    cases h with
    | badIndex segment c hdigits hc hdecimal => exact .badIndex segment c hdigits hc hdecimal
    | longIndex digits hmax => exact .longIndex digits hmax
    | circular ref hcycle => exact .circular ref hcycle
    | longNumber => exact absurd rfl he

end Session

namespace Desktop

theorem MayFail.className_mem {d : Desktop} {e : ScriptError} (h : d.MayFail e) :
    e.className ∈ ["FluxoParseError".toList, "FluxoIncompleteParse".toList, "FluxoTypeError".toList,
      "ValueError".toList] ∨ e.className = "FluxoNameError".toList ∧ d.windows = [] := by
  cases h with
  | malformed fault place =>
    cases fault with
    | badHeader => exact .inl (.head _)
    | unterminatedBlock => exact .inl (.tail _ (.head _))
  | unknownWindow pattern hnone => exact .inr ⟨rfl, hnone⟩
  | notAWindow | notWritable => exact .inl (.tail _ (.tail _ (.head _)))
  | badIndex | longIndex | circular => exact .inl (.tail _ (.tail _ (.tail _ (.head _))))

/-- Whatever its host has done with a desktop of proper windows before, a run on it that fails does so in one of
the ways in which scripts may fail there, and for want of a window only if there is none at all. The one other way is
that a number is too long, where the host has put such a number on the desktop. -/
theorem run_error_of_proper (d : Desktop) (hd : d.Proper) (calls : List HostCall)
    (hcalls : ∀ w ∈ calls.filterMap HostCall.added?, w.Proper) (source : Text) (file : Option Text)
    (e : ScriptError) (h : ((d.afterCalls calls).run source file).error = some e) :
    (((d.afterCalls calls).run source file).session.desktop.MayFail e ∨
        e = .longNumber ∧ ¬(d.afterCalls calls).Brief) ∧
      (e.className ∈ ["FluxoParseError".toList, "FluxoIncompleteParse".toList, "FluxoTypeError".toList,
          "ValueError".toList] ∨
        e.className = "FluxoNameError".toList ∧ (d.afterCalls calls).windows = []) := by
  have hruns := ((Session.start (d.afterCalls calls) file).run_leads (Line.ofSource source)).evolves
  have hproper := hruns.proper (d.afterCalls_proper hd calls hcalls)
  by_cases he : e = .longNumber
  · subst he
    exact ⟨.inr ⟨rfl, fun hbrief => (Session.Brief.start hbrief file).run_error_ne _ h⟩,
      .inl (.tail _ (.tail _ (.tail _ (.head _))))⟩
  · have hfail := ((Session.start (d.afterCalls calls) file).run_error _ e h).mayFail hproper he
    refine ⟨.inl hfail, hfail.className_mem.imp_right fun ⟨he, hnone⟩ => ⟨he, ?_⟩⟩
    refine List.length_eq_zero_iff.1 (hruns.length.symm.trans ?_)
    rw [hnone, List.length_nil]

/-- A window whose data an earlier script has made a member of itself cannot be shown. -/
theorem run_error_circular :
    let w : Window := ⟨['a'], .text [], .text [], .null, .null, .null, .null, .null, .null, .null, .absent, .null⟩
    let d : Desktop := .ofWindows [w]
    let first : Text := Text.joinWith ['\n'] ["local w = window_Id(a)".toList, "w.database:write(k, v)".toList,
      "local i = w.info:(null)".toList, "w.database:write(k, i)".toList]
    let second : Text := Text.joinWith ['\n'] ["local w = window_Id(a)".toList,
      "local i = w.info:(null)".toList, "sys.log(i)".toList]
    d.Proper ∧ ((d.afterCalls [.execute first]).run second none).error = some .circular ∧
      ((d.afterCalls [.execute first]).run second none).session.desktop.MayFail .circular := by
  intro w d first second
  have hd : d.Proper := by
    intro w hw
    obtain rfl := List.mem_singleton.1 hw
    exact ⟨⟨[], rfl⟩, .inl rfl⟩
  have h : ((d.afterCalls [.execute first]).run second none).error = some .circular := by decide +kernel
  have hfails := run_error_of_proper d hd [.execute first] (by simp [HostCall.added?]) second none _ h
  exact ⟨hd, h, hfails.1.resolve_right (by rintro ⟨⟨⟩, -⟩)⟩

end Desktop

end DeskScript
