import DeskScript.Proofs.Desktop.Replay

namespace DeskScript

/-- A host runs scripts, for their text or for their transcript, and adds windows. -/
inductive HostCall where
  | execute (source : Text)
  | run (source : Text) (file : Option Text)
  | addWindow (w : Window)

namespace HostCall

def apply (d : Desktop) : HostCall → Desktop
  | execute source => (d.execute source).2
  | run source file => (d.run source file).session.desktop
  | addWindow w => d.addWindow w

def added? : HostCall → Option Window
  | addWindow w => some w
  | _ => none

def evaluations (d : Desktop) : HostCall → List Evaluation
  | execute source => (d.run source none).evaluations (Line.ofSource source)
  | run source file => (d.run source file).evaluations (Line.ofSource source)
  | addWindow _ => []

end HostCall

namespace Desktop

/-- The desktop after calls of its host, each on what the one before has left. -/
def afterCalls (d : Desktop) (calls : List HostCall) : Desktop := calls.foldl HostCall.apply d

/-- The writes that scripts carry out in the course of the calls. -/
def writesIn (d : Desktop) : List HostCall → List Write
  | [] => []
  | c :: calls => (c.evaluations d).filterMap Evaluation.write? ++ writesIn (c.apply d) calls

theorem apply_evolves (d : Desktop) (c : HostCall) (h : c.added? = none) :
    Desktop.Evolves ((c.evaluations d).filterMap Evaluation.write?) d (c.apply d) := by
  cases c with
  | execute source => exact ((Session.start d none).run_leads (Line.ofSource source)).evolves
  | run source file => exact ((Session.start d file).run_leads (Line.ofSource source)).evolves
  | addWindow w => cases h

theorem afterCalls_evolves (d : Desktop) (calls : List HostCall) :
    (d.afterCalls calls).windows.length = (d.windows ++ calls.filterMap HostCall.added?).length ∧
      ∀ (n : Nat) (w : Window), (d.windows ++ calls.filterMap HostCall.added?)[n]? = some w →
        ∃ w', (d.afterCalls calls).windows[n]? = some w' ∧ w.Evolves n (d.writesIn calls) w' := by
  -- The windows are counted with those still to be added, so their number stays the same in each call.
  induction calls generalizing d with
  | nil => simpa [afterCalls, writesIn] using fun n w h => ⟨w, h, .of_onto_eq_nil rfl⟩
  | cons c calls ih =>
    obtain ⟨hlength, hwindows⟩ := ih (c.apply d)
    have hafter : d.afterCalls (c :: calls) = (c.apply d).afterCalls calls := rfl
    cases hc : c.added? with
    | some w =>
      obtain rfl : c = .addWindow w := by cases c <;> cases hc; rfl
      simpa [hafter, HostCall.apply, addWindow, HostCall.added?, writesIn, HostCall.evaluations] using
        And.intro hlength hwindows
    | none =>
      have hrun := d.apply_evolves c hc
      rw [hafter, List.filterMap_cons_none hc, writesIn]
      refine ⟨by simpa [hrun.length] using hlength, fun n w hw => ?_⟩
      by_cases hn : n < d.windows.length
      · rw [List.getElem?_append_left hn] at hw
        obtain ⟨w₁, hw₁, h₁⟩ := hrun.windows n w hw
        have hn₁ : n < (c.apply d).windows.length := hrun.length ▸ hn
        obtain ⟨w', hw', h'⟩ := hwindows n w₁ (by rw [List.getElem?_append_left hn₁, hw₁])
        exact ⟨w', hw', h₁.trans h'⟩
      · -- A window that is added later has no part in the writes of this call.
        have hnone : Write.onto n ((c.evaluations d).filterMap Evaluation.write?) = [] := by
          refine List.filter_eq_nil_iff.2 fun x hx => ?_
          have := hrun.targets x hx
          simp only [beq_iff_eq]
          omega
        rw [List.getElem?_append_right (by omega), ← hrun.length,
          ← List.getElem?_append_right (by rw [hrun.length]; omega)] at hw
        obtain ⟨w', hw', h'⟩ := hwindows n w hw
        exact ⟨w', hw', (Window.Evolves.of_onto_eq_nil hnone).trans h'⟩

end Desktop

/-- What lasts of a window at `n`, whatever becomes of it, if these are the writes on the way: all but data and
library; a library, or the lack of one but for the default; data that is no table; and of a table itself its
place, its keys in their order with new ones behind them, and every value but those under written keys. No more
comes to the data than the writes to it, one after another, if it is not an empty table for a write that failed. -/
structure Window.Lasts (n : Nat) (writes : List Write) (w w' : Window) : Prop where
  others : w' = { w with data := w'.data, library := w'.library }
  library : w.library ≠ .null → w'.library = w.library
  missingLibrary : w.library = .null → w'.library = .null ∨ w'.library = .object w.defaultLibrary
  fixedData : ∀ j, w.data = .fixed j → w'.data = .fixed j
  absentData : w.data = .absent → w'.data = .absent ∨ ∃ fields, w'.data = .live fields
  liveData : ∀ fields, w.data = .live fields → ∃ fields', w'.data = .live fields' ∧
    Desktop.dataValue n w' = Desktop.dataValue n w ∧
    fields.toList.map Prod.fst <+: fields'.toList.map Prod.fst ∧
    ∀ k v, fields.get? k = some v → fields'.get? k = some v ∨
      ∃ x ∈ writes, x.window = n ∧ x.key.form = k.form ∧ fields'.get? k = some x.value
  writtenData : w'.data = w.data.putAll (Write.onto n writes) ∨
    w.data = .absent ∧ Write.onto n writes = [] ∧ w'.data = .live .empty

theorem Window.Evolves.lasts {n : Nat} {writes : List Write} {w w' : Window} (h : w.Evolves n writes w') :
    w.Lasts n writes w' where
  others := h.others
  library hl := h.library.resolve_right fun hn => hl hn.1
  missingLibrary hl := h.library.imp (fun he => he.trans hl) And.right
  fixedData j hd := by
    have hdata := h.data
    rw [hd] at hdata
    exact hdata.elim (fun h => h) fun h => nomatch h.1
  absentData hd := by
    have hdata := h.data
    rw [hd] at hdata
    obtain hdata | ⟨-, hdata⟩ := hdata
    · rw [hdata]
      cases Write.onto n writes with
      | nil => exact .inl rfl
      | cons x xs => exact .inr ⟨_, rfl⟩
    · exact .inr ⟨_, hdata⟩
  liveData fields hd := by
    have hdata := h.data
    rw [hd] at hdata
    have hd' := hdata.of_live
    refine ⟨_, hd', ?_, fields.keys_prefix_putAll _, fun k v hk => ?_⟩
    · rw [Desktop.dataValue, Desktop.dataValue, hd, hd']
    · obtain he | ⟨x, hx, hxk, hxv⟩ := fields.get?_putAll (Write.onto n writes) k
      · exact .inl (he.trans hk)
      · obtain ⟨hmem, hn⟩ := List.mem_filter.1 hx
        exact .inr ⟨x, hmem, beq_iff_eq.1 hn, hxk, hxv⟩
  writtenData := by
    obtain hdata | ⟨habsent, hdata⟩ := h.data
    · exact .inl hdata
    · cases hwrites : Write.onto n writes with
      | nil => exact .inr ⟨habsent, rfl, by rw [hdata, hwrites]; rfl⟩
      | cons x xs => exact .inl (by rw [hdata, hwrites, habsent]; rfl)

/-- Over any calls of the host, whether their scripts succeed or fail, the windows are those of the beginning
with the added ones behind them, each in its place and changed by nothing but what scripts write to its data
and by the library that it may have been given. -/
theorem Desktop.windows_afterCalls (d : Desktop) (calls : List HostCall) :
    (d.afterCalls calls).windows.length = (d.windows ++ calls.filterMap HostCall.added?).length ∧
      ∀ (n : Nat) (w : Window), (d.windows ++ calls.filterMap HostCall.added?)[n]? = some w →
        ∃ w', (d.afterCalls calls).windows[n]? = some w' ∧ w.Lasts n (d.writesIn calls) w' := by
  obtain ⟨hlength, hwindows⟩ := d.afterCalls_evolves calls
  refine ⟨hlength, fun n w hw => ?_⟩
  obtain ⟨w', hw', h⟩ := hwindows n w hw
  exact ⟨w', hw', h.lasts⟩

end DeskScript
