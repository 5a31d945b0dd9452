import DeskScript.Proofs.Script.Composition
import DeskScript.Proofs.Text.Blank
import DeskScript.Script.Watching

namespace DeskScript

theorem Session.callsFunction_iff (s : Session) (t : Text) :
    s.callsFunction t = true ↔ ∃ name f, Shape.calledName? t = some name ∧ s.functions.get? name = some f := by
  unfold callsFunction
  cases Shape.calledName? t with
  | none => simp
  | some name => simp [Option.isSome_iff_exists]

namespace Dispatch

def IsNotable (d : Dispatch) : Prop :=
  (("local ".toList <+: d.line.stripped ∨ "export function ".toList <+: d.line.stripped) ∧ '{' ∈ d.line.stripped) ∨
    ∃ name f, Shape.calledName? d.line.stripped = some name ∧ d.before.functions.get? name = some f

theorem isNotable_iff (d : Dispatch) : d.before.isNotable d.line.stripped = true ↔ d.IsNotable := by
  rw [Session.isNotable, Bool.or_eq_true, Bool.and_eq_true, Bool.or_eq_true, Text.startsWith_iff_isPrefix,
    Text.startsWith_iff_isPrefix, List.elem_iff, Session.callsFunction_iff]
  rfl

instance : DecidablePred IsNotable := fun d => decidable_of_iff _ d.isNotable_iff

@[simp] theorem shownAt_one (d : Dispatch) : d.shownAt 1 = decide d.IsNotable := by
  rw [Bool.eq_iff_iff, decide_eq_true_iff, ← isNotable_iff]
  rfl

@[simp] theorem shownAt_two (d : Dispatch) : d.shownAt 2 = true := rfl

theorem shownAt_mono (d : Dispatch) {v w : Nat} (hvw : v ≤ w) (hw : w ≤ 2) (h : d.shownAt v = true) :
    d.shownAt w = true := by
  obtain rfl | hw := hw.eq_or_lt
  · exact d.shownAt_two
  · obtain rfl | hvw := hvw.eq_or_lt
    · exact h
    · -- Nothing is shown at level 0.
      obtain rfl : v = 0 := by omega
      cases h

theorem shownAt_of_two_lt (d : Dispatch) {level : Nat} (h : 2 < level) : d.shownAt level = false := by
  have htwo : (level == 2) = false := beq_eq_false_iff_ne.2 (by omega)
  have hone : (level == 1) = false := beq_eq_false_iff_ne.2 (by omega)
  rw [shownAt, htwo, hone]
  rfl

end Dispatch

namespace Run

def shown (r : Run) (level : Nat) : List Text := (r.dispatched.filter (Dispatch.shownAt level)).map Dispatch.write

theorem shown_cons (r : Run) (d : Dispatch) (level : Nat) :
    { r with dispatched := d :: r.dispatched }.shown level =
      (if d.shownAt level then [d.write] else []) ++ r.shown level := by
  dsimp only [shown]
  rw [List.filter_cons]
  split <;> rfl

@[simp] theorem flatten_shown (r : Run) (level : Nat) : (r.shown level).flatten = r.trace level := by
  rw [shown, trace, List.flatMap_def]

theorem shown_one (r : Run) : r.shown 1 = (r.dispatched.filter fun d => d.IsNotable).map Dispatch.write := by
  rw [shown, funext Dispatch.shownAt_one]

@[simp] theorem shown_two (r : Run) : r.shown 2 = r.dispatched.map Dispatch.write := by
  rw [shown, List.filter_eq_self.2 fun d _ => d.shownAt_two]

theorem shown_sublist (r : Run) {v w : Nat} (hvw : v ≤ w) (hw : w ≤ 2) : (r.shown v).Sublist (r.shown w) :=
  (List.monotone_filter_right r.dispatched fun d => d.shownAt_mono hvw hw).map _

theorem shown_of_two_lt (r : Run) {level : Nat} (h : 2 < level) : r.shown level = [] := by
  rw [shown, List.filter_eq_nil_iff.2 fun d _ => by simp [d.shownAt_of_two_lt h], List.map_nil]

end Run

/-- The watched run is the run, shown at the level, and `step` statements came before it. -/
structure WatchedRun.Watches (w : WatchedRun) (level step : Nat) (r : Run) : Prop where
  session : w.session = r.session
  error : w.error = r.error
  shown : w.shown = r.shown level
  steps : w.steps = step + r.dispatched.length

namespace Session

theorem watchFrom_watches (level : Nat) (s : Session) (step position taken : Nat) (lines : List Line) :
    (s.watchFrom level step position taken lines).Watches level step (s.runFrom step position taken lines) := by
  fun_induction runFrom s step position taken lines with
  | case1 => exact ⟨rfl, rfl, rfl, rfl⟩
  | case2 s step position taken head rest ih => exact ih
  | case3 s step position head rest failure hfail =>
    rw [watchFrom, hfail]
    -- The statement that fails is shown before it is carried out.
    have hshown := Run.shown_cons ⟨failure.reached, [], some failure.error⟩ ⟨step, position, head, s⟩ level
    exact ⟨rfl, rfl, (hshown.trans (List.append_nil _)).symm, rfl⟩
  | case4 s step position head rest s' taken hok run ih =>
    rw [watchFrom, hok]
    refine ⟨ih.session, ih.error, ?_, ?_⟩
    · rw [Run.shown_cons, ← ih.shown]
    · calc (watchFrom level s' (step + 1) (position + 1) taken rest).steps
        _ = step + 1 + run.dispatched.length := ih.steps
        _ = step + (run.dispatched.length + 1) := by omega

theorem watch_eq (s : Session) (level : Nat) (statistics : Option Statistics) (lines : List Line) :
    (s.watch level statistics lines).1.Watches level 0 (s.run lines) ∧
      (s.watch level statistics lines).2 =
        match (s.run lines).statements? with
        | some n => statistics.map fun x => x.count n
        | none => statistics := by
  have hwatches := s.watchFrom_watches level 0 0 0 lines
  refine ⟨hwatches, ?_⟩
  dsimp only [watch]
  rw [hwatches.error, hwatches.steps, Nat.zero_add]
  change (if (s.run lines).error.isSome then _ else _) = _
  unfold Run.statements?
  cases (s.run lines).error <;> rfl

end Session

namespace Desktop

theorem watch_eq (d : Desktop) (w : Watch) (source : Text) (file : Option Text) :
    (d.watch w source file).1.Watches w.level 0 (d.run source file) ∧
      (d.watch w source file).2 =
        match (d.run source file).statements? with
        | some n => w.statistics.map fun s => s.count n
        | none => w.statistics :=
  (Session.start d file).watch_eq w.level w.statistics (Line.ofSource source)

/-- Any two watches on a run see the same session, so the same transcript and desktop, and the same error: those of the
run alone, of which they show what the level asks for and count the statements if it succeeds. At verbosity 2 all
statements are shown, and at verbosity 1 exactly the notable ones, by the same lines. -/
theorem watch_same (d : Desktop) (source : Text) (file : Option Text) :
    let r := d.run source file
    (∀ w w' : Watch, (d.watch w source file).1.session = (d.watch w' source file).1.session ∧
      (d.watch w source file).1.error = (d.watch w' source file).1.error) ∧
    (∀ w : Watch, (d.watch w source file).1.session = r.session ∧ (d.watch w source file).1.error = r.error ∧
      (d.watch w source file).1.shown.flatten = r.trace w.level ∧
      (d.watch w source file).2 =
        match r.statements? with
        | some n => w.statistics.map fun s => s.count n
        | none => w.statistics) ∧
    ∀ statistics statistics' : Option Statistics,
      (d.watch ⟨2, none, statistics⟩ source file).1.shown = r.dispatched.map Dispatch.write ∧
      (d.watch ⟨1, none, statistics'⟩ source file).1.shown =
        (r.dispatched.filter fun x => x.IsNotable).map Dispatch.write := by
  intro r
  refine ⟨fun w w' => ?_, fun w => ?_, fun statistics statistics' => ⟨?_, ?_⟩⟩
  · obtain ⟨hw, -⟩ := d.watch_eq w source file
    obtain ⟨hw', -⟩ := d.watch_eq w' source file
    exact ⟨hw.session.trans hw'.session.symm, hw.error.trans hw'.error.symm⟩
  · obtain ⟨hw, hstatistics⟩ := d.watch_eq w source file
    exact ⟨hw.session, hw.error, hw.shown ▸ r.flatten_shown w.level, hstatistics⟩
  · exact (d.watch_eq ⟨2, none, statistics⟩ source file).1.shown.trans r.shown_two
  · exact (d.watch_eq ⟨1, none, statistics'⟩ source file).1.shown.trans r.shown_one

/-- Up to the level that shows all statements, a watch shows what one of less verbosity does, in the same order, and
more. Beyond that level nothing is shown, so that all that was shown is missing. -/
theorem watch_verbosity (d : Desktop) (source : Text) (file : Option Text) (statistics statistics' : Option Statistics)
    (v w : Nat) (hvw : v ≤ w) :
    let shown := (d.watch ⟨v, none, statistics⟩ source file).1.shown
    let shown' := (d.watch ⟨w, none, statistics'⟩ source file).1.shown
    (shown.Sublist shown' ↔ w ≤ 2 ∨ shown = []) ∧ (2 < w → shown' = []) := by
  intro shown shown'
  have hshown : shown = (d.run source file).shown v := (d.watch_eq ⟨v, none, statistics⟩ source file).1.shown
  have hshown' : shown' = (d.run source file).shown w := (d.watch_eq ⟨w, none, statistics'⟩ source file).1.shown
  have hbeyond : 2 < w → shown' = [] := fun hw => hshown'.trans (Run.shown_of_two_lt _ hw)
  refine ⟨?_, hbeyond⟩
  obtain hw | hw := le_or_gt w 2
  · have hsublist : shown.Sublist shown' := by
      rw [hshown, hshown']
      exact Run.shown_sublist _ hvw hw
    exact iff_of_true hsublist (.inl hw)
  · rw [hbeyond hw, List.sublist_nil]
    exact ⟨.inr, fun h => h.resolve_left (Nat.not_le.2 hw)⟩

/-- The log between the definition and the call is shown at the higher level only. -/
theorem watch_verbosity_one :
    let source : Text := "export function f() \x7b\nsys.log(a)\n\x7d\nsys.log(b)\nf()".toList
    let shown := fun v => ((ofWindows []).watch ⟨v, none, none⟩ source none).1.shown
    1 ≤ 2 ∧ (shown 1).Sublist (shown 2) ∧ (shown 1).length = 2 ∧ (shown 2).length = 3 := by
  intro source shown
  have hsublist := ((ofWindows []).watch_verbosity source none none none 1 2 (by decide)).1.2 (.inl le_rfl)
  exact ⟨by decide, hsublist, by decide +kernel, by decide +kernel⟩

/-- A third request for more shows nothing of what two show. -/
theorem not_watch_verbosity_three :
    let shown := fun v => ((ofWindows []).watch ⟨v, none, none⟩ "sys.log(a)".toList none).1.shown
    2 ≤ 3 ∧ (shown 2).length = 1 ∧ ¬(shown 2).Sublist (shown 3) := by
  decide +kernel

end Desktop

end DeskScript
