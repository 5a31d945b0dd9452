import DeskScript.Console.Program
import DeskScript.Proofs.Script.Places
import DeskScript.Proofs.Text.Numeral

namespace DeskScript.Console

structure Execution where
  script : Script
  before : Desktop

namespace Execution

variable (x : Execution)

def run : Run := x.before.run x.script.source (some x.script.file)

/-- What a failed script has done to the desktop stays done. -/
def after : Desktop := (x.before.execute x.script.source).2

def Fails : Prop := x.run.error.isSome

instance : Decidable x.Fails := inferInstanceAs (Decidable (_ = true))

/-- What a host that runs the script for its text would get, on a line of its own, or a report of the error. -/
def outcome : Print :=
  match x.run.error with
  | none => ⟨.output, (x.before.execute x.script.source).1 ++ ['\n']⟩
  | some e => ⟨.errors, reportText x.script.file x.script.source e⟩

def prints (verbosity : Nat) : List Print :=
  let trace := x.run.trace verbosity
  (if trace.isEmpty then [] else [⟨.output, trace⟩]) ++ [x.outcome]

theorem run_eq : x.run = (x.before.run x.script.source none).withFile (some x.script.file) :=
  x.before.run_withFile x.script.source (some x.script.file)

theorem after_eq : x.after = x.run.session.desktop := by
  rw [run_eq]
  rfl

theorem outcome_of_error (e : ScriptError) (h : x.run.error = some e) :
    x.outcome = ⟨.errors, reportText x.script.file x.script.source e⟩ := by
  rw [outcome, h]

/-- A script runs the same whether or not its file is named, so it prints what a host would get. -/
theorem outcome_of_ok (h : x.run.error = none) : x.outcome = ⟨.output, x.run.transcriptText ++ ['\n']⟩ := by
  have hnone : (x.before.run x.script.source none).error = none := by
    rw [run_eq] at h
    exact Option.map_eq_none_iff.1 h
  have htell : (x.before.execute x.script.source).1 = x.run.transcriptText := by
    rw [Desktop.execute]
    dsimp only
    rw [Run.tell, hnone, run_eq]
    rfl
  rw [outcome, h, htell]

theorem newline_mem_outcome : '\n' ∈ x.outcome.text := by
  cases h : x.run.error with
  | none =>
    rw [x.outcome_of_ok h]
    simp
  | some e =>
    rw [x.outcome_of_error e h]
    unfold reportText
    simp

@[simp] theorem prints_zero : x.prints 0 = [x.outcome] := by
  have htrace : x.run.trace 0 = [] := by
    have hshown : x.run.dispatched.filter (Dispatch.shownAt 0) = [] :=
      List.filter_eq_nil_iff.2 fun d _ => Bool.false_ne_true
    rw [Run.trace, hshown]
    rfl
  rw [prints, htrace]
  rfl

@[simp] theorem flatMap_prints_zero (xs : List Execution) : xs.flatMap (·.prints 0) = xs.map Execution.outcome := by
  simp only [prints_zero]
  exact List.map_eq_flatMap.symm

end Execution

/-- The executions of scripts, each on what the one before has left. -/
def executions (d : Desktop) : List Script → List Execution
  | [] => []
  | script :: scripts =>
    let x : Execution := ⟨script, d⟩
    x :: executions x.after scripts

def statementCounts (xs : List Execution) : List Nat := xs.filterMap (·.run.statements?)

def statementTotal (xs : List Execution) : Nat := (statementCounts xs).foldr (· + ·) 0

theorem statementCounts_append (xs ys : List Execution) :
    statementCounts (xs ++ ys) = statementCounts xs ++ statementCounts ys :=
  List.filterMap_append ..

@[simp] theorem statementTotal_append (xs ys : List Execution) :
    statementTotal (xs ++ ys) = statementTotal xs + statementTotal ys := by
  unfold statementTotal
  rw [statementCounts_append]
  induction statementCounts xs with
  | nil => exact (Nat.zero_add _).symm
  | cons n counts ih => rw [List.cons_append, List.foldr_cons, List.foldr_cons, ih, Nat.add_assoc]

theorem statementCounts_pos_iff (xs : List Execution) : 0 < (statementCounts xs).length ↔ ∃ x ∈ xs, ¬x.Fails := by
  rw [List.length_pos_iff_exists_mem]
  constructor
  · rintro ⟨n, hn⟩
    obtain ⟨x, hx, hcount⟩ := List.mem_filterMap.1 hn
    refine ⟨x, hx, fun hfails => ?_⟩
    rw [Run.statements?, Option.isNone_eq_false_iff.2 hfails] at hcount
    cases hcount
  · rintro ⟨x, hx, hfails⟩
    have hnone : x.run.error.isNone = true := by simpa [Execution.Fails] using hfails
    exact ⟨_, List.mem_filterMap.2 ⟨x, hx, if_pos hnone⟩⟩

namespace Progress

theorem toList_print (p : Progress) (stream : Stream) (t : Text) :
    (p.print stream t).printed.toList = p.printed.toList ++ if t.isEmpty then [] else [⟨stream, t⟩] := by
  unfold print
  split
  · exact (List.append_nil _).symm
  · exact Journal.toList_push ..

@[simp] theorem print_desktop (p : Progress) (stream : Stream) (t : Text) : (p.print stream t).desktop = p.desktop := by
  unfold print
  split <;> rfl

@[simp] theorem print_failed (p : Progress) (stream : Stream) (t : Text) : (p.print stream t).failed = p.failed := by
  unfold print
  split <;> rfl

@[simp] theorem print_succeeded (p : Progress) (stream : Stream) (t : Text) :
    (p.print stream t).succeeded = p.succeeded := by
  unfold print
  split <;> rfl

@[simp] theorem print_statements (p : Progress) (stream : Stream) (t : Text) :
    (p.print stream t).statements = p.statements := by
  unfold print
  split <;> rfl

structure After (verbosity : Nat) (p : Progress) (xs : List Execution) (p' : Progress) : Prop where
  desktop : p'.desktop = xs.foldl (fun _ x => x.after) p.desktop
  printed : p'.printed.toList = p.printed.toList ++ xs.flatMap (·.prints verbosity)
  succeeded : p'.succeeded = p.succeeded + (statementCounts xs).length
  statements : p'.statements = p.statements + statementTotal xs

theorem After.refl (verbosity : Nat) (p : Progress) : After verbosity p [] p :=
  ⟨rfl, (List.append_nil _).symm, rfl, rfl⟩

theorem After.trans {verbosity : Nat} {p p' p'' : Progress} {xs ys : List Execution} (h : After verbosity p xs p')
    (h' : After verbosity p' ys p'') : After verbosity p (xs ++ ys) p'' where
  desktop := by rw [h'.desktop, h.desktop, List.foldl_append]
  printed := by rw [h'.printed, h.printed, List.flatMap_append, List.append_assoc]
  succeeded := by
    rw [h'.succeeded, h.succeeded, statementCounts_append, List.length_append, Nat.add_assoc]
  statements := by rw [h'.statements, h.statements, statementTotal_append, Nat.add_assoc]

theorem After.noting {verbosity : Nat} {p p' : Progress} {xs : List Execution} (h : After verbosity p xs p')
    (failed : Bool) : After verbosity p xs { p' with failed } :=
  ⟨h.desktop, h.printed, h.succeeded, h.statements⟩

variable (p : Progress) (verbosity : Nat)

def telling (x : Execution) : Progress :=
  ({ p with desktop := x.after }.print .output (x.run.trace verbosity)).print x.outcome.stream x.outcome.text

theorem telling_after (x : Execution) :
    (p.telling verbosity x).desktop = x.after ∧
      (p.telling verbosity x).printed.toList = p.printed.toList ++ x.prints verbosity ∧
        (p.telling verbosity x).failed = p.failed ∧ (p.telling verbosity x).succeeded = p.succeeded ∧
          (p.telling verbosity x).statements = p.statements := by
  have hne : x.outcome.text.isEmpty = false := by simpa using List.ne_nil_of_mem x.newline_mem_outcome
  unfold telling
  refine ⟨by simp, ?_, by simp, by simp, by simp⟩
  rw [toList_print, toList_print, hne, List.append_assoc]
  rfl

theorem runScript_of_error (script : Script) (e : ScriptError)
    (h : (Execution.mk script p.desktop).run.error = some e) :
    p.runScript verbosity script = (false, p.telling verbosity ⟨script, p.desktop⟩) := by
  have herror : (p.desktop.run script.source (some script.file)).error = some e := h
  unfold runScript telling
  dsimp only
  rw [herror, Execution.after_eq, Execution.outcome_of_error _ e h]
  rfl

theorem runScript_of_ok (script : Script) (h : (Execution.mk script p.desktop).run.error = none) :
    p.runScript verbosity script = (true, { p.telling verbosity ⟨script, p.desktop⟩ with
      succeeded := p.succeeded + 1
      statements := p.statements + (Execution.mk script p.desktop).run.dispatched.length }) := by
  have herror : (p.desktop.run script.source (some script.file)).error = none := h
  unfold runScript telling
  dsimp only
  rw [herror, Execution.after_eq, Execution.outcome_of_ok _ h, print_succeeded, print_statements]
  rfl

theorem runScript_after (script : Script) :
    let x : Execution := ⟨script, p.desktop⟩
    (p.runScript verbosity script).1 = !decide x.Fails ∧ p.After verbosity [x] (p.runScript verbosity script).2 ∧
      (p.runScript verbosity script).2.failed = p.failed := by
  intro x
  obtain ⟨hdesktop, hprinted, hfailed, hsucceeded, hstatements⟩ := p.telling_after verbosity x
  have hprints : [x].flatMap (·.prints verbosity) = x.prints verbosity := List.flatMap_singleton ..
  cases herror : x.run.error with
  | some e =>
    have hcounts : statementCounts [x] = [] := by simp [statementCounts, Run.statements?, herror]
    rw [p.runScript_of_error verbosity script e herror]
    refine ⟨by simp [Execution.Fails, herror], ⟨hdesktop, by rw [hprinted, hprints], ?_, ?_⟩, hfailed⟩
    · rw [hcounts, hsucceeded]
      rfl
    · rw [statementTotal, hcounts, hstatements]
      rfl
  | none =>
    have hcounts : statementCounts [x] = [x.run.dispatched.length] := by
      simp [statementCounts, Run.statements?, herror]
    rw [p.runScript_of_ok verbosity script herror]
    refine ⟨by simp [Execution.Fails, herror], ⟨hdesktop, by rw [hprints]; exact hprinted, ?_, ?_⟩, hfailed⟩
    · rw [hcounts]
      rfl
    · rw [statementTotal, hcounts]
      rfl

end Progress

/-- The executions that take place: the first that fails is the last unless failures are ignored. -/
def carriedOut (ignoreErrors : Bool) : List Execution → List Execution
  | [] => []
  | x :: xs => if x.Fails ∧ ignoreErrors = false then [x] else x :: carriedOut ignoreErrors xs

theorem carriedOut_eq_self (ignoreErrors : Bool) (xs : List Execution)
    (h : ignoreErrors = true ∨ ∀ x ∈ xs, ¬x.Fails) : carriedOut ignoreErrors xs = xs := by
  induction xs with
  | nil => rfl
  | cons x xs ih =>
    have hx : ¬(x.Fails ∧ ignoreErrors = false) := by
      rintro ⟨hfails, hstrict⟩
      obtain hignore | hnone := h
      · exact Bool.false_ne_true (hstrict.symm.trans hignore)
      · exact hnone x (List.mem_cons_self ..) hfails
    rw [carriedOut, if_neg hx, ih (h.imp_right fun hnone y hy => hnone y (List.mem_cons_of_mem _ hy))]

theorem carriedOut_append (xs ys : List Execution) (x : Execution) (hxs : ∀ y ∈ xs, ¬y.Fails) (hx : x.Fails) :
    carriedOut false (xs ++ x :: ys) = xs ++ [x] := by
  induction xs with
  | nil => exact if_pos ⟨hx, rfl⟩
  | cons y xs ih =>
    have hy : ¬(y.Fails ∧ false = false) := fun h => hxs y (List.mem_cons_self ..) h.1
    rw [List.cons_append, carriedOut, if_neg hy, ih fun z hz => hxs z (List.mem_cons_of_mem _ hz)]
    rfl

/-- All scripts of a command: what comes of them, whether there is a failure to report, and whether they were gone
through to the end. -/
theorem runScripts_after (o : Options) (p : Progress) (scripts : List Script) :
    let xs := executions p.desktop scripts
    let f := runScripts o p scripts
    p.After o.verbosity (carriedOut o.ignoreErrors xs) f.progress ∧
      (f.progress.failed = true ↔ p.failed = true ∨ ∃ x ∈ xs, x.Fails) ∧
        (f.complete = true ↔ o.ignoreErrors = true ∨ ∀ x ∈ xs, ¬x.Fails) := by
  induction scripts generalizing p with
  | nil => exact ⟨.refl .., by simp [executions, runScripts], by simp [executions, runScripts]⟩
  | cons script scripts ih =>
    let x : Execution := ⟨script, p.desktop⟩
    obtain ⟨ok, q, hrun⟩ : ∃ ok q, p.runScript o.verbosity script = (ok, q) := ⟨_, _, rfl⟩
    have hscript := p.runScript_after o.verbosity script
    rw [hrun] at hscript
    obtain ⟨rfl, hafter, hfailed⟩ : ok = (!decide x.Fails) ∧ p.After o.verbosity [x] q ∧ q.failed = p.failed := hscript
    have hxs : executions p.desktop (script :: scripts) = x :: executions q.desktop scripts := by
      rw [hafter.desktop]
      rfl
    have hmem : x ∈ x :: executions q.desktop scripts := List.mem_cons_self ..
    rw [hxs, runScripts, hrun]
    -- A success goes on; a failure is noted, and whether it goes on is for the options to say.
    by_cases hfails : x.Fails
    · rw [decide_eq_true hfails]
      cases hignore : o.ignoreErrors with
      | false =>
        have hran : carriedOut false (x :: executions q.desktop scripts) = [x] := if_pos ⟨hfails, rfl⟩
        refine ⟨by rw [hran]; exact hafter.noting true, ⟨fun _ => .inr ⟨x, hmem, hfails⟩, fun _ => rfl⟩, nofun, ?_⟩
        rintro (hignored | hnone)
        · cases hignored
        · exact absurd hfails (hnone x hmem)
      | true =>
        obtain ⟨hrest, hstatus, hcomplete⟩ := ih { q with failed := true }
        have hran : carriedOut true (x :: executions q.desktop scripts) =
            [x] ++ carriedOut true (executions q.desktop scripts) := if_neg fun h => nomatch h.2
        rw [hignore] at hrest
        refine ⟨by rw [hran]; exact (hafter.noting true).trans hrest, ?_, ?_⟩
        · exact ⟨fun _ => .inr ⟨x, hmem, hfails⟩, fun _ => hstatus.2 (.inl rfl)⟩
        · exact ⟨fun _ => .inl rfl, fun _ => hcomplete.2 (.inl hignore)⟩
    · rw [decide_eq_false hfails]
      obtain ⟨hrest, hstatus, hcomplete⟩ := ih q
      have hran : carriedOut o.ignoreErrors (x :: executions q.desktop scripts) =
          [x] ++ carriedOut o.ignoreErrors (executions q.desktop scripts) := if_neg fun h => hfails h.1
      refine ⟨by rw [hran]; exact hafter.trans hrest, ?_, ?_⟩
      · refine hstatus.trans ?_
        rw [hfailed]
        simp [hfails]
      · refine hcomplete.trans ?_
        simp [hfails]

theorem Finish.prints_eq (f : Finish) (o : Options) (d : Desktop) (xs : List Execution)
    (h : (Progress.start d).After 0 xs f.progress) (hplain : o.plain = false) (elapsed : Text) :
    (f.result o).prints elapsed = xs.map Execution.outcome ++
      if o.statistics ∧ f.complete ∧ ∃ x ∈ xs, ¬x.Fails
      then [⟨.output, statisticsText (statementTotal xs) elapsed⟩] else [] := by
  have hprinted : f.progress.printed.toList = xs.map Execution.outcome := by
    rw [h.printed, Execution.flatMap_prints_zero]
    rfl
  have hsucceeded : 0 < f.progress.succeeded ↔ ∃ x ∈ xs, ¬x.Fails := by
    rw [h.succeeded, ← statementCounts_pos_iff]
    exact Nat.zero_add _ ▸ Iff.rfl
  have hstatements : f.progress.statements = statementTotal xs := h.statements.trans (Nat.zero_add _)
  have hstatistics : f.statistics? o =
      if o.statistics ∧ f.complete ∧ ∃ x ∈ xs, ¬x.Fails then some (statementTotal xs) else none := by
    rw [Finish.statistics?, hstatements]
    exact if_congr (and_congr_right' (and_congr_right' hsucceeded)) rfl rfl
  unfold Result.prints Finish.result
  dsimp only
  rw [hprinted, hplain, hstatistics, if_neg Bool.false_ne_true]
  by_cases hshown : o.statistics ∧ f.complete ∧ ∃ x ∈ xs, ¬x.Fails
  · rw [if_pos hshown, if_pos hshown]
  · rw [if_neg hshown, if_neg hshown]

theorem Command.perform_of_ok (around : Surroundings) (c : Command) (result : Result)
    (hoptions : c.checkOptions around = .ok ()) (htask : c.performTask around = .ok result) :
    c.perform around = result := by
  unfold perform
  rw [hoptions, htask]
  rfl

theorem Command.perform_of_scripts (around : Surroundings) (c : Command) (names : List Text) (scripts : List Script)
    (d : Desktop) (htask : c.task = .scripts names) (hoptions : c.checkOptions around = .ok ())
    (hscripts : openScripts around around.input names = .ok scripts) (hd : c.desktopFor around = .ok d) :
    c.perform around = (runScripts (c.optionsIn around) (.start d) scripts).result (c.optionsIn around) := by
  apply c.perform_of_ok around _ hoptions
  unfold performTask
  rw [htask]
  dsimp only
  rw [hscripts, hd]
  rfl

/-- Statistics under their heading, with that many statements; the number may have commas in it. -/
def TellsCount (statements : Nat) (elapsed t : Text) : Prop :=
  ∃ shown : Text, shown.filter (· ≠ ',') = Text.ofNat statements ∧
    t = "\n\x1b[97m\x1b[48;5;30m STATISTICS. \x1b[0m\nstmt\t\x1b[97m".toList ++ shown ++
      "\x1b[0m\ntime\t\x1b[97m".toList ++ elapsed ++ "\x1b[0m\n".toList

theorem tellsCount_statisticsText (statements : Nat) (elapsed : Text) :
    TellsCount statements elapsed (statisticsText statements elapsed) := by
  have hheading : '\n' :: Ansi.bright ++ Ansi.backdrop ++ " STATISTICS. ".toList ++ Ansi.reset ++ "\nstmt\t".toList ++
      Ansi.bright = "\n\x1b[97m\x1b[48;5;30m STATISTICS. \x1b[0m\nstmt\t\x1b[97m".toList := by decide
  have hbetween : Ansi.reset ++ "\ntime\t".toList ++ Ansi.bright = "\x1b[0m\ntime\t\x1b[97m".toList := by decide
  have hend : Ansi.reset ++ ['\n'] = "\x1b[0m\n".toList := by decide
  refine ⟨Text.groupDigits (Text.ofNat statements), Text.filter_groupDigits_ofNat statements, ?_⟩
  rw [← hheading, ← hbetween, ← hend]
  simp only [statisticsText, Ansi.wrap, List.append_assoc]

end DeskScript.Console
