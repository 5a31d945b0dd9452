import DeskScript.Proofs.Console.Batch

namespace DeskScript.Console

namespace Dialogue

def prompts : List Print :=
  [⟨.output, Ansi.wrap Ansi.cyan "<<< ".toList⟩, ⟨.output, Ansi.wrap Ansi.cyan "... ".toList⟩]

def BeginsWithFarewell (group : List Text) : Prop := group.head?.any isFarewell

instance (group : List Text) : Decidable (BeginsWithFarewell group) := inferInstanceAs (Decidable (_ = true))

/-- The groups to run, of those between blank lines. Behind the last blank line there is none, since nothing ends it. -/
def groupsOf (pieces : List (List Text)) : List (List Text) :=
  (pieces.dropLast.filter (!·.isEmpty)).takeWhile fun group => ¬BeginsWithFarewell group

def groups (lines : List Text) : List (List Text) := groupsOf (lines.splitOnP Text.isBlankLine)

/-- Whether a group begins with a farewell, be it ended by a blank line or not. -/
def HasFarewell (lines : List Text) : Prop := ∃ group ∈ lines.splitOnP Text.isBlankLine, BeginsWithFarewell group

instance (lines : List Text) : Decidable (HasFarewell lines) := List.decidableBEx _ _

def scriptOf (group : List Text) : Script := ⟨scriptName, group.flatMap (· ++ ['\n'])⟩

theorem groupsOf_cons_nil (pieces : List (List Text)) (h : pieces ≠ []) :
    groupsOf ([] :: pieces) = groupsOf pieces := by
  rw [groupsOf, List.dropLast_cons_of_ne_nil h, List.filter_cons_of_neg (by simp)]
  rfl

theorem groupsOf_cons (group : List Text) (pieces : List (List Text)) (h : pieces ≠ []) (hne : group ≠ [])
    (hgroup : ¬BeginsWithFarewell group) : groupsOf (group :: pieces) = group :: groupsOf pieces := by
  rw [groupsOf, List.dropLast_cons_of_ne_nil h, List.filter_cons_of_pos (by simpa using hne),
    List.takeWhile_cons_of_pos (by simpa using hgroup)]
  rfl

theorem groupsOf_cons_of_farewell (group : List Text) (pieces : List (List Text)) (hgroup : BeginsWithFarewell group) :
    groupsOf (group :: pieces) = [] := by
  cases pieces with
  | nil => rfl
  | cons piece pieces =>
    have hne : group ≠ [] := by
      rintro rfl
      cases hgroup
    rw [groupsOf, List.dropLast_cons_of_ne_nil (List.cons_ne_nil _ _), List.filter_cons_of_pos (by simpa using hne),
      List.takeWhile_cons_of_neg (by simpa using hgroup)]

theorem isBlankLine_of_isFarewell (line : Text) (h : isFarewell line = true) : Text.isBlankLine line = false := by
  rw [← Bool.not_eq_true, ← Text.strip_eq_nil_iff]
  intro hnil
  rw [isFarewell, hnil] at h
  cases h

variable (verbosity : Nat) (d : Dialogue)

theorem take_of_farewell (line : Text) (hended : d.ended = false) (hgathered : d.gathered = [])
    (h : isFarewell line = true) : d.take verbosity line = { d with ended := true } := by
  unfold take
  rw [hended, if_neg Bool.false_ne_true, if_pos (by simp [hgathered, h])]

theorem take_of_line (line : Text) (hended : d.ended = false) (hline : Text.isBlankLine line = false)
    (h : ¬(d.gathered = [] ∧ isFarewell line = true)) :
    d.take verbosity line = ask { d with gathered := line :: d.gathered } := by
  unfold take
  rw [hended, if_neg Bool.false_ne_true, if_neg (by simpa using h), hline]
  rfl

theorem take_of_blank_nil (line : Text) (hended : d.ended = false) (hline : Text.isBlankLine line = true)
    (hgathered : d.gathered = []) : d.take verbosity line = d.ask := by
  have hfarewell : isFarewell line = false := by
    rw [← Bool.not_eq_true]
    intro h
    rw [isBlankLine_of_isFarewell line h] at hline
    cases hline
  unfold take
  rw [hended, if_neg Bool.false_ne_true, if_neg (by simp [hfarewell]), hline, if_neg (by simp),
    if_pos (by simp [hgathered])]

theorem take_of_blank (line : Text) (hended : d.ended = false) (hline : Text.isBlankLine line = true)
    (hgathered : d.gathered ≠ []) : d.take verbosity line = ask { d with
      progress := (d.progress.runScript verbosity (scriptOf d.gathered.reverse)).2
      gathered := [] } := by
  have hne : d.gathered.isEmpty = false := by simpa using hgathered
  unfold take
  rw [hended, if_neg Bool.false_ne_true, hne, Bool.false_and, if_neg Bool.false_ne_true, hline, if_neg (by simp),
    if_neg Bool.false_ne_true]
  rfl

theorem foldl_take_of_ended (lines : List Text) (hended : d.ended = true) : lines.foldl (take verbosity) d = d := by
  induction lines with
  | nil => rfl
  | cons line lines ih =>
    have htake : d.take verbosity line = d := by
      unfold take
      rw [if_pos hended]
    rw [List.foldl_cons, htake, ih]

/-- All that was printed but the prompts. -/
def spoken : List Print := d.progress.printed.toList.filter (· ∉ prompts)

theorem notMem_prompts (p : Print) (h : '\n' ∈ p.text) : p ∉ prompts := by
  have hall : ∀ p ∈ prompts, '\n' ∉ p.text := by decide
  exact fun hp => hall p hp h

@[simp] theorem spoken_ask : d.ask.spoken = d.spoken := by
  have hprompt : Print.mk .output d.prompt ∈ prompts := by
    unfold prompt
    split
    · exact .head _
    · exact .tail _ (.head _)
  have hne : d.prompt.isEmpty = false := rfl
  unfold spoken ask
  rw [Progress.toList_print, hne, List.filter_append]
  simp [hprompt]

@[simp] theorem desktop_ask : d.ask.progress.desktop = d.progress.desktop := Progress.print_desktop ..

@[simp] theorem failed_ask : d.ask.progress.failed = d.progress.failed := Progress.print_failed ..

theorem newline_mem_prints (x : Execution) (p : Print) (hp : p ∈ x.prints verbosity) : '\n' ∈ p.text := by
  unfold Execution.prints at hp
  dsimp only at hp
  rw [List.mem_append, List.mem_singleton] at hp
  obtain htrace | rfl := hp
  · by_cases hempty : (x.run.trace verbosity).isEmpty
    · rw [if_pos hempty] at htrace
      cases htrace
    · rw [if_neg hempty, List.mem_singleton] at htrace
      subst htrace
      obtain ⟨c, hc⟩ := List.exists_mem_of_ne_nil _ (by simpa using hempty)
      obtain ⟨dispatch, hdispatch, -⟩ := List.mem_flatMap.1 hc
      refine List.mem_flatMap.2 ⟨dispatch, hdispatch, ?_⟩
      unfold Dispatch.write Dispatch.writeIn
      simp
  · exact x.newline_mem_outcome

theorem spoken_runScript (script : Script) (gathered : List Text) :
    spoken { d with progress := (d.progress.runScript verbosity script).2, gathered } =
      d.spoken ++ (Execution.mk script d.progress.desktop).prints verbosity := by
  let x : Execution := ⟨script, d.progress.desktop⟩
  obtain ⟨-, hafter, -⟩ := d.progress.runScript_after verbosity script
  have hkept : (x.prints verbosity).filter (· ∉ prompts) = x.prints verbosity :=
    List.filter_eq_self.2 fun p hp => decide_eq_true (notMem_prompts p (newline_mem_prints verbosity x p hp))
  unfold spoken
  rw [hafter.printed, List.filter_append, List.flatMap_singleton, hkept]

theorem not_beginsWithFarewell_reverse_cons (line : Text) (gathered : List Text)
    (hgathered : ¬BeginsWithFarewell gathered.reverse) (h : ¬(gathered = [] ∧ isFarewell line = true)) :
    ¬BeginsWithFarewell (line :: gathered).reverse := by
  by_cases hnone : gathered = []
  · subst hnone
    exact fun hline => h ⟨rfl, hline⟩
  · rwa [BeginsWithFarewell, List.reverse_cons, List.head?_append_of_ne_nil _ (by simpa using hnone)]

/-- What a dialogue makes of pieces between blank lines, the first of which begins with the lines gathered before. -/
structure Takes (pieces : List (List Text)) (d' : Dialogue) : Prop where
  spoken : d'.spoken = d.spoken ++
    (executions d.progress.desktop ((groupsOf pieces).map scriptOf)).flatMap (·.prints verbosity)
  ended : d'.ended = true ↔ ∃ group ∈ pieces, BeginsWithFarewell group
  failed : d'.progress.failed = d.progress.failed

variable {verbosity : Nat} {d d' : Dialogue} {pieces : List (List Text)}

theorem Takes.of_line (line : Text) (h : Takes verbosity (ask { d with gathered := line :: d.gathered }) pieces d') :
    Takes verbosity d pieces d' := by
  refine ⟨?_, h.ended, ?_⟩
  · rw [h.spoken, spoken_ask, desktop_ask]
    rfl
  · simp [h.failed]

theorem Takes.cons_nil (hne : pieces ≠ []) (h : Takes verbosity d.ask pieces d') :
    Takes verbosity d ([] :: pieces) d' := by
  refine ⟨?_, h.ended.trans ?_, ?_⟩
  · simp [h.spoken, groupsOf_cons_nil pieces hne]
  · simp [BeginsWithFarewell]
  · simp [h.failed]

theorem Takes.cons (hne : pieces ≠ []) (hgathered : d.gathered ≠ [])
    (hgroup : ¬BeginsWithFarewell d.gathered.reverse)
    (h : Takes verbosity (ask { d with
      progress := (d.progress.runScript verbosity (scriptOf d.gathered.reverse)).2
      gathered := [] }) pieces d') : Takes verbosity d (d.gathered.reverse :: pieces) d' := by
  obtain ⟨-, hafter, hfailed⟩ := d.progress.runScript_after verbosity (scriptOf d.gathered.reverse)
  have hgroups := groupsOf_cons d.gathered.reverse pieces hne (by simpa using hgathered) hgroup
  refine ⟨?_, h.ended.trans ?_, ?_⟩
  · simp [h.spoken, spoken_runScript, hafter.desktop, hgroups, executions]
  · simp [hgroup]
  · simp [h.failed, hfailed]

/-- The state of the dialogue is carried by the lines gathered so far, which stand newest first. -/
theorem takes_foldl (lines : List Text) (hended : d.ended = false)
    (hgathered : ¬BeginsWithFarewell d.gathered.reverse) :
    Takes verbosity d (lines.splitOnPPrepend Text.isBlankLine d.gathered) (lines.foldl (take verbosity) d) := by
  induction lines generalizing d with
  | nil =>
    rw [List.splitOnPPrepend_nil]
    exact ⟨(List.append_nil _).symm, by simp [hended, hgathered], rfl⟩
  | cons line lines ih =>
    have hnil : ¬BeginsWithFarewell (List.reverse []) := Bool.false_ne_true
    rw [List.foldl_cons]
    cases hline : Text.isBlankLine line with
    | true =>
      rw [List.splitOnPPrepend_cons_pos hline]
      -- A blank line ends the group that was begun; without one it only asks for the next line.
      by_cases hnone : d.gathered = []
      · have hnone' : d.ask.gathered = [] := hnone
        have hrest := ih (d := d.ask) hended (by rw [hnone']; exact hnil)
        rw [hnone'] at hrest
        rw [d.take_of_blank_nil verbosity line hended hline hnone, hnone]
        exact hrest.cons_nil (List.splitOnP_ne_nil _ _)
      · rw [d.take_of_blank verbosity line hended hline hnone]
        refine Takes.cons (List.splitOnP_ne_nil _ _) hnone hgathered ?_
        exact ih (d := ask ⟨(d.progress.runScript verbosity (scriptOf d.gathered.reverse)).2, [], d.ended⟩) hended hnil
    | false =>
      rw [List.splitOnPPrepend_cons_neg hline]
      by_cases hfarewell : d.gathered = [] ∧ isFarewell line = true
      · -- The group that the farewell begins goes on to the next blank line, but no more of it is taken.
        obtain ⟨piece, pieces, hpieces⟩ := List.exists_cons_of_ne_nil (List.splitOnP_ne_nil Text.isBlankLine lines)
        have hgroup : BeginsWithFarewell ([line] ++ piece) := hfarewell.2
        have hsplit : lines.splitOnPPrepend Text.isBlankLine (line :: d.gathered) = ([line] ++ piece) :: pieces := by
          rw [hfarewell.1, List.splitOnPPrepend_eq_modifyHead, hpieces]
          rfl
        rw [d.take_of_farewell verbosity line hended hfarewell.1 hfarewell.2, foldl_take_of_ended _ _ _ rfl, hsplit]
        refine ⟨?_, ⟨fun _ => ⟨_, .head _, hgroup⟩, fun _ => rfl⟩, rfl⟩
        rw [groupsOf_cons_of_farewell _ _ hgroup]
        exact (List.append_nil _).symm
      · rw [d.take_of_line verbosity line hended hline hfarewell]
        refine Takes.of_line line (ih (d := ask ⟨d.progress, line :: d.gathered, d.ended⟩) hended ?_)
        exact not_beginsWithFarewell_reverse_cons line d.gathered hgathered hfarewell

/-- All that a dialogue says on its input, prompts apart, and that it ends well. -/
theorem runDialogue_spoken (o : Options) (d : Desktop) (lines : List Text) :
    let progress := (runDialogue o d lines).progress
    progress.printed.toList.filter (· ∉ prompts) = ⟨.output, banner⟩ ::
        ((executions d ((groups lines).map scriptOf)).flatMap (·.prints o.verbosity) ++
          if HasFarewell lines then [] else [⟨.output, ['\n']⟩]) ∧
      progress.failed = false := by
  let begun := start d
  let d' := lines.foldl (take o.verbosity) begun
  -- Nothing is gathered before the first line, so the pieces are those of the input.
  have hbegun : begun.spoken = [⟨.output, banner⟩] := (spoken_ask _).trans rfl
  have htakes : Takes o.verbosity begun (lines.splitOnP Text.isBlankLine) d' := takes_foldl lines rfl Bool.false_ne_true
  have hspoken := htakes.spoken
  have hfailed : d'.progress.failed = false := htakes.failed
  rw [hbegun] at hspoken
  change d'.finish.spoken = _ ∧ d'.finish.progress.failed = false
  by_cases hfarewell : HasFarewell lines
  · have hfinish : d'.finish = d' := if_pos (htakes.ended.2 hfarewell)
    rw [hfinish, hspoken, if_pos hfarewell, List.append_nil]
    exact ⟨rfl, hfailed⟩
  · have hfinish : d'.finish = { d' with progress := d'.progress.print .output ['\n'], ended := true } :=
      if_neg fun hended => hfarewell (htakes.ended.1 hended)
    have hlast : d'.finish.spoken = d'.spoken ++ [⟨.output, ['\n']⟩] := by
      rw [hfinish, spoken, Progress.toList_print, List.filter_append]
      rfl
    rw [hlast, hspoken, if_neg hfarewell]
    exact ⟨rfl, by rw [hfinish, Progress.print_failed, hfailed]⟩

/-- A farewell inside a group is a line of the script. -/
example : groups ["a".toList, "quit".toList, [], " ".toList, "b".toList, [], "exit".toList, "c".toList, []] =
    [["a".toList, "quit".toList], ["b".toList]] := by decide

end Dialogue

theorem Command.perform_of_repl (around : Surroundings) (c : Command) (d : Desktop) (htask : c.task = .repl)
    (hoptions : c.checkOptions around = .ok ()) (hd : c.desktopFor around = .ok d) :
    c.perform around =
      (runDialogue (c.optionsIn around) d (inputLines around.input)).result (c.optionsIn around) := by
  apply c.perform_of_ok around _ hoptions
  unfold performTask
  rw [htask]
  dsimp only
  rw [hd]
  rfl

end DeskScript.Console
