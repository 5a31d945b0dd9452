import DeskScript.Proofs.Desktop.Rendering
import DeskScript.Proofs.Script.Calls
import DeskScript.Proofs.Script.Expressions
import DeskScript.Proofs.Script.Paths

namespace DeskScript

namespace Shape

open Text

/-- In `t`, behind `before`, something is logged, which `inside` says. -/
def LogsAt (t before inside : Text) : Prop :=
  inside ≠ [] ∧ ')' ∉ inside ∧
    ∃ opening after, t = before ++ ("sys.log".toList ++ opening) ∧ Opens opening (inside ++ ')' :: after)

theorem logHere?_eq_some_iff (t inside : Text) : logHere? t = some inside ↔ LogsAt t [] inside := by
  simp only [logHere?, LogsAt, Option.bind_eq_bind, Option.bind_eq_some_iff, afterPrefix?_eq_some_iff,
    afterOpening?_eq_some_iff, nonempty?_eq_some_iff, List.nil_append]
  constructor
  · rintro ⟨opening, rfl, rest, hopens, ⟨_, after⟩, hclose, hne, rfl⟩
    obtain ⟨hinside, rfl⟩ := (upToClose?_eq_some_iff _ _ _).1 hclose
    exact ⟨hne, hinside, opening, after, rfl, hopens⟩
  · rintro ⟨hne, hinside, opening, after, rfl, hopens⟩
    exact ⟨opening, rfl, _, hopens, (inside, after), upToClose?_append inside after hinside, hne, rfl⟩

theorem matchesAt_iff_logsAt (t before inside : Text) :
    MatchesAt logHere? t before inside ↔ LogsAt t before inside := by
  simp only [MatchesAt, logHere?_eq_some_iff, LogsAt, List.nil_append]
  constructor
  · rintro ⟨_, rfl, hne, hinside, opening, after, rfl, hopens⟩
    exact ⟨hne, hinside, opening, after, rfl, hopens⟩
  · rintro ⟨hne, hinside, opening, after, rfl, hopens⟩
    exact ⟨_, rfl, hne, hinside, opening, after, rfl, hopens⟩

theorem log?_eq_some_iff (t inside : Text) : log? t = some inside ↔ Leftmost (LogsAt t) inside := by
  rw [← leftmost_congr (matchesAt_iff_logsAt t)]
  exact (firstMatch_finds logHere? t).eq_some_iff (matchesAt_unambiguous _ t) inside

end Shape

namespace Session

open Text

variable (s : Session)

/-- How an argument is shown: in quotes, as the text in them; or as the value of the variable, if that has one that is
not empty; or else as what the path leads to; and if that is nothing, as it stands, but without its quotes. -/
inductive Shows (a : Text) : Text → Prop where
  | quoted (hquoted : isQuoted a = true) : Shows a (unquote a)
  | value (hquoted : isQuoted a = false) (hvalue : (s.lookup a).isEmpty = false) (shown : Text)
      (hshown : s.desktop.render (.value (s.lookup a)) = .ok shown) : Shows a shown
  | path (hquoted : isQuoted a = false) (hvalue : (s.lookup a).isEmpty = true) (t : Target)
      (ht : s.resolvePath a = .ok t) (hnull : t ≠ .null) (shown : Text) (hshown : s.desktop.render t = .ok shown) :
      Shows a shown
  | name (hquoted : isQuoted a = false) (hvalue : (s.lookup a).isEmpty = true)
      (hnull : s.resolvePath a = .ok .null) : Shows a (unquote a)

/-- The arguments that are not in quotes and cannot be shown: variables of circular values, and where a variable has no
value, or an empty one, paths that fail or lead to a circular value. -/
inductive CannotShow (a : Text) : Prop where
  | value (hquoted : isQuoted a = false) (hvalue : (s.lookup a).isEmpty = false)
      (hcircular : s.desktop.IsCircular (s.lookup a)) : CannotShow a
  | path (hquoted : isQuoted a = false) (hvalue : (s.lookup a).isEmpty = true) (e : ScriptError)
      (he : s.resolvePath a = .error e) : CannotShow a
  | target (hquoted : isQuoted a = false) (hvalue : (s.lookup a).isEmpty = true) (t : Target)
      (ht : s.resolvePath a = .ok t) (hcircular : s.desktop.IsCircularTarget t) : CannotShow a

/-- The arguments that lead to a number that is too long, in the same ways. -/
inductive LeadsToLong (a : Text) : Prop where
  | value (hquoted : isQuoted a = false) (hvalue : (s.lookup a).isEmpty = false)
      (hlong : s.desktop.HasLong (s.lookup a)) : LeadsToLong a
  | target (hquoted : isQuoted a = false) (hvalue : (s.lookup a).isEmpty = true) (t : Target)
      (ht : s.resolvePath a = .ok t) (hlong : s.desktop.HasLongTarget t) : LeadsToLong a

variable {s} {a : Text}

theorem logArgument_of_quoted (hquoted : isQuoted a = true) : s.logArgument (.ofText a) = .ok (unquote a) := by
  rw [Argument.ofText, if_pos hquoted, logArgument]

theorem logArgument_of_value (hquoted : isQuoted a = false) (hvalue : (s.lookup a).isEmpty = false) :
    s.logArgument (.ofText a) = s.desktop.render (.value (s.lookup a)) := by
  rw [Argument.ofText, hquoted, if_neg Bool.false_ne_true, logArgument, hvalue, if_neg Bool.false_ne_true]
  cases hlookup : s.lookup a with
  | plain j =>
    cases j with
    | null =>
      rw [hlookup] at hvalue
      cases hvalue
    | _ => rfl
  | _ => rfl

theorem logArgument_of_path_error (hquoted : isQuoted a = false) (hvalue : (s.lookup a).isEmpty = true)
    {e : ScriptError} (he : s.resolvePath a = .error e) : s.logArgument (.ofText a) = .error e := by
  rw [Argument.ofText, hquoted, if_neg Bool.false_ne_true, logArgument, hvalue, if_pos rfl, he]
  rfl

theorem logArgument_of_null (hquoted : isQuoted a = false) (hvalue : (s.lookup a).isEmpty = true)
    (hnull : s.resolvePath a = .ok .null) : s.logArgument (.ofText a) = .ok (unquote a) := by
  rw [Argument.ofText, hquoted, if_neg Bool.false_ne_true, logArgument, hvalue, if_pos rfl, hnull]
  rfl

theorem logArgument_of_path (hquoted : isQuoted a = false) (hvalue : (s.lookup a).isEmpty = true) {t : Target}
    (ht : s.resolvePath a = .ok t) (hnull : t ≠ .null) : s.logArgument (.ofText a) = s.desktop.render t := by
  rw [Argument.ofText, hquoted, if_neg Bool.false_ne_true, logArgument, hvalue, if_pos rfl, ht]
  dsimp only [Bind.bind, Except.bind]
  split
  · exact absurd rfl hnull
  · rfl

theorem Shows.logArgument {shown : Text} (h : s.Shows a shown) : s.logArgument (.ofText a) = .ok shown := by
  cases h with
  | quoted hquoted => exact logArgument_of_quoted hquoted
  | value hquoted hvalue _ hshown => rw [logArgument_of_value hquoted hvalue, hshown]
  | path hquoted hvalue t ht hnull _ hshown => rw [logArgument_of_path hquoted hvalue ht hnull, hshown]
  | name hquoted hvalue hnull => exact logArgument_of_null hquoted hvalue hnull

theorem ne_null_of_isCircularTarget {d : Desktop} {t : Target} (h : d.IsCircularTarget t ∨ d.HasLongTarget t) :
    t ≠ .null := by
  rintro rfl
  obtain ⟨v, hv, hv'⟩ | ⟨v, hv, hv'⟩ := h
  all_goals obtain rfl : Value.null = v := Target.value.inj hv
  · exact (d.isGrounded_plain .null).not_isCircular hv'
  · exact Bool.noConfusion ((d.canWrite_eq_false_iff .null).2 hv')

variable (s) (a)

theorem shows_or_not : (∃ shown, s.Shows a shown) ∨ s.CannotShow a ∨ s.LeadsToLong a := by
  cases hquoted : isQuoted a with
  | true => exact .inl ⟨_, .quoted hquoted⟩
  | false =>
    cases hvalue : (s.lookup a).isEmpty with
    | false =>
      cases hshown : s.desktop.render (.value (s.lookup a)) with
      | ok shown => exact .inl ⟨shown, .value hquoted hvalue shown hshown⟩
      | error e =>
        obtain ⟨-, v, hv, hcircular⟩ | ⟨-, v, hv, hlong⟩ := s.desktop.renderIn_eq_error_cases _ _ _ hshown
        all_goals obtain rfl : s.lookup a = v := Target.value.inj hv
        · exact .inr (.inl (.value hquoted hvalue hcircular))
        · exact .inr (.inr (.value hquoted hvalue hlong))
    | true =>
      cases ht : s.resolvePath a with
      | error e => exact .inr (.inl (.path hquoted hvalue e ht))
      | ok t =>
        by_cases hnull : t = .null
        · subst hnull
          exact .inl ⟨_, .name hquoted hvalue ht⟩
        · cases hshown : s.desktop.render t with
          | ok shown => exact .inl ⟨shown, .path hquoted hvalue t ht hnull shown hshown⟩
          | error e =>
            obtain ⟨-, hcircular⟩ | ⟨-, hlong⟩ := s.desktop.renderIn_eq_error_cases _ _ _ hshown
            · exact .inr (.inl (.target hquoted hvalue t ht hcircular))
            · exact .inr (.inr (.target hquoted hvalue t ht hlong))

variable {s a}

theorem exists_logArgument_eq_error (h : s.CannotShow a ∨ s.LeadsToLong a) :
    ∃ e, s.logArgument (.ofText a) = .error e := by
  have hfails {t : Target} (ht : s.desktop.IsCircularTarget t ∨ s.desktop.HasLongTarget t) :
      ∃ e, s.desktop.render t = .error e := by
    cases hshown : s.desktop.render t with
    | error e => exact ⟨e, rfl⟩
    | ok shown =>
      obtain ⟨hcircular, hlong⟩ := (s.desktop.exists_renderIn_eq_ok_iff _ t).1 ⟨shown, hshown⟩
      exact (ht.elim hcircular hlong).elim
  obtain (⟨hquoted, hvalue, hcircular⟩ | ⟨hquoted, hvalue, e, he⟩ | ⟨hquoted, hvalue, t, ht, hcircular⟩) |
    (⟨hquoted, hvalue, hlong⟩ | ⟨hquoted, hvalue, t, ht, hlong⟩) := h
  · rw [logArgument_of_value hquoted hvalue]
    exact hfails (.inl ⟨_, rfl, hcircular⟩)
  · exact ⟨e, logArgument_of_path_error hquoted hvalue he⟩
  · rw [logArgument_of_path hquoted hvalue ht (ne_null_of_isCircularTarget (.inl hcircular))]
    exact hfails (.inl hcircular)
  · rw [logArgument_of_value hquoted hvalue]
    exact hfails (.inr ⟨_, rfl, hlong⟩)
  · rw [logArgument_of_path hquoted hvalue ht (ne_null_of_isCircularTarget (.inr hlong))]
    exact hfails (.inr hlong)

variable (s) (a)

theorem logArgument_eq_ok_iff (shown : Text) : s.logArgument (.ofText a) = .ok shown ↔ s.Shows a shown := by
  refine ⟨fun h => ?_, Shows.logArgument⟩
  obtain ⟨shown', hshown⟩ | hcannot := s.shows_or_not a
  · obtain rfl : shown = shown' := Except.ok.inj (h.symm.trans hshown.logArgument)
    exact hshown
  · obtain ⟨e, he⟩ := exists_logArgument_eq_error hcannot
    cases h.symm.trans he

theorem exists_logArgument_eq_error_iff :
    (∃ e, s.logArgument (.ofText a) = .error e) ↔ s.CannotShow a ∨ s.LeadsToLong a := by
  refine ⟨fun ⟨e, he⟩ => ?_, exists_logArgument_eq_error⟩
  obtain ⟨shown, hshown⟩ | hcannot := s.shows_or_not a
  · cases he.symm.trans hshown.logArgument
  · exact hcannot

variable {a} in
theorem Brief.not_leadsToLong (hs : s.Brief) : ¬s.LeadsToLong a := by
  rintro (⟨-, -, hlong⟩ | ⟨-, -, t, ht, v, rfl, hlong⟩)
  · exact hs.desktop.not_hasLong (hs.of_knows (s.knows_lookup a)) hlong
  · exact hs.desktop.not_hasLong (hs.of_meets (meets_of_resolvePath ht v rfl)) hlong

theorem mapM_listOf (t : Text) :
    (Argument.listOf t).mapM s.logArgument = (pieces t).mapM fun a => s.logArgument (.ofText a) := by
  rw [Argument.listOf, List.mapM_map]
  rfl

theorem logLine_eq_log {line inside : Text} (hline : Leftmost (Shape.LogsAt line) inside) :
    s.logLine line = s.log (Argument.listOf inside) := by
  rw [logLine, logArguments?, (Shape.log?_eq_some_iff line inside).2 hline]
  rfl

theorem log_listOf_eq_ok_iff (t : Text) (s' : Session) :
    s.log (Argument.listOf t) = .ok s' ↔
      ∃ shown, List.Forall₂ s.Shows (pieces t) shown ∧ s.emit (joinWith [' '] shown) = s' := by
  simp only [log_eq_ok_iff, mapM_listOf, Except.mapM_eq_ok_iff, logArgument_eq_ok_iff]

theorem exists_log_listOf_eq_error_iff (t : Text) :
    (∃ failure, s.log (Argument.listOf t) = .error failure) ↔
      ∃ a ∈ pieces t, s.CannotShow a ∨ s.LeadsToLong a := by
  simp only [log_eq_error_iff, mapM_listOf, ← exists_logArgument_eq_error_iff,
    ← Except.exists_mapM_eq_error_iff]
  exact ⟨fun ⟨_, e, he, _⟩ => ⟨e, he⟩, fun ⟨e, he⟩ => ⟨_, e, he, rfl⟩⟩

theorem shows_unique {s : Session} {arguments shown shown' : List Text} (h : List.Forall₂ s.Shows arguments shown)
    (h' : List.Forall₂ s.Shows arguments shown') : shown = shown' := by
  induction h generalizing shown' with
  | nil =>
    cases h'
    rfl
  | cons ha _ ih =>
    cases h' with
    | cons ha' h' =>
      rw [ih h', Except.ok.inj (ha.logArgument.symm.trans ha'.logArgument)]

theorem run_singleton_of_ok (l : Line) (s' : Session) (taken : Nat) (h : s.step l [] = .ok (s', taken)) :
    (s.run [l]).session = s' ∧ (s.run [l]).error = none := by
  rw [run, runFrom_zero_cons_of_ok s 0 0 l [] s' taken h]
  cases taken <;> exact ⟨rfl, rfl⟩

theorem run_singleton_of_error (l : Line) (failure : Failure Session) (h : s.step l [] = .error failure) :
    (s.run [l]).session = failure.reached ∧ (s.run [l]).error = some failure.error := by
  rw [run, runFrom_zero_cons_of_error s 0 0 l [] failure h]
  exact ⟨rfl, rfl⟩

theorem session_run_singleton (l : Line) : (s.run [l]).session = leftBy Prod.fst (s.step l []) := by
  cases h : s.step l [] with
  | ok result => exact (s.run_singleton_of_ok l result.1 result.2 h).1
  | error failure => exact (s.run_singleton_of_error l failure h).1

/-- A line that neither declares nor defines something is carried out as a log if the mark of logs stands in it, with
no gap before the parenthesis. Without the mark it logs nothing, even if it has the shape of a log: it calls the
function that it names first, if there is one, or else changes nothing but the desktop. -/
theorem run_logLine (s : Session) (l : Line) (hdeclaration : ¬"local ".toList <+: l.stripped)
    (hdefinition : ¬"export function ".toList <+: l.stripped) :
    ("sys.log(".toList <:+: l.stripped →
      (∀ s', s.logLine l.stripped = .ok s' → (s.run [l]).session = s' ∧ (s.run [l]).error = none) ∧
      ∀ failure, s.logLine l.stripped = .error failure →
        (s.run [l]).session = s ∧ (s.run [l]).error = some failure.error) ∧
    (¬"sys.log(".toList <:+: l.stripped →
      (s.callsFunction l.stripped = true → (s.run [l]).session = leftBy id (s.invoke l.stripped)) ∧
      (s.callsFunction l.stripped = false →
        (s.run [l]).session = { s with desktop := (s.run [l]).session.desktop })) := by
  have hword : startsWith declarationWord l.stripped = false := by
    rwa [Bool.eq_false_iff, Ne, startsWith_iff_isPrefix]
  have hexport : startsWith definitionWord l.stripped = false := by
    rwa [Bool.eq_false_iff, Ne, startsWith_iff_isPrefix]
  refine ⟨fun hmark => ?_, fun hmark => ?_⟩
  · have hstep := s.step_of_log l [] hword hexport ((contains_iff_isInfix _ _).2 hmark)
    refine ⟨fun s' h => ?_, fun failure h => ?_⟩
    · rw [h] at hstep
      exact s.run_singleton_of_ok l s' 0 hstep
    · have hreached := s.reached_of_logLine l.stripped failure h
      rw [h] at hstep
      exact hreached ▸ s.run_singleton_of_error l failure hstep
  · -- Behind the branch for logs, only the body of a function adds to the transcript.
    have hnomark : contains logMark l.stripped = false := by
      rwa [Bool.eq_false_iff, Ne, contains_iff_isInfix]
    have hkind := s.kindOf_of_not_words l.stripped hword hexport hnomark
    rw [session_run_singleton]
    refine ⟨fun hcall => ?_, fun hcall => ?_⟩
    · rw [hcall, if_pos rfl] at hkind
      rw [s.step_of_kind_call l [] hkind]
      cases s.invoke l.stripped <;> rfl
    · rw [hcall, if_neg Bool.false_ne_true] at hkind
      split at hkind
      · rw [s.leftBy_step_of_action l [] hkind]
      · rw [s.step_of_kind_other l [] hkind]
        rfl

/-- A log with a call behind it on the line is carried out, and the call is not. -/
theorem run_logLine_before_call :
    let s : Session := .start (.ofWindows []) none
    let l : Line := .unnumbered "sys.log('a') f (b)".toList
    ¬"local ".toList <+: l.stripped ∧ ¬"export function ".toList <+: l.stripped ∧
      "sys.log(".toList <:+: l.stripped ∧ (s.run [l]).session.transcript.toList = [['a']] := by
  intro s l
  have hdeclaration : ¬"local ".toList <+: l.stripped := by decide +kernel
  have hdefinition : ¬"export function ".toList <+: l.stripped := by decide +kernel
  have hmark : "sys.log(".toList <:+: l.stripped := by decide +kernel
  have hlog : s.logLine l.stripped = .ok (s.emit ['a']) := rfl
  refine ⟨hdeclaration, hdefinition, hmark, ?_⟩
  rw [(((s.run_logLine l hdeclaration hdefinition).1 hmark).1 _ hlog).1]
  rfl

/-- With a gap before its parenthesis, what would be logged is not. -/
theorem not_run_logLine_spaced :
    let s : Session := .start (.ofWindows []) none
    let l : Line := .unnumbered "sys.log (\"x\")".toList
    ¬"local ".toList <+: l.stripped ∧ ¬"export function ".toList <+: l.stripped ∧
      s.logLine l.stripped = .ok (s.emit ['x']) ∧ (s.run [l]).session.transcript.toList = [] := by
  intro s l
  exact ⟨by decide +kernel, by decide +kernel, rfl, by decide +kernel⟩

end Session

end DeskScript
