import DeskScript.Proofs.Script.Functions
import DeskScript.Proofs.Script.Watching
import DeskScript.Proofs.Text.Leftmost
import DeskScript.Proofs.Text.Piece

namespace DeskScript

namespace Shape

open Text

def Opens (t rest : Text) : Prop := ∃ gap, isBlankLine gap = true ∧ t = gap ++ '(' :: rest

theorem afterOpening?_eq_some_iff (t rest : Text) : afterOpening? t = some rest ↔ Opens t rest := by
  rw [afterOpening?, afterPrefix?_eq_some_iff]
  constructor
  · intro h
    obtain ⟨gap, hgap, ht⟩ := exists_trimStart t
    exact ⟨gap, hgap, by rw [ht, h]; rfl⟩
  · rintro ⟨gap, hgap, rfl⟩
    rw [trimStart_append_of_blank gap _ hgap, trimStart_cons_of_not_blank _ _ (by decide)]
    rfl

theorem Opens.head? {t rest : Text} (h : Opens t rest) : ∀ c ∈ t.head?, isWord c = false := by
  obtain ⟨gap, hgap, rfl⟩ := h
  cases gap with
  | nil => simp; decide
  | cons d gap =>
    rintro _ ⟨⟩
    exact isWord_eq_false_of_isBlank d ((isBlankLine_cons d gap).1 hgap).1

theorem Opens.mem_of_mem {t rest : Text} (h : Opens t rest) (c : Char) (hc : c ∈ rest) : c ∈ t := by
  obtain ⟨gap, -, rfl⟩ := h
  exact List.mem_append_right _ (List.mem_cons_of_mem _ hc)

/-- In `t`, behind `before`, `name` is called, and `rest` stands behind the parenthesis that opens. -/
def CallsAt (t before name rest : Text) : Prop :=
  IsName name ∧ ∃ after, t = before ++ (name ++ after) ∧ Opens after rest

/-- A call with none further left. -/
def IsFirstCall (t name rest : Text) : Prop := Leftmost (fun before p => CallsAt t before p.1 p.2) (name, rest)

/-- A name with a call behind it: the name, and what stands behind the parenthesis that opens. -/
def callAt? (name t : Text) : Option (Text × Text) := (afterOpening? t).map fun rest => (name, rest)

def firstCall? (t : Text) : Option (Text × Text) := firstWord callAt? false t

theorem firstCall?_cons (c : Char) (t : Text) (hc : isWord c = false) : firstCall? (c :: t) = firstCall? t :=
  firstWord_cons_of_not_word _ _ c t hc

theorem firstCall?_append (w r : Text) (hw : IsName w) (hr : ∀ c ∈ r.head?, isWord c = false) :
    firstCall? (w ++ r) = (callAt? w r).or (firstCall? r) :=
  firstWord_append _ w r hw hr

theorem callAt?_eq_some_iff (name t : Text) (p : Text × Text) :
    callAt? name t = some p ↔ p.1 = name ∧ Opens t p.2 := by
  rw [callAt?, Option.map_eq_some_iff]
  constructor
  · rintro ⟨rest, hrest, rfl⟩
    exact ⟨rfl, (afterOpening?_eq_some_iff t rest).1 hrest⟩
  · rintro ⟨rfl, hopens⟩
    exact ⟨p.2, (afterOpening?_eq_some_iff t p.2).2 hopens, rfl⟩

theorem findsAt_iff_callsAt (t before : Text) (p : Text × Text) :
    FindsAt callAt? t before p ↔ CallsAt t before p.1 p.2 := by
  constructor
  · rintro ⟨name, after, ht, hname, -, hp⟩
    obtain ⟨rfl, hopens⟩ := (callAt?_eq_some_iff name after p).1 hp
    exact ⟨hname, after, ht, hopens⟩
  · rintro ⟨hname, after, ht, hopens⟩
    exact ⟨p.1, after, ht, hname, hopens.head?, (callAt?_eq_some_iff p.1 after p).2 ⟨rfl, hopens⟩⟩

theorem firstCall?_eq_some_iff (t name rest : Text) :
    firstCall? t = some (name, rest) ↔ IsFirstCall t name rest := by
  have hfinds := firstWord_finds callAt? (fun w w' r h => by simpa [callAt?] using h) t
  rw [IsFirstCall, ← leftmost_congr (findsAt_iff_callsAt t)]
  exact hfinds.eq_some_iff (findsAt_unambiguous _ t) (name, rest)

theorem calledName?_eq (t : Text) : calledName? t = (firstCall? t).map Prod.fst := by
  rw [calledName?]
  induction t using wordInduction with
  | nil => rfl
  | gap c t hc ih => rw [firstWord_cons_of_not_word _ _ c t hc, firstCall?_cons c t hc, ih]
  | word w r hw hr ih =>
    rw [firstWord_append _ w r hw hr, firstCall?_append w r hw hr, callAt?, ih]
    cases afterOpening? r <;> rfl

theorem closesOnLine_eq (t : Text) (hn : '\n' ∉ t) : closesOnLine t = decide (')' ∈ t) := by
  induction t with
  | nil => rfl
  | cons c t ih =>
    obtain ⟨hc, hn⟩ := not_or.1 (mt List.mem_cons.2 hn)
    by_cases hclose : c = ')'
    · subst hclose
      simp [closesOnLine]
    · have hskip : closesOnLine (c :: t) = closesOnLine t := by
        simp [closesOnLine, hclose, Ne.symm hc]
      rw [hskip, ih hn]
      simp [Ne.symm hclose]

theorem invokedAfter?_eq (name t rest : Text) (hopening : afterOpening? t = some rest) (hn : '\n' ∉ t) :
    invokedAfter? name t = if ')' ∈ rest then some name else none := by
  have hopens := (afterOpening?_eq_some_iff t rest).1 hopening
  have hn' : '\n' ∉ rest := fun h => hn (hopens.mem_of_mem _ h)
  simp only [invokedAfter?, hopening, Option.bind_eq_bind, Option.bind_some, closesOnLine_eq rest hn',
    decide_eq_true_eq, Option.pure_def]

theorem invokedName?_eq_none (t : Text) (hn : '\n' ∉ t) (hclose : ')' ∉ t) : invokedName? t = none := by
  rw [Option.eq_none_iff_forall_ne_some]
  intro name h
  obtain ⟨w, r, hr, hw⟩ := exists_of_firstWord _ _ _ _ h
  cases hopening : afterOpening? r with
  | none => simp [invokedAfter?, hopening] at hw
  | some rest =>
    have hopens := (afterOpening?_eq_some_iff r rest).1 hopening
    have hrest : ')' ∉ rest := fun hmem => hclose (hr.subset (hopens.mem_of_mem _ hmem))
    rw [invokedAfter?_eq w r rest hopening fun hmem => hn (hr.subset hmem), if_neg hrest] at hw
    cases hw

/-- On one line, a call that is not closed is followed by none that is. -/
theorem invokedName?_eq (t : Text) (hn : '\n' ∉ t) :
    invokedName? t = (firstCall? t).bind fun p => if ')' ∈ p.2 then some p.1 else none := by
  induction t using wordInduction with
  | nil => rfl
  | gap c t hc ih =>
    have hn' : '\n' ∉ t := fun h => hn (List.mem_cons_of_mem _ h)
    rw [firstCall?_cons c t hc, ← ih hn']
    exact firstWord_cons_of_not_word _ _ c t hc
  | word w r hw hr ih =>
    have hn' : '\n' ∉ r := fun h => hn (List.mem_append_right _ h)
    have hinvoked : invokedName? (w ++ r) = (invokedAfter? w r).or (invokedName? r) := firstWord_append _ w r hw hr
    rw [hinvoked, firstCall?_append w r hw hr, callAt?]
    cases hopening : afterOpening? r with
    | none =>
      have hnone : invokedAfter? w r = none := by simp [invokedAfter?, hopening]
      rw [hnone, Option.none_or, ih hn', Option.map_none, Option.none_or]
    | some rest =>
      rw [invokedAfter?_eq w r rest hopening hn', Option.map_some, Option.some_or, Option.bind_some]
      by_cases hclose : ')' ∈ rest
      · rw [if_pos hclose, Option.some_or]
      · obtain ⟨gap, hgap, hr'⟩ := (afterOpening?_eq_some_iff r rest).1 hopening
        -- No parenthesis closes behind the first call, so none does behind a later one.
        have hgap' : ')' ∉ gap := by
          intro hmem
          exact absurd (List.all_eq_true.1 hgap ')' hmem) (by decide)
        have hnot : ')' ∉ r := by simp [hr', hgap', hclose]
        rw [if_neg hclose, Option.none_or, invokedName?_eq_none r hn' hnot]

end Shape

namespace Session

variable (s : Session)

theorem callsFunction_iff_exists (line : Text) :
    s.callsFunction line = true ↔
      ∃ name rest f, Shape.IsFirstCall line name rest ∧ s.functions.get? name = some f := by
  rw [callsFunction_iff, Shape.calledName?_eq]
  constructor
  · rintro ⟨name, f, hcalled, hf⟩
    obtain ⟨⟨_, rest⟩, hcall, rfl⟩ := Option.map_eq_some_iff.1 hcalled
    exact ⟨_, rest, f, (Shape.firstCall?_eq_some_iff line _ rest).1 hcall, hf⟩
  · rintro ⟨name, rest, f, hcall, hf⟩
    rw [(Shape.firstCall?_eq_some_iff line name rest).2 hcall]
    exact ⟨name, f, rfl, hf⟩

theorem invoke_eq (line : Text) :
    s.invoke line =
      (((Shape.invokedName? line).bind s.functions.get?).map Function.instructions).elim (.ok s) s.followAll := by
  rw [invoke]
  cases (Shape.invokedName? line).bind s.functions.get? <;> rfl

theorem invoke_of_isFirstCall (line name rest : Text) (hline : '\n' ∉ line)
    (hcall : Shape.IsFirstCall line name rest) :
    s.invoke line =
      if ')' ∈ rest then (s.functions.get? name).elim (.ok s) fun f => s.followAll f.instructions else .ok s := by
  rw [invoke_eq, Shape.invokedName?_eq line hline, (Shape.firstCall?_eq_some_iff line name rest).2 hcall,
    Option.bind_some]
  split_ifs with hclose
  · rw [Option.bind_some]
    cases s.functions.get? name <;> rfl
  · rfl

theorem invoke_of_not_callsFunction (line : Text) (hline : '\n' ∉ line) (h : s.callsFunction line = false) :
    s.invoke line = .ok s := by
  cases hcall : Shape.firstCall? line with
  | none =>
    rw [invoke_eq, Shape.invokedName?_eq line hline, hcall]
    rfl
  | some p =>
    have hfirst := (Shape.firstCall?_eq_some_iff line p.1 p.2).1 hcall
    have hnone : s.functions.get? p.1 = none := by
      rw [Option.eq_none_iff_forall_ne_some]
      intro f hf
      rw [(s.callsFunction_iff_exists line).2 ⟨p.1, p.2, f, hfirst, hf⟩] at h
      cases h
    rw [s.invoke_of_isFirstCall line p.1 p.2 hline hfirst, hnone]
    exact ite_self _

/-- A line calls what it called, and does what it did, where the functions of a session keep their bodies. -/
theorem invoke_withFunctions (functions : Table Text Function)
    (h : ∀ name, (functions.get? name).map Function.instructions = (s.functions.get? name).map Function.instructions)
    (line : Text) :
    (s.withFunctions functions).callsFunction line = s.callsFunction line ∧
      (s.withFunctions functions).invoke line = outcomeWith functions (s.invoke line) := by
  constructor
  · unfold callsFunction
    cases Shape.calledName? line with
    | none => rfl
    | some name => simpa [withFunctions] using congrArg Option.isSome (h name)
  · have hsame : ((Shape.invokedName? line).bind functions.get?).map Function.instructions =
        ((Shape.invokedName? line).bind s.functions.get?).map Function.instructions := by
      cases Shape.invokedName? line with
      | none => rfl
      | some name => exact h name
    rw [invoke_eq, invoke_eq, withFunctions, hsame]
    cases ((Shape.invokedName? line).bind s.functions.get?).map Function.instructions with
    | none => rfl
    | some is => exact s.followAll_withFunctions functions is

theorem put_parameters_instructions (name : Text) (f : Function) (parameters : List Text)
    (hf : s.functions.get? name = some f) (name' : Text) :
    ((s.functions.put name { f with parameters }).get? name').map Function.instructions =
      (s.functions.get? name').map Function.instructions := by
  rw [Table.get?_put]
  split_ifs with hname
  · obtain rfl : name = name' := Std.compare_eq_iff_eq.1 hname
    rw [hf]
    rfl
  · rfl

/-- The guard and the call agree on every line: a line that calls no function does nothing, and one that calls a
function runs the body of the one that it calls first if a closing parenthesis comes later, or else nothing. What else
stands in the line plays no part, and neither do the parameters that a function has been given. -/
theorem invoke_first_call (line : Text) (hline : '\n' ∉ line) :
    (s.callsFunction line = true ↔
      ∃ name rest f, Shape.IsFirstCall line name rest ∧ s.functions.get? name = some f) ∧
    (s.callsFunction line = false → s.invoke line = .ok s) ∧
    (∀ name rest f, Shape.IsFirstCall line name rest → s.functions.get? name = some f →
      s.invoke line = if ')' ∈ rest then s.followAll f.instructions else .ok s) ∧
    (∀ line' name rest rest', '\n' ∉ line' → Shape.IsFirstCall line name rest → Shape.IsFirstCall line' name rest' →
      ')' ∈ rest → ')' ∈ rest' →
      s.callsFunction line' = s.callsFunction line ∧ s.invoke line' = s.invoke line) ∧
    ∀ name f parameters, s.functions.get? name = some f →
      let s' := s.withFunctions (s.functions.put name { f with parameters })
      s'.callsFunction line = s.callsFunction line ∧ s'.invoke line = outcomeWith s'.functions (s.invoke line) := by
  refine ⟨s.callsFunction_iff_exists line, s.invoke_of_not_callsFunction line hline, fun name rest f hcall hf => ?_,
    fun line' name rest rest' hline' hcall hcall' hclose hclose' => ⟨?_, ?_⟩, fun name f parameters hf => ?_⟩
  · rw [s.invoke_of_isFirstCall line name rest hline hcall, hf]
    rfl
  · have hname := (Shape.firstCall?_eq_some_iff line name rest).2 hcall
    have hname' := (Shape.firstCall?_eq_some_iff line' name rest').2 hcall'
    rw [callsFunction, callsFunction, Shape.calledName?_eq, Shape.calledName?_eq, hname, hname']
    rfl
  · rw [s.invoke_of_isFirstCall line name rest hline hcall, s.invoke_of_isFirstCall line' name rest' hline' hcall',
      if_pos hclose, if_pos hclose']
  · exact s.invoke_withFunctions _ (s.put_parameters_instructions name f parameters hf) line

/-- Two lines that call the same function, one with arguments and something around the call. -/
theorem invoke_first_call_answer :
    let f : Function := .ofBody [['p']] "\x7b\nreturn \"a\"\n\x7d".toList
    let s : Session := { Session.start (.ofWindows []) none with functions := Table.empty.put ['f'] f }
    let line := "go f (1) now".toList
    let line' := "f()".toList
    '\n' ∉ line ∧ '\n' ∉ line' ∧ Shape.IsFirstCall line ['f'] "1) now".toList ∧
      Shape.IsFirstCall line' ['f'] [')'] ∧ s.functions.get? ['f'] = some f ∧ s.invoke line' = s.invoke line ∧
      (leftBy id (s.invoke line')).transcript.toList = ["Return: a".toList] := by
  intro f s line line'
  have hline : '\n' ∉ line := by decide
  have hline' : '\n' ∉ line' := by decide
  have hcall : Shape.IsFirstCall line ['f'] "1) now".toList := (Shape.firstCall?_eq_some_iff _ _ _).1 (by decide)
  have hcall' : Shape.IsFirstCall line' ['f'] [')'] := (Shape.firstCall?_eq_some_iff _ _ _).1 (by decide)
  have hf : s.functions.get? ['f'] = some f := Table.get?_put_self ..
  obtain ⟨-, -, -, hsame, -⟩ := invoke_first_call s line hline
  exact ⟨hline, hline', hcall, hcall', hf, (hsame line' ['f'] _ _ hline' hcall hcall' (by decide) (by decide)).2,
    by decide +kernel⟩

end Session

end DeskScript
