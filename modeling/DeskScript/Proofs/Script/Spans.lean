import DeskScript.Proofs.Script.Watching

namespace DeskScript

/-- The lines from the index `first` up to, but without, the index `stop`. -/
structure Span where
  first : Nat
  stop : Nat
deriving DecidableEq

/-- Spans that follow each other from one index to another one, none of them empty. -/
def Span.Tiles : Nat → List Span → Nat → Prop
  | i, [], stop => i = stop
  | i, x :: xs, stop => x.first = i ∧ i < x.stop ∧ Tiles x.stop xs stop

namespace Span.Tiles

theorem le {i stop : Nat} {xs : List Span} (h : Tiles i xs stop) : i + xs.length ≤ stop := by
  induction xs generalizing i with
  | nil => exact Nat.le_of_eq h
  | cons x xs ih =>
    obtain ⟨-, hlt, hxs⟩ := h
    have := ih hxs
    rw [List.length_cons]
    omega

/-- There are as many spans as lines exactly if each of them is one line. -/
theorem length_eq_iff {i stop : Nat} {xs : List Span} (h : Tiles i xs stop) :
    i + xs.length = stop ↔ ∀ x ∈ xs, x.stop = x.first + 1 := by
  induction xs generalizing i with
  | nil => exact iff_of_true h fun x hx => absurd hx List.not_mem_nil
  | cons x xs ih =>
    obtain ⟨hfirst, hlt, hxs⟩ := h
    have hrest := ih hxs
    have hle := hxs.le
    rw [List.length_cons, List.forall_mem_cons, ← hrest]
    omega

theorem le_first {i stop : Nat} {xs : List Span} (h : Tiles i xs stop) : ∀ x ∈ xs, i ≤ x.first := by
  induction xs generalizing i with
  | nil => exact fun x hx => absurd hx List.not_mem_nil
  | cons x xs ih =>
    obtain ⟨rfl, hlt, hxs⟩ := h
    intro y hy
    rcases List.mem_cons.1 hy with rfl | hy
    · exact le_rfl
    · exact hlt.le.trans (ih hxs y hy)

/-- Every index in between is in one of the spans, and in no other. -/
theorem existsUnique {i stop : Nat} {xs : List Span} (h : Tiles i xs stop) (k : Nat) (hi : i ≤ k) (hk : k < stop) :
    ∃! x, x ∈ xs ∧ x.first ≤ k ∧ k < x.stop := by
  induction xs generalizing i with
  | nil => exact absurd hk (Nat.not_lt.2 (h ▸ hi))
  | cons x xs ih =>
    obtain ⟨rfl, -, hxs⟩ := h
    obtain hx | hx := Nat.lt_or_ge k x.stop
    · refine ⟨x, ⟨List.mem_cons_self .., hi, hx⟩, ?_⟩
      rintro y ⟨hy, hfirst, -⟩
      rcases List.mem_cons.1 hy with rfl | hy
      · rfl
      · -- The spans behind `x` begin where it stops.
        have := hxs.le_first y hy
        omega
    · obtain ⟨y, ⟨hy, hin⟩, hunique⟩ := ih hxs hx
      refine ⟨y, ⟨List.mem_cons_of_mem _ hy, hin⟩, ?_⟩
      rintro z ⟨hz, hfirst, hstop⟩
      rcases List.mem_cons.1 hz with rfl | hz
      · omega
      · exact hunique z ⟨hz, hfirst, hstop⟩

end Span.Tiles

/-- How many lines the block at the front of the lines takes, and 0 if none ends there. -/
def Block.extent (lines : List Text) : Nat := ((scan lines).map Block.taken).getD 0

namespace Block

theorem extent_of_require (head : Line) (rest : List Line) (block : Block) (h : require head rest = .ok block) :
    extent (head.text :: rest.map Line.text) = block.taken := by
  rw [extent, (require_eq_ok_iff head rest block).1 h]
  rfl

end Block

namespace Session

/-- How many lines the statement at `head` stands on. It is its own line, or those of its block if it has one; a block
that does not end has none. -/
def extent (s : Session) (head : Line) (rest : List Line) : Nat :=
  let block := Block.extent (head.text :: rest.map Line.text)
  match s.kindOf head.stripped with
  | .declaration =>
    match DeclarationHeader.ofLine head with
    | .ok header => if header.expression.elem '{' then block else 1
    | .error _ => 0
  | .definition => block
  | _ => 1

/-- A turn of the dispatcher: the statement on the line at its index is carried out, and the index moves on by as many
lines as that stands on. -/
inductive Turn (lines : List Line) : Nat × Session → Nat × Session → Prop where
  | intro (i : Nat) (s s' : Session) (head : Line) (rest : List Line) (taken : Nat)
      (hlines : lines.drop i = head :: rest) (h : s.step head rest = .ok (s', taken)) :
      Turn lines (i, s) (i + s.extent head rest, s')

/-- Turns in a row, with the lines of the statement in each of them. -/
inductive Turns (lines : List Line) : Nat × Session → List Span → Nat × Session → Prop where
  | nil (t : Nat × Session) : Turns lines t [] t
  | cons (t t' t'' : Nat × Session) (spans : List Span) (h : Turn lines t t') (hs : Turns lines t' spans t'') :
      Turns lines t (⟨t.1, t'.1⟩ :: spans) t''

/-- The dispatcher has no further turn: it is behind the last line, or at a statement that fails. -/
inductive Ended (lines : List Line) : Nat × Session → Session → Option ScriptError → Prop where
  | finished (s : Session) : Ended lines (lines.length, s) s none
  | failed (i : Nat) (s : Session) (head : Line) (rest : List Line) (failure : Failure Session)
      (hlines : lines.drop i = head :: rest) (h : s.step head rest = .error failure) :
      Ended lines (i, s) failure.reached (some failure.error)

theorem Ended.eq_of_none {lines : List Line} {t : Nat × Session} {s : Session} (h : Ended lines t s none) :
    t = (lines.length, s) := by
  cases h
  rfl

end Session

/-- The lines of a statement of a run on these lines, unless it has failed. -/
def Dispatch.span? (lines : List Line) (d : Dispatch) : Option Span :=
  match d.before.step d.line (lines.drop (d.position + 1)) with
  | .ok _ => some ⟨d.position, d.position + d.before.extent d.line (lines.drop (d.position + 1))⟩
  | .error _ => none

/-- The lines of each statement that a run on these lines has carried out. -/
def Run.spans (r : Run) (lines : List Line) : List Span := r.dispatched.filterMap (Dispatch.span? lines)

namespace Session

variable (s : Session)

/-- The block that makes a statement longer takes a line at least, so that nothing is lost in counting the lines after
the first one. -/
theorem extent_of_step (head : Line) (rest : List Line) (s' : Session) (taken : Nat)
    (h : s.step head rest = .ok (s', taken)) : s.extent head rest = taken + 1 := by
  cases hk : s.kindOf head.stripped with
  | declaration =>
    rw [s.step_of_kind_declaration head rest hk, declare_eq_ok_iff] at h
    obtain ⟨d, hd, -, rfl⟩ := h
    obtain ⟨header, hheader, hread⟩ := (Declaration.read_eq_ok_iff head rest d).1 hd
    simp only [extent, hk, hheader]
    split at hread
    · obtain ⟨block, hblock, rfl⟩ := hread
      have hpos := (Block.require_taken head rest block hblock).1
      rw [if_pos ‹_›, Block.extent_of_require head rest block hblock]
      dsimp only
      omega
    · rw [if_neg ‹_›, ← hread]
  | definition =>
    rw [s.step_of_kind_definition head rest hk, define_eq_ok_iff] at h
    obtain ⟨header, -, block, hblock, -, rfl⟩ := h
    have hpos := (Block.require_taken head rest block hblock).1
    simp only [extent, hk]
    rw [Block.extent_of_require head rest block hblock]
    omega
  | log | call | action | other =>
    -- Every other kind of statement takes its own line only.
    simp only [step, hk, Except.map_eq_ok_iff, Except.ok.injEq, Prod.mk.injEq] at h
    simp only [extent, hk]
    omega

theorem extent_bounds (head : Line) (rest : List Line) (s' : Session) (taken : Nat)
    (h : s.step head rest = .ok (s', taken)) : 0 < s.extent head rest ∧ s.extent head rest ≤ (head :: rest).length := by
  have hextent := s.extent_of_step head rest s' taken h
  have htaken := s.step_taken head rest s' taken h
  rw [List.length_cons]
  omega

variable {lines : List Line}

theorem Turn.bounds {t t' : Nat × Session} (h : Turn lines t t') : t.1 < t'.1 ∧ t'.1 ≤ lines.length := by
  obtain ⟨i, s, s', head, rest, taken, hlines, hstep⟩ := h
  obtain ⟨hpos, hle⟩ := s.extent_bounds head rest s' taken hstep
  have hleft := congrArg List.length hlines
  rw [List.length_drop] at hleft
  dsimp only
  omega

/-- Wherever the dispatcher begins, it comes to an end. -/
theorem wellFounded_turn (lines : List Line) : WellFounded fun t' t => Turn lines t t' := by
  apply Subrelation.wf _ (measure fun t : Nat × Session => lines.length - t.1).wf
  intro t' t h
  obtain ⟨hlt, hle⟩ := h.bounds
  show lines.length - t'.1 < lines.length - t.1
  omega

theorem Turns.tiles {t t' : Nat × Session} {spans : List Span} (h : Turns lines t spans t') :
    Span.Tiles t.1 spans t'.1 := by
  induction h with
  | nil => rfl
  | cons t t' t'' spans h _ ih => exact ⟨rfl, h.bounds.1, ih⟩

end Session

/-- The run goes through turns of the dispatcher from `t` on to an end. All that it dispatches are the statements of
these turns, and the one that fails if the end is there. -/
structure Run.Turned (r : Run) (lines : List Line) (t : Nat × Session) : Prop where
  turns : ∃ t', Session.Turns lines t (r.spans lines) t' ∧ Session.Ended lines t' r.session r.error
  length_dispatched : r.dispatched.length = (r.spans lines).length + if r.error.isSome then 1 else 0

namespace Session

variable {lines : List Line} (s : Session)

theorem drop_succ_of_drop_eq_cons {rest : List Line} {head : Line} {i : Nat} (h : lines.drop i = head :: rest) :
    i < lines.length ∧ lines.drop (i + 1) = rest := by
  refine ⟨List.length_lt_of_drop_ne_nil (h ▸ List.cons_ne_nil head rest), ?_⟩
  rw [← List.tail_drop, h, List.tail_cons]

theorem turned_of_error {i step : Nat} {head : Line} {rest : List Line} {failure : Failure Session}
    (h : lines.drop i = head :: rest) (hfail : s.step head rest = .error failure) :
    (Run.mk failure.reached [⟨step, i, head, s⟩] (some failure.error)).Turned lines (i, s) := by
  have hspan : (⟨step, i, head, s⟩ : Dispatch).span? lines = none := by
    simp only [Dispatch.span?, (drop_succ_of_drop_eq_cons h).2, hfail]
  have hspans : (Run.mk failure.reached [⟨step, i, head, s⟩] (some failure.error)).spans lines = [] := by
    rw [Run.spans, List.filterMap_cons_none hspan, List.filterMap_nil]
  constructor
  · rw [hspans]
    exact ⟨_, .nil _, .failed i s head rest failure h hfail⟩
  · rw [hspans]
    rfl

theorem turned_of_ok {i step : Nat} {head : Line} {rest : List Line} {s' : Session} {taken : Nat}
    (h : lines.drop i = head :: rest) (hok : s.step head rest = .ok (s', taken)) {r : Run}
    (hr : r.Turned lines (i + s.extent head rest, s')) :
    { r with dispatched := ⟨step, i, head, s⟩ :: r.dispatched }.Turned lines (i, s) := by
  obtain ⟨⟨t, hturns, hended⟩, hlength⟩ := hr
  have hspan : (⟨step, i, head, s⟩ : Dispatch).span? lines = some ⟨i, i + s.extent head rest⟩ := by
    simp only [Dispatch.span?, (drop_succ_of_drop_eq_cons h).2, hok]
  have hspans : { r with dispatched := ⟨step, i, head, s⟩ :: r.dispatched }.spans lines =
      ⟨i, i + s.extent head rest⟩ :: r.spans lines :=
    List.filterMap_cons_some hspan
  constructor
  · rw [hspans]
    exact ⟨t, .cons _ _ _ _ (.intro i s s' head rest taken h hok) hturns, hended⟩
  · rw [hspans, List.length_cons, List.length_cons, hlength]
    exact Nat.add_right_comm _ _ 1

theorem runFrom_turned (step position taken : Nat) (rest : List Line) (h : lines.drop position = rest)
    (hposition : position ≤ lines.length) (htaken : taken ≤ rest.length) :
    (s.runFrom step position taken rest).Turned lines (position + taken, s) := by
  -- `lines` stays whole, since the spans count from its beginning.
  fun_induction runFrom s step position taken rest with
  | case1 s step position taken =>
    obtain rfl : taken = 0 := Nat.le_zero.1 htaken
    obtain rfl : position = lines.length := le_antisymm hposition (List.drop_eq_nil_iff.1 h)
    exact ⟨⟨_, .nil _, .finished s⟩, rfl⟩
  | case2 s step position taken head rest ih =>
    obtain ⟨hlt, hrest⟩ := drop_succ_of_drop_eq_cons h
    -- This line was taken by the statement before it.
    rw [show position + (taken + 1) = position + 1 + taken by omega]
    exact ih hrest hlt (Nat.le_of_succ_le_succ htaken)
  | case3 s step position head rest failure hfail => exact s.turned_of_error h hfail
  | case4 s step position head rest s' taken hok run ih =>
    obtain ⟨hlt, hrest⟩ := drop_succ_of_drop_eq_cons h
    have hnext : position + 1 + taken = position + s.extent head rest := by
      rw [s.extent_of_step head rest s' taken hok]
      omega
    have hrun := ih hrest hlt (s.step_taken head rest s' taken hok)
    rw [hnext] at hrun
    exact s.turned_of_ok h hok hrun

theorem run_turned (lines : List Line) : (s.run lines).Turned lines (0, s) :=
  s.runFrom_turned 0 0 0 lines rfl (Nat.zero_le _) (Nat.zero_le _)

/-- A statement that succeeds stands on a line at least, and on no more than there are from its own on. So the
dispatcher, which moves on by these lines with every turn, always comes to an end. The spans of the statements that a
run has carried out follow each other from the first line on, none of them empty, to where the run has ended. If it has
succeeded, that is behind the last line: every line is in the span of one statement and no other; the statements that
are counted, and added to the statistics of a host, are as many as the spans; and they are no more than the lines, and
as many exactly if each of them stands on one line. -/
theorem run_spans (s : Session) (lines : List Line) :
    let r := s.run lines
    let spans := r.spans lines
    (∀ (s : Session) (head : Line) (rest : List Line) (s' : Session) (taken : Nat),
      s.step head rest = .ok (s', taken) → 0 < s.extent head rest ∧ s.extent head rest ≤ (head :: rest).length) ∧
    (WellFounded fun t' t => Turn lines t t') ∧
    (∃ t, Turns lines (0, s) spans t ∧ Ended lines t r.session r.error ∧ Span.Tiles 0 spans t.1) ∧
    (r.error = none →
      Turns lines (0, s) spans (lines.length, r.session) ∧ Span.Tiles 0 spans lines.length ∧
      (∀ i < lines.length, ∃! x, x ∈ spans ∧ x.first ≤ i ∧ i < x.stop) ∧
      r.statements? = some spans.length ∧
      (∀ level statistics, (s.watch level statistics lines).1.steps = spans.length ∧
        (s.watch level statistics lines).2 =
          statistics.map fun x => ⟨some (x.statements.getD 0 + spans.length)⟩) ∧
      spans.length ≤ lines.length ∧
      (spans.length = lines.length ↔ ∀ x ∈ spans, x.stop = x.first + 1)) := by
  intro r spans
  obtain ⟨⟨t, hturns, hended⟩, hlength⟩ := s.run_turned lines
  refine ⟨extent_bounds, wellFounded_turn lines, ⟨t, hturns, hended, hturns.tiles⟩, fun hr => ?_⟩
  obtain rfl : t = (lines.length, r.session) := Ended.eq_of_none (hr ▸ hended)
  have htiles : Span.Tiles 0 spans lines.length := hturns.tiles
  have hcount : r.dispatched.length = spans.length := by
    rw [hlength, show (s.run lines).error = none from hr]
    rfl
  have hstatements : r.statements? = some spans.length := (Run.statements?_eq_some_iff r _).2 ⟨hr, hcount⟩
  refine ⟨hturns, htiles, fun i hi => htiles.existsUnique i (Nat.zero_le i) hi, hstatements,
    fun level statistics => ?_, ?_, ?_⟩
  · obtain ⟨hwatches, hstatistics⟩ := s.watch_eq level statistics lines
    rw [show (s.run lines).statements? = some spans.length from hstatements] at hstatistics
    exact ⟨hwatches.steps.trans ((Nat.zero_add _).trans hcount), hstatistics⟩
  · simpa using htiles.le
  · rw [← htiles.length_eq_iff, Nat.zero_add]

/-- Five lines in three statements, the second of which is a block. -/
theorem run_spans_function :
    let s : Session := .start (.ofWindows []) none
    let lines : List Line := [⟨"local x = \"a\"".toList, some 1⟩, ⟨"export function f() \x7b".toList, some 2⟩,
      ⟨"sys.log(x)".toList, some 3⟩, ⟨"\x7d".toList, some 4⟩, ⟨"f()".toList, some 6⟩]
    (s.run lines).spans lines = [⟨0, 1⟩, ⟨1, 4⟩, ⟨4, 5⟩] ∧ (s.run lines).error = none ∧
      (s.run lines).statements? = some 3 ∧ (s.watch 0 (some ⟨some 4⟩) lines).2 = some ⟨some 7⟩ ∧
      (s.watch 0 (some ⟨none⟩) lines).2 = some ⟨some 3⟩ := by
  intro s lines
  have h : (s.run lines).error = none := by decide +kernel
  have hspans : (s.run lines).spans lines = [⟨0, 1⟩, ⟨1, 4⟩, ⟨4, 5⟩] := by decide +kernel
  obtain ⟨-, -, -, hsum⟩ := s.run_spans lines
  obtain ⟨-, -, -, hcount, hstatistics, -⟩ := hsum h
  rw [hspans] at hcount hstatistics
  exact ⟨hspans, h, hcount, (hstatistics 0 (some ⟨some 4⟩)).2, (hstatistics 0 (some ⟨none⟩)).2⟩

end Session

end DeskScript
