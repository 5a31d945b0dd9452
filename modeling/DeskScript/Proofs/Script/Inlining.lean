import DeskScript.Proofs.Script.Blocks
import DeskScript.Proofs.Script.Calls
import DeskScript.Proofs.Script.Composition
import DeskScript.Proofs.Script.Layout

namespace DeskScript

/-- Lines that mean the same in the body of a function as outside: declarations and logs without braces, and
blocks that look things up. -/
inductive Inlinable : List Line → Prop where
  | nil : Inlinable []
  | declaration (l : Line) {lines : List Line} (hword : Text.startsWith declarationWord l.stripped = true)
      (ho : '{' ∉ l.text) (hc : '}' ∉ l.text) (h : Inlinable lines) : Inlinable (l :: lines)
  | log (l : Line) {lines : List Line} (hmark : Text.contains logMark l.text = true)
      (hword : Text.startsWith definitionWord l.stripped = false) (ho : '{' ∉ l.text) (hc : '}' ∉ l.text)
      (h : Inlinable lines) : Inlinable (l :: lines)
  | block (name : Text) (head close : Line) (lookups : List Line) {lines : List Line} (hname : Text.IsName name)
      (hhead : head.stripped = "local ".toList ++ name ++ " = \x7b".toList)
      (hlookups : ∀ l ∈ lookups, Shape.Lookup l.stripped) (hclose : close.stripped = ['}'])
      (h : Inlinable lines) : Inlinable (head :: (lookups ++ close :: lines))

namespace Text

theorem isName_local : IsName "local".toList := by decide

theorem isName_export : IsName "export".toList := by decide

theorem isName_return : IsName "return".toList := by decide

variable {w : Text}

theorem IsName.startsWith_declarationWord (h : IsName w) (c : Char) (r : Text) (hne : ' ' ≠ c)
    (hc : isWord c = false) : startsWith declarationWord (w ++ c :: r) = false :=
  h.startsWith_eq_false isName_local ' ' c [] r hne (by decide) hc

theorem IsName.startsWith_definitionWord (h : IsName w) (c : Char) (r : Text) (hne : ' ' ≠ c)
    (hc : isWord c = false) : startsWith definitionWord (w ++ c :: r) = false :=
  h.startsWith_eq_false isName_export ' ' c "function ".toList r hne (by decide) hc

theorem IsName.afterPrefix?_returnWord (h : IsName w) (c : Char) (r : Text) (hne : ' ' ≠ c)
    (hc : isWord c = false) : afterPrefix? returnWord (w ++ c :: r) = none := by
  have hstart := h.startsWith_eq_false isName_return ' ' c [] r hne (by decide) hc
  exact Option.not_isSome_iff_eq_none.1 (Bool.eq_false_iff.1 hstart)

end Text

namespace Shape.Lookup

variable {t : Text}

theorem dot_mem (h : Lookup t) : '.' ∈ t := by
  cases h
  simp

theorem contains_logMark (h : Lookup t) : Text.contains logMark t = false := by
  cases h with
  | intro name group key hname hgroup hkey =>
    rw [← Bool.not_eq_true]
    intro h
    have hopening : name ++ '.' :: (group ++ ':' :: ("find".toList ++ '(' :: (key ++ [')']))) =
        (name ++ '.' :: (group ++ ":fin".toList) ++ ['d']) ++ '(' :: (key ++ [')']) := by simp
    rw [hopening] at h
    obtain ⟨u, hu⟩ := Text.suffix_of_contains_concat "sys.log".toList _ _ '('
      (by simp [hname.notMem '(' (by decide), hgroup.notMem '(' (by decide)])
      (by simp [hkey '(' (by decide)]) (by decide) h
    have hlog : u ++ "sys.log".toList = (u ++ "sys.lo".toList) ++ ['g'] := by simp
    have hlast := congrArg List.getLast? (hlog.symm.trans hu)
    rw [List.getLast?_concat, List.getLast?_concat] at hlast
    exact absurd hlast (by decide)

end Shape.Lookup

namespace Instruction

theorem ofLine_of_close (l : Line) (rest : List Line) (h : l.stripped = ['}']) : ofLine l rest = nothing := by
  unfold ofLine
  dsimp only
  rw [if_pos (.inr h)]

theorem ofLine_declaration (l : Line) (rest : List Line) (h : Text.startsWith declarationWord l.stripped = true) :
    ofLine l rest = declare (Declaration.read l rest) := by
  have hbrace : ¬(l.stripped = ['{'] ∨ l.stripped = ['}']) := by
    rintro (hl | hl) <;> rw [hl] at h <;> exact absurd h (by decide)
  unfold ofLine
  dsimp only
  rw [if_neg hbrace, if_pos h]

theorem ofLine_log (l : Line) (rest : List Line) (hword : Text.startsWith declarationWord l.stripped = false)
    (h : Text.contains logMark l.stripped = true) :
    ofLine l rest = (logArguments? l.stripped).elim nothing log := by
  have hbrace : ¬(l.stripped = ['{'] ∨ l.stripped = ['}']) := by
    rintro (hl | hl) <;> rw [hl] at h <;> exact absurd h (by decide)
  unfold ofLine
  dsimp only
  rw [if_neg hbrace, hword, if_neg Bool.false_ne_true, if_pos h]
  cases logArguments? l.stripped <;> rfl

theorem ofLine_of_lookup (l : Line) (rest : List Line) (h : Shape.Lookup l.stripped) : ofLine l rest = nothing := by
  have hbrace : ¬(l.stripped = ['{'] ∨ l.stripped = ['}']) := by
    rintro (he | he) <;> rw [he] at h <;> exact absurd h.dot_mem (by decide)
  have hlog : Text.contains logMark l.stripped = false := h.contains_logMark
  unfold ofLine
  dsimp only
  rw [if_neg hbrace, hlog]
  generalize l.stripped = t at h
  cases h with
  | intro name group key hname hgroup hkey =>
    have hbare : Shape.bareCall? (name ++ '.' :: (group ++ ':' :: ("find".toList ++ '(' :: (key ++ [')'])))) =
        none := by
      rw [Shape.bareCall?, hname.takeWord?_append _ (by simp; decide)]
      rfl
    rw [hname.startsWith_declarationWord '.' _ (by decide) (by decide), if_neg Bool.false_ne_true,
      if_neg Bool.false_ne_true, hname.afterPrefix?_returnWord '.' _ (by decide) (by decide), hbare]

end Instruction

theorem Inlinable.neutral {lines : List Line} (h : Inlinable lines) :
    Block.Neutral (lines.map Line.stripped) := by
  have hflat : ∀ l : Line, '{' ∉ l.text → '}' ∉ l.text → Block.depthOf l.stripped = 0 := by
    intro l ho hc
    rw [Line.stripped, Block.depthOf_strip]
    exact Block.depthOf_eq_zero _ ho hc
  induction h with
  | nil => exact Block.neutral_nil
  | declaration l _ ho hc _ ih => exact (Block.neutral_singleton _ (hflat l ho hc)).append ih
  | log l _ _ ho hc _ ih => exact (Block.neutral_singleton _ (hflat l ho hc)).append ih
  | block name head close lookups hname hhead hlookups hclose _ ih =>
    have hlines : Block.Neutral (lookups.map Line.stripped) := by
      apply Block.neutral_of_forall
      simpa using fun l hl => (hlookups l hl).depthOf_eq_zero
    have hdepth : Block.depthOf head.stripped = 1 := by
      rw [hhead, Block.depthOf]
      simp [List.count_append, List.count_eq_zero_of_not_mem (hname.notMem '{' (by decide)),
        List.count_eq_zero_of_not_mem (hname.notMem '}' (by decide))]
    have hback : Block.depthOf close.stripped = -1 := by
      rw [hclose]
      decide
    have hblock := (hlines.braced head.stripped close.stripped hdepth hback).append ih
    simpa using hblock

theorem contains_logMark_stripped (l : Line) : Text.contains logMark l.stripped = Text.contains logMark l.text := by
  apply Text.contains_strip
  · decide
  · have hall : logMark.all (fun c => !Text.isBlank c) = true := by decide
    simpa using hall

theorem Inlinable.stripped_ne_nil {lines : List Line} (h : Inlinable lines) :
    ∀ t ∈ lines.map Line.stripped, t ≠ [] := by
  have hword : ∀ l : Line, Text.startsWith declarationWord l.stripped = true → l.stripped ≠ [] := by
    intro l hl he
    rw [he] at hl
    exact absurd hl (by decide)
  have hmark : ∀ l : Line, Text.contains logMark l.text = true → l.stripped ≠ [] := by
    intro l hl he
    rw [← contains_logMark_stripped, he] at hl
    exact absurd hl (by decide)
  induction h with
  | nil => exact nofun
  | declaration l hl _ _ _ ih => simpa using ⟨hword l hl, by simpa using ih⟩
  | log l hl _ _ _ _ ih => simpa using ⟨hmark l hl, by simpa using ih⟩
  | block name head close lookups hname hhead hlookups hclose _ ih =>
    have hlines : ∀ l ∈ lookups, l.stripped ≠ [] := fun l hl => (hlookups l hl).ne_nil
    have hh : head.stripped ≠ [] := by simp [hhead]
    have hc : close.stripped ≠ [] := by simp [hclose]
    intro t ht
    simp only [List.map_cons, List.map_append, List.mem_cons, List.mem_append] at ht
    obtain rfl | ht | rfl | ht := ht
    · exact hh
    · obtain ⟨l, hl, rfl⟩ := List.mem_map.1 ht
      exact hlines l hl
    · exact hc
    · exact ih t ht

/-- The run ended as the body of a function did, but for the number of the line of its error. -/
def Run.EndsAs (r : Run) : Except (Failure Session) Session → Prop
  | .ok s => r.session = s ∧ r.error = none
  | .error failure =>
    r.session = failure.reached ∧ r.error.map ScriptError.unnumbered = some failure.error.unnumbered

theorem Run.EndsAs.of_eq {r r' : Run} {x : Except (Failure Session) Session} (h : r.EndsAs x)
    (hs : r'.session = r.session) (he : r'.error = r.error) : r'.EndsAs x := by
  cases x with
  | ok s => exact ⟨hs.trans h.1, he.trans h.2⟩
  | error failure => exact ⟨hs.trans h.1, he ▸ h.2⟩

namespace Session

/-- A statement that takes `n` lines after its own did what an instruction does. -/
def StepsAs (n : Nat) : Except (Failure Session) (Session × Nat) → Except (Failure Session) Session → Prop :=
  Except.Rel (fun failure failure' => failure.error.unnumbered = failure'.error.unnumbered ∧
    failure.reached = failure'.reached) fun p s => p = (s, n)

theorem runFrom_endsAs (s : Session) (step position n : Nat) (head : Line) (rest : List Line)
    (i : Thunk Instruction) (is : List (Thunk Instruction)) (h : StepsAs n (s.step head rest) (s.follow i.get))
    (hrest : ∀ s' : Session, (s'.runFrom (step + 1) (position + 1) n rest).EndsAs (s'.followAll is)) :
    (s.runFrom step position 0 (head :: rest)).EndsAs (s.followAll (i :: is)) := by
  rw [followAll]
  generalize hs : s.step head rest = x at h
  generalize s.follow i.get = y at h
  cases h with
  | error he =>
    rw [runFrom_zero_cons_of_error _ _ _ _ _ _ hs]
    exact ⟨he.2, congrArg some he.1⟩
  | @ok p s' he =>
    subst he
    rw [runFrom_zero_cons_of_ok _ _ _ _ _ _ _ hs]
    have hend := hrest s'
    dsimp only
    generalize s'.followAll is = z at hend ⊢
    cases z <;> exact hend

theorem runFrom_last_endsAs (s : Session) (step position : Nat) (last : Line) (x : Except (Failure Session) Session)
    (h : s.step last [] = x.map fun s => (s, 0)) : (s.runFrom step position 0 [last]).EndsAs x := by
  cases x with
  | error failure =>
    rw [runFrom_zero_cons_of_error _ _ _ _ _ failure h]
    exact ⟨rfl, rfl⟩
  | ok s' =>
    rw [runFrom_zero_cons_of_ok _ _ _ _ _ s' 0 h, runFrom]
    exact ⟨rfl, rfl⟩

theorem stepsAs_declaration (s : Session) (head : Line) (rest : List Line) (n : Nat)
    (hword : Text.startsWith declarationWord head.stripped = true) (d : Except Fault Declaration)
    (hread : Declaration.read head rest = d) (hn : ∀ d', d = .ok d' → d'.taken = n) :
    StepsAs n (s.step head rest) (s.follow (.declare d)) := by
  rw [s.step_of_declaration _ _ hword]
  cases d with
  | error fault =>
    have hdeclare : s.declare head rest = .error ⟨.malformed fault ⟨s.file, head.number⟩, s⟩ :=
      (s.declare_eq_error_iff _ _ _).2 (.inl ⟨fault, hread, rfl⟩)
    rw [hdeclare]
    exact .error ⟨rfl, rfl⟩
  | ok d =>
    rw [follow]
    cases hassign : s.assign d.name d.value with
    | error failure =>
      have hdeclare : s.declare head rest = .error failure :=
        (s.declare_eq_error_iff _ _ _).2 (.inr ⟨d, hread, (s.assign_eq_error_iff _ _ _).1 hassign⟩)
      rw [hdeclare]
      exact .error ⟨rfl, rfl⟩
    | ok s' =>
      have hdeclare : s.declare head rest = .ok (s', n) :=
        (s.declare_eq_ok_iff _ _ _ _).2 ⟨d, hread, hassign, hn d rfl⟩
      rw [hdeclare]
      exact .ok rfl

theorem stepsAs_log (s : Session) (head : Line) (rest : List Line)
    (hword : Text.startsWith declarationWord head.stripped = false)
    (hdefinition : Text.startsWith definitionWord head.stripped = false)
    (hmark : Text.contains logMark head.stripped = true) :
    StepsAs 0 (s.step head rest) (s.follow ((logArguments? head.stripped).elim .nothing .log)) := by
  rw [s.step_of_log _ _ hword hdefinition hmark]
  unfold logLine
  cases logArguments? head.stripped with
  | none => exact .ok rfl
  | some arguments =>
    change StepsAs 0 ((s.log arguments).map _) (s.log arguments)
    cases s.log arguments with
    | error failure => exact .error ⟨rfl, rfl⟩
    | ok s' => exact .ok rfl

theorem runFrom_taken (s : Session) (step position : Nat) (lines rest : List Line) :
    s.runFrom step position lines.length (lines ++ rest) = s.runFrom step (position + lines.length) 0 rest := by
  induction lines generalizing position with
  | nil => rfl
  | cons line lines ih =>
    rw [List.cons_append, List.length_cons, runFrom, ih, Nat.add_assoc, Nat.add_comm 1]

theorem followAll_cons_of_ok (s s' : Session) (i : Thunk Instruction) (is : List (Thunk Instruction))
    (h : s.follow i.get = .ok s') : s.followAll (i :: is) = s'.followAll is := by
  rw [followAll, h]

theorem followAll_of_nothing (s : Session) (lines rest : List Line)
    (h : ∀ l ∈ lines, ∀ rest, Instruction.ofLine l rest = .nothing) :
    s.followAll (Instruction.ofLines (lines ++ rest)) = s.followAll (Instruction.ofLines rest) := by
  induction lines with
  | nil => rfl
  | cons line lines ih =>
    have hline : s.follow (Instruction.ofLine line (lines ++ rest)) = .ok s := by
      rw [h line (List.mem_cons_self ..)]
      rfl
    rw [List.cons_append, Instruction.ofLines,
      s.followAll_cons_of_ok s ⟨fun _ => Instruction.ofLine line (lines ++ rest)⟩ _ hline]
    exact ih fun l hl => h l (List.mem_cons_of_mem _ hl)

theorem runFrom_declaration_endsAs (s : Session) (step position : Nat) (l l' : Line) (rest rest' : List Line)
    (hl : l.stripped = l'.stripped) (hword : Text.startsWith declarationWord l.stripped = true)
    (ho : '{' ∉ l.stripped)
    (h : ∀ (s : Session) (step position : Nat),
      (s.runFrom step position 0 rest).EndsAs (s.followAll (Instruction.ofLines rest'))) :
    (s.runFrom step position 0 (l :: rest)).EndsAs (s.followAll (Instruction.ofLines (l' :: rest'))) := by
  have hread : Declaration.read l rest = Declaration.read l' rest' := by
    rw [Declaration.read_of_notMem l rest ho, Declaration.read_of_notMem l' rest' (hl ▸ ho),
      DeclarationHeader.ofLine, DeclarationHeader.ofLine, hl]
  have htaken : ∀ d, Declaration.read l' rest' = .ok d → d.taken = 0 := by
    intro d hd
    rw [← hread, Declaration.read_of_notMem l rest ho, Except.map_eq_ok_iff] at hd
    obtain ⟨header, -, rfl⟩ := hd
    rfl
  refine s.runFrom_endsAs step position 0 l rest _ _ ?_ fun s' => h s' _ _
  change StepsAs 0 (s.step l rest) (s.follow (Instruction.ofLine l' rest'))
  rw [Instruction.ofLine_declaration l' rest' (hl ▸ hword)]
  exact s.stepsAs_declaration l rest 0 hword _ hread htaken

theorem runFrom_log_endsAs (s : Session) (step position : Nat) (l l' : Line) (rest rest' : List Line)
    (hl : l'.stripped = l.stripped) (hword : Text.startsWith declarationWord l.stripped = false)
    (hdefinition : Text.startsWith definitionWord l.stripped = false)
    (hmark : Text.contains logMark l.stripped = true)
    (h : ∀ (s : Session) (step position : Nat),
      (s.runFrom step position 0 rest).EndsAs (s.followAll (Instruction.ofLines rest'))) :
    (s.runFrom step position 0 (l :: rest)).EndsAs (s.followAll (Instruction.ofLines (l' :: rest'))) := by
  refine s.runFrom_endsAs step position 0 l rest _ _ ?_ fun s' => h s' _ _
  change StepsAs 0 (s.step l rest) (s.follow (Instruction.ofLine l' rest'))
  rw [Instruction.ofLine_log l' rest' (hl ▸ hword) (hl ▸ hmark), hl]
  exact s.stepsAs_log l rest hword hdefinition hmark

/-- The lines of a block are passed over outside a body, and do nothing in one. -/
theorem runFrom_block_endsAs (s : Session) (step position : Nat) (name : Text) (hname : Text.IsName name)
    (head head' close close' : Line) (lookups lookups' rest rest' : List Line)
    (hhead : head.stripped = "local ".toList ++ name ++ " = \x7b".toList)
    (hlookups : ∀ l ∈ lookups, Shape.Lookup l.stripped) (hclose : close.stripped = ['}'])
    (hhead' : head'.stripped = head.stripped)
    (hlookups' : lookups'.map Line.stripped = lookups.map Line.stripped) (hclose' : close'.stripped = close.stripped)
    (h : ∀ (s : Session) (step position : Nat),
      (s.runFrom step position 0 rest).EndsAs (s.followAll (Instruction.ofLines rest'))) :
    (s.runFrom step position 0 (head :: (lookups ++ close :: rest))).EndsAs
      (s.followAll (Instruction.ofLines (head' :: (lookups' ++ close' :: rest')))) := by
  have hlookup' : ∀ l ∈ lookups', Shape.Lookup l.stripped := by
    have hall : ∀ t ∈ lookups'.map Line.stripped, Shape.Lookup t := by
      rw [hlookups']
      simpa using hlookups
    simpa using hall
  have hlength : lookups'.length = lookups.length := by simpa using congrArg List.length hlookups'
  have hread := Declaration.read_lookups name hname head close lookups rest hhead hlookups hclose
  have hread' := Declaration.read_lookups name hname head' close' lookups' rest' (hhead'.trans hhead) hlookup'
    (hclose'.trans hclose)
  rw [hlookups', hlength] at hread'
  have hword : Text.startsWith declarationWord head.stripped = true := by
    rw [hhead, Text.startsWith_iff_isPrefix]
    exact ⟨_, (List.append_assoc ..).symm⟩
  -- A body is read line by line, so it meets the lines of the block once more. They are instructions that do nothing.
  have hinert : ∀ l ∈ lookups' ++ [close'], ∀ rest, Instruction.ofLine l rest = .nothing := by
    intro l hl rest
    obtain hl | hl := List.mem_append.1 hl
    · exact Instruction.ofLine_of_lookup l rest (hlookup' l hl)
    · rw [List.mem_singleton.1 hl]
      exact Instruction.ofLine_of_close close' rest (hclose'.trans hclose)
  refine s.runFrom_endsAs step position (lookups.length + 1) head _ _ _ ?_ fun s' => ?_
  · change StepsAs _ (s.step head _) (s.follow (Instruction.ofLine head' (lookups' ++ close' :: rest')))
    rw [Instruction.ofLine_declaration _ _ (hhead' ▸ hword), hread', ← hread]
    refine s.stepsAs_declaration head _ _ hword _ rfl fun d hd => ?_
    rw [hread] at hd
    cases hd
    rfl
  · have htaken := s'.runFrom_taken (step + 1) (position + 1) (lookups ++ [close]) rest
    rw [List.append_assoc, List.singleton_append, List.length_append, List.length_singleton] at htaken
    have hnothing := s'.followAll_of_nothing (lookups' ++ [close']) rest' hinert
    rw [List.append_assoc, List.singleton_append] at hnothing
    rw [htaken, hnothing]
    exact h s' _ _

/-- Inlinable lines do what a body of lines does that agree with them. -/
theorem runFrom_inlinable {lines : List Line} (hlines : Inlinable lines) (lines' : List Line)
    (h : lines.map Line.stripped = lines'.map Line.stripped) (s : Session) (step position : Nat) :
    (s.runFrom step position 0 lines).EndsAs (s.followAll (Instruction.ofLines lines')) := by
  induction hlines generalizing lines' s step position with
  | nil =>
    obtain rfl : lines' = [] := by simpa using h.symm
    simpa [runFrom] using ⟨rfl, rfl⟩
  | @declaration l lines hword ho hc hlines ih =>
    obtain ⟨l', rest', rfl, hl, hrest⟩ := List.map_eq_cons_iff.1 h.symm
    have ho' : '{' ∉ l.stripped := fun hmem => ho (Text.mem_of_mem_strip _ _ hmem)
    exact s.runFrom_declaration_endsAs step position l l' lines rest' hl.symm hword ho' (ih rest' hrest.symm)
  | @log l lines hmark hdefinition ho hc hlines ih =>
    obtain ⟨l', rest', rfl, hl, hrest⟩ := List.map_eq_cons_iff.1 h.symm
    have ho' : '{' ∉ l.stripped := fun hmem => ho (Text.mem_of_mem_strip _ _ hmem)
    have hmark' : Text.contains logMark l.stripped = true := by
      rwa [contains_logMark_stripped]
    -- A declaration may hold the mark of a log.
    cases hword : Text.startsWith declarationWord l.stripped with
    | true =>
      exact s.runFrom_declaration_endsAs step position l l' lines rest' hl.symm hword ho' (ih rest' hrest.symm)
    | false =>
      exact s.runFrom_log_endsAs step position l l' lines rest' hl hword hdefinition hmark' (ih rest' hrest.symm)
  | @block name head close lookups lines hname hhead hlookups hclose hlines ih =>
    obtain ⟨head', more', rfl, hhead', hmore⟩ := List.map_eq_cons_iff.1 h.symm
    rw [List.map_append, List.map_cons] at hmore
    obtain ⟨lookups', more', rfl, hlookups', hmore⟩ := List.map_eq_append_iff.1 hmore
    obtain ⟨close', rest', rfl, hclose', hrest⟩ := List.map_eq_cons_iff.1 hmore
    exact s.runFrom_block_endsAs step position name hname head head' close close' lookups lookups' lines rest' hhead
      hlookups hclose hhead' hlookups' hclose' (ih rest' hrest.symm)

theorem map_stripped_bodyLines (body : List Line) (hbody : Inlinable body) (hn : ∀ l ∈ body, '\n' ∉ l.text)
    (block : Block) (h : Text.Respaced (Block.inner block.text)
      (Text.strip ((body.map Line.stripped).flatMap (· ++ ['\n'])))) :
    (Instruction.bodyLines block.text).map Line.stripped = body.map Line.stripped := by
  have hne : ∀ t ∈ body.map Line.stripped, t ≠ [] := hbody.stripped_ne_nil
  have hstrip : ∀ t ∈ body.map Line.stripped, Text.strip t = t := by
    intro t ht
    obtain ⟨l, -, rfl⟩ := List.mem_map.1 ht
    exact Text.strip_strip l.text
  have hfeed : ∀ t ∈ body.map Line.stripped, '\n' ∉ t := by
    intro t ht hmem
    obtain ⟨l, hl, rfl⟩ := List.mem_map.1 ht
    exact hn l hl (Text.mem_of_mem_strip _ _ hmem)
  rw [Instruction.bodyLines_eq, h.saidLines, Text.strip_flatMap _ fun t ht => ⟨hne t ht, hstrip t ht⟩]
  exact Text.saidLines_joinWith _ hne hstrip hfeed

theorem step_definition (s : Session) (name : Text) (hname : Text.IsName name) (header close : Line)
    (body rest : List Line) (hheader : header.stripped = "export function ".toList ++ name ++ "() \x7b".toList)
    (hclose : close.stripped = ['}']) (hbody : Inlinable body) (hn : ∀ l ∈ body, '\n' ∉ l.text) :
    ∃ f : Function, s.step header (body ++ close :: rest) =
        .ok (s.withFunctions (s.functions.put name f), body.length + 1) ∧
      ∃ lines, f.instructions = Instruction.ofLines lines ∧ lines.map Line.stripped = body.map Line.stripped := by
  obtain ⟨block, hblock, htaken, hinner⟩ := Block.exists_require ("export function ".toList ++ name ++ "() ".toList)
    header close body rest (by rw [hheader]; simp) hclose (by simp [hname.notMem '{' (by decide)])
    (by simp [hname.notMem '}' (by decide)]) hbody.neutral
  have hread : FunctionHeader.ofLine header = .ok ⟨name, []⟩ := by
    have hspace : Cursor.IsGap " ".toList := by decide
    have hopen : Cursor.IsRemainder "\x7b".toList := ⟨by decide, by simp; decide, by decide⟩
    have hwritten := FunctionHeader.Written.intro " ".toList " ".toList name [] [] [] " ".toList "\x7b".toList hspace
      hspace hname nofun nofun (.inl rfl) hspace (.inr hopen)
    have htext : "export function ".toList ++ name ++ "() \x7b".toList = "export".toList ++ (" ".toList ++
        ("function".toList ++ (" ".toList ++ (name ++ "() \x7b".toList)))) := by simp
    rw [FunctionHeader.ofLine_eq_ok_iff, hheader, htext]
    exact hwritten
  have hword : Text.startsWith declarationWord header.stripped = false := by
    rw [hheader]
    rfl
  have hdefinition : Text.startsWith definitionWord header.stripped = true := by
    rw [hheader, Text.startsWith_iff_isPrefix]
    exact ⟨_, (List.append_assoc ..).symm⟩
  refine ⟨.ofBody [] block.text, ?_, Instruction.bodyLines block.text, rfl,
    map_stripped_bodyLines body hbody hn block hinner⟩
  rw [s.step_of_definition _ _ hword hdefinition, define_eq_ok_iff]
  refine ⟨_, hread, block, hblock, rfl, ?_⟩
  rw [htaken]
  rfl

theorem step_call (s : Session) (name : Text) (hname : Text.IsName name) (f : Function)
    (hf : s.functions.get? name = some f) (call : Line) (hcall : call.stripped = name ++ "()".toList)
    (rest : List Line) : s.step call rest = (s.followAll f.instructions).map fun s => (s, 0) := by
  have hfirst : Shape.IsFirstCall call.stripped name [')'] :=
    ⟨[], ⟨hname, "()".toList, hcall, [], rfl, rfl⟩, fun _ _ _ => Nat.zero_le _⟩
  have hfeed : '\n' ∉ call.stripped := by
    rw [hcall]
    simp [hname.notMem '\n' (by decide)]
  -- A name has no dot, and the mark of logs has one before its parenthesis.
  have hlog : Text.contains logMark (name ++ "()".toList) = false := by
    rw [← Bool.not_eq_true]
    intro h
    have hsuffix := Text.suffix_of_contains_concat "sys.log".toList name [')'] '(' (hname.notMem '(' (by decide))
      (by decide) (by decide) h
    exact hname.notMem '.' (by decide) (hsuffix.mem (by decide))
  have hcalls : s.callsFunction call.stripped = true :=
    (s.callsFunction_iff_exists call.stripped).2 ⟨name, [')'], f, hfirst, hf⟩
  have hkind : s.kindOf call.stripped = .call := by
    have hword : Text.startsWith declarationWord call.stripped = false := by
      rw [hcall]
      exact hname.startsWith_declarationWord '(' [')'] (by decide) (by decide)
    have hdefinition : Text.startsWith definitionWord call.stripped = false := by
      rw [hcall]
      exact hname.startsWith_definitionWord '(' [')'] (by decide) (by decide)
    rw [s.kindOf_of_not_words _ hword hdefinition (hcall ▸ hlog), if_pos hcalls]
  rw [s.step_of_kind_call call rest hkind, s.invoke_of_isFirstCall call.stripped name [')'] hfeed hfirst,
    if_pos (List.mem_singleton_self _), hf, Option.elim_some]

theorem run_taken_last_endsAs (s s' : Session) (header last : Line) (lines : List Line)
    (x : Except (Failure Session) Session) (h : s.step header (lines ++ [last]) = .ok (s', lines.length))
    (hlast : s'.step last [] = x.map fun s => (s, 0)) : (s.run (header :: (lines ++ [last]))).EndsAs x := by
  have hend := runFrom_last_endsAs s' 1 (1 + lines.length) last x hlast
  rw [← runFrom_taken] at hend
  rw [run, runFrom_zero_cons_of_ok _ _ _ _ _ _ _ h]
  exact Run.EndsAs.of_eq hend rfl rfl

/-- Defining a function and calling it does what the lines of its body do: the same variables, transcript and
desktop, and the same error if there is one, but for the number of its line. -/
theorem run_call_eq_run_body (s : Session) (name : Text) (hname : Text.IsName name) (header close call : Line)
    (hheader : header.stripped = "export function ".toList ++ name ++ "() \x7b".toList)
    (hclose : close.stripped = ['}']) (hcall : call.stripped = name ++ "()".toList) (body : List Line)
    (hbody : Inlinable body) (hn : ∀ l ∈ body, '\n' ∉ l.text) :
    let called := s.run (header :: (body ++ [close, call]))
    let inlined := s.run body
    called.session.bindings = inlined.session.bindings ∧
      called.session.transcript = inlined.session.transcript ∧
      called.session.desktop = inlined.session.desktop ∧
      called.error.map (fun e => (e.className, e.message)) =
        inlined.error.map fun e => (e.className, e.message) := by
  intro called inlined
  obtain ⟨f, hdefinition, lines, hinstructions, hlines⟩ :=
    s.step_definition name hname header close body [call] hheader hclose hbody hn
  have hend := runFrom_inlinable hbody lines hlines.symm s 0 0
  have hcalls := step_call (s.withFunctions (s.functions.put name f)) name hname f (Table.get?_put_self ..) call
    hcall []
  rw [hinstructions, followAll_withFunctions] at hcalls
  have hend' : called.EndsAs
      (outcomeWith (s.functions.put name f) (s.followAll (Instruction.ofLines lines))) := by
    have hlast := run_taken_last_endsAs s _ header call (body ++ [close]) _ (by simpa using hdefinition) hcalls
    rwa [List.append_assoc, List.singleton_append] at hlast
  -- Both runs end as the instructions of the body do; from here on it does not matter how.
  generalize s.followAll (Instruction.ofLines lines) = x at hend hend'
  cases x with
  | ok s' =>
    obtain ⟨hs, he⟩ := hend
    obtain ⟨hs', he'⟩ := hend'
    change inlined.session = s' at hs
    change inlined.error = none at he
    rw [hs, hs', he, he']
    exact ⟨rfl, rfl, rfl, rfl⟩
  | error failure =>
    obtain ⟨hs, he⟩ := hend
    obtain ⟨hs', he'⟩ := hend'
    change inlined.session = failure.reached at hs
    change inlined.error.map ScriptError.unnumbered = some failure.error.unnumbered at he
    rw [hs, hs']
    exact ⟨rfl, rfl, rfl, ScriptError.map_told_eq (he'.trans he.symm)⟩

/-- A body with a declaration, a block that looks something up and a log. -/
theorem run_call_eq_run_body_block :
    let w : Window := ⟨['a'], .text [], .text [], .null, .null, .null, .null, .null, .null, .null, .absent,
      .object [(['k'], .int 1)]⟩
    let s : Session := .start (.ofWindows [w]) none
    let body : List Line := [⟨"local w = window_Id(a)".toList, some 2⟩, ⟨"  local x = \x7b".toList, some 3⟩,
      ⟨"    w.library:find(k)".toList, some 4⟩, ⟨"  \x7d".toList, some 5⟩, ⟨"sys.log(x)".toList, some 6⟩]
    let called := s.run (⟨"export function f() \x7b".toList, some 1⟩ ::
      (body ++ [⟨['\x7d'], some 7⟩, ⟨"f()".toList, some 8⟩]))
    Text.IsName ['f'] ∧ Inlinable body ∧ (∀ l ∈ body, '\n' ∉ l.text) ∧
      (s.run body).session.transcript.toList = [['1']] ∧
      called.session.transcript = (s.run body).session.transcript := by
  intro w s body called
  have hname : Text.IsName ['f'] := by decide
  have hlookup : Shape.Lookup "w.library:find(k)".toList :=
    .intro ['w'] "library".toList ['k'] (by decide) (by decide) (by simp)
  have hbody : Inlinable body := by
    refine .declaration _ (by decide) (by decide) (by decide) ?_
    refine .block ['x'] _ ⟨"  \x7d".toList, some 5⟩ [⟨"    w.library:find(k)".toList, some 4⟩] (by decide)
      (by decide) ?_ (by decide) ?_
    · intro l hl
      obtain rfl := List.mem_singleton.1 hl
      exact hlookup
    · exact .log _ (by decide) (by decide) (by decide) (by decide) .nil
  have hn : ∀ l ∈ body, '\n' ∉ l.text := by decide
  have hrun := run_call_eq_run_body s ['f'] hname ⟨"export function f() \x7b".toList, some 1⟩
    ⟨['\x7d'], some 7⟩ ⟨"f()".toList, some 8⟩ (by decide) (by decide) (by decide) body hbody hn
  exact ⟨hname, hbody, hn, by decide +kernel, hrun.2.1⟩

end Session

end DeskScript
