import DeskScript.Proofs.Script.Grammar
import DeskScript.Proofs.Script.Moves
import DeskScript.Proofs.Script.Source
import DeskScript.Proofs.Text.Piece

namespace DeskScript

theorem Shape.callAfter?_isInfix (name t : Text) (call : Call) (h : callAfter? name t = some call) :
    ':' :: (call.action ++ ['(']) <:+: t := by
  obtain ⟨-, -, -, -, rest, rfl⟩ := (callAfter?_eq_some_iff name t call).1 h
  exact ⟨'.' :: call.group, call.arguments ++ ')' :: rest, by simp⟩

theorem Shape.call?_isInfix (t : Text) (call : Call) (h : call? t = some call) :
    ':' :: (call.action ++ ['(']) <:+: t := by
  obtain ⟨w, r, hr, hcall⟩ := Text.exists_of_firstWord _ _ _ _ h
  exact (callAfter?_isInfix w r call hcall).trans hr.isInfix

theorem Shape.find?_isInfix (t : Text) (found : Text × Text) (h : find? t = some found) :
    ':' :: ("find".toList ++ ['(']) <:+: t := by
  obtain ⟨w, r, hr, hfind⟩ := Text.exists_of_firstWord _ _ _ _ h
  obtain ⟨call, hcall, hfind⟩ := Option.bind_eq_some_iff.1 hfind
  split at hfind
  · rename_i haction
    rw [← haction]
    exact (callAfter?_isInfix w r call hcall).trans hr.isInfix
  · cases hfind

theorem Handle.name_of_action? (h : Handle) (name : Text) (a : Action) (ha : h.action? name = some a) :
    a.name = name := by
  unfold action? at ha
  have hname := List.find?_some ha
  exact beq_iff_eq.1 hname

namespace Expression

theorem ofCall_eq_action {call : Shape.Call} {name : Text} {a : Action} {arguments : List Argument}
    (h : ofCall call = .action name a arguments) : a.name = call.action := by
  unfold ofCall at h
  split at h
  · rename_i a' ha'
    cases h
    obtain ⟨group, -, ha⟩ := Option.bind_eq_some_iff.1 ha'
    exact group.name_of_action? _ _ ha
  · cases h

/-- The expression asks for no window and no action on one. -/
def IsPassive : Expression → Prop
  | window _ => False
  | action .. => False
  | _ => True

theorem ofWord_isPassive (t : Text) : (ofWord t).IsPassive := by
  unfold ofWord
  split
  · trivial
  · split <;> trivial

/-- The shapes in the order in which they are tried. -/
theorem ofText_cases (t : Text) :
    (∃ pattern, Shape.windowPattern? t = some pattern ∧ "window_Id(".toList <+: t ∧
        ofText t = .window (Text.strip (Text.unquote pattern))) ∨
      (∃ call, Shape.call? t = some call ∧ ofText t = ofCall call) ∨ (ofText t).IsPassive := by
  unfold ofText
  split
  · rename_i pattern hpattern
    unfold windowPattern? at hpattern
    split at hpattern
    · rename_i hstart
      exact .inl ⟨pattern, hpattern, (Text.startsWith_iff_isPrefix _ _).1 hstart, rfl⟩
    · cases hpattern
  · split
    · rename_i call hcall
      exact .inr (.inl ⟨call, hcall, rfl⟩)
    · refine .inr (.inr ?_)
      split
      · trivial
      · split
        · trivial
        · exact ofWord_isPassive t

theorem ofText_eq_action {t name : Text} {a : Action} {arguments : List Argument}
    (h : ofText t = .action name a arguments) : ':' :: (a.name ++ ['(']) <:+: t := by
  obtain ⟨pattern, -, -, hwindow⟩ | ⟨call, hcall, hcallee⟩ | hpassive := ofText_cases t
  · rw [h] at hwindow
    cases hwindow
  · rw [ofCall_eq_action (hcallee.symm.trans h)]
    exact Shape.call?_isInfix t call hcall
  · rw [h] at hpassive
    cases hpassive

theorem ofText_eq_window {t pattern : Text} (h : ofText t = .window pattern) : "window_Id(".toList <:+: t := by
  obtain ⟨-, -, hstart, -⟩ | ⟨call, -, hcallee⟩ | hpassive := ofText_cases t
  · exact hstart.isInfix
  · rw [h] at hcallee
    unfold ofCall at hcallee
    split at hcallee <;> cases hcallee
  · rw [h] at hpassive
    cases hpassive

/-- The expression is what a text without `p` says, on its own or as the content of a block. -/
def FreeOf (p : Text) (e : Expression) : Prop := ∃ t, ¬p <:+: t ∧ (e = .ofText t ∨ e = .ofBlock t)

variable {p : Text} {e : Expression}

theorem FreeOf.ne_action {a : Action} (h : e.FreeOf (':' :: (a.name ++ ['(']))) (name : Text)
    (arguments : List Argument) : e ≠ .action name a arguments := by
  rintro rfl
  obtain ⟨t, ht, he | he⟩ := h
  · exact ht (ofText_eq_action he.symm)
  · unfold ofBlock at he
    split at he
    · cases he
    · rename_i found hfind
      cases he
      exact ht (Shape.find?_isInfix t _ hfind)

theorem FreeOf.ne_window (h : e.FreeOf "window_Id(".toList) (pattern : Text) : e ≠ .window pattern := by
  rintro rfl
  obtain ⟨t, ht, he | he⟩ := h
  · exact ht (ofText_eq_window he.symm)
  · unfold ofBlock at he
    split at he <;> cases he

end Expression

variable {p : Text}

theorem Declaration.read_freeOf (hn : '\n' ∉ p) (hne : p ≠ []) (head : Line) (rest : List Line)
    (hlines : ∀ l ∈ head :: rest, ¬p <:+: l.text) (d : Declaration) (h : read head rest = .ok d) :
    d.value.FreeOf p := by
  obtain ⟨header, hheader, h⟩ := (read_eq_ok_iff _ _ _).1 h
  split at h
  · obtain ⟨block, hblock, rfl⟩ := h
    refine ⟨_, fun hp => ?_, .inr rfl⟩
    obtain ⟨l, hl, hpl⟩ := Block.exists_of_isInfix_require p head rest block hn hne hblock
      (hp.trans (Block.inner_isInfix _))
    exact hlines l hl hpl
  · rw [← h]
    refine ⟨_, fun hp => ?_, .inl rfl⟩
    have hread := (Except.mapError_eq_ok_iff _ _ _).1 hheader
    have hexpression := DeclarationHeader.expression_isInfix _ _ hread
    have hpiece : p <:+: head.text :=
      ((hp.trans (Text.strip_isInfix _)).trans hexpression).trans (Text.strip_isInfix _)
    exact hlines head (List.mem_cons_self ..) hpiece

theorem Instruction.ofLine_only (hn : '\n' ∉ p) (hne : p ≠ []) (line : Line) (rest : List Line)
    (hlines : ∀ l ∈ line :: rest, ¬p <:+: l.text) : (ofLine line rest).Only (·.FreeOf p) := by
  unfold ofLine
  dsimp only
  split
  · trivial
  · split
    · cases hd : Declaration.read line rest with
      | error fault => trivial
      | ok d => exact Declaration.read_freeOf hn hne line rest hlines d hd
    · split
      · split <;> trivial
      · split
        · rename_i expression hreturn
          refine ⟨_, fun hp => ?_, .inl rfl⟩
          have hstatement : line.stripped = returnWord ++ expression := (Text.afterPrefix?_eq_some_iff _ _ _).1 hreturn
          have hsuffix : expression <:+: line.stripped := ⟨returnWord, [], by rw [hstatement, List.append_nil]⟩
          have hpiece : p <:+: line.text :=
            ((hp.trans (Text.strip_isInfix _)).trans hsuffix).trans (Text.strip_isInfix _)
          exact hlines line (List.mem_cons_self ..) hpiece
        · split <;> trivial

theorem Instruction.ofLines_only (hn : '\n' ∉ p) (hne : p ≠ []) (lines : List Line)
    (hlines : ∀ l ∈ lines, ¬p <:+: l.text) : ∀ i ∈ ofLines lines, i.get.Only (·.FreeOf p) := by
  induction lines with
  | nil => exact nofun
  | cons line rest ih =>
    intro i hi
    obtain rfl | hi := List.mem_cons.1 hi
    · exact ofLine_only hn hne line rest hlines
    · exact ih (fun l hl => hlines l (List.mem_cons_of_mem _ hl)) i hi

theorem Function.ofBody_only (hn : '\n' ∉ p) (hne : p ≠ []) (parameters : List Text) (body : Text)
    (hbody : ¬p <:+: body) : (ofBody parameters body).Only (·.FreeOf p) := by
  refine Instruction.ofLines_only hn hne _ fun l hl hp => hbody ?_
  obtain ⟨t, ht, rfl⟩ := List.mem_map.1 hl
  have hpiece : t <:+: Block.inner body := Text.isInfix_of_mem_splitOn _ _ _ (List.mem_filter.1 ht).1
  exact (hp.trans hpiece).trans (Block.inner_isInfix body)

theorem Line.only_freeOf (hn : '\n' ∉ p) (hne : p ≠ []) (head : Line) (rest : List Line)
    (hlines : ∀ l ∈ head :: rest, ¬p <:+: l.text) : Line.Only (·.FreeOf p) head rest where
  declaration := Declaration.read_freeOf hn hne head rest hlines
  definition parameters block hblock := by
    refine Function.ofBody_only hn hne parameters block.text fun hp => ?_
    obtain ⟨l, hl, hpl⟩ := Block.exists_of_isInfix_require p head rest block hn hne hblock hp
    exact hlines l hl hpl
  action := ⟨_, fun hp => hlines head (List.mem_cons_self ..) (hp.trans (Text.strip_isInfix _)), .inl rfl⟩

theorem Line.allOnly_ofSource (hn : '\n' ∉ p) (hne : p ≠ []) (source : Text) (h : Text.contains p source = false) :
    Line.AllOnly (·.FreeOf p) (Line.ofSource source) := by
  have hsource : ¬p <:+: source := by
    rw [← Text.contains_iff_isInfix, h]
    exact Bool.false_ne_true
  intro head rest hsuffix
  refine Line.only_freeOf hn hne head rest fun l hl hp => hsource ?_
  obtain ⟨i, -, hpiece, -⟩ := Line.exists_of_mem_ofSource source l (hsuffix.subset hl)
  exact hp.trans (Text.isInfix_of_mem_splitOn _ _ _ (List.mem_of_getElem? hpiece))

theorem Desktop.run_moves_freeOf (d : Desktop) (source : Text) (file : Option Text) (hn : '\n' ∉ p) (hne : p ≠ [])
    (h : Text.contains p source = false) :
    ∀ s ∈ (d.run source file).boundaries, Session.Moves (·.FreeOf p) (Session.start d file) s :=
  (Session.start d file).run_moves (Session.only_start _ d file) _ (Line.allOnly_ofSource hn hne source h)

end DeskScript
