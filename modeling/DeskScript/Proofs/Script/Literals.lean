import DeskScript.Proofs.Script.Blocks
import DeskScript.Proofs.Script.Composition
import DeskScript.Proofs.Script.Wording

namespace DeskScript

/-- What may stand in quotes as the whole expression of a declaration: nothing in it opens a block, ends the line or
makes a call. -/
structure Text.IsLiteral (t : Text) : Prop where
  plain : ∀ c ∈ ['"', '\'', '{', '\n'], c ∉ t
  passive : ¬(':' ∈ t ∧ '(' ∈ t)

instance (t : Text) : Decidable t.IsLiteral :=
  have : Decidable (∀ c ∈ ['"', '\'', '{', '\n'], c ∉ t) := List.decidableBAll _ _
  decidable_of_iff ((∀ c ∈ ['"', '\'', '{', '\n'], c ∉ t) ∧ ¬(':' ∈ t ∧ '(' ∈ t))
    ⟨fun h => ⟨h.1, h.2⟩, fun h => ⟨h.plain, h.passive⟩⟩

def Text.inQuotes (t : Text) : Text := '"' :: (t ++ ['"'])

namespace Text

@[simp] theorem strip_inQuotes (t : Text) : strip (inQuotes t) = inQuotes t := by
  have hclose : strip ['"'] = ['"'] := by decide
  refine strip_append_eq_self ('"' :: t) ['"'] (List.cons_ne_nil _ _) ?_ (List.cons_ne_nil _ _) hclose
  intro c hc
  obtain rfl : '"' = c := by simpa using hc
  decide

@[simp] theorem isQuoted_inQuotes (t : Text) : isQuoted (inQuotes t) = true := rfl

theorem unquote_inQuotes (t : Text) (hdouble : '"' ∉ t) (hsingle : '\'' ∉ t) : unquote (inQuotes t) = t := by
  have hall : ∀ c ∈ t, (decide (c ≠ '"') && decide (c ≠ '\'')) = true := by
    intro c hc
    have hd : c ≠ '"' := fun he => hdouble (he ▸ hc)
    have hs : c ≠ '\'' := fun he => hsingle (he ▸ hc)
    simp [hd, hs]
  have hfilter := List.filter_eq_self.2 hall
  unfold unquote inQuotes
  rw [List.filter_cons_of_neg (by decide), List.filter_append, hfilter]
  exact List.append_nil _

theorem startsWith_singleton_eq_false (c : Char) (t : Text) (h : c ∉ t) : startsWith [c] t = false := by
  rw [← Bool.not_eq_true, startsWith_iff_isPrefix]
  exact fun hp => h (hp.subset (List.mem_singleton_self _))

namespace IsName

variable {w : Text}

theorem strip_eq_self (h : IsName w) : strip w = w := by
  apply Text.strip_eq_self
  · exact fun c hc => isBlank_eq_false_of_isWord c (h.word c (List.mem_of_mem_head? hc))
  · exact fun c hc => isBlank_eq_false_of_isWord c (h.word c (List.mem_of_mem_getLast? hc))

theorem isQuoted_eq_false (h : IsName w) : isQuoted w = false := by
  rw [isQuoted, startsWith_singleton_eq_false '"' w (h.notMem '"' (by decide)),
    startsWith_singleton_eq_false '\'' w (h.notMem '\'' (by decide))]
  rfl

end IsName

end Text

/-- A text in quotes is no call as long as it lacks a colon or a parenthesis. -/
theorem Expression.ofText_inQuotes (t : Text) (hdouble : '"' ∉ t) (hsingle : '\'' ∉ t)
    (hcall : ¬(':' ∈ t ∧ '(' ∈ t)) : ofText (Text.inQuotes t) = .text t := by
  have hnot : ¬(':' ∈ Text.inQuotes t ∧ '(' ∈ Text.inQuotes t) := by
    simpa [Text.inQuotes] using hcall
  have hwindow : windowPattern? (Text.inQuotes t) = none := rfl
  have hnone : Shape.call? (Text.inQuotes t) = none := by
    cases h : Shape.call? (Text.inQuotes t) with
    | none => rfl
    | some call =>
      have hpiece := Shape.call?_isInfix _ call h
      exact absurd ⟨hpiece.subset (List.mem_cons_self ..), hpiece.subset (by simp)⟩ hnot
  have hinfo : Text.contains ".info:(".toList (Text.inQuotes t) = false := by
    rw [← Bool.not_eq_true, Text.contains_iff_isInfix]
    intro hpiece
    exact hnot ⟨hpiece.subset (by decide), hpiece.subset (by decide)⟩
  have hmarks : ((Text.inQuotes t).elem ':' && (Text.inQuotes t).elem '(') = false := by
    rw [← Bool.not_eq_true, Bool.and_eq_true, List.elem_iff, List.elem_iff]
    exact hnot
  rw [ofText, hwindow]
  dsimp only
  rw [hnone]
  dsimp only
  rw [hinfo, hmarks, if_neg Bool.false_ne_true, if_neg Bool.false_ne_true, ofWord, Text.isQuoted_inQuotes, if_pos rfl,
    Text.unquote_inQuotes t hdouble hsingle]

namespace Literal

open Text

def declareLine (name t : Text) : Text := "local ".toList ++ (name ++ (" = ".toList ++ inQuotes t))

def logLine (name : Text) : Text := "sys.log(".toList ++ (name ++ [')'])

@[simp] theorem strip_declareLine (name t : Text) : strip (declareLine name t) = declareLine name t :=
  DeclarationHeader.strip_write ⟨name, inQuotes t⟩ (List.cons_ne_nil _ _) (strip_inQuotes t)

@[simp] theorem strip_logLine (name : Text) : strip (logLine name) = logLine name := by
  have hclose : strip [')'] = [')'] := by decide
  have hne : "sys.log(".toList ++ name ≠ [] := List.cons_ne_nil _ _
  have hfront : logLine name = ("sys.log(".toList ++ name) ++ [')'] := (List.append_assoc _ _ _).symm
  rw [hfront]
  refine strip_append_eq_self _ _ hne ?_ (List.cons_ne_nil _ _) hclose
  intro c hc
  obtain rfl : 's' = c := by simpa using hc
  decide

theorem log?_logLine (name : Text) (hname : IsName name) : Shape.log? (logLine name) = some name := by
  have hclose : ')' ∉ name := hname.notMem ')' (by decide)
  have hnonempty : nonempty? name = some name := by
    rw [nonempty?, if_neg (by simpa using hname.nonempty)]
  have hopening : Shape.afterOpening? ('(' :: (name ++ [')'])) = some (name ++ [')']) := rfl
  have hfront : logLine name = "sys.log".toList ++ '(' :: (name ++ [')']) := rfl
  have hhere : Shape.logHere? (logLine name) = some name := by
    rw [hfront, Shape.logHere?, afterPrefix?_append]
    simp only [Option.bind_eq_bind, Option.bind_some, hopening, upToClose?_append name [] hclose, hnonempty]
  have hcons : logLine name = 's' :: ("ys.log(".toList ++ (name ++ [')'])) := rfl
  rw [hcons] at hhere ⊢
  rw [Shape.log?, firstMatch, hhere]

theorem logArguments?_logLine (name : Text) (hname : IsName name) :
    logArguments? (logLine name) = some [.name name] := by
  have hcomma : ',' ∉ name := hname.notMem ',' (by decide)
  have hname' : Argument.ofText name = .name name := by
    rw [Argument.ofText, hname.isQuoted_eq_false]
    rfl
  rw [logArguments?, log?_logLine name hname, Option.map_some, Argument.listOf, pieces, splitOn_of_notMem _ _ hcomma,
    List.map_singleton, List.map_singleton, hname.strip_eq_self, hname']

theorem newline_notMem_declareLine (name t : Text) (hname : IsName name) (hn : '\n' ∉ t) :
    '\n' ∉ declareLine name t := by
  unfold declareLine
  simp [inQuotes, hname.notMem '\n' (by decide), hn]

theorem newline_notMem_logLine (name : Text) (hname : IsName name) : '\n' ∉ logLine name := by
  unfold logLine
  simp [hname.notMem '\n' (by decide)]

@[simp] theorem isSilent_declareLine (name t : Text) : Line.isSilent (declareLine name t) = false := by
  rw [Line.isSilent, strip_declareLine]
  rfl

@[simp] theorem isSilent_logLine (name : Text) : Line.isSilent (logLine name) = false := by
  rw [Line.isSilent, strip_logLine]
  rfl

theorem ofSource_lines (name t : Text) (hname : IsName name) (hn : '\n' ∉ t) :
    Line.ofSource (joinWith ['\n'] [declareLine name t, logLine name]) =
      [⟨declareLine name t, some 1⟩, ⟨logLine name, some 2⟩] := by
  have hsplit := splitOn_joinWith '\n' (declareLine name t) [logLine name]
    (by simp [newline_notMem_declareLine name t hname hn, newline_notMem_logLine name hname])
  rw [Line.ofSource_eq, hsplit, Line.numberedFrom_of_not_silent _ _ _ (isSilent_declareLine name t),
    Line.numberedFrom_of_not_silent _ _ _ (isSilent_logLine name)]
  rfl

variable (s : Session)

theorem read_declareLine (name t : Text) (hname : IsName name) (ht : IsLiteral t) (n : Option Nat) (rest : List Line) :
    Declaration.read ⟨declareLine name t, n⟩ rest = .ok ⟨name, .text t, 0⟩ := by
  have hquotes : Cursor.IsRemainder (inQuotes t) := ⟨List.cons_ne_nil _ _,
    (not_blank_of_strip_eq_self _ (strip_inQuotes t)).1, by simp [inQuotes, ht.plain '\n' (by decide)]⟩
  have hheader : DeclarationHeader.ofLine ⟨declareLine name t, n⟩ = .ok ⟨name, inQuotes t⟩ :=
    DeclarationHeader.ofLine_of_stripped_eq_write _ ⟨name, inQuotes t⟩ (strip_declareLine name t) hname hquotes
  have hbrace : '{' ∉ strip (declareLine name t) := by
    rw [strip_declareLine]
    unfold declareLine
    simp [inQuotes, hname.notMem '{' (by decide), ht.plain '{' (by decide)]
  have hvalue : Expression.ofText (strip (inQuotes t)) = .text t := by
    rw [strip_inQuotes,
      Expression.ofText_inQuotes t (ht.plain '"' (by decide)) (ht.plain '\'' (by decide)) ht.passive]
  rw [Declaration.read_of_notMem ⟨declareLine name t, n⟩ rest hbrace, hheader, ← hvalue]
  rfl

theorem step_declareLine (name t : Text) (hname : IsName name) (ht : IsLiteral t) (n : Option Nat) (rest : List Line) :
    s.step ⟨declareLine name t, n⟩ rest = .ok (s.bind name (.text t), 0) := by
  have hword : startsWith declarationWord (strip (declareLine name t)) = true := by
    rw [strip_declareLine]
    exact DeclarationHeader.startsWith_write ⟨name, inQuotes t⟩
  exact s.step_of_read ⟨declareLine name t, n⟩ rest _ (.text t) s.desktop hword
    (read_declareLine name t hname ht n rest) rfl

/-- An empty text is looked up once more, as a path; a name has no dot, so the path leads to the same text. -/
theorem logArgument_of_text (name v : Text) (hname : IsName name) (hv : s.bindings.get? name = some (.text v)) :
    s.logArgument (.name name) = .ok v := by
  have hlookup : s.lookup name = .text v := by
    rw [Session.lookup, hv]
    rfl
  have hrender : s.desktop.render (.value (.text v)) = .ok v := rfl
  rw [Session.logArgument, hlookup]
  cases v with
  | nil =>
    have hpath : s.resolvePath name = .ok (.value (.text [])) := by
      rw [Session.resolvePath, splitOn_of_notMem _ _ (hname.notMem '.' (by decide))]
      dsimp only
      rw [hlookup]
      rfl
    change (s.resolvePath name >>= _) = _
    rw [hpath]
    exact hrender
  | cons c v => exact hrender

theorem step_logLine (name v : Text) (hname : IsName name) (hv : s.bindings.get? name = some (.text v))
    (n : Option Nat) (rest : List Line) : s.step ⟨logLine name, n⟩ rest = .ok (s.emit v, 0) := by
  have hstripped : (⟨logLine name, n⟩ : Line).stripped = logLine name := strip_logLine name
  have hmark : contains logMark (logLine name) = true :=
    (contains_iff_isInfix _ _).2 (List.prefix_append _ _).isInfix
  have hlog : s.log [.name name] = .ok (s.emit v) := by
    refine (s.log_eq_ok_iff _ _).2 ⟨[v], ?_, ?_⟩
    · rw [List.mapM_cons, logArgument_of_text s name v hname hv]
      rfl
    · simp [joinWith, List.intercalate]
  rw [s.step_of_log ⟨logLine name, n⟩ rest (by rw [hstripped]; rfl) (by rw [hstripped]; rfl)
    (by rw [hstripped]; exact hmark), hstripped, Session.logLine, logArguments?_logLine name hname]
  dsimp only
  rw [hlog]
  rfl

end Literal

namespace Desktop

open Literal

/-- A text in quotes comes out as it was written in, even if it looks like a statement, and the desktop stays as it
was. The name may be any word, a keyword too. -/
theorem run_literal (d : Desktop) (name t : Text) (hname : Text.IsName name) (ht : t.IsLiteral) (file : Option Text) :
    let run := d.run (Text.joinWith ['\n'] [declareLine name t, logLine name]) file
    run.error = none ∧ run.session.transcript.toList = [t] ∧ run.session.desktop = d := by
  have hdeclare := step_declareLine (.start d file) name t hname ht (some 1) [⟨logLine name, some 2⟩]
  have hlog := step_logLine ((Session.start d file).bind name (.text t)) name t hname (Table.get?_put_self ..)
    (some 2) []
  rw [Desktop.run, ofSource_lines name t hname (ht.plain _ (by decide)), Session.run,
    Session.runFrom_zero_cons_of_ok _ _ _ _ _ _ _ hdeclare, Session.runFrom_zero_cons_of_ok _ _ _ _ _ _ _ hlog]
  exact ⟨rfl, rfl, rfl⟩

/-- A keyword for a name, and a text that could be the end of a block and a statement after it. -/
theorem run_literal_keyword :
    let t : Text := " \x7d  local x = sys.log(y) // ".toList
    let run := (ofWindows []).run (Text.joinWith ['\n'] [declareLine "local".toList t, logLine "local".toList]) none
    Text.IsName "local".toList ∧ t.IsLiteral ∧ run.error = none ∧ run.session.transcript.toList = [t] := by
  intro t
  have hname : Text.IsName "local".toList := by decide
  have ht : t.IsLiteral := by decide
  have hrun := run_literal (ofWindows []) "local".toList t hname ht none
  exact ⟨hname, ht, hrun.1, hrun.2.1⟩

end Desktop

end DeskScript
