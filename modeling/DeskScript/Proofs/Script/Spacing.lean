import DeskScript.Proofs.Script.Outcomes
import DeskScript.Proofs.Text.Spacing
import DeskScript.Script.Statement
import Mathlib.Data.List.Forall2

namespace DeskScript

open Text (Respaced)

/-- Lines that are the same but for the white space at their ends and for their numbers. -/
def Line.Agrees (l l' : Line) : Prop := l.stripped = l'.stripped

/-- The same expression, or two that look up texts of several lines. -/
inductive Expression.Alike : Expression → Expression → Prop where
  | refl (e : Expression) : Alike e e
  | find (name : Text) {k k' : Text} (hk : '\n' ∈ k) (hk' : '\n' ∈ k') :
      Alike (.action name .find [.text k]) (.action name .find [.text k'])

structure Declaration.Alike (d d' : Declaration) : Prop where
  name : d.name = d'.name
  value : d.value.Alike d'.value
  taken : d.taken = d'.taken

inductive Instruction.Alike : Instruction → Instruction → Prop where
  | refl (i : Instruction) : Alike i i
  | declare {d d' : Except Fault Declaration} (h : Except.Rel Eq Declaration.Alike d d') :
      Alike (.declare d) (.declare d')

/-- Functions whose bodies have alike instructions, one after another. -/
def Function.Alike (f f' : Function) : Prop :=
  List.Forall₂ (fun i i' => i.get.Alike i'.get) f.instructions f'.instructions

theorem Expression.ofBlock_alike {content content' : Text} (h : Respaced content content') :
    (ofBlock content).Alike (ofBlock content') := by
  have hfind := Shape.find?_respaced h
  unfold ofBlock
  generalize Shape.find? content = x at hfind ⊢
  generalize Shape.find? content' = y at hfind ⊢
  cases hfind with
  | none => exact .refl _
  | @some p q hpq =>
    obtain ⟨name, argument⟩ := p
    obtain ⟨name', argument'⟩ := q
    obtain ⟨rfl, hargument⟩ : name = name' ∧ Respaced argument argument' := hpq
    dsimp only
    obtain he | ⟨hn, hn'⟩ := hargument.unquote.strip.eq_or_mem
    · rw [he]
      exact .refl _
    · exact .find name hn hn'

namespace Block

@[simp] theorem depthOf_strip (t : Text) : depthOf (Text.strip t) = depthOf t := by
  unfold depthOf
  rw [Text.count_strip t '{' (by decide), Text.count_strip t '}' (by decide)]

@[simp] theorem elem_strip (t : Text) : (Text.strip t).elem '{' = t.elem '{' := by
  rw [Bool.eq_iff_iff, List.elem_iff, List.elem_iff]
  exact Text.mem_strip_iff t '{' (by decide)

theorem scanFrom_alike (depth : Int) (opened : Bool) {lines lines' : List Text}
    (h : List.Forall₂ (fun l l' => Text.strip l = Text.strip l') lines lines') :
    Option.Rel (fun p q => List.Forall₂ (fun l l' => Text.strip l = Text.strip l') p.1 q.1 ∧ p.2 = q.2)
      (scanFrom depth opened lines) (scanFrom depth opened lines') := by
  induction h generalizing depth opened with
  | nil => exact .none
  | @cons l l' lines lines' hl h ih =>
    -- White space has no braces, so both scans see the same depth and stop on the same line.
    have hdepth : depthOf l = depthOf l' := by rw [← depthOf_strip, hl, depthOf_strip]
    have hopened : l.elem '{' = l'.elem '{' := by rw [← elem_strip, hl, elem_strip]
    rw [scanFrom, scanFrom, hdepth, hopened]
    dsimp only
    split
    · exact .some ⟨.cons hl .nil, rfl⟩
    · have hrest := ih (depth + depthOf l') (opened || l'.elem '{')
      generalize scanFrom _ _ lines = x at hrest ⊢
      generalize scanFrom _ _ lines' = y at hrest ⊢
      cases hrest with
      | none => exact .none
      | @some p q hpq =>
        refine .some ⟨?_, congrArg (· + 1) hpq.2⟩
        dsimp only
        split
        · exact .cons hl hpq.1
        · exact hpq.1

theorem respaced_flatMap {lines lines' : List Text}
    (h : List.Forall₂ (fun l l' => Text.strip l = Text.strip l') lines lines') (g g' : Text)
    (hg : Text.isBlankLine g = true) (hg' : Text.isBlankLine g' = true) :
    Respaced (g ++ '\n' :: lines.flatMap (· ++ ['\n'])) (g' ++ '\n' :: lines'.flatMap (· ++ ['\n'])) := by
  -- The white space at the end of a line is carried over to the gap behind it.
  have hfeed : ∀ a b : Text, Text.isBlankLine a = true → Text.isBlankLine b = true →
      Text.isBlankLine (a ++ '\n' :: b) = true := by
    intro a b ha hb
    rw [Text.isBlankLine_append, ha, Bool.true_and]
    exact (Text.isBlankLine_cons '\n' b).2 ⟨by decide, hb⟩
  induction h generalizing g g' with
  | nil =>
    have hgap := Respaced.gap (hfeed g [] hg rfl) (hfeed g' [] hg' rfl) (by simp) (by simp) .nil
    rwa [List.append_nil, List.append_nil] at hgap
  | @cons l l' lines lines' hl h ih =>
    obtain ⟨a, b, ha, hb, hlines⟩ := Text.exists_strip l
    obtain ⟨a', b', ha', hb', hlines'⟩ := Text.exists_strip l'
    have hrest := (Respaced.refl (Text.strip l)).append (ih b b' hb hb')
    have hgap := Respaced.gap (hfeed g a hg ha) (hfeed g' a' hg' ha') (by simp) (by simp) hrest
    have hleft : g ++ '\n' :: (l :: lines).flatMap (· ++ ['\n']) =
        g ++ '\n' :: a ++ (Text.strip l ++ (b ++ '\n' :: lines.flatMap (· ++ ['\n']))) := by
      conv_lhs => rw [hlines]
      simp
    have hright : g' ++ '\n' :: (l' :: lines').flatMap (· ++ ['\n']) =
        g' ++ '\n' :: a' ++ (Text.strip l ++ (b' ++ '\n' :: lines'.flatMap (· ++ ['\n']))) := by
      conv_lhs => rw [hlines', ← hl]
      simp
    rw [hleft, hright]
    exact hgap

/-- Blocks of the same number of lines whose texts differ in white space around line feeds and at the ends. -/
structure Alike (b b' : Block) : Prop where
  taken : b.taken = b'.taken
  text : Respaced ('\n' :: b.text) ('\n' :: b'.text)

theorem inner_cons (c : Char) (t : Text) (hc : c ≠ '{') : inner (c :: t) = inner t := by
  have hcut : Text.cutAt? ['{'] (c :: t) =
      (Text.cutAt? ['{'] t).map fun p => (c :: p.1, p.2) := by
    rw [Text.cutAt?, Text.afterPrefix?, if_neg (Ne.symm hc)]
  unfold inner
  rw [hcut]
  cases Text.cutAt? ['{'] t <;> rfl

theorem inner_respaced {t t' : Text} (h : Respaced t t') : Respaced (inner t) (inner t') := by
  have hcut := h.cutAt? '{' (by decide)
  unfold inner
  generalize Text.cutAt? ['{'] t = x at hcut ⊢
  generalize Text.cutAt? ['{'] t' = y at hcut ⊢
  cases hcut with
  | none => exact .nil
  | @some p q hpq =>
    have hbefore := hpq.beforeLast? '}' (by decide)
    dsimp only
    generalize Text.beforeLast? '}' p.2 = x at hbefore ⊢
    generalize Text.beforeLast? '}' q.2 = y at hbefore ⊢
    cases hbefore with
    | none => exact .nil
    | some hxy => exact hxy.strip

theorem Alike.inner {b b' : Block} (h : b.Alike b') : Respaced (inner b.text) (Block.inner b'.text) := by
  have hinner := inner_respaced h.text
  rwa [inner_cons _ _ (by decide), inner_cons _ _ (by decide)] at hinner

theorem require_alike {head head' : Line} {rest rest' : List Line} (hhead : head.Agrees head')
    (hrest : List.Forall₂ Line.Agrees rest rest') :
    Except.Rel Eq Alike (require head rest) (require head' rest') := by
  have hlines : List.Forall₂ (fun l l' => Text.strip l = Text.strip l') ((head :: rest).map Line.text)
      ((head' :: rest').map Line.text) := by
    rw [List.forall₂_map_left_iff, List.forall₂_map_right_iff]
    exact .cons hhead hrest
  have hscan := scanFrom_alike 0 false hlines
  unfold require scan
  generalize scanFrom 0 false ((head :: rest).map Line.text) = x at hscan ⊢
  generalize scanFrom 0 false ((head' :: rest').map Line.text) = y at hscan ⊢
  cases hscan with
  | none => exact .error (congrArg Fault.unterminatedBlock hhead)
  | some hpq => exact .ok ⟨hpq.2, respaced_flatMap hpq.1 [] [] rfl rfl⟩

end Block

theorem Declaration.read_alike {head head' : Line} {rest rest' : List Line} (hhead : head.Agrees head')
    (hrest : List.Forall₂ Line.Agrees rest rest') :
    Except.Rel Eq Alike (read head rest) (read head' rest') := by
  have hheader : DeclarationHeader.ofLine head = DeclarationHeader.ofLine head' := by
    rw [DeclarationHeader.ofLine, DeclarationHeader.ofLine, hhead]
  unfold read
  rw [hheader]
  refine (Except.Rel.refl (fun _ => rfl) (fun _ => rfl) (DeclarationHeader.ofLine head')).bind ?_
  rintro header _ rfl
  split
  · refine (Block.require_alike hhead hrest).bind fun block block' hblock => ?_
    exact .ok ⟨rfl, Expression.ofBlock_alike hblock.inner, congrArg (· - 1) hblock.taken⟩
  · exact .ok ⟨rfl, .refl _, rfl⟩

namespace Instruction

theorem ofLine_alike {line line' : Line} {rest rest' : List Line} (hline : line.Agrees line')
    (hrest : List.Forall₂ Line.Agrees rest rest') : (ofLine line rest).Alike (ofLine line' rest') := by
  have hstripped : line.stripped = line'.stripped := hline
  unfold ofLine
  dsimp only
  rw [hstripped]
  split
  · exact .refl _
  · split
    · exact .declare (Declaration.read_alike hline hrest)
    · exact .refl _

theorem ofLines_alike {lines lines' : List Line} (h : List.Forall₂ Line.Agrees lines lines') :
    List.Forall₂ (fun i i' => Alike i.get i'.get) (ofLines lines) (ofLines lines') := by
  induction h with
  | nil => exact .nil
  | cons hline hrest ih => exact .cons (ofLine_alike hline hrest) ih

theorem bodyLines_eq (body : Text) :
    (bodyLines body).map Line.stripped = Text.saidLines (Block.inner body) := by
  simp [bodyLines, Text.saidLines, Line.stripped, Line.unnumbered, Function.comp_def]

end Instruction

theorem Line.forall₂_agrees_iff (lines lines' : List Line) :
    List.Forall₂ Line.Agrees lines lines' ↔ lines.map Line.stripped = lines'.map Line.stripped := by
  rw [← List.forall₂_eq_eq_eq, List.forall₂_map_left_iff, List.forall₂_map_right_iff]
  rfl

theorem Function.ofBody_alike (parameters : List Text) {body body' : Text}
    (h : Respaced (Block.inner body) (Block.inner body')) :
    (Function.ofBody parameters body).Alike (Function.ofBody parameters body') := by
  apply Instruction.ofLines_alike
  rw [Line.forall₂_agrees_iff, Instruction.bodyLines_eq, Instruction.bodyLines_eq]
  exact h.saidLines

end DeskScript
