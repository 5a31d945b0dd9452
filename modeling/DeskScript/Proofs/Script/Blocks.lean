import DeskScript.Proofs.Script.Grammar
import DeskScript.Proofs.Script.Locality
import DeskScript.Proofs.Script.Spacing

namespace DeskScript

open Text (Respaced)

namespace Block

theorem inner_eq (a b c : Text) (ha : '{' ∉ a) (hc : '}' ∉ c) :
    inner (a ++ '{' :: (b ++ '}' :: c)) = Text.strip b := by
  unfold inner
  rw [Text.cutAt?_append_cons _ _ _ ha]
  dsimp only
  rw [Text.beforeLast?_append_cons _ _ _ hc]

theorem depthOf_eq_zero (t : Text) (ho : '{' ∉ t) (hc : '}' ∉ t) : depthOf t = 0 := by
  rw [depthOf, List.count_eq_zero_of_not_mem ho, List.count_eq_zero_of_not_mem hc]
  rfl

/-- Lines that leave an open block open, and as deep as it was. -/
def Neutral (lines : List Text) : Prop :=
  ∀ depth, 0 < depth → ∀ more, scanFrom depth true (lines ++ more) =
    (scanFrom depth true more).map fun (block, taken) => (lines ++ block, taken + lines.length)

theorem neutral_nil : Neutral [] := by
  intro depth _ more
  rw [List.nil_append]
  cases scanFrom depth true more <;> rfl

theorem scanFrom_cons_of_ne (depth : Int) (line : Text) (lines : List Text) (h : depth + depthOf line ≠ 0) :
    scanFrom depth true (line :: lines) =
      (scanFrom (depth + depthOf line) true lines).map fun (block, taken) => (line :: block, taken + 1) := by
  rw [scanFrom]
  simp [h]

theorem Neutral.append {lines lines' : List Text} (h : Neutral lines) (h' : Neutral lines') :
    Neutral (lines ++ lines') := by
  intro depth hdepth more
  rw [List.append_assoc, h depth hdepth, h' depth hdepth, Option.map_map]
  congr 1
  funext ⟨block, taken⟩
  simp
  omega

theorem neutral_singleton (line : Text) (h : depthOf line = 0) : Neutral [line] := by
  intro depth hdepth more
  rw [List.singleton_append, scanFrom_cons_of_ne _ _ _ (by omega), h, Int.add_zero]
  rfl

theorem neutral_of_forall (lines : List Text) (h : ∀ l ∈ lines, depthOf l = 0) : Neutral lines := by
  induction lines with
  | nil => exact neutral_nil
  | cons line lines ih =>
    have hline := neutral_singleton line (h line (List.mem_cons_self ..))
    exact hline.append (ih fun l hl => h l (List.mem_cons_of_mem _ hl))

theorem Neutral.braced {lines : List Text} (h : Neutral lines) (head close : Text) (hhead : depthOf head = 1)
    (hclose : depthOf close = -1) : Neutral (head :: (lines ++ [close])) := by
  intro depth hdepth more
  have hopen : 0 < depth + 1 := by omega
  have hback : depth + 1 + -1 = depth := by omega
  rw [List.cons_append, List.append_assoc, List.singleton_append, scanFrom_cons_of_ne _ _ _ (by omega), hhead,
    h _ hopen, scanFrom_cons_of_ne _ _ _ (by omega), hclose, hback, Option.map_map, Option.map_map]
  congr 1
  funext ⟨block, taken⟩
  simp
  omega

/-- The block of a line that opens it and a line that closes it, with others in between. -/
theorem exists_scan (a : Text) (lines more : List Text) (ho : '{' ∉ a) (hc : '}' ∉ a) (h : Neutral lines) :
    ∃ block, scan ((a ++ ['{']) :: (lines ++ ['}'] :: more)) = some block ∧
      block.taken = lines.length + 2 ∧ inner block.text = Text.strip ('\n' :: lines.flatMap (· ++ ['\n'])) := by
  have hdepth : depthOf (a ++ ['{']) = 1 := by
    rw [depthOf, List.count_append, List.count_append, List.count_eq_zero_of_not_mem ho,
      List.count_eq_zero_of_not_mem hc]
    decide
  -- The lines in between leave the depth at one, so the scan ends on this one and no line before it.
  have hclosed : scanFrom 1 true (['}'] :: more) = some ([['}']], 1) := by
    rw [scanFrom]
    exact if_pos (by decide)
  have hscan : scanFrom 0 false ((a ++ ['{']) :: (lines ++ ['}'] :: more)) =
      some ((a ++ ['{']) :: (lines ++ [['}']]), lines.length + 2) := by
    have hfirst : scanFrom 0 false ((a ++ ['{']) :: (lines ++ ['}'] :: more)) =
        (scanFrom 1 true (lines ++ ['}'] :: more)).map fun (block, taken) => ((a ++ ['{']) :: block, taken + 1) := by
      rw [scanFrom, hdepth]
      simp
    rw [hfirst, h 1 (by decide), hclosed]
    simp
    omega
  refine ⟨_, by rw [scan, hscan]; rfl, rfl, ?_⟩
  have htext : ((a ++ ['{']) :: (lines ++ [['}']])).flatMap (· ++ ['\n']) =
      a ++ '{' :: ('\n' :: lines.flatMap (· ++ ['\n']) ++ '}' :: ['\n']) := by simp
  dsimp only
  rw [htext, inner_eq a _ _ ho (by decide)]

theorem require_braced (a content : Text) (number : Option Nat) (rest : List Line) (ho : '{' ∉ a) (hc : '}' ∉ a)
    (ho' : '{' ∉ content) (hc' : '}' ∉ content) :
    require ⟨a ++ '{' :: (content ++ ['}']), number⟩ rest = .ok ⟨a ++ '{' :: (content ++ ['}', '\n']), 1⟩ := by
  have hdepth : depthOf (a ++ '{' :: (content ++ ['}'])) = 0 := by
    simp [depthOf, List.count_eq_zero_of_not_mem ho, List.count_eq_zero_of_not_mem hc,
      List.count_eq_zero_of_not_mem ho', List.count_eq_zero_of_not_mem hc']
  rw [require, scan, List.map_cons, scanFrom, hdepth]
  simp

theorem exists_require (a : Text) (head close : Line) (body rest : List Line) (hhead : head.stripped = a ++ ['{'])
    (hclose : close.stripped = ['}']) (ho : '{' ∉ a) (hc : '}' ∉ a) (h : Neutral (body.map Line.stripped)) :
    ∃ block, require head (body ++ close :: rest) = .ok block ∧ block.taken = body.length + 2 ∧
      Respaced (inner block.text) (Text.strip ((body.map Line.stripped).flatMap (· ++ ['\n']))) := by
  -- The same lines without the white space around them.
  have hbare : ∀ l : Line, l.Agrees (.unnumbered l.stripped) := fun l => (Text.strip_strip l.text).symm
  have hlines : List.Forall₂ Line.Agrees (body ++ close :: rest)
      ((body ++ close :: rest).map fun l => .unnumbered l.stripped) := by
    rw [List.forall₂_map_right_iff]
    exact List.forall₂_same.2 fun l _ => hbare l
  obtain ⟨bare, hscan, htaken, hinner⟩ := exists_scan a _ (rest.map Line.stripped) ho hc h
  have hrequire : require (.unnumbered head.stripped)
      ((body ++ close :: rest).map fun l => .unnumbered l.stripped) = .ok bare := by
    rw [require_eq_ok_iff, ← hscan]
    simp [Line.unnumbered, hhead, hclose, Function.comp_def]
  have halike := require_alike (hbare head) hlines
  rw [hrequire] at halike
  generalize require head (body ++ close :: rest) = x at halike
  cases halike with
  | @ok block _ halike =>
    refine ⟨block, rfl, ?_, ?_⟩
    · rw [halike.taken, htaken, List.length_map]
    · rw [← Text.strip_append_left ['\n'] _ (by decide), List.singleton_append, ← hinner]
      exact halike.inner

end Block

namespace Shape

open Text

/-- A line that looks something up: `name.group:find(key)`. -/
inductive Lookup : Text → Prop where
  | intro (name group key : Text) (hname : IsName name) (hgroup : IsName group)
      (hkey : ∀ c ∈ ['(', ')', '{', '}', '\n'], c ∉ key) :
      Lookup (name ++ '.' :: (group ++ ':' :: ("find".toList ++ '(' :: (key ++ [')']))))

theorem isName_find : IsName "find".toList := by decide

theorem find?_append (name group key rest : Text) (hname : IsName name) (hgroup : IsName group) (hkey : ')' ∉ key) :
    find? (name ++ '.' :: (group ++ ':' :: ("find".toList ++ '(' :: (key ++ ')' :: rest)))) =
      if key.isEmpty then find? rest else some (name, key) := by
  have hcall := callAfter?_eq name group _ key rest hgroup isName_find hkey
  rw [find?, firstWord_append _ _ _ hname (by simp; decide), findAfter?, hcall]
  cases key with
  | cons c key => rfl
  | nil =>
    -- Neither the group nor the word `find` has a dot behind it.
    have hpast : ∀ c ∈ [':', '('], ∀ (w t : Text), findAfter? w (c :: t) = none := by
      intro c hc w t
      have hdot : c ≠ '.' := by
        rintro rfl
        exact absurd hc (by decide)
      simp [findAfter?, callAfter?, afterPrefix?, hdot.symm]
    rw [firstWord_cons_of_not_word _ _ _ _ (by decide), firstWord_append _ _ _ hgroup (by simp; decide),
      hpast ':' (by decide), firstWord_cons_of_not_word _ _ _ _ (by decide),
      firstWord_append _ _ _ isName_find (by simp; decide), hpast '(' (by decide),
      firstWord_cons_of_not_word _ _ _ _ (by decide), List.nil_append,
      firstWord_cons_of_not_word _ _ _ _ (by decide)]
    rfl

namespace Lookup

variable {t : Text}

theorem ne_nil (h : Lookup t) : t ≠ [] := by
  cases h
  simp

theorem depthOf_eq_zero (h : Lookup t) : Block.depthOf t = 0 := by
  cases h with
  | intro name group key hname hgroup hkey =>
    have ho : '{' ∉ key := hkey '{' (by decide)
    have hc : '}' ∉ key := hkey '}' (by decide)
    apply Block.depthOf_eq_zero
    · simp [hname.notMem '{' (by decide), hgroup.notMem '{' (by decide), ho]
    · simp [hname.notMem '}' (by decide), hgroup.notMem '}' (by decide), hc]

theorem find?_append (h : Lookup t) (rest name key : Text) (hfind : find? (t ++ rest) = some (name, key)) :
    '\n' ∉ key ∨ find? rest = some (name, key) := by
  cases h with
  | intro name' group key' hname hgroup hkey =>
    have ht := Shape.find?_append name' group key' rest hname hgroup (hkey ')' (by decide))
    have hsplit : name' ++ '.' :: (group ++ ':' :: ("find".toList ++ '(' :: (key' ++ [')']))) ++ rest =
        name' ++ '.' :: (group ++ ':' :: ("find".toList ++ '(' :: (key' ++ ')' :: rest))) := by simp
    rw [hsplit, ht] at hfind
    split at hfind
    · exact .inr hfind
    · cases hfind
      exact .inl (hkey '\n' (by decide))

end Lookup

theorem notMem_of_find?_joinWith (lines : List Text) (h : ∀ t ∈ lines, Lookup t) (name key : Text)
    (hfind : find? (joinWith ['\n'] lines) = some (name, key)) : '\n' ∉ key := by
  induction lines with
  | nil => cases hfind
  | cons t ts ih =>
    have ht : Lookup t := h t (List.mem_cons_self ..)
    cases ts with
    | nil =>
      have hone : joinWith ['\n'] [t] = t ++ [] := by simp [joinWith, List.intercalate]
      rw [hone] at hfind
      obtain hkey | hfind := ht.find?_append [] name key hfind
      · exact hkey
      · cases hfind
    | cons u us =>
      rw [joinWith_cons_cons, List.append_assoc] at hfind
      obtain hkey | hfind := ht.find?_append _ name key hfind
      · exact hkey
      · rw [find?, List.singleton_append, firstWord_cons_of_not_word _ _ _ _ (by decide)] at hfind
        exact ih (fun v hv => h v (List.mem_cons_of_mem _ hv)) hfind

end Shape

theorem Declaration.read_of_notMem (l : Line) (rest : List Line) (ho : '{' ∉ l.stripped) :
    read l rest = (DeclarationHeader.ofLine l).map fun header =>
      ⟨header.name, .ofText (Text.strip header.expression), 0⟩ := by
  rw [read]
  cases hheader : DeclarationHeader.ofLine l with
  | error fault => rfl
  | ok header =>
    have hpiece := header.expression_isInfix _ ((Except.mapError_eq_ok_iff _ _ _).1 hheader)
    have hexpression : ¬header.expression.elem '{' = true := by
      rw [List.elem_iff]
      exact fun hmem => ho (hpiece.mem hmem)
    change (if _ then _ else _) = _
    rw [if_neg hexpression]
    rfl

theorem Declaration.read_braced (name content : Text) (hname : Text.IsName name)
    (h : ∀ c ∈ ['{', '}', '\n'], c ∉ content) (number : Option Nat) (rest : List Line) :
    read ⟨DeclarationHeader.write ⟨name, '{' :: (content ++ ['}'])⟩, number⟩ rest =
      .ok ⟨name, .ofBlock (Text.strip content), 0⟩ := by
  have hexpression : Cursor.IsRemainder ('{' :: (content ++ ['}'])) :=
    ⟨List.cons_ne_nil _ _, by simp; decide, by simp [h '\n' (by decide)]⟩
  have hstrip : Text.strip ('{' :: (content ++ ['}'])) = '{' :: (content ++ ['}']) :=
    Text.strip_append_eq_self ('{' :: content) ['}'] (List.cons_ne_nil _ _) (by simp; decide) (List.cons_ne_nil _ _)
      (by decide)
  have hheader : DeclarationHeader.ofLine ⟨DeclarationHeader.write ⟨name, '{' :: (content ++ ['}'])⟩, number⟩ =
      .ok ⟨name, '{' :: (content ++ ['}'])⟩ :=
    DeclarationHeader.ofLine_of_stripped_eq_write _ _ (DeclarationHeader.strip_write _ hexpression.nonempty hstrip)
      hname hexpression
  have ho : '{' ∉ declarationWord ++ (name ++ " = ".toList) := by
    simp [declarationWord, hname.notMem '{' (by decide)]
  have hc : '}' ∉ declarationWord ++ (name ++ " = ".toList) := by
    simp [declarationWord, hname.notMem '}' (by decide)]
  have hblock := Block.require_braced _ content number rest ho hc (h '{' (by decide)) (h '}' (by decide))
  have hinner := Block.inner_eq _ content ['\n'] ho (by decide)
  simp only [List.append_assoc] at hblock hinner
  refine (read_eq_ok_iff _ _ _).2 ⟨_, hheader, ?_⟩
  have hopens : ('{' :: (content ++ ['}'])).elem '{' = true := rfl
  rw [if_pos hopens]
  refine ⟨_, hblock, ?_⟩
  rw [hinner]
  rfl

theorem Expression.eq_of_alike_ofBlock (content : Text)
    (h : ∀ name key, Shape.find? content = some (name, key) → '\n' ∉ key) (e : Expression)
    (he : e.Alike (ofBlock content)) : e = ofBlock content := by
  generalize hblock : ofBlock content = e' at he
  cases he with
  | refl => rfl
  | find name hk hk' =>
    unfold ofBlock at hblock
    split at hblock
    · cases hblock
    · rename_i name' key hfind
      cases hblock
      have hkey : '\n' ∈ key := List.mem_of_mem_filter (Text.mem_of_mem_strip _ _ hk')
      exact absurd hkey (h _ _ hfind)

/-- A block that looks things up takes its lines up to the brace that closes it, and what it looks up depends on
what those lines say. -/
theorem Declaration.read_lookups (name : Text) (hname : Text.IsName name) (head close : Line)
    (lookups rest : List Line) (hhead : head.stripped = "local ".toList ++ name ++ " = \x7b".toList)
    (hlookups : ∀ l ∈ lookups, Shape.Lookup l.stripped) (hclose : close.stripped = ['}']) :
    read head (lookups ++ close :: rest) =
      .ok ⟨name, .ofBlock (Text.joinWith ['\n'] (lookups.map Line.stripped)), lookups.length + 1⟩ := by
  have hheader : DeclarationHeader.ofLine head = .ok ⟨name, ['{']⟩ := by
    have hopen : Cursor.IsRemainder ['{'] := ⟨by decide, by simp; decide, by decide⟩
    have htext : head.stripped = DeclarationHeader.write ⟨name, ['{']⟩ := by
      rw [hhead, List.append_assoc]
      rfl
    exact DeclarationHeader.ofLine_of_stripped_eq_write head _ htext hname hopen
  obtain ⟨block, hblock, htaken, hinner⟩ := Block.exists_require ("local ".toList ++ name ++ " = ".toList) head close
    lookups rest (by rw [hhead]; simp) hclose (by simp [hname.notMem '{' (by decide)])
    (by simp [hname.notMem '}' (by decide)])
    (Block.neutral_of_forall _ (by simpa using fun l hl => (hlookups l hl).depthOf_eq_zero))
  have hcontent : Text.strip ((lookups.map Line.stripped).flatMap (· ++ ['\n'])) =
      Text.joinWith ['\n'] (lookups.map Line.stripped) := by
    apply Text.strip_flatMap
    simpa using fun l hl => ⟨(hlookups l hl).ne_nil, Text.strip_strip l.text⟩
  rw [hcontent] at hinner
  -- Other white space in the block could only matter to a key of several lines, and there is none.
  have hvalue := Expression.eq_of_alike_ofBlock _ (Shape.notMem_of_find?_joinWith _ (by simpa using hlookups)) _
    (Expression.ofBlock_alike hinner)
  refine (read_eq_ok_iff _ _ _).2 ⟨_, hheader, ?_⟩
  have hopens : ['{'].elem '{' = true := rfl
  rw [if_pos hopens]
  refine ⟨block, hblock, ?_⟩
  rw [hvalue, htaken]
  rfl

end DeskScript
