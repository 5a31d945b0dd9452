import DeskScript.Proofs.Script.Header
import DeskScript.Script.Statement

namespace DeskScript

open Cursor (IsGap IsRemainder IsParameters)
open Text (IsName)

theorem Fault.exists_badHeader {α : Type} (kind : HeaderKind) (t : Text) (x : Except Nat α)
    (h : ∀ header, x ≠ .ok header) : ∃ fault : Fault, x.mapError (Fault.badHeader kind t) = .error fault ∧
      fault.className = "FluxoParseError".toList ∧
      fault.message = "Invalid ".toList ++ kind.title ++ ": ".toList ++ t ∧ fault.token = t := by
  cases x with
  | ok header => exact absurd rfl (h header)
  | error column => exact ⟨.badHeader kind t column, rfl, rfl, rfl, rfl⟩

/-- `local name = expression`, with any spaces and tabs between the parts, or none. -/
inductive DeclarationHeader.Written : Text → DeclarationHeader → Prop where
  | intro (g₁ name g₂ g₃ expression : Text) (hg₁ : IsGap g₁) (hname : IsName name) (hg₂ : IsGap g₂) (hg₃ : IsGap g₃)
      (hexpression : IsRemainder expression) :
      Written ("local".toList ++ (g₁ ++ (name ++ (g₂ ++ ("=".toList ++ (g₃ ++ expression)))))) ⟨name, expression⟩

namespace DeclarationHeader

theorem Written.read {t : Text} {header : DeclarationHeader} (h : Written t header) : read t = .ok header := by
  obtain ⟨g₁, name, g₂, g₃, expression, hg₁, hname, hg₂, hg₃, hexpression⟩ := h
  have hword : ∀ c ∈ (g₂ ++ ("=".toList ++ (g₃ ++ expression))).head?, Text.isWord c = false :=
    Cursor.isWord_eq_false_of_gap g₂ _ hg₂ (by simp; decide)
  obtain ⟨c₁, h₁, hr₁⟩ := (Cursor.start ("local".toList ++ _)).exists_mark "local" []
    (g₁ ++ (name ++ (g₂ ++ ("=".toList ++ (g₃ ++ expression))))) nofun (by simp; decide) rfl
  obtain ⟨c₂, h₂, hr₂⟩ := c₁.exists_word g₁ name _ hg₁ hname hword hr₁
  obtain ⟨c₃, h₃, hr₃⟩ := c₂.exists_mark "=" g₂ _ hg₂ (by simp; decide) hr₂
  obtain ⟨c₄, h₄, hr₄⟩ := c₃.exists_remainder g₃ expression hg₃ hexpression hr₃
  have hfinish : c₄.finish = .ok () := (c₄.finish_eq_ok_iff).2 (hr₄ ▸ nofun)
  simp only [DeclarationHeader.read, h₁, h₂, h₃, h₄, hfinish, bind, Except.bind, pure, Except.pure]

theorem exists_written (t : Text) (header : DeclarationHeader) (h : read t = .ok header) :
    ∃ g t', IsGap g ∧ t = g ++ t' ∧ Written t' header := by
  unfold read at h
  obtain ⟨c₁, h₁, h⟩ := (Except.bind_eq_ok_iff _ _ _).1 h
  obtain ⟨⟨name, c₂⟩, h₂, h⟩ := (Except.bind_eq_ok_iff _ _ _).1 h
  obtain ⟨c₃, h₃, h⟩ := (Except.bind_eq_ok_iff _ _ _).1 h
  obtain ⟨⟨expression, c₄⟩, h₄, h⟩ := (Except.bind_eq_ok_iff _ _ _).1 h
  obtain ⟨_, h₅, h⟩ := (Except.bind_eq_ok_iff _ _ _).1 h
  cases h
  obtain ⟨g, hg, hr⟩ := Cursor.exists_of_mark_eq_ok _ _ _ h₁
  obtain ⟨hname, g₁, hg₁, hr₁⟩ := Cursor.exists_of_word_eq_ok _ _ _ h₂
  obtain ⟨g₂, hg₂, hr₂⟩ := Cursor.exists_of_mark_eq_ok _ _ _ h₃
  obtain ⟨hexpression, g₃, hg₃, hr₃⟩ := Cursor.exists_of_remainder_eq_ok _ _ _ h₄ h₅
  rw [hr₁, hr₂, hr₃] at hr
  exact ⟨g, _, hg, hr, .intro g₁ name g₂ g₃ expression hg₁ hname hg₂ hg₃ hexpression⟩

theorem expression_isInfix (t : Text) (header : DeclarationHeader) (h : read t = .ok header) :
    header.expression <:+: t := by
  obtain ⟨g, t', -, rfl, hwritten⟩ := exists_written t header h
  obtain ⟨g₁, name, g₂, g₃, expression⟩ := hwritten
  refine ⟨g ++ ("local".toList ++ (g₁ ++ (name ++ (g₂ ++ ("=".toList ++ g₃))))), [], ?_⟩
  simp

theorem ofLine_eq_ok_iff (l : Line) (header : DeclarationHeader) :
    ofLine l = .ok header ↔ Written l.stripped header := by
  rw [ofLine, Except.mapError_eq_ok_iff]
  exact ⟨fun h => Cursor.of_exists_gap _ (Text.strip_strip l.text) (exists_written _ header h), Written.read⟩

/-- A declaration as it is commonly written, with one space between its parts. -/
def write (header : DeclarationHeader) : Text := declarationWord ++ (header.name ++ (" = ".toList ++ header.expression))

theorem ofLine_of_stripped_eq_write (l : Line) (header : DeclarationHeader) (hl : l.stripped = header.write)
    (hname : IsName header.name) (hexpression : IsRemainder header.expression) : ofLine l = .ok header := by
  have hspace : IsGap [' '] := by decide
  have hwritten := Written.intro [' '] header.name [' '] [' '] header.expression hspace hname hspace hspace hexpression
  have hfront : declarationWord = "local".toList ++ [' '] := by decide
  have hmark : " = ".toList = [' '] ++ ("=".toList ++ [' ']) := by decide
  rw [ofLine_eq_ok_iff, hl, write, hfront, hmark]
  simpa only [List.append_assoc] using hwritten

@[simp] theorem startsWith_write (header : DeclarationHeader) :
    Text.startsWith declarationWord header.write = true := by
  rw [Text.startsWith_iff_isPrefix]
  exact ⟨_, rfl⟩

theorem strip_write (header : DeclarationHeader) (hexpression : header.expression ≠ [])
    (hstrip : Text.strip header.expression = header.expression) : Text.strip header.write = header.write := by
  have hsplit : header.write = (declarationWord ++ (header.name ++ " = ".toList)) ++ header.expression := by
    rw [write, List.append_assoc, List.append_assoc]
  rw [hsplit]
  refine Text.strip_append_eq_self _ _ (List.cons_ne_nil _ _) ?_ hexpression hstrip
  rintro _ ⟨⟩
  decide

/-- A line is read as a declaration exactly if it is written as one, and then its name and its expression are read;
else the fault tells the line. So every name and every expression without white space at its end come back, whatever
the gaps. -/
theorem declaration_grammar :
    (∀ l : Line,
      (∀ header, ofLine l = .ok header ↔ Written l.stripped header) ∧
      ((¬∃ header, Written l.stripped header) → ∃ fault, ofLine l = .error fault ∧
        fault.className = "FluxoParseError".toList ∧
        fault.message = "Invalid local declaration: ".toList ++ l.stripped ∧ fault.token = l.stripped)) ∧
    ∀ (before g₁ name g₂ g₃ expression after : Text) (number : Option Nat), Text.isBlankLine before = true →
      IsGap g₁ → IsName name → IsGap g₂ → IsGap g₃ → IsRemainder expression →
      (∀ c ∈ expression.getLast?, Text.isBlank c = false) → Text.isBlankLine after = true →
      ofLine ⟨before ++ ("local".toList ++ (g₁ ++ (name ++ (g₂ ++ ("=".toList ++ (g₃ ++ expression)))))) ++ after,
        number⟩ = .ok ⟨name, expression⟩ := by
  refine ⟨fun l => ⟨ofLine_eq_ok_iff l, fun hnone => ?_⟩, ?_⟩
  · exact Fault.exists_badHeader .declaration l.stripped (read l.stripped) fun header hheader =>
      hnone ⟨header, (ofLine_eq_ok_iff l header).1 ((Except.mapError_eq_ok_iff _ _ _).2 hheader)⟩
  · intro before g₁ name g₂ g₃ expression after number hbefore hg₁ hname hg₂ hg₃ hexpression hlast hafter
    have hwritten := Written.intro g₁ name g₂ g₃ expression hg₁ hname hg₂ hg₃ hexpression
    have hstrip := Text.strip_append_eq_self ("local".toList ++ (g₁ ++ (name ++ (g₂ ++ ("=".toList ++ g₃))))) expression
      (by simp) (by simp; decide) hexpression.nonempty (Text.strip_eq_self _ hexpression.head hlast)
    simp only [List.append_assoc] at hstrip
    rw [ofLine_eq_ok_iff, Line.stripped, Text.strip_append _ _ _ hbefore hafter, hstrip]
    exact hwritten

/-- The name may be the first word once more and touch it, and the expression may begin with the mark before it. -/
theorem declaration_grammar_touching :
    Text.isBlankLine "\t".toList = true ∧ IsGap [] ∧ IsName "local".toList ∧ IsRemainder "= 1".toList ∧
      (∀ c ∈ "= 1".toList.getLast?, Text.isBlank c = false) ∧ Text.isBlankLine "\r".toList = true ∧
      ofLine ⟨"\tlocallocal== 1\r".toList, some 3⟩ = .ok ⟨"local".toList, "= 1".toList⟩ := by
  have hgap : IsGap [] := nofun
  have hfront : ∀ c ∈ "= 1".toList.head?, Text.isBlank c = false := by
    rintro _ ⟨⟩
    decide
  have hlast : ∀ c ∈ "= 1".toList.getLast?, Text.isBlank c = false := by
    rintro _ ⟨⟩
    decide
  have hexpression : IsRemainder "= 1".toList := ⟨by decide, hfront, by decide⟩
  have hread := declaration_grammar.2 "\t".toList [] "local".toList [] [] "= 1".toList "\r".toList (some 3) (by decide)
    hgap (by decide) hgap hgap hexpression hlast (by decide)
  exact ⟨by decide, hgap, by decide, hexpression, hlast, by decide, hread⟩

end DeclarationHeader

/-- `export function name(parameters)` and what may follow on the line, with any spaces and tabs between the parts, or
none. The parameters are set apart by commas; white space around them and blank ones count for nothing. -/
inductive FunctionHeader.Written : Text → FunctionHeader → Prop where
  | intro (g₁ g₂ name g₃ g₄ parameters g₅ remainder : Text) (hg₁ : IsGap g₁) (hg₂ : IsGap g₂) (hname : IsName name)
      (hg₃ : IsGap g₃) (hg₄ : IsGap g₄) (hparameters : parameters = [] ∨ IsParameters parameters) (hg₅ : IsGap g₅)
      (hremainder : remainder = [] ∨ IsRemainder remainder) :
      Written ("export".toList ++ (g₁ ++ ("function".toList ++ (g₂ ++ (name ++ (g₃ ++ ("(".toList ++
          (g₄ ++ (parameters ++ ')' :: (g₅ ++ remainder))))))))))
        ⟨name, ((Text.splitOn ',' parameters).map Text.strip).filter (· ≠ [])⟩

namespace FunctionHeader

theorem parametersOf_eq (t : Text) : parametersOf t = ((Text.splitOn ',' t).map Text.strip).filter (· ≠ []) := by
  unfold parametersOf
  congr 1
  funext p
  cases p <;> rfl

theorem Written.read {t : Text} {header : FunctionHeader} (h : Written t header) : read t = .ok header := by
  obtain ⟨g₁, g₂, name, g₃, g₄, parameters, g₅, remainder, hg₁, hg₂, hname, hg₃, hg₄, hparameters, hg₅, hremainder⟩ := h
  have hword := Cursor.isWord_eq_false_of_gap g₃
    ("(".toList ++ (g₄ ++ (parameters ++ ')' :: (g₅ ++ remainder)))) hg₃ (by simp; decide)
  obtain ⟨c₁, h₁, hr₁⟩ := (Cursor.start ("export".toList ++ _)).exists_mark "export" [] _ nofun (by simp; decide) rfl
  obtain ⟨c₂, h₂, hr₂⟩ := c₁.exists_mark "function" g₁ _ hg₁ (by simp; decide) hr₁
  obtain ⟨c₃, h₃, hr₃⟩ := c₂.exists_word g₂ name _ hg₂ hname hword hr₂
  obtain ⟨c₄, h₄, hr₄⟩ := c₃.exists_mark "(" g₃ _ hg₃ (by simp; decide) hr₃
  obtain ⟨c₅, g, h₅, hg, hr₅⟩ := c₄.exists_parameters g₄ parameters _ hg₄ hparameters hr₄
  obtain ⟨c₆, h₆, hr₆⟩ := c₅.exists_mark ")" g _ hg (by simp; decide) hr₅
  obtain ⟨c₇, h₇, h₈⟩ := c₆.exists_optional_remainder g₅ remainder hg₅ hremainder hr₆
  simp only [FunctionHeader.read, h₁, h₂, h₃, h₄, h₅, h₆, h₇, h₈, parametersOf_eq, bind, Except.bind, pure, Except.pure]

theorem exists_written (t : Text) (header : FunctionHeader) (h : read t = .ok header) :
    ∃ g t', IsGap g ∧ t = g ++ t' ∧ Written t' header := by
  unfold read at h
  obtain ⟨c₁, h₁, h⟩ := (Except.bind_eq_ok_iff _ _ _).1 h
  obtain ⟨c₂, h₂, h⟩ := (Except.bind_eq_ok_iff _ _ _).1 h
  obtain ⟨⟨name, c₃⟩, h₃, h⟩ := (Except.bind_eq_ok_iff _ _ _).1 h
  obtain ⟨c₄, h₄, h⟩ := (Except.bind_eq_ok_iff _ _ _).1 h
  generalize h₅ : c₄.optional Cursor.takeParameters = found at h
  obtain ⟨parameters, c₅⟩ := found
  obtain ⟨c₆, h₆, h⟩ := (Except.bind_eq_ok_iff _ _ _).1 h
  generalize h₇ : c₆.optional Cursor.takeRemainder = found at h
  obtain ⟨remainder, c₇⟩ := found
  obtain ⟨_, h₈, h⟩ := (Except.bind_eq_ok_iff _ _ _).1 h
  -- Each token that was read tells the gap before it and what it has left.
  cases h
  obtain ⟨g, hg, hr⟩ := Cursor.exists_of_mark_eq_ok _ _ _ h₁
  obtain ⟨g₁, hg₁, hr₁⟩ := Cursor.exists_of_mark_eq_ok _ _ _ h₂
  obtain ⟨hname, g₂, hg₂, hr₂⟩ := Cursor.exists_of_word_eq_ok _ _ _ h₃
  obtain ⟨g₃, hg₃, hr₃⟩ := Cursor.exists_of_mark_eq_ok _ _ _ h₄
  obtain ⟨hparameters, g₄, hg₄, hr₄⟩ := Cursor.exists_of_parameters _ _ _ _ h₅ h₆
  obtain ⟨hremainder, g₅, hg₅, hr₅⟩ := Cursor.exists_of_optional_remainder _ _ _ h₇ h₈
  rw [hr₁, hr₂, hr₃, hr₄, hr₅] at hr
  refine ⟨g, _, hg, hr, ?_⟩
  rw [parametersOf_eq]
  exact .intro g₁ g₂ name g₃ g₄ parameters g₅ remainder hg₁ hg₂ hname hg₃ hg₄ hparameters hg₅ hremainder

theorem ofLine_eq_ok_iff (l : Line) (header : FunctionHeader) :
    ofLine l = .ok header ↔ Written l.stripped header := by
  rw [ofLine, Except.mapError_eq_ok_iff]
  exact ⟨fun h => Cursor.of_exists_gap _ (Text.strip_strip l.text) (exists_written _ header h), Written.read⟩

/-- The pieces are the parameters in their order, with white space around them and blank pieces among them. -/
inductive Listed : List Text → List Text → Prop where
  | nil : Listed [] []
  | blank (g : Text) {pieces parameters : List Text} (hg : Text.isBlankLine g = true) (h : Listed pieces parameters) :
      Listed (g :: pieces) parameters
  | parameter (g p g' : Text) {pieces parameters : List Text} (hg : Text.isBlankLine g = true)
      (hg' : Text.isBlankLine g' = true) (h : Listed pieces parameters) :
      Listed ((g ++ p ++ g') :: pieces) (p :: parameters)

/-- What no parameter has in it, and is no white space, is nowhere in the pieces. -/
theorem Listed.notMem {pieces parameters : List Text} (h : Listed pieces parameters) (c : Char)
    (hc : Text.isBlank c = false) (hp : ∀ p ∈ parameters, c ∉ p) : ∀ piece ∈ pieces, c ∉ piece := by
  have hblank : ∀ g : Text, Text.isBlankLine g = true → c ∉ g := by
    intro g hg hmem
    rw [List.all_eq_true.1 hg c hmem] at hc
    cases hc
  induction h with
  | nil => exact nofun
  | blank g hg _ ih => exact List.forall_mem_cons.2 ⟨hblank g hg, ih hp⟩
  | parameter g p g' hg hg' _ ih =>
    obtain ⟨hfirst, hrest⟩ := List.forall_mem_cons.1 hp
    refine List.forall_mem_cons.2 ⟨?_, ih hrest⟩
    simp [hblank g hg, hblank g' hg', hfirst]

theorem Listed.filter_strip {pieces parameters : List Text} (h : Listed pieces parameters)
    (hp : ∀ p ∈ parameters, p ≠ [] ∧ Text.strip p = p) :
    (pieces.map Text.strip).filter (· ≠ []) = parameters := by
  induction h with
  | nil => rfl
  | blank g hg _ ih =>
    rw [List.map_cons, (Text.strip_eq_nil_iff g).2 hg, List.filter_cons_of_neg (by simp), ih hp]
  | parameter g p g' hg hg' _ ih =>
    obtain ⟨⟨hne, hstrip⟩, hrest⟩ := List.forall_mem_cons.1 hp
    rw [List.map_cons, Text.strip_append g p g' hg hg', hstrip, List.filter_cons_of_pos (by simpa using hne), ih hrest]

theorem Listed.parametersOf_eq {pieces parameters : List Text} (h : Listed pieces parameters)
    (hp : ∀ p ∈ parameters, p ≠ [] ∧ Text.strip p = p ∧ ',' ∉ p) :
    parametersOf (Text.joinWith [','] pieces) = parameters := by
  rw [FunctionHeader.parametersOf_eq]
  have hcomma := h.notMem ',' (by decide) fun p hmem => (hp p hmem).2.2
  have hfilter := h.filter_strip fun p hmem => ⟨(hp p hmem).1, (hp p hmem).2.1⟩
  cases pieces with
  | nil => cases h; rfl
  | cons piece pieces => rw [Text.splitOn_joinWith ',' piece pieces hcomma, hfilter]

theorem parametersOf_append_of_gap (g t : Text) (hg : IsGap g) : parametersOf (g ++ t) = parametersOf t := by
  have hcomma : ',' ∉ g := fun hmem => absurd (hg ',' hmem) (by decide)
  have hblank : Text.isBlankLine g = true := List.all_eq_true.2 fun c hc => Cursor.isBlank_of_isGap c (hg c hc)
  obtain ⟨p, ps, hsplit, hsplit'⟩ :
      ∃ p ps, Text.splitOn ',' t = p :: ps ∧ Text.splitOn ',' (g ++ t) = (g ++ p) :: ps := by
    by_cases ht : ',' ∈ t
    · obtain ⟨a, b, rfl, ha⟩ := List.eq_append_cons_of_mem ht
      refine ⟨a, Text.splitOn ',' b, ?_, ?_⟩
      · rw [Text.splitOn_append_cons, Text.splitOn_of_notMem ',' a ha, List.singleton_append]
      · rw [← List.append_assoc, Text.splitOn_append_cons, Text.splitOn_of_notMem ',' (g ++ a) (by simp [hcomma, ha]),
          List.singleton_append]
    · exact ⟨t, [], Text.splitOn_of_notMem ',' t ht, Text.splitOn_of_notMem ',' (g ++ t) (by simp [hcomma, ht])⟩
  rw [parametersOf, parametersOf, hsplit, hsplit', List.map_cons, List.map_cons, Text.strip_append_left g p hblank]

/-- What stands in front of the first parameter is a gap, and the rest are parameters or nothing. -/
theorem exists_gap_parameters (t : Text) (hclosing : ')' ∉ t)
    (hhead : ∀ c ∈ (t.dropWhile Cursor.isGap).head?, Text.isBlank c = false) :
    ∃ g u, t = g ++ u ∧ IsGap g ∧ (u = [] ∨ IsParameters u) := by
  refine ⟨t.takeWhile Cursor.isGap, t.dropWhile Cursor.isGap, List.takeWhile_append_dropWhile.symm,
    fun c hc => List.mem_takeWhile_imp hc, ?_⟩
  by_cases hnil : t.dropWhile Cursor.isGap = []
  · exact .inl hnil
  · exact .inr ⟨hnil, hhead, fun hmem => hclosing ((List.dropWhile_suffix _).subset hmem)⟩

/-- Without the white space at its end, a head still ends with nothing or with a remainder. -/
theorem exists_strip_closing (a g remainder : Text) (ha : a ≠ []) (hhead : ∀ c ∈ a.head?, Text.isBlank c = false)
    (hg : IsGap g)
    (hremainder : remainder = [] ∨ IsRemainder remainder ∧ ∀ c ∈ remainder.getLast?, Text.isBlank c = false) :
    ∃ g' remainder', IsGap g' ∧ (remainder' = [] ∨ IsRemainder remainder') ∧
      Text.strip (a ++ ')' :: (g ++ remainder)) = a ++ ')' :: (g' ++ remainder') := by
  obtain rfl | ⟨hremainder, hlast⟩ := hremainder
  · have hblank : Text.isBlankLine g = true := List.all_eq_true.2 fun c hc => Cursor.isBlank_of_isGap c (hg c hc)
    have hstrip := Text.strip_append_eq_self a [')'] ha hhead (List.cons_ne_nil _ _) (by decide)
    have hfront : a ++ ')' :: (g ++ []) = (a ++ [')']) ++ g := by simp
    refine ⟨[], [], nofun, .inl rfl, ?_⟩
    rw [hfront, Text.strip_append_right _ g hblank, hstrip, List.append_nil]
  · have hstrip := Text.strip_append_eq_self (a ++ ')' :: g) remainder (by simp)
      (by rwa [List.head?_append_of_ne_nil _ ha]) hremainder.nonempty (Text.strip_eq_self _ hremainder.head hlast)
    rw [List.append_assoc, List.cons_append] at hstrip
    exact ⟨g, remainder, hg, .inr hremainder, hstrip⟩

/-- A line is read as the head of a function exactly if it is written as one, and then its name and its parameters are
read; else the fault tells the line. So every list of parameters comes back, whatever white space is around them and
however many commas between them and behind them, as long as only a gap stands before the first of all these. -/
theorem function_grammar :
    (∀ l : Line,
      (∀ header, ofLine l = .ok header ↔ Written l.stripped header) ∧
      ((¬∃ header, Written l.stripped header) → ∃ fault, ofLine l = .error fault ∧
        fault.className = "FluxoParseError".toList ∧
        fault.message = "Invalid export function: ".toList ++ l.stripped ∧ fault.token = l.stripped)) ∧
    ∀ (before g₁ g₂ name g₃ : Text) (pieces parameters : List Text) (g₅ remainder after : Text) (number : Option Nat),
      Text.isBlankLine before = true → IsGap g₁ → IsGap g₂ → IsName name → IsGap g₃ → Listed pieces parameters →
      (∀ p ∈ parameters, p ≠ [] ∧ Text.strip p = p ∧ ',' ∉ p ∧ ')' ∉ p) →
      (∀ c ∈ ((Text.joinWith [','] pieces).dropWhile Cursor.isGap).head?, Text.isBlank c = false) → IsGap g₅ →
      (remainder = [] ∨ IsRemainder remainder ∧ ∀ c ∈ remainder.getLast?, Text.isBlank c = false) →
      Text.isBlankLine after = true →
      ofLine ⟨before ++ ("export".toList ++ (g₁ ++ ("function".toList ++ (g₂ ++ (name ++ (g₃ ++ ("(".toList ++
          (Text.joinWith [','] pieces ++ ')' :: (g₅ ++ remainder))))))))) ++ after, number⟩ =
        .ok ⟨name, parameters⟩ := by
  refine ⟨fun l => ⟨ofLine_eq_ok_iff l, fun hnone => ?_⟩, ?_⟩
  · exact Fault.exists_badHeader .function l.stripped (read l.stripped) fun header hheader =>
      hnone ⟨header, (ofLine_eq_ok_iff l header).1 ((Except.mapError_eq_ok_iff _ _ _).2 hheader)⟩
  · intro before g₁ g₂ name g₃ pieces parameters g₅ remainder after number hbefore hg₁ hg₂ hname hg₃ hlisted hp hhead
      hg₅ hremainder hafter
    have hclosing : ')' ∉ Text.joinWith [','] pieces :=
      Text.notMem_joinWith ',' ')' pieces (by decide) (hlisted.notMem ')' (by decide) fun p hmem => (hp p hmem).2.2.2)
    have hparameters := hlisted.parametersOf_eq fun p hmem => ⟨(hp p hmem).1, (hp p hmem).2.1, (hp p hmem).2.2.1⟩
    -- The gap before the first parameter is skipped as a token is; only what follows is read as parameters.
    obtain ⟨g₄, u, htext, hg₄, hu⟩ := exists_gap_parameters _ hclosing hhead
    rw [htext, parametersOf_append_of_gap g₄ u hg₄, parametersOf_eq] at hparameters
    obtain ⟨g, remainder', hg, hremainder', hstrip⟩ := exists_strip_closing ("export".toList ++ (g₁ ++
      ("function".toList ++ (g₂ ++ (name ++ (g₃ ++ ("(".toList ++ (g₄ ++ u))))))))
      g₅ remainder (by simp) (by simp; decide) hg₅ hremainder
    have hwritten := Written.intro g₁ g₂ name g₃ g₄ u g remainder' hg₁ hg₂ hname hg₃ hg₄ hu hg hremainder'
    simp only [List.append_assoc] at hstrip
    rw [hparameters] at hwritten
    rw [ofLine_eq_ok_iff, Line.stripped, Text.strip_append _ _ _ hbefore hafter, htext, List.append_assoc g₄, hstrip]
    exact hwritten

/-- White space of all kinds stands around the parameters, but for the front, and some commas set nothing apart. -/
theorem function_grammar_spaced :
    let pieces := [" ".toList, "\na \u00a0".toList, [], "\x7bb\t\x7d".toList, "\n".toList]
    Text.isBlankLine [] = true ∧ IsGap [] ∧ IsName "function".toList ∧
      Listed pieces ["a".toList, "\x7bb\t\x7d".toList] ∧
      (∀ p ∈ ["a".toList, "\x7bb\t\x7d".toList], p ≠ [] ∧ Text.strip p = p ∧ ',' ∉ p ∧ ')' ∉ p) ∧
      (∀ c ∈ ((Text.joinWith [','] pieces).dropWhile Cursor.isGap).head?, Text.isBlank c = false) ∧
      IsRemainder "\x7b )".toList ∧ (∀ c ∈ "\x7b )".toList.getLast?, Text.isBlank c = false) ∧
      ofLine ⟨"exportfunctionfunction( ,\na \u00a0,,\x7bb\t\x7d,\n)\x7b )".toList, none⟩ =
        .ok ⟨"function".toList, ["a".toList, "\x7bb\t\x7d".toList]⟩ := by
  intro pieces
  have hlisted : Listed pieces ["a".toList, "\x7bb\t\x7d".toList] := by
    refine .blank _ (by decide) (.parameter "\n".toList "a".toList " \u00a0".toList (by decide) (by decide) ?_)
    exact .blank _ (by decide)
      (.parameter [] "\x7bb\t\x7d".toList [] (by decide) (by decide) (.blank _ (by decide) .nil))
  have hparameters : ∀ c ∈ ((Text.joinWith [','] pieces).dropWhile Cursor.isGap).head?, Text.isBlank c = false := by
    rintro _ ⟨⟩
    decide
  have hfront : ∀ c ∈ "\x7b )".toList.head?, Text.isBlank c = false := by
    rintro _ ⟨⟩
    decide
  have hlast : ∀ c ∈ "\x7b )".toList.getLast?, Text.isBlank c = false := by
    rintro _ ⟨⟩
    decide
  have hremainder : IsRemainder "\x7b )".toList := ⟨by decide, hfront, by decide⟩
  have hread := function_grammar.2 [] [] [] "function".toList [] pieces ["a".toList, "\x7bb\t\x7d".toList] []
    "\x7b )".toList [] none (by decide) nofun nofun (by decide) nofun hlisted (by decide) hparameters nofun
    (.inr ⟨hremainder, hlast⟩) (by decide)
  exact ⟨by decide, nofun, by decide, hlisted, by decide, hparameters, hremainder, hlast, hread⟩

end FunctionHeader

end DeskScript
