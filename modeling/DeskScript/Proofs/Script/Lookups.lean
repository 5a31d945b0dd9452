import DeskScript.Proofs.Desktop.Requests
import DeskScript.Proofs.Script.RoundTrip

namespace DeskScript

namespace Lookups

open Text

def call (w property k : Text) : Shape.Call := ⟨w, property, "find".toList, inQuotes k⟩

def expressionLine (x w property k : Text) : Text := DeclarationHeader.write ⟨x, (call w property k).write⟩

def blockLine (x w property k : Text) : Text :=
  DeclarationHeader.write ⟨x, '{' :: (' ' :: ((call w property k).write ++ [' ']) ++ ['}'])⟩

def IsLibrary (property : Text) : Prop := property = "library".toList ∨ property = "libary".toList

theorem IsLibrary.isName {property : Text} (h : IsLibrary property) : IsName property := by
  obtain rfl | rfl := h <;> decide

theorem IsLibrary.handleNamed? {property : Text} (h : IsLibrary property) :
    Desktop.handleNamed? property = some .library := by
  obtain rfl | rfl := h <;> decide

variable {w property k : Text}

theorem notMem_write (hw : IsName w) (hproperty : IsName property) (hk : IsQuotable k) :
    ∀ c ∈ ['{', '}', '\n'], c ∉ (call w property k).write := by
  have hquotes := hk.notMem_inQuotes
  intro c hc
  simp only [List.mem_cons, List.not_mem_nil, or_false] at hc
  obtain rfl | rfl | rfl := hc
  · simp [Shape.Call.write, call, hw.notMem '{' (by decide), hproperty.notMem '{' (by decide), hquotes '{' (by decide)]
  · simp [Shape.Call.write, call, hw.notMem '}' (by decide), hproperty.notMem '}' (by decide), hquotes '}' (by decide)]
  · simp [Shape.Call.write, call, hw.notMem '\n' (by decide), hproperty.notMem '\n' (by decide),
      hquotes '\n' (by decide)]

theorem ofText_write (hw : IsName w) (hproperty : IsLibrary property) (hk : IsQuotable k) :
    Expression.ofText (call w property k).write = .action w .find [.text k] := by
  rw [Expression.ofText_write _ hw hproperty.isName Shape.isName_find (hk.notMem_inQuotes ')' (by decide)),
    Expression.ofCall]
  dsimp only [call]
  rw [hproperty.handleNamed?, hk.listOf_inQuotes]
  rfl

/-- A block takes the white space off after the quotes. -/
theorem ofBlock_write (hw : IsName w) (hproperty : IsName property) (hk : IsQuotable k) :
    Expression.ofBlock (call w property k).write = .action w .find [.text (strip k)] := by
  have hfind : Shape.find? (call w property k).write = some (w, inQuotes k) :=
    Shape.find?_append w property (inQuotes k) [] hw hproperty (hk.notMem_inQuotes ')' (by decide))
  rw [Expression.ofBlock, hfind]
  dsimp only
  rw [unquote_inQuotes k (hk '"' (by decide)) (hk '\'' (by decide))]

variable (x : Text) (number : Option Nat) (rest : List Line)

theorem strip_expressionLine (hw : IsName w) : strip (expressionLine x w property k) = expressionLine x w property k :=
  DeclarationHeader.strip_write ⟨x, (call w property k).write⟩ (by simp [Shape.Call.write])
    ((call w property k).strip_write hw)

@[simp] theorem strip_blockLine : strip (blockLine x w property k) = blockLine x w property k := by
  refine DeclarationHeader.strip_write _ (List.cons_ne_nil _ _) ?_
  exact strip_append_eq_self ('{' :: ' ' :: ((call w property k).write ++ [' '])) ['}'] (List.cons_ne_nil _ _)
    (by simp; decide) (List.cons_ne_nil _ _) (by decide)

theorem read_expressionLine (hx : IsName x) (hw : IsName w) (hproperty : IsLibrary property) (hk : IsQuotable k) :
    Declaration.read ⟨expressionLine x w property k, number⟩ rest = .ok ⟨x, .action w .find [.text k], 0⟩ := by
  have hplain := notMem_write hw hproperty.isName hk
  have hhead : ∀ c ∈ (call w property k).write.head?, isBlank c = false :=
    (not_blank_of_strip_eq_self _ ((call w property k).strip_write hw)).1
  have hremainder : Cursor.IsRemainder (call w property k).write :=
    ⟨by simp [Shape.Call.write], hhead, hplain '\n' (by decide)⟩
  have hheader := DeclarationHeader.ofLine_of_stripped_eq_write ⟨expressionLine x w property k, number⟩ _
    (strip_expressionLine x hw) hx hremainder
  have hbrace : '{' ∉ strip (expressionLine x w property k) := by
    rw [strip_expressionLine x hw]
    simp [expressionLine, DeclarationHeader.write, declarationWord, hx.notMem '{' (by decide), hplain '{' (by decide)]
  rw [Declaration.read_of_notMem ⟨expressionLine x w property k, number⟩ rest hbrace, hheader,
    ← ofText_write hw hproperty hk]
  dsimp only [Except.map]
  rw [(call w property k).strip_write hw]

theorem read_blockLine (hx : IsName x) (hw : IsName w) (hproperty : IsName property) (hk : IsQuotable k) :
    Declaration.read ⟨blockLine x w property k, number⟩ rest = .ok ⟨x, .action w .find [.text (strip k)], 0⟩ := by
  have hplain : ∀ c ∈ ['{', '}', '\n'], c ∉ ' ' :: ((call w property k).write ++ [' ']) := by
    intro c hc
    have hne : c ≠ ' ' := by
      rintro rfl
      exact absurd hc (by decide)
    simp [hne, notMem_write hw hproperty hk c hc]
  have hstrip : strip (' ' :: ((call w property k).write ++ [' '])) = (call w property k).write :=
    (strip_append [' '] _ [' '] (by decide) (by decide)).trans ((call w property k).strip_write hw)
  rw [blockLine, Declaration.read_braced x _ hx hplain number rest, hstrip, ofBlock_write hw hproperty hk]

variable (s : Session) (n : Nat) (window : Window) (members : List (Text × Json))

/-- The session after the entry under `k` has been bound to the name. The window has its library then. -/
def found (k : Text) : Session :=
  { s with desktop := s.desktop.setWindow n { window with library := .object members } }.bind x
    (.plain ((members.lookup k).getD .null))

theorem evaluate_find (hs : s.lookup w = .window n) (hwindow : s.desktop.windows[n]? = some window)
    (hmembers : window.libraryOrDefault = .object members) :
    s.evaluate (.action w .find [.text k]) = .ok (.plain ((members.lookup k).getD .null),
      s.desktop.setWindow n { window with library := .object members }) := by
  have hw : s.window? w = some n := by
    rw [Session.window?, hs]
  rw [Session.evaluate, hw]
  exact s.desktop.perform_find n window hwindow members hmembers [.text k]

variable {x s n window members}

theorem step_expressionLine (hx : IsName x) (hw : IsName w) (hproperty : IsLibrary property) (hk : IsQuotable k)
    (hs : s.lookup w = .window n) (hwindow : s.desktop.windows[n]? = some window)
    (hmembers : window.libraryOrDefault = .object members) :
    s.step ⟨expressionLine x w property k, number⟩ rest = .ok (found x s n window members k, 0) := by
  have hword : startsWith declarationWord (strip (expressionLine x w property k)) = true := by
    rw [strip_expressionLine x hw]
    exact DeclarationHeader.startsWith_write _
  exact s.step_of_read ⟨expressionLine x w property k, number⟩ rest _ _ _ hword
    (read_expressionLine x number rest hx hw hproperty hk) (evaluate_find s n window members hs hwindow hmembers)

theorem step_blockLine (hx : IsName x) (hw : IsName w) (hproperty : IsName property) (hk : IsQuotable k)
    (hs : s.lookup w = .window n) (hwindow : s.desktop.windows[n]? = some window)
    (hmembers : window.libraryOrDefault = .object members) :
    s.step ⟨blockLine x w property k, number⟩ rest = .ok (found x s n window members (strip k), 0) := by
  have hword : startsWith declarationWord (strip (blockLine x w property k)) = true := by
    rw [strip_blockLine]
    exact DeclarationHeader.startsWith_write _
  exact s.step_of_read ⟨blockLine x w property k, number⟩ rest _ _ _ hword
    (read_blockLine x number rest hx hw hproperty hk) (evaluate_find s n window members hs hwindow hmembers)

theorem isQuotable_strip (hk : IsQuotable k) : IsQuotable (strip k) :=
  fun c hc hmem => hk c hc (mem_of_mem_strip k c hmem)

/-- Both forms succeed and leave the same desktop, in which the window has its library. The expression finds the entry
under the text in the quotes; the block finds what the expression finds under that text without the white space at its
ends, so both find the same if there is none. -/
theorem step_find_forms (hx : IsName x) (hw : IsName w) (hproperty : IsLibrary property) (hk : IsQuotable k)
    (hs : s.lookup w = .window n) (hwindow : s.desktop.windows[n]? = some window)
    (hlibrary : window.library = .object members ∨ window.library = .null ∧ members = window.defaultLibrary) :
    s.step ⟨expressionLine x w property k, number⟩ rest = .ok (found x s n window members k, 0) ∧
      s.step ⟨blockLine x w property k, number⟩ rest = .ok (found x s n window members (strip k), 0) ∧
      s.step ⟨blockLine x w property k, number⟩ rest = s.step ⟨expressionLine x w property (strip k), number⟩ rest ∧
      (strip k = k →
        s.step ⟨blockLine x w property k, number⟩ rest = s.step ⟨expressionLine x w property k, number⟩ rest) := by
  have hmembers := window.libraryOrDefault_eq_object members hlibrary
  have hexpression := step_expressionLine number rest hx hw hproperty hk hs hwindow hmembers
  have hblock := step_blockLine number rest hx hw hproperty.isName hk hs hwindow hmembers
  have hstripped := step_expressionLine number rest hx hw hproperty (isQuotable_strip hk) hs hwindow hmembers
  refine ⟨hexpression, hblock, hblock.trans hstripped.symm, fun h => ?_⟩
  rw [hblock, hexpression, h]

/-- A window without a library: the block finds an entry of the default one, and the expression finds nothing. -/
theorem step_find_forms_default :
    let window : Window :=
      ⟨['a'], .text [], .text [], .int 3, .int 2, .null, .null, .null, .null, .null, .absent, .null⟩
    let s : Session := (Session.start (.ofWindows [window]) none).bind ['w'] (.window 0)
    let k : Text := " components".toList
    let line := "local x = \x7b w.libary:find(\" components\") \x7d".toList
    IsName ['x'] ∧ IsName ['w'] ∧ IsLibrary "libary".toList ∧ IsQuotable k ∧ s.lookup ['w'] = .window 0 ∧
      s.desktop.windows[0]? = some window ∧ window.library = .null ∧
      s.step ⟨line, none⟩ [] = .ok (found ['x'] s 0 window window.defaultLibrary "components".toList, 0) ∧
      (found ['x'] s 0 window window.defaultLibrary "components".toList).lookup ['x'] = .plain (.array []) ∧
      (found ['x'] s 0 window window.defaultLibrary k).lookup ['x'] = .null := by
  intro window s k line
  have hx : IsName ['x'] := by decide
  have hw : IsName ['w'] := by decide
  have hk : IsQuotable k := by decide
  have hs : s.lookup ['w'] = .window 0 := rfl
  have hline : line = blockLine ['x'] ['w'] "libary".toList k := by decide
  have hstrip : strip k = "components".toList := by decide
  have hproperty : IsLibrary "libary".toList := .inr rfl
  have hwindow : s.desktop.windows[0]? = some window := rfl
  obtain ⟨-, hblock, -⟩ := step_find_forms none [] hx hw hproperty hk hs hwindow (.inr ⟨rfl, rfl⟩)
  rw [← hline, hstrip] at hblock
  exact ⟨hx, hw, hproperty, hk, hs, hwindow, rfl, hblock, rfl, rfl⟩

/-- The two forms of one call bind different values where a library has a key with white space at its ends. -/
theorem find_forms_differ :
    let members : List (Text × Json) := [(" a ".toList, .int 1), (['a'], .int 2)]
    let window : Window := ⟨['a'], .text [], .text [], .int 3, .int 2, .null, .null, .null, .null, .null, .absent,
      .object members⟩
    let s : Session := (Session.start (.ofWindows [window]) none).bind ['w'] (.window 0)
    IsQuotable " a ".toList ∧ s.lookup ['w'] = .window 0 ∧ s.desktop.windows[0]? = some window ∧
      ∃ s₁ s₂ : Session, s.step ⟨"local x = w.library:find(\" a \")".toList, none⟩ [] = .ok (s₁, 0) ∧
        s.step ⟨"local x = \x7b w.library:find(\" a \") \x7d".toList, none⟩ [] = .ok (s₂, 0) ∧
        s₁.lookup ['x'] = .plain (.int 1) ∧ s₂.lookup ['x'] = .plain (.int 2) := by
  intro members window s
  have hx : IsName ['x'] := by decide
  have hw : IsName ['w'] := by decide
  have hk : IsQuotable " a ".toList := by decide
  have hs : s.lookup ['w'] = .window 0 := rfl
  have hproperty : IsLibrary "library".toList := .inl rfl
  have hwindow : s.desktop.windows[0]? = some window := rfl
  have hmembers : window.libraryOrDefault = .object members := rfl
  have hexpression := step_expressionLine none [] hx hw hproperty hk hs hwindow hmembers
  have hblock := step_blockLine none [] hx hw hproperty.isName hk hs hwindow hmembers
  have hstrip : strip " a ".toList = ['a'] := by decide
  have hexpressionLine : expressionLine ['x'] ['w'] "library".toList " a ".toList =
      "local x = w.library:find(\" a \")".toList := by decide
  have hblockLine : blockLine ['x'] ['w'] "library".toList " a ".toList =
      "local x = \x7b w.library:find(\" a \") \x7d".toList := by decide
  rw [hexpressionLine] at hexpression
  rw [hblockLine, hstrip] at hblock
  exact ⟨hk, hs, hwindow, _, _, hexpression, hblock, rfl, rfl⟩

end Lookups

end DeskScript
