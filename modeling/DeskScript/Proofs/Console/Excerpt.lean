import DeskScript.Console.Excerpt
import DeskScript.Proofs.Console.Ansi
import DeskScript.Proofs.Script.Source
import DeskScript.Proofs.Text.Lines
import DeskScript.Proofs.Text.Numeral
import DeskScript.Proofs.Text.Piece
import Mathlib.Data.List.Intervals

namespace DeskScript

namespace Excerpt

open Text

theorem strip_highlight (token content : Text) (h : '\x1b' ∉ content) :
    Ansi.strip (highlight token content) = content := by
  unfold highlight
  split
  · rename_i c token before after hcut
    have hcontent := cutAt?_eq _ _ _ _ hcut
    rw [hcontent] at h ⊢
    simp only [List.mem_append, not_or] at h
    simp only [List.append_assoc]
    have hbackdrop := Ansi.isCode_of_mem Ansi.backdrop (by decide)
    have hbold := Ansi.isCode_of_mem Ansi.bold (by decide)
    have hreset := Ansi.isCode_of_mem Ansi.reset (by decide)
    rw [Ansi.strip_append_of_notMem _ _ h.1.1, Ansi.strip_append_of_isCode _ _ hbackdrop,
      Ansi.strip_append_of_isCode _ _ hbold, Ansi.strip_append_of_notMem _ _ h.1.2,
      Ansi.strip_append_of_isCode _ _ hreset, Ansi.strip_eq_self _ h.2]
  · exact Ansi.strip_eq_self _ h

theorem newline_notMem_highlight (token content : Text) (h : '\n' ∉ content) : '\n' ∉ highlight token content := by
  unfold highlight
  split
  · rename_i c token before after hcut
    have hcontent := cutAt?_eq _ _ _ _ hcut
    rw [hcontent] at h
    simp only [List.mem_append, not_or] at h
    simp only [List.mem_append, not_or]
    have hbackdrop := Ansi.isCode_of_mem Ansi.backdrop (by decide)
    have hbold := Ansi.isCode_of_mem Ansi.bold (by decide)
    have hreset := Ansi.isCode_of_mem Ansi.reset (by decide)
    exact ⟨⟨⟨⟨⟨h.1.1, hbackdrop.newline_notMem⟩, hbold.newline_notMem⟩, h.1.2⟩, hreset.newline_notMem⟩, h.2⟩
  · exact h

def margin (n : Nat) : Text := padLeft 5 (ofNat n) ++ " |".toList

theorem notMem_margin (n : Nat) (c : Char) (hc : c.isDigit = false) (hs : c ∉ " |".toList) : c ∉ margin n := by
  intro h
  obtain h | h := List.mem_append.1 h
  · obtain rfl | h := mem_padLeft _ _ _ h
    · exact hs (by decide)
    · rw [isDigit_of_mem_ofNat n c h] at hc
      cases hc
  · exact hs h

theorem row_of_ne (line : Int) (token : Option Text) (n : Nat) (displayed : Text) (h : (n : Int) ≠ line) :
    row line token n displayed =
      Ansi.grey ++ margin n ++ Ansi.reset ++ [' '] ++ withoutLineFeed displayed := by
  rw [row]
  simp [h, margin]

theorem row_self (token : Option Text) (n : Nat) (displayed : Text) :
    row n token n displayed =
      Ansi.bright ++ margin n ++ Ansi.reset ++ [' '] ++ highlight (token.getD []) (withoutLineFeed displayed) := by
  rw [row]
  simp [margin]

theorem exists_row_eq (line : Int) (token : Option Text) (n : Nat) (displayed : Text) :
    ∃ colour content, Ansi.IsCode colour ∧
      row line token n displayed = colour ++ margin n ++ Ansi.reset ++ [' '] ++ content ∧
      (content = withoutLineFeed displayed ∨ content = highlight (token.getD []) (withoutLineFeed displayed)) := by
  by_cases hline : (n : Int) = line
  · subst hline
    exact ⟨_, _, Ansi.isCode_of_mem Ansi.bright (by decide), row_self token n displayed, .inr rfl⟩
  · exact ⟨_, _, Ansi.isCode_of_mem Ansi.grey (by decide), row_of_ne line token n displayed hline, .inl rfl⟩

theorem strip_row (line : Int) (token : Option Text) (n : Nat) (displayed : Text)
    (h : '\x1b' ∉ withoutLineFeed displayed) :
    Ansi.strip (row line token n displayed) = margin n ++ [' '] ++ withoutLineFeed displayed := by
  obtain ⟨colour, content, hcolour, hrow, hcontent⟩ := exists_row_eq line token n displayed
  have hshown : Ansi.strip content = withoutLineFeed displayed := by
    obtain rfl | rfl := hcontent
    · exact Ansi.strip_eq_self _ h
    · exact strip_highlight _ _ h
  have hreset := Ansi.isCode_of_mem Ansi.reset (by decide)
  rw [hrow]
  simp only [List.append_assoc]
  rw [Ansi.strip_append_of_isCode _ _ hcolour,
    Ansi.strip_append_of_notMem _ _ (notMem_margin n _ (by decide) (by decide)),
    Ansi.strip_append_of_isCode _ _ hreset, Ansi.strip_append_of_notMem _ _ (by decide), hshown]

theorem newline_notMem_row (line : Int) (token : Option Text) (n : Nat) (displayed : Text)
    (h : '\n' ∉ withoutLineFeed displayed) : '\n' ∉ row line token n displayed := by
  obtain ⟨colour, content, hcolour, hrow, hcontent⟩ := exists_row_eq line token n displayed
  have hno : '\n' ∉ content := by
    obtain rfl | rfl := hcontent
    · exact h
    · exact newline_notMem_highlight _ _ h
  have hmargin := notMem_margin n '\n' (by decide) (by decide)
  have hreset := Ansi.isCode_of_mem Ansi.reset (by decide)
  rw [hrow]
  simp [hcolour.newline_notMem, hmargin, hreset.newline_notMem, hno]

theorem withoutLineFeed_eq (t : Text) (h : '\n' ∉ t) :
    withoutLineFeed t = t ∧ withoutLineFeed (t ++ ['\n']) = t := by
  have hself : t.reverse.dropWhile (· = '\n') = t.reverse := by
    cases hr : t.reverse with
    | nil => rfl
    | cons c u =>
      have hc : c ≠ '\n' := by
        rintro rfl
        exact h (List.mem_reverse.1 (hr ▸ List.mem_cons_self ..))
      simp [hc]
  constructor
  · rw [withoutLineFeed, hself, List.reverse_reverse]
  · rw [withoutLineFeed, List.reverse_append, List.reverse_singleton, List.singleton_append,
      List.dropWhile_cons_of_pos (by simp), hself, List.reverse_reverse]

theorem mem_window_of_getElem? (n : Nat) (source displayed : Text)
    (h : (displayLines source)[n]? = some displayed) : (displayed, n + 1) ∈ window (n + 1) source := by
  apply List.mem_filter.2
  constructor
  · exact List.mk_mem_zipIdx_iff_le_and_getElem?_sub.2 ⟨by omega, by simpa using h⟩
  · rw [Bool.and_eq_true, decide_eq_true_eq, decide_eq_true_eq]
    omega

def outputLines (file : Text) (line : Int) (token : Option Text) (source : Text) : List Text :=
  header file line :: (window line source).map fun r => row line token r.2 r.1

theorem row_mem_outputLines (file : Text) (line : Int) (token : Option Text) (source displayed : Text) (n : Nat)
    (h : (displayed, n) ∈ window line source) : row line token n displayed ∈ outputLines file line token source :=
  List.mem_cons_of_mem _ (List.mem_map.2 ⟨(displayed, n), h, rfl⟩)

theorem splitOn_write (file : Text) (line : Int) (token : Option Text) (source : Text) :
    splitOn '\n' (write file line token source) =
      [] :: (outputLines file line token source).flatMap (splitOn '\n') ++ [[]] := by
  rw [outputLines, ← splitOn_joinWith_eq]
  exact splitOn_append_cons '\n' ('\n' :: _) []

theorem row_mem_splitOn (file : Text) (line : Int) (token : Option Text) (source displayed : Text) (n : Nat)
    (h : (displayed, n) ∈ window line source) (hn : '\n' ∉ row line token n displayed) :
    row line token n displayed ∈ splitOn '\n' (write file line token source) := by
  rw [splitOn_write]
  apply List.mem_append_left
  apply List.mem_cons_of_mem
  refine List.mem_flatMap.2 ⟨_, row_mem_outputLines file line token source displayed n h, ?_⟩
  rw [splitOn_of_notMem _ _ hn]
  exact List.mem_singleton_self _

/-- Each line of a script has a row in the excerpt around it. If it and the lines before it are plain, the row
shows, without its colours, the number and exactly the line. -/
theorem exists_row (file : Text) (token : Option Text) (source : Text) (l : Line) (n : Nat)
    (hl : l ∈ Line.ofSource source) (hn : l.number = some n) :
    ∃ displayed, (displayed, n) ∈ window n source ∧
      ((∀ p ∈ (splitOn '\n' source).take n, IsPlainLine p) → '\x1b' ∉ source →
        row n token n displayed ∈ splitOn '\n' (write file n token source) ∧
          Ansi.strip (row n token n displayed) = padLeft 5 (ofNat n) ++ " | ".toList ++ l.text) := by
  obtain ⟨i, hnumber, hpiece, hsilent⟩ := Line.exists_of_mem_ofSource source l hl
  obtain rfl : n = i + 1 := Option.some.inj (hn.symm.trans hnumber)
  have hne : l.text ≠ [] := by
    intro he
    rw [he] at hsilent
    exact absurd hsilent (by decide)
  have hlength := lt_length_displayLines source i l.text hpiece hne
  obtain ⟨displayed, hdisplayed⟩ : ∃ displayed, (displayLines source)[i]? = some displayed :=
    ⟨_, List.getElem?_eq_getElem hlength⟩
  have hwindow := mem_window_of_getElem? i source displayed hdisplayed
  refine ⟨displayed, hwindow, fun hplain hescape => ?_⟩
  have hmem : l.text ∈ splitOn '\n' source := List.mem_of_getElem? hpiece
  have hfeed : '\n' ∉ l.text := notMem_of_mem_splitOn _ _ _ hmem
  have hesc : '\x1b' ∉ l.text := fun hc => hescape (mem_of_mem_splitOn _ _ _ _ hmem hc)
  -- The lines before are plain, so the displayed lines and those of the script are numbered alike up to here.
  have hcontent : withoutLineFeed displayed = l.text := by
    obtain h | h := getElem?_displayLines source i l.text hpiece hne hplain
    · obtain rfl : displayed = l.text := Option.some.inj (hdisplayed.symm.trans h)
      exact (withoutLineFeed_eq _ hfeed).1
    · obtain rfl : displayed = l.text ++ ['\n'] := Option.some.inj (hdisplayed.symm.trans h)
      exact (withoutLineFeed_eq _ hfeed).2
  have hrow := newline_notMem_row (i + 1) token (i + 1) displayed (by rwa [hcontent])
  refine ⟨row_mem_splitOn file _ token source displayed _ hwindow hrow, ?_⟩
  have hshown := strip_row (i + 1) token (i + 1) displayed (by rwa [hcontent])
  rw [hcontent] at hshown
  refine hshown.trans ?_
  simp [margin]

/-- A line with a highlighted piece, behind one that ends in a carriage return. -/
theorem exists_row_highlighted :
    let source : Text := "a\r\nlocal = 1".toList
    ⟨"local = 1".toList, some 2⟩ ∈ Line.ofSource source ∧ (∀ p ∈ (splitOn '\n' source).take 2, IsPlainLine p) ∧
      '\x1b' ∉ source ∧ ∃ r ∈ splitOn '\n' (write ['f'] 2 (some ['=']) source),
        Ansi.strip r = "    2 | local = 1".toList := by
  intro source
  have hl : ⟨"local = 1".toList, some 2⟩ ∈ Line.ofSource source := by decide
  have hplain : ∀ p ∈ (splitOn '\n' source).take 2, IsPlainLine p := by
    intro p hp
    have hpieces : (splitOn '\n' source).take 2 = ["a\r".toList, "local = 1".toList] := by decide
    rw [hpieces] at hp
    obtain rfl | hp := List.mem_cons.1 hp
    · exact ⟨['a'], by simp; decide, .inr rfl⟩
    · obtain rfl := List.mem_singleton.1 hp
      exact ⟨"local = 1".toList, by simp; decide, .inl rfl⟩
  have hescape : '\x1b' ∉ source := by decide
  obtain ⟨displayed, -, hrow⟩ := exists_row ['f'] (some ['=']) source _ 2 hl rfl
  obtain ⟨hmem, hshown⟩ := hrow hplain hescape
  exact ⟨hl, hplain, hescape, _, hmem, hshown⟩

/-- Behind a form feed the numbers of the rows are not those of the lines. -/
theorem row_of_formFeed :
    let source : Text := "a\x0cb\nlocal = 1".toList
    ⟨"local = 1".toList, some 2⟩ ∈ Line.ofSource source ∧ '\x1b' ∉ source ∧
      (window 2 source).find? (fun r => r.2 == 2) = some ("b\n".toList, 2) ∧
      ∀ r ∈ splitOn '\n' (write "<test>".toList 2 none source), Ansi.strip r ≠ "    2 | local = 1".toList := by
  decide

/-- What a row shows of the line with the number `n`. -/
def shownLine (source : Text) (n : Nat) : Text := withoutLineFeed ((displayLines source)[n - 1]?.getD [])

theorem displayed_eq (source : Text) (n : Nat) (h : 1 ≤ n) (hn : n ≤ (displayLines source).length) :
    '\n' ∉ shownLine source n ∧ ((displayLines source)[n - 1]? = some (shownLine source n) ∨
      (displayLines source)[n - 1]? = some (shownLine source n ++ ['\n'])) := by
  obtain ⟨d, hd⟩ : ∃ d, (displayLines source)[n - 1]? = some d :=
    ⟨_, List.getElem?_eq_getElem (Nat.sub_one_lt_of_le h hn)⟩
  obtain ⟨u, hu, hdu⟩ := exists_of_mem_displayLines source d (List.mem_of_getElem? hd)
  have hshown : shownLine source n = u := by
    rw [shownLine, hd]
    obtain rfl | rfl := hdu
    · exact (withoutLineFeed_eq _ hu).1
    · exact (withoutLineFeed_eq _ hu).2
  rw [hshown, hd]
  exact ⟨hu, hdu.imp (congrArg some) (congrArg some)⟩

theorem escape_notMem_shownLine (source : Text) (n : Nat) (h : '\x1b' ∉ source) : '\x1b' ∉ shownLine source n := by
  unfold shownLine
  cases hd : (displayLines source)[n - 1]? with
  | none => exact List.not_mem_nil
  | some d =>
    intro hmem
    have hfeeds := List.mem_reverse.1 ((List.dropWhile_suffix _).mem (List.mem_reverse.1 hmem))
    exact h (mem_of_mem_displayLines source d _ (List.mem_of_getElem? hd) hfeeds)

/-- The numbers of the rows around a line, `count` being that of the last line. -/
def numbers (line count : Nat) : List Nat := List.Ico (max 1 (line - 2)) (min count (line + 2) + 1)

theorem zipIdx_eq_map (lines : List Text) :
    lines.zipIdx 1 = (List.Ico 1 (lines.length + 1)).map fun n => (lines[n - 1]?.getD [], n) := by
  apply List.ext_getElem
  · simp
  · intro i hi _
    have hlines : i < lines.length := by simpa using hi
    simp [List.Ico, hlines, Nat.add_comm]

theorem window_eq (line : Nat) (source : Text) :
    window line source = (numbers line (displayLines source).length).map
      fun n => ((displayLines source)[n - 1]?.getD [], n) := by
  have hwithin : ∀ n : Nat, ((line : Int) - 2 ≤ n && (n : Int) ≤ line + 2) =
      (decide (n < line + 3) && decide (line - 2 ≤ n)) := by
    intro n
    rw [Bool.eq_iff_iff]
    simp only [Bool.and_eq_true, decide_eq_true_eq]
    omega
  have hends : min (displayLines source).length (line + 2) + 1 = min ((displayLines source).length + 1) (line + 3) := by
    omega
  rw [window, zipIdx_eq_map, List.filter_map, numbers, hends, ← List.Ico.filter_lt, ← List.Ico.filter_le,
    List.filter_filter]
  exact congrArg _ (List.filter_congr fun n _ => hwithin n)

theorem write_eq (file : Text) (line : Int) (token : Option Text) (source : Text) :
    write file line token source = '\n' :: (outputLines file line token source).flatMap (· ++ ['\n']) := by
  rw [outputLines, flatMap_eq_joinWith]
  rfl

theorem outputLines_eq (file : Text) (line : Nat) (token : Option Text) (source : Text) :
    outputLines file line token source = header file line ::
      (numbers line (displayLines source).length).map
        fun n => row line token n ((displayLines source)[n - 1]?.getD []) := by
  rw [outputLines, window_eq, List.map_map]
  rfl

theorem escape_notMem_title (file : Text) (line : Nat) (h : '\x1b' ∉ file) :
    '\x1b' ∉ "  File \"".toList ++ file ++ "\", line ".toList ++ ofInt line := by
  have hnumber : '\x1b' ∉ ofInt line := fun hmem => absurd (isDigit_of_mem_ofNat line _ hmem) (by decide)
  simp only [List.mem_append, not_or]
  exact ⟨⟨⟨by decide, h⟩, by decide⟩, hnumber⟩

theorem strip_outputLine_row (line : Int) (token : Option Text) (source : Text) (n : Nat) (h : '\x1b' ∉ source) :
    Ansi.strip (row line token n ((displayLines source)[n - 1]?.getD [])) =
      padLeft 5 (ofNat n) ++ " | ".toList ++ shownLine source n := by
  rw [strip_row _ _ _ _ (escape_notMem_shownLine source n h), margin, List.append_assoc (padLeft 5 _)]
  rfl

theorem escape_notMem_strip_outputLine (file : Text) (line : Nat) (token : Option Text) (source l : Text)
    (hfile : '\x1b' ∉ file) (hsource : '\x1b' ∉ source) (hl : l ∈ outputLines file line token source) :
    '\x1b' ∉ Ansi.strip l := by
  rw [outputLines_eq] at hl
  obtain rfl | hl := List.mem_cons.1 hl
  · rw [header, Ansi.strip_wrap _ _ (Ansi.isCode_of_mem Ansi.bright (by decide)) (escape_notMem_title file line hfile)]
    exact escape_notMem_title file line hfile
  · obtain ⟨n, -, rfl⟩ := List.mem_map.1 hl
    have hmargin := notMem_margin n '\x1b' (by decide) (by decide)
    rw [margin, List.mem_append, not_or] at hmargin
    rw [strip_outputLine_row line token source n hsource]
    simp [hmargin, escape_notMem_shownLine source n hsource]

theorem strip_write_eq (file : Text) (line : Nat) (token : Option Text) (source : Text) (hfile : '\x1b' ∉ file)
    (hsource : '\x1b' ∉ source) :
    Ansi.strip (write file line token source) =
      '\n' :: ("  File \"".toList ++ file ++ "\", line ".toList ++ ofNat line) ++ '\n' ::
        (numbers line (displayLines source).length).flatMap fun n =>
          padLeft 5 (ofNat n) ++ " | ".toList ++ shownLine source n ++ ['\n'] := by
  have hheader : Ansi.strip (header file line) = "  File \"".toList ++ file ++ "\", line ".toList ++ ofNat line :=
    Ansi.strip_wrap _ _ (Ansi.isCode_of_mem Ansi.bright (by decide)) (escape_notMem_title file line hfile)
  have hlines := Ansi.strip_flatMap (outputLines file line token source) fun l hl =>
    escape_notMem_strip_outputLine file line token source l hfile hsource hl
  rw [write_eq, ← List.singleton_append, Ansi.strip_append_of_notMem _ _ (by decide), hlines, outputLines_eq,
    List.flatMap_cons, hheader, List.flatMap_map]
  simp only [strip_outputLine_row _ _ _ _ hsource]
  simp

theorem highlight_eq (token content : Text) (hne : token ≠ []) (h : token <:+: content) :
    ∃ before after, highlight token content =
      before ++ (Ansi.backdrop ++ Ansi.bold ++ token ++ Ansi.reset) ++ after := by
  rw [← contains_iff_isInfix, contains_eq_isSome_cutAt?, Option.isSome_iff_exists] at h
  obtain ⟨⟨before, after⟩, hcut⟩ := h
  obtain ⟨c, token, rfl⟩ := List.exists_cons_of_ne_nil hne
  exact ⟨before, after, by simp [highlight, hcut]⟩

theorem of_backdrop_isInfix_highlight (token content : Text) (hescape : '\x1b' ∉ content)
    (h : Ansi.backdrop <:+: highlight token content) : token ≠ [] ∧ token <:+: content := by
  unfold highlight at h
  split at h
  · rename_i c token before after hcut
    refine ⟨List.cons_ne_nil c token, ?_⟩
    rw [← contains_iff_isInfix, contains_eq_isSome_cutAt?, hcut]
    rfl
  · have hbackdrop := Ansi.isCode_of_mem Ansi.backdrop (by decide)
    exact absurd h (hbackdrop.not_isInfix content hescape)

theorem of_backdrop_isInfix_append (colour : Text) (n : Nat) (content : Text) (hcolour : Ansi.IsCode colour)
    (hne : Ansi.backdrop ≠ colour) (h : Ansi.backdrop <:+: colour ++ margin n ++ Ansi.reset ++ [' '] ++ content) :
    Ansi.backdrop <:+: content := by
  simp only [List.append_assoc] at h
  have hmargin : '\x1b' ∉ margin n := notMem_margin n _ (by decide) (by decide)
  have hbackdrop := Ansi.isCode_of_mem Ansi.backdrop (by decide)
  have hreset := Ansi.isCode_of_mem Ansi.reset (by decide)
  have hnumber := hbackdrop.isInfix_of_ne hcolour hne _ h
  have hend := hbackdrop.isInfix_of_notMem _ _ hmargin hnumber
  have hblank := hbackdrop.isInfix_of_ne hreset (by decide) _ hend
  exact hbackdrop.isInfix_of_notMem [' '] _ (by decide) hblank

theorem of_backdrop_isInfix_row (line : Int) (token : Option Text) (n : Nat) (displayed : Text)
    (hescape : '\x1b' ∉ withoutLineFeed displayed) (h : Ansi.backdrop <:+: row line token n displayed) :
    (n : Int) = line ∧ token.getD [] ≠ [] ∧ token.getD [] <:+: withoutLineFeed displayed := by
  by_cases hline : (n : Int) = line
  · subst hline
    rw [row_self] at h
    have hcontent := of_backdrop_isInfix_append _ n _ (Ansi.isCode_of_mem Ansi.bright (by decide)) (by decide) h
    exact ⟨rfl, of_backdrop_isInfix_highlight _ _ hescape hcontent⟩
  · rw [row_of_ne line token n displayed hline] at h
    have hcontent := of_backdrop_isInfix_append _ n _ (Ansi.isCode_of_mem Ansi.grey (by decide)) (by decide) h
    have hbackdrop := Ansi.isCode_of_mem Ansi.backdrop (by decide)
    exact absurd hcontent (hbackdrop.not_isInfix _ hescape)

theorem row_isInfix_write (file : Text) (line : Int) (token : Option Text) (source displayed : Text) (n : Nat)
    (h : (displayed, n) ∈ window line source) :
    row line token n displayed <:+: write file line token source := by
  have hjoined := isInfix_joinWith ['\n'] _ _ (row_mem_outputLines file line token source displayed n h)
  exact hjoined.trans ⟨['\n'], ['\n'], rfl⟩

theorem of_backdrop_isInfix_write (file : Text) (line : Nat) (token : Option Text) (source : Text)
    (hfile : '\x1b' ∉ file) (hsource : '\x1b' ∉ source)
    (h : Ansi.backdrop <:+: write file line token source) :
    token.getD [] ≠ [] ∧ token.getD [] <:+: shownLine source line := by
  rw [write_eq, outputLines_eq] at h
  have hlines := (isInfix_of_append_cons _ [] _ '\n' (by decide) h).resolve_left (by decide)
  obtain ⟨l, hl, hbackdrop⟩ := exists_of_isInfix_flatMap _ _ (by decide) (by decide) hlines
  obtain rfl | hl := List.mem_cons.1 hl
  · have hbright := Ansi.isCode_of_mem Ansi.bright (by decide)
    have hno := (Ansi.isCode_of_mem Ansi.backdrop (by decide)).not_isInfix_wrap hbright (by decide) (by decide)
      (escape_notMem_title file line hfile)
    exact absurd hbackdrop hno
  · obtain ⟨n, -, rfl⟩ := List.mem_map.1 hl
    obtain ⟨hnumber, htoken⟩ := of_backdrop_isInfix_row _ _ _ _ (escape_notMem_shownLine source n hsource) hbackdrop
    obtain rfl : n = line := Int.ofNat.inj hnumber
    exact htoken

theorem highlighted_isInfix_write (file : Text) (line : Nat) (token : Option Text) (source : Text) (hline : 1 ≤ line)
    (hcount : line ≤ (displayLines source).length) (hne : token.getD [] ≠ [])
    (htoken : token.getD [] <:+: shownLine source line) :
    Ansi.backdrop ++ Ansi.bold ++ token.getD [] ++ Ansi.reset <:+: write file line token source := by
  have hwindow : ((displayLines source)[line - 1]?.getD [], line) ∈ window line source := by
    rw [window_eq]
    refine List.mem_map.2 ⟨line, ?_, rfl⟩
    rw [numbers, List.Ico.mem]
    omega
  obtain ⟨before, after, hhighlight⟩ := highlight_eq _ _ hne htoken
  refine List.IsInfix.trans ?_ (row_isInfix_write file line token source _ line hwindow)
  rw [row_self, ← shownLine, hhighlight]
  exact List.IsInfix.trans ⟨before, after, rfl⟩ (List.suffix_append _ _).isInfix

/-- Without its colours an excerpt is its header and the rows around the line in question, each with its number and
the whole of its line; and a token is highlighted exactly if it is in the line in question. -/
theorem excerpt_faithful (file : Text) (line : Nat) (token : Option Text) (source : Text)
    (hfile : '\x1b' ∉ file) (hsource : '\x1b' ∉ source) (hline : 1 ≤ line)
    (hcount : line ≤ (displayLines source).length) :
    Ansi.strip (write file line token source) =
      '\n' :: ("  File \"".toList ++ file ++ "\", line ".toList ++ ofNat line) ++ '\n' ::
        (numbers line (displayLines source).length).flatMap (fun n =>
          padLeft 5 (ofNat n) ++ " | ".toList ++ shownLine source n ++ ['\n']) ∧
    (∀ n ∈ numbers line (displayLines source).length, '\n' ∉ shownLine source n ∧
      ((displayLines source)[n - 1]? = some (shownLine source n) ∨
        (displayLines source)[n - 1]? = some (shownLine source n ++ ['\n']))) ∧
    (Ansi.backdrop <:+: write file line token source ↔
      token.getD [] ≠ [] ∧ token.getD [] <:+: shownLine source line) ∧
    (Ansi.backdrop ++ Ansi.bold ++ token.getD [] ++ Ansi.reset <:+: write file line token source ↔
      token.getD [] ≠ [] ∧ token.getD [] <:+: shownLine source line) := by
  have honly := of_backdrop_isInfix_write file line token source hfile hsource
  have hif := highlighted_isInfix_write file line token source hline hcount
  have hpart : Ansi.backdrop <:+: Ansi.backdrop ++ Ansi.bold ++ token.getD [] ++ Ansi.reset := by
    rw [List.append_assoc, List.append_assoc]
    exact (List.prefix_append _ _).isInfix
  refine ⟨strip_write_eq file line token source hfile hsource, fun n hn => ?_,
    ⟨honly, fun h => hpart.trans (hif h.1 h.2)⟩, fun h => honly (hpart.trans h), fun h => hif h.1 h.2⟩
  rw [numbers, List.Ico.mem] at hn
  exact displayed_eq source n (by omega) (by omega)

/-- A line that stands fourth in what is displayed, a form feed being the end of the first. -/
theorem excerpt_faithful_formFeed :
    let source : Text := "a\x0cb\n\nlocal = 1\r\nlast".toList
    '\x1b' ∉ ['f'] ∧ '\x1b' ∉ source ∧ 1 ≤ 4 ∧ 4 ≤ (displayLines source).length ∧
      Ansi.strip (write ['f'] (4 : Nat) (some ['=']) source) =
        "\n  File \"f\", line 4\n    2 | b\n    3 | \n    4 | local = 1\r\n    5 | last\n".toList ∧
      Ansi.backdrop <:+: write ['f'] (4 : Nat) (some ['=']) source := by
  intro source
  have hfile : '\x1b' ∉ ['f'] := by decide
  have hsource : '\x1b' ∉ source := by decide
  have hcount : 4 ≤ (displayLines source).length := by decide
  obtain ⟨hstrip, -, hhighlight, -⟩ :=
    excerpt_faithful ['f'] 4 (some ['=']) source hfile hsource (by decide) hcount
  refine ⟨hfile, hsource, by decide, hcount, ?_, ?_⟩
  · rw [hstrip]
    decide
  · exact hhighlight.2 ⟨by decide, by decide⟩

end Excerpt

end DeskScript
