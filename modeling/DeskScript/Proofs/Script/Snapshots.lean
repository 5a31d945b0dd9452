import DeskScript.Proofs.Desktop.Requests
import DeskScript.Proofs.Script.Passages

namespace DeskScript

namespace Text

theorem firstMatch_append {α : Type} (m : Text → Option α) (u r : Text)
    (h : ∀ v, v ≠ [] → v <:+ u → m (v ++ r) = none) : firstMatch m (u ++ r) = firstMatch m r := by
  induction u with
  | nil => rfl
  | cons c u ih =>
    have hhere : m (c :: (u ++ r)) = none := h (c :: u) (List.cons_ne_nil c u) List.suffix_rfl
    rw [List.cons_append, firstMatch, hhere]
    exact ih fun v hv hsuffix => h v hv (hsuffix.trans (List.suffix_cons c u))

theorem IsName.of_suffix {u v : Text} (h : IsName u) (hv : v ≠ []) (hsuffix : v <:+ u) : IsName v :=
  ⟨hv, fun c hc => h.word c (hsuffix.mem hc)⟩

end Text

def infoCall (name : Text) : Text := name ++ ".info:(null)".toList

namespace Expression

open Text

theorem windowPattern?_infoCall (name : Text) (hname : IsName name) : windowPattern? (infoCall name) = none := by
  have hword : startsWith "window_Id(".toList (infoCall name) = false :=
    hname.startsWith_eq_false (p := "window_Id".toList) (by decide) '(' '.' [] _ (by decide) (by decide) (by decide)
  rw [windowPattern?, hword, if_neg Bool.false_ne_true]

/-- Behind the colon there is no word, so this is no call of an action. -/
theorem call?_infoCall (name : Text) (hname : IsName name) : Shape.call? (infoCall name) = none := by
  have hdot : ∀ t : Text, afterPrefix? ['.'] ('.' :: t) = some t := fun t => afterPrefix?_append ['.'] t
  have hgroup : takeWord? "info:(null)".toList = some ("info".toList, ":(null)".toList) := by decide +kernel
  have hcolon : afterPrefix? [':'] ":(null)".toList = some "(null)".toList := by decide
  have haction : takeWord? "(null)".toList = none := by decide +kernel
  have hafter : Shape.callAfter? name ".info:(null)".toList = none := by
    change Shape.callAfter? name ('.' :: "info:(null)".toList) = none
    simp only [Shape.callAfter?, hdot, hgroup, hcolon, haction, Option.bind_eq_bind, Option.bind_some,
      Option.bind_none]
  have hrest : firstWord Shape.callAfter? false ".info:(null)".toList = none := by decide +kernel
  have hend : ∀ c ∈ ".info:(null)".toList.head?, isWord c = false := by
    intro c hc
    obtain rfl : '.' = c := Option.some.inj hc
    decide
  rw [Shape.call?, infoCall, firstWord_append _ _ _ hname hend, hafter, hrest]
  rfl

theorem infoArgument?_infoCall (name : Text) (hname : IsName name) :
    Shape.infoArgument? (infoCall name) = some "null".toList := by
  have hskip : ∀ v, v ≠ [] → v <:+ name → Shape.enclosedHere? "info:(" (v ++ ".info:(null)".toList) = none := by
    intro v hv hsuffix
    have hnot : startsWith "info:(".toList (v ++ ".info:(null)".toList) = false :=
      (hname.of_suffix hv hsuffix).startsWith_eq_false (p := "info".toList) (by decide) ':' '.' ['('] _ (by decide)
        (by decide) (by decide)
    have hnone : afterPrefix? "info:(".toList (v ++ ".info:(null)".toList) = none := by simpa [startsWith] using hnot
    rw [Shape.enclosedHere?, hnone]
    rfl
  rw [Shape.infoArgument?, infoCall, firstMatch_append _ _ _ hskip]
  decide +kernel

theorem ofText_infoCall (name : Text) (hname : IsName name) : ofText (infoCall name) = .info name none := by
  have hcontains : Text.contains ".info:(".toList (infoCall name) = true :=
    (contains_iff_isInfix _ _).2 ⟨name, "null)".toList, by rw [List.append_assoc]; rfl⟩
  have hfront : (infoCall name).takeWhile (· ≠ '.') = name :=
    takeWhile_append_cons '.' name _ (hname.notMem _ (by decide))
  rw [ofText, windowPattern?_infoCall name hname]
  dsimp only
  rw [call?_infoCall name hname]
  dsimp only
  rw [if_pos hcontains, ofInfo, infoArgument?_infoCall name hname, hfront]
  exact congrArg (info name) (by decide +kernel)

end Expression

namespace Session

variable {P : Expression → Prop} {s s' : Session}

theorem Moves.exists_evolves (h : Moves P s s') : ∃ writes, Desktop.Evolves writes s.desktop s'.desktop := by
  refine h.keep (fun s' => ∃ writes, Desktop.Evolves writes s.desktop s'.desktop) (fun s₁ s₂ hmove hs₁ => ?_)
    ⟨[], .of_windows_eq rfl⟩
  obtain ⟨writes, hs₁⟩ := hs₁
  obtain hd | ⟨e, -, hd⟩ := hmove.desktop_cases
  · exact ⟨writes, hd ▸ hs₁⟩
  · exact ⟨_, hd ▸ hs₁.trans (Evaluation.evolves ⟨s₁, e⟩)⟩

theorem get?_of_window? (name : Text) (n : Nat) (h : s.window? name = some n) :
    s.bindings.get? name = some (.window n) := by
  unfold window? lookup at h
  cases hv : s.bindings.get? name with
  | none => simp [hv, Value.null] at h
  | some v =>
    cases v <;> simp [hv] at h
    rw [h]

theorem evaluate_info (name : Text) (n : Nat) (hname : s.window? name = some n) (w : Window)
    (hw : s.desktop.windows[n]? = some w) :
    s.evaluate (.info name none) = .ok (s.desktop.reply (Desktop.infoFields n w .null)) := by
  rw [evaluate, hname]
  exact s.desktop.perform_info n w hw [.null]

theorem resolvePath_reply (i part : Text) (hi : '.' ∉ i) (hpart : '.' ∉ part) (r : Nat)
    (hbound : s.bindings.get? i = some (.table (.reply r))) (v : Value)
    (hv : (s.desktop.fieldsOf (.reply r)).get? (.text part) = some v) :
    s.resolvePath (i ++ '.' :: part) = .ok (.value v) := by
  rw [resolvePath, Text.splitOn_append_cons, Text.splitOn_of_notMem '.' i hi, Text.splitOn_of_notMem '.' part hpart]
  simp only [List.singleton_append, lookup, hbound, Option.getD_some, descendAll, descend, hv]

/-- The variable holds what the window at `n` told of itself when it was `w`. -/
structure Recalls (s : Session) (i : Text) (n : Nat) (w : Window) : Prop where
  isName : Text.IsName i
  reply : ∃ r < s.desktop.replies.size, s.bindings.get? i = some (.table (.reply r)) ∧
    s.desktop.fieldsOf (.reply r) = Desktop.infoFields n w .null
  window : ∃ writes w', s.desktop.windows[n]? = some w' ∧ w.Evolves n writes w'

theorem recalls_of_declared (p : Passage) (hp : p.Sound) (i name : Text)
    (hdeclared : p.declared = some (i, .info name none)) (n : Nat) (hname : p.before.window? name = some n) (w : Window)
    (hw : p.before.desktop.windows[n]? = some w) : p.after.Recalls i n w := by
  obtain ⟨hi, v, d, hv, hafter⟩ := hp.declared i _ hdeclared
  rw [p.before.evaluate_info name n hname w hw] at hv
  cases hv
  rw [hafter]
  exact ⟨hi, ⟨_, Nat.lt_succ_self _, Table.get?_put_self _ _ _, p.before.desktop.fieldsOf_reply _⟩,
    [], w, hw, .of_onto_eq_nil rfl⟩

theorem window?_of_declared (p : Passage) (hp : p.Sound) (name pattern : Text)
    (hdeclared : p.declared = some (name, .window pattern)) (n : Nat)
    (hresolve : Desktop.resolve p.before.desktop.windows pattern = .ok (some n)) :
    p.after.window? name = some n ∧ p.after.desktop = p.before.desktop := by
  obtain ⟨-, v, d, hv, hafter⟩ := hp.declared name _ hdeclared
  simp only [evaluate, evaluateWindow, hresolve] at hv
  cases hv
  rw [hafter]
  refine ⟨?_, rfl⟩
  rw [window?, lookup, bind, Table.get?_put_self]
  rfl

theorem Recalls.passes {i : Text} {n : Nat} {w : Window} (hs : s.Recalls i n w) {ps : List Passage}
    (h : s.Passes ps s') (hi : ∀ p ∈ ps, ∀ e, p.declared ≠ some (i, e)) : s'.Recalls i n w := by
  obtain ⟨r, hr, hbound, hfields⟩ := hs.reply
  obtain ⟨writes, w', hw', hevolves⟩ := hs.window
  obtain ⟨more, hmore⟩ := h.moves.exists_evolves
  obtain ⟨w'', hw'', hevolves'⟩ := hmore.windows n w' hw'
  have hreplies := h.moves.replies
  have hr' := Nat.lt_of_lt_of_le hr (Desktop.size_replies_le hreplies)
  refine ⟨hs.isName, ⟨r, hr', ?_, ?_⟩, _, w'', hw'', hevolves.trans hevolves'⟩
  · rw [h.get?_bindings i hi, hbound]
  · rw [Desktop.fieldsOf_reply_eq hreplies hr, hfields]

theorem Recalls.resolvePath {i : Text} {n : Nat} {w : Window} (hs : s.Recalls i n w) (fields : Fields)
    (hdata : w.data = .live fields) :
    s.resolvePath (i ++ ".data".toList) = .ok (.value (.table (.data n))) ∧
      s.resolvePath (i ++ ".library".toList) = .ok (.value (.plain w.libraryOrDefault)) := by
  obtain ⟨r, -, hbound, hfields⟩ := hs.reply
  obtain ⟨hlibrary, -, htold⟩ := Desktop.get?_infoFields n w .null
  have hdataValue : Desktop.dataValue n w = .table (.data n) := by rw [Desktop.dataValue, hdata]
  rw [if_pos (show Value.null.isEmpty = true from rfl), hdataValue] at htold
  have hdot : '.' ∉ i := hs.isName.notMem _ (by decide)
  exact ⟨s.resolvePath_reply i "data".toList hdot (by decide) r hbound _ (hfields ▸ htold),
    s.resolvePath_reply i "library".toList hdot (by decide) r hbound _ (hfields ▸ hlibrary)⟩

end Session

namespace Desktop

/-- In a run, a variable was declared as what a window told of itself, when its data was a table and it had brought a
library or none. At any later point, as long as the variable has not been declared again: its data is the very table
that the data of the window is then, and its library has the members among which the window finds things. -/
theorem info_stays_live (d : Desktop) (source : Text) (file : Option Text) (earlier between later : List Passage)
    (p : Passage)
    (hpassages : (d.run source file).passages (Line.ofSource source) = earlier ++ p :: (between ++ later))
    (i name : Text) (hdeclared : p.declared = some (i, .ofText (infoCall name))) (n : Nat)
    (hname : p.before.window? name = some n) (w : Window) (hw : p.before.desktop.windows[n]? = some w)
    (fields : Fields) (hdata : w.data = .live fields) (members : List (Text × Json))
    (hmembers : w.library = .object members ∨ w.library = .null ∧ members = w.defaultLibrary)
    (hbetween : ∀ q ∈ between, ∀ e, q.declared ≠ some (i, e)) :
    let s := (between.getLastD p).after
    s.resolvePath (i ++ ".data".toList) = .ok (.value (.table (.data n))) ∧
      s.resolvePath (i ++ ".library".toList) = .ok (.value (.plain (.object members))) ∧
      ∃ w', s.desktop.windows[n]? = some w' ∧ w'.data = .live (s.desktop.fieldsOf (.data n)) ∧
        w'.libraryOrDefault = .object members ∧
        ∀ arguments k, s.desktop.KeyForm (arguments[0]?.getD .null) k →
          ∃ d', s.desktop.perform n .find arguments = .ok (.plain (entryUnder members k), d') := by
  intro s
  have hrun : (Session.start d file).Passes (earlier ++ (p :: between ++ later)) (d.run source file).session := by
    rw [List.cons_append, ← hpassages]
    exact (Session.start d file).run_passes (Line.ofSource source)
  obtain ⟨s₀, hearlier, hrest⟩ := Session.passes_append_iff.1 hrun
  obtain ⟨s', hrow, -⟩ := Session.passes_append_iff.1 hrest
  obtain rfl : s' = s := hrow.eq_after
  obtain ⟨rfl, hsound, hafter⟩ := hrow
  have hnames := hearlier.isName fun name v hv => by
    rw [Session.start, Table.get?_empty] at hv
    cases hv
  rw [Expression.ofText_infoCall name (hnames name _ (Session.get?_of_window? name n hname))] at hdeclared
  have hrecalls := (Session.recalls_of_declared p hsound i name hdeclared n hname w hw).passes hafter hbetween
  obtain ⟨writes, w', hw', hevolves⟩ := hrecalls.window
  have hlibrary := w.libraryOrDefault_eq_object members hmembers
  have hlibrary' := hevolves.libraryOrDefault_eq.trans hlibrary
  have hlive : w'.data = .live (s.desktop.fieldsOf (.data n)) := by
    have htakes := hevolves.data
    rw [hdata] at htakes
    rw [fieldsOf_data w' hw', htakes.of_live]
    rfl
  obtain ⟨hdataPath, hlibraryPath⟩ := hrecalls.resolvePath fields hdata
  rw [hlibrary] at hlibraryPath
  refine ⟨hdataPath, hlibraryPath, w', hw', hlive, hlibrary', fun arguments k hk => ?_⟩
  obtain ⟨hcan, rfl⟩ := (s.desktop.keyFor_eq_ok_iff _ _).1 ((s.desktop.keyForm_iff _ _).1 hk)
  exact ⟨_, (s.desktop.perform_find n w' hw' members hlibrary' arguments).trans (if_pos hcan)⟩

/-- A window without a library is asked, a function writes the answer into its data, and it gets a library. -/
theorem info_stays_live_call :
    let w : Window := ⟨['a'], .text [], .text [], .null, .null, .null, .null, .null, .null, .null, .live .empty, .null⟩
    let d : Desktop := .ofWindows [w]
    let source : Text := Text.joinWith ['\n'] ["local w = window_Id(a)".toList, "local i = w.info:(null)".toList,
      "export function f() \x7b".toList, "local r = w.database:write(k, i)".toList, "\x7d".toList, "f()".toList,
      "local c = w.library:find(components)".toList]
    ∃ earlier between p, (d.run source none).passages (Line.ofSource source) = earlier ++ p :: (between ++ []) ∧
      p.declared = some (['i'], .ofText (infoCall ['w'])) ∧ p.before.window? ['w'] = some 0 ∧
      p.before.desktop.windows[0]? = some w ∧
      between.map (Option.map Prod.fst ∘ Passage.declared) = [none, some ['r'], some ['c']] ∧
      (between.getLastD p).after.resolvePath "i.data".toList = .ok (.value (.table (.data 0))) := by
  intro w d source
  have hdeclared : ((d.run source none).passages (Line.ofSource source)).map Passage.declared =
      [some (['w'], .window ['a']), some (['i'], .info ['w'] none), none,
        some (['r'], .action ['w'] .write [.name ['k'], .name ['i']]),
        some (['c'], .action ['w'] .find [.name "components".toList])] := by decide +kernel
  obtain ⟨p₀, l, hpassages, hdeclared₀, hl⟩ := List.map_eq_cons_iff.1 hdeclared
  obtain ⟨p, between, rfl, hdeclared₁, hbetween⟩ := List.map_eq_cons_iff.1 hl
  have hrun : (Session.start d none).Passes (p₀ :: p :: between) (d.run source none).session := by
    rw [← hpassages]
    exact (Session.start d none).run_passes (Line.ofSource source)
  obtain ⟨hstart, hsound₀, hbefore, -⟩ := hrun
  have hresolve : resolve p₀.before.desktop.windows ['a'] = .ok (some 0) := by
    rw [hstart]
    rfl
  obtain ⟨hname, hdesktop⟩ := Session.window?_of_declared p₀ hsound₀ ['w'] ['a'] hdeclared₀ 0 hresolve
  rw [← hbefore] at hname hdesktop
  have hw : p.before.desktop.windows[0]? = some w := by
    rw [hdesktop, hstart]
    rfl
  have hinfo : p.declared = some (['i'], .ofText (infoCall ['w'])) := by
    rw [hdeclared₁, Expression.ofText_infoCall _ (by decide)]
  have hagain : ∀ q ∈ between, ∀ e, q.declared ≠ some (['i'], e) := by
    rw [← List.forall_mem_map (f := Passage.declared) (P := fun x => ∀ e, x ≠ some (['i'], e)), hbetween]
    simp
  have hnames : between.map (Option.map Prod.fst ∘ Passage.declared) = [none, some ['r'], some ['c']] := by
    rw [← List.map_map, hbetween]
    rfl
  have hpath := info_stays_live d source none [p₀] between [] p (by rw [hpassages, List.append_nil]; rfl) ['i'] ['w']
    hinfo 0 hname w hw .empty rfl w.defaultLibrary (.inr ⟨rfl, rfl⟩) hagain
  exact ⟨[p₀], between, p, by rw [hpassages, List.append_nil]; rfl, hinfo, hname, hw, hnames, hpath.1⟩

end Desktop

end DeskScript
