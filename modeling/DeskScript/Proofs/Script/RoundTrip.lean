import DeskScript.Proofs.Script.Literals
import DeskScript.Proofs.Script.Source

namespace DeskScript

theorem Key.compare_text_eq_iff (t : Text) (k : Key) : compare (text t) k = .eq ↔ k = text t := by
  rw [compare_eq_iff]
  constructor
  · intro h
    cases k with
    | float x =>
      unfold form at h
      dsimp only at h
      split at h <;> cases h
    | text u =>
      cases h
      rfl
    | _ => cases h
  · rintro rfl
    rfl

/-- What may stand in quotes as an argument on a line. -/
def Text.IsQuotable (t : Text) : Prop := ∀ c ∈ ['"', '\'', ',', '(', ')', '{', '}', '\n'], c ∉ t

instance (t : Text) : Decidable t.IsQuotable := List.decidableBAll _ _

namespace Text.IsQuotable

variable {t : Text}

theorem notMem_inQuotes (h : IsQuotable t) (c : Char) (hc : c ∈ [',', '(', ')', '{', '}', '\n']) :
    c ∉ inQuotes t := by
  have hmem : c ∈ ['"', '\'', ',', '(', ')', '{', '}', '\n'] := List.mem_cons_of_mem _ (List.mem_cons_of_mem _ hc)
  have hne : c ≠ '"' := by
    rintro rfl
    exact absurd hc (by decide)
  simp [inQuotes, h c hmem, hne]

theorem ofText_inQuotes (h : IsQuotable t) : Argument.ofText (inQuotes t) = .text t := by
  rw [Argument.ofText, isQuoted_inQuotes, if_pos rfl, unquote_inQuotes t (h _ (by decide)) (h _ (by decide))]

theorem listOf_inQuotes (h : IsQuotable t) : Argument.listOf (inQuotes t) = [.text t] := by
  rw [Argument.listOf, pieces, splitOn_of_notMem _ _ (h.notMem_inQuotes ',' (by decide)), List.map_singleton,
    List.map_singleton, strip_inQuotes, h.ofText_inQuotes]

theorem listOf_inQuotes_pair {u : Text} (h : IsQuotable t) (hu : IsQuotable u) :
    Argument.listOf (inQuotes t ++ ',' :: ' ' :: inQuotes u) = [.text t, .text u] := by
  have hfirst : splitOn ',' (inQuotes t) = [inQuotes t] := splitOn_of_notMem _ _ (h.notMem_inQuotes ',' (by decide))
  have hsecond : splitOn ',' (' ' :: inQuotes u) = [' ' :: inQuotes u] := by
    apply splitOn_of_notMem
    simp [hu.notMem_inQuotes ',' (by decide)]
  have hstrip : strip (' ' :: inQuotes u) = inQuotes u :=
    (strip_append_left [' '] _ (by decide)).trans (strip_inQuotes u)
  rw [Argument.listOf, pieces, splitOn_append_cons, hfirst, hsecond]
  simp only [List.singleton_append, List.map_cons, List.map_nil, strip_inQuotes, hstrip, h.ofText_inQuotes,
    hu.ofText_inQuotes]

end Text.IsQuotable

/-- A call as it is written is no other shape. -/
theorem Expression.ofText_write (c : Shape.Call) (hname : Text.IsName c.name) (hgroup : Text.IsName c.group)
    (haction : Text.IsName c.action) (harguments : ')' ∉ c.arguments) : ofText c.write = ofCall c := by
  have hwindow : windowPattern? c.write = none := by
    have hword : Text.IsName "window_Id".toList := by decide
    have hopening : "window_Id(".toList = "window_Id".toList ++ ['('] := by decide
    rw [windowPattern?, hopening, Shape.Call.write,
      hname.startsWith_eq_false hword '(' '.' [] _ (by decide) (by decide) (by decide)]
    rfl
  rw [ofText, hwindow]
  dsimp only
  rw [c.call?_write hname hgroup haction harguments]

namespace RoundTrip

open Text

def windowLine : Text := "local w = window_Id(\"window-1\")".toList

def dataCall (action arguments : Text) : Text :=
  ['w'] ++ '.' :: ("database".toList ++ ':' :: (action ++ '(' :: (arguments ++ [')'])))

def writeLine (k v : Text) : Text := "w.database:write(\"".toList ++ k ++ "\", \"".toList ++ v ++ "\")".toList

def readLine (k : Text) : Text := "local r = w.database:read(\"".toList ++ k ++ "\")".toList

def logLine : Text := "sys.log(r)".toList

theorem writeLine_eq (k v : Text) :
    writeLine k v = dataCall "write".toList (inQuotes k ++ ',' :: ' ' :: inQuotes v) := by
  have hfront : "w.database:write(\"".toList = ['w'] ++ '.' :: ("database".toList ++ ':' ::
      ("write".toList ++ ['(', '"'])) := by decide
  have hmiddle : "\", \"".toList = ['"', ',', ' ', '"'] := by decide
  have hback : "\")".toList = ['"', ')'] := by decide
  unfold writeLine dataCall inQuotes
  simp only [hfront, hmiddle, hback, List.append_assoc, List.cons_append, List.nil_append]

theorem readLine_eq (k : Text) : readLine k = "local r = ".toList ++ dataCall "read".toList (inQuotes k) := by
  have hfront : "local r = w.database:read(\"".toList = "local r = ".toList ++ (['w'] ++ '.' ::
      ("database".toList ++ ':' :: ("read".toList ++ ['(', '"']))) := by decide
  have hback : "\")".toList = ['"', ')'] := by decide
  unfold readLine dataCall inQuotes
  simp only [hfront, hback, List.append_assoc, List.cons_append, List.nil_append]

theorem isName_w : IsName ['w'] := by decide

theorem isName_database : IsName "database".toList := by decide

@[simp] theorem strip_dataCall (action arguments : Text) :
    strip (dataCall action arguments) = dataCall action arguments :=
  Shape.Call.strip_write ⟨['w'], "database".toList, action, arguments⟩ isName_w

@[simp] theorem strip_writeLine (k v : Text) : strip (writeLine k v) = writeLine k v := by
  rw [writeLine_eq, strip_dataCall]

@[simp] theorem strip_readLine (k : Text) : strip (readLine k) = readLine k := by
  rw [readLine_eq]
  exact DeclarationHeader.strip_write ⟨['r'], dataCall "read".toList (inQuotes k)⟩ (by simp [dataCall])
    (strip_dataCall _ _)

theorem call?_dataCall (action arguments : Text) (haction : IsName action) (h : ')' ∉ arguments) :
    Shape.call? (dataCall action arguments) = some ⟨['w'], "database".toList, action, arguments⟩ :=
  Shape.Call.call?_write ⟨['w'], "database".toList, action, arguments⟩ isName_w isName_database haction h

theorem ofText_dataCall (a : Action) (arguments : Text) (ha : Handle.database.action? a.name = some a)
    (haction : IsName a.name) (h : ')' ∉ arguments) :
    Expression.ofText (dataCall a.name arguments) = .action ['w'] a (Argument.listOf arguments) := by
  have hdatabase : Desktop.handleNamed? "database".toList = some .database := by decide
  have hcall := Expression.ofText_write ⟨['w'], "database".toList, a.name, arguments⟩ isName_w isName_database
    haction h
  rw [Expression.ofCall, hdatabase, Option.bind_some, ha] at hcall
  exact hcall

variable (s : Session) (w : Window) (ws : List Window)

theorem step_windowLine (h : s.desktop.windows = w :: ws) (n : Option Nat) (rest : List Line) :
    s.step ⟨windowLine, n⟩ rest = .ok (s.bind ['w'] (.window 0), 0) := by
  have hword : startsWith declarationWord (strip windowLine) = true := by decide
  have hheader : DeclarationHeader.read (strip windowLine) = .ok ⟨['w'], "window_Id(\"window-1\")".toList⟩ := by
    decide
  have hvalue : Expression.ofText (strip "window_Id(\"window-1\")".toList) = .window "window-1".toList := by
    decide
  have hread : Declaration.read ⟨windowLine, n⟩ rest = .ok ⟨['w'], .window "window-1".toList, 0⟩ := by
    have hbrace : '{' ∉ strip windowLine := by decide
    rw [Declaration.read_of_notMem ⟨windowLine, n⟩ rest hbrace, DeclarationHeader.ofLine, Line.stripped, hheader,
      ← hvalue]
    rfl
  have hfirst : Desktop.namesFirst "window-1".toList = true := by decide
  have hevaluate : s.evaluate (.window "window-1".toList) = .ok (.window 0, s.desktop) := by
    rw [Session.evaluate, Session.evaluateWindow, Desktop.resolve, hfirst, h]
    rfl
  exact s.step_of_read ⟨windowLine, n⟩ rest _ _ _ hword hread hevaluate

theorem kindOf_writeLine (hs : ∀ name, s.functions.get? name = none) (k v : Text) (hk : IsQuotable k)
    (hv : IsQuotable v) : s.kindOf (writeLine k v) = .action := by
  have hopen : '(' ∉ inQuotes k ++ ',' :: ' ' :: inQuotes v := by
    simp [hk.notMem_inQuotes '(' (by decide), hv.notMem_inQuotes '(' (by decide)]
  have hclose : ')' ∉ inQuotes k ++ ',' :: ' ' :: inQuotes v := by
    simp [hk.notMem_inQuotes ')' (by decide), hv.notMem_inQuotes ')' (by decide)]
  have hcall := call?_dataCall "write".toList _ (by decide) hclose
  have hword : startsWith declarationWord (writeLine k v) = false := by
    rw [writeLine_eq]
    rfl
  have hdefinition : startsWith definitionWord (writeLine k v) = false := by
    rw [writeLine_eq]
    rfl
  have hlog : contains logMark (writeLine k v) = false := by
    rw [← Bool.not_eq_true, writeLine_eq]
    intro h
    have hsplit : dataCall "write".toList (inQuotes k ++ ',' :: ' ' :: inQuotes v) =
        (['w'] ++ '.' :: ("database".toList ++ ':' :: "write".toList)) ++
          '(' :: ((inQuotes k ++ ',' :: ' ' :: inQuotes v) ++ [')']) := by
      simp only [dataCall, List.append_assoc, List.cons_append]
    rw [hsplit] at h
    -- The line has one opening parenthesis, so the mark of logs would have to end with that.
    have hsuffix := suffix_of_contains_concat "sys.log".toList _ _ '(' (by decide) (by simpa using hopen)
      (by decide) h
    exact absurd hsuffix (by decide)
  have hcalls : s.callsFunction (writeLine k v) = false := by
    unfold Session.callsFunction
    split
    · rw [hs]
      rfl
    · rfl
  rw [s.kindOf_of_not_words _ hword hdefinition hlog, hcalls, if_neg Bool.false_ne_true, writeLine_eq, hcall]
  rfl

theorem exists_step_writeLine (hs : ∀ name, s.functions.get? name = none)
    (hw : s.bindings.get? ['w'] = some (.window 0)) (h : s.desktop.windows = w :: ws) (fields : Fields)
    (hfields : Desktop.writableFields w = .ok fields) (k v : Text) (hk : IsQuotable k) (hv : IsQuotable v)
    (n : Option Nat) (rest : List Line) :
    ∃ d : Desktop, s.step ⟨writeLine k v, n⟩ rest = .ok ({ s with desktop := d }, 0) ∧
      d.windows = { w with data := .live (fields.put (.text k) (.text v)) } :: ws := by
  have hclose : ')' ∉ inQuotes k ++ ',' :: ' ' :: inQuotes v := by
    simp [hk.notMem_inQuotes ')' (by decide), hv.notMem_inQuotes ')' (by decide)]
  have hvalue : Expression.ofText (writeLine k v) = .action ['w'] .write [.text k, .text v] := by
    have haction := ofText_dataCall .write _ rfl (by decide) hclose
    rw [hk.listOf_inQuotes_pair hv] at haction
    rw [writeLine_eq]
    exact haction
  have hwindow : s.window? ['w'] = some 0 := by
    rw [Session.window?, Session.lookup, hw]
    rfl
  have hperform : ∃ r d, s.desktop.perform 0 .write [.text k, .text v] = .ok (r, d) ∧
      d.windows = { w with data := .live (fields.put (.text k) (.text v)) } :: ws := by
    rw [Desktop.perform_of_window (w := w) (by rw [h]; rfl)]
    dsimp only
    unfold Desktop.write
    rw [hfields]
    refine ⟨_, _, rfl, ?_⟩
    change s.desktop.windows.set 0 _ = _
    rw [h]
    rfl
  obtain ⟨r, d, hperform, hd⟩ := hperform
  have hevaluate : s.evaluate (.action ['w'] .write [.text k, .text v]) = .ok (r, d) := by
    rw [Session.evaluate, hwindow]
    exact hperform
  refine ⟨d, ?_, hd⟩
  have hstripped : (⟨writeLine k v, n⟩ : Line).stripped = writeLine k v := strip_writeLine k v
  have hkind : s.kindOf (⟨writeLine k v, n⟩ : Line).stripped = .action := by
    rw [hstripped]
    exact kindOf_writeLine s hs k v hk hv
  rw [s.step_of_kind_action _ rest hkind, hstripped, hvalue, (s.value_eq_ok_iff _ _ _).2 ⟨d, hevaluate, rfl⟩]
  rfl

theorem step_readLine (hw : s.bindings.get? ['w'] = some (.window 0)) (h : s.desktop.windows = w :: ws)
    (fields : Fields) (hdata : w.data = .live fields) (k v : Text) (hk : IsQuotable k)
    (hv : fields.get? (.text k) = some (.text v)) (n : Option Nat) (rest : List Line) :
    s.step ⟨readLine k, n⟩ rest = .ok (s.bind ['r'] (.text v), 0) := by
  have hclose : ')' ∉ inQuotes k := hk.notMem_inQuotes ')' (by decide)
  have hvalue : Expression.ofText (strip (dataCall "read".toList (inQuotes k))) = .action ['w'] .read [.text k] := by
    have haction := ofText_dataCall .read _ rfl (by decide) hclose
    rw [strip_dataCall]
    rwa [hk.listOf_inQuotes] at haction
  have hcall : Cursor.IsRemainder (dataCall "read".toList (inQuotes k)) := ⟨by simp [dataCall],
    by simp [dataCall]; decide, by simp [dataCall, hk.notMem_inQuotes '\n' (by decide)]⟩
  have hline : (⟨readLine k, n⟩ : Line).stripped =
      DeclarationHeader.write ⟨['r'], dataCall "read".toList (inQuotes k)⟩ :=
    (strip_readLine k).trans (readLine_eq k)
  have hname : IsName ['r'] := by decide
  have hheader := DeclarationHeader.ofLine_of_stripped_eq_write _ _ hline hname hcall
  have hread : Declaration.read ⟨readLine k, n⟩ rest = .ok ⟨['r'], .action ['w'] .read [.text k], 0⟩ := by
    have hbrace : '{' ∉ strip (readLine k) := by
      rw [strip_readLine, readLine_eq]
      simp [dataCall, hk.notMem_inQuotes '{' (by decide)]
    rw [Declaration.read_of_notMem ⟨readLine k, n⟩ rest hbrace, hheader, ← hvalue]
    rfl
  have hperform : s.desktop.perform 0 .read [.text k] = .ok (.text v, s.desktop) := by
    rw [Desktop.perform_of_window (w := w) (by rw [h]; rfl)]
    dsimp only
    rw [Desktop.read, hdata]
    change Except.ok ((fields.get? (.text k)).getD .null, s.desktop) = _
    rw [hv]
    rfl
  have hevaluate : s.evaluate (.action ['w'] .read [.text k]) = .ok (.text v, s.desktop) := by
    have hwindow : s.window? ['w'] = some 0 := by
      rw [Session.window?, Session.lookup, hw]
      rfl
    rw [Session.evaluate, hwindow]
    exact hperform
  have hword : startsWith declarationWord (strip (readLine k)) = true := by
    rw [strip_readLine, readLine_eq]
    exact DeclarationHeader.startsWith_write ⟨['r'], dataCall "read".toList (inQuotes k)⟩
  exact s.step_of_read ⟨readLine k, n⟩ rest _ _ _ hword hread hevaluate

theorem step_logLine (v : Text) (hr : s.bindings.get? ['r'] = some (.text v)) (n : Option Nat) (rest : List Line) :
    s.step ⟨logLine, n⟩ rest = .ok (s.emit v, 0) := by
  have hline : logLine = Literal.logLine ['r'] := by decide
  rw [hline]
  exact Literal.step_logLine s ['r'] v (by decide) hr n rest

theorem newline_notMem_windowLine : '\n' ∉ windowLine := by decide

theorem newline_notMem_logLine : '\n' ∉ logLine := by decide

theorem newline_notMem_readLine (k : Text) (hk : IsQuotable k) : '\n' ∉ readLine k := by
  rw [readLine_eq]
  simp [dataCall, hk.notMem_inQuotes '\n' (by decide)]

theorem newline_notMem_writeLine (k v : Text) (hk : IsQuotable k) (hv : IsQuotable v) : '\n' ∉ writeLine k v := by
  rw [writeLine_eq]
  simp [dataCall, hk.notMem_inQuotes '\n' (by decide), hv.notMem_inQuotes '\n' (by decide)]

@[simp] theorem isSilent_windowLine : Line.isSilent windowLine = false := by decide

@[simp] theorem isSilent_logLine : Line.isSilent logLine = false := by decide

@[simp] theorem isSilent_readLine (k : Text) : Line.isSilent (readLine k) = false := by
  rw [Line.isSilent, strip_readLine, readLine_eq]
  rfl

@[simp] theorem isSilent_writeLine (k v : Text) : Line.isSilent (writeLine k v) = false := by
  rw [Line.isSilent, strip_writeLine, writeLine_eq]
  rfl

theorem ofSource_readAgain (k : Text) (hk : IsQuotable k) :
    Line.ofSource (joinWith ['\n'] [windowLine, readLine k, logLine]) =
      [⟨windowLine, some 1⟩, ⟨readLine k, some 2⟩, ⟨logLine, some 3⟩] := by
  have hsplit := splitOn_joinWith '\n' windowLine [readLine k, logLine]
    (by simp [newline_notMem_windowLine, newline_notMem_readLine k hk, newline_notMem_logLine])
  rw [Line.ofSource_eq, hsplit, Line.numberedFrom_of_not_silent _ _ _ isSilent_windowLine,
    Line.numberedFrom_of_not_silent _ _ _ (isSilent_readLine k),
    Line.numberedFrom_of_not_silent _ _ _ isSilent_logLine]
  rfl

theorem ofSource_writeAndRead (k v : Text) (hk : IsQuotable k) (hv : IsQuotable v) :
    Line.ofSource (joinWith ['\n'] [windowLine, writeLine k v, readLine k, logLine]) =
      [⟨windowLine, some 1⟩, ⟨writeLine k v, some 2⟩, ⟨readLine k, some 3⟩, ⟨logLine, some 4⟩] := by
  have hsplit := splitOn_joinWith '\n' windowLine [writeLine k v, readLine k, logLine]
    (by simp [newline_notMem_windowLine, newline_notMem_writeLine k v hk hv, newline_notMem_readLine k hk,
      newline_notMem_logLine])
  rw [Line.ofSource_eq, hsplit, Line.numberedFrom_of_not_silent _ _ _ isSilent_windowLine,
    Line.numberedFrom_of_not_silent _ _ _ (isSilent_writeLine k v),
    Line.numberedFrom_of_not_silent _ _ _ (isSilent_readLine k),
    Line.numberedFrom_of_not_silent _ _ _ isSilent_logLine]
  rfl

theorem runFrom_readLine_logLine (hw : s.bindings.get? ['w'] = some (.window 0)) (h : s.desktop.windows = w :: ws)
    (fields : Fields) (hdata : w.data = .live fields) (k v : Text) (hk : IsQuotable k)
    (hv : fields.get? (.text k) = some (.text v)) (step position : Nat) (m n : Option Nat) :
    (s.runFrom step position 0 [⟨readLine k, m⟩, ⟨logLine, n⟩]).error = none ∧
      (s.runFrom step position 0 [⟨readLine k, m⟩, ⟨logLine, n⟩]).session = (s.bind ['r'] (.text v)).emit v := by
  have hread := step_readLine s w ws hw h fields hdata k v hk hv m [⟨logLine, n⟩]
  have hlog := step_logLine (s.bind ['r'] (.text v)) v (Table.get?_put_self ..) n []
  rw [Session.runFrom_zero_cons_of_ok _ _ _ _ _ _ _ hread, Session.runFrom_zero_cons_of_ok _ _ _ _ _ _ _ hlog,
    Session.runFrom]
  exact ⟨rfl, rfl⟩

theorem run_readAgain (d : Desktop) (h : d.windows = w :: ws) (fields : Fields) (hdata : w.data = .live fields)
    (k v : Text) (hk : IsQuotable k) (hv : fields.get? (.text k) = some (.text v)) (file : Option Text) :
    (d.run (joinWith ['\n'] [windowLine, readLine k, logLine]) file).error = none ∧
      (d.run (joinWith ['\n'] [windowLine, readLine k, logLine]) file).session.transcript.toList = [v] := by
  have hwindow := step_windowLine (.start d file) w ws h (some 1) [⟨readLine k, some 2⟩, ⟨logLine, some 3⟩]
  obtain ⟨herror, hsession⟩ := runFrom_readLine_logLine ((Session.start d file).bind ['w'] (.window 0)) w ws
    (Table.get?_put_self ..) h fields hdata k v hk hv 1 1 (some 2) (some 3)
  rw [Desktop.run, ofSource_readAgain k hk, Session.run, Session.runFrom_zero_cons_of_ok _ _ _ _ _ _ _ hwindow]
  refine ⟨herror, ?_⟩
  dsimp only
  rw [hsession]
  rfl

theorem run_writeAndRead (d : Desktop) (h : d.windows = w :: ws) (fields : Fields)
    (hfields : Desktop.writableFields w = .ok fields) (k v : Text) (hk : IsQuotable k) (hv : IsQuotable v)
    (file : Option Text) :
    let run := d.run (joinWith ['\n'] [windowLine, writeLine k v, readLine k, logLine]) file
    run.error = none ∧ run.session.transcript.toList = [v] ∧
      run.session.desktop.windows = { w with data := .live (fields.put (.text k) (.text v)) } :: ws := by
  have hwindow := step_windowLine (.start d file) w ws h (some 1)
    [⟨writeLine k v, some 2⟩, ⟨readLine k, some 3⟩, ⟨logLine, some 4⟩]
  obtain ⟨d', hwrite, hd'⟩ := exists_step_writeLine ((Session.start d file).bind ['w'] (.window 0)) w ws
    (fun name => Table.get?_empty name) (Table.get?_put_self ..) h fields hfields k v hk hv (some 2)
    [⟨readLine k, some 3⟩, ⟨logLine, some 4⟩]
  obtain ⟨herror, hsession⟩ := runFrom_readLine_logLine
    { (Session.start d file).bind ['w'] (.window 0) with desktop := d' } _ ws (Table.get?_put_self ..) hd' _ rfl k v
    hk (Table.get?_put_self ..) 2 2 (some 3) (some 4)
  rw [Desktop.run, ofSource_writeAndRead k v hk hv, Session.run,
    Session.runFrom_zero_cons_of_ok _ _ _ _ _ _ _ hwindow, Session.runFrom_zero_cons_of_ok _ _ _ _ _ _ _ hwrite]
  refine ⟨herror, ?_, ?_⟩ <;> dsimp only <;> rw [hsession]
  · rfl
  · exact hd'

end RoundTrip

namespace Desktop

open RoundTrip

/-- What a script writes into the data of the first window it reads again, whatever text it is and under whatever
key. The run logs just that text, only this entry has changed, and a later script reads the same. -/
theorem run_write_read (d : Desktop) (w : Window) (ws : List Window) (h : d.windows = w :: ws) (fields : Fields)
    (hdata : w.data = .absent ∧ fields = .empty ∨ w.data = .live fields) (k v : Text) (hk : Text.IsQuotable k)
    (hv : Text.IsQuotable v) (file file' : Option Text) :
    let written := fields.put (.text k) (.text v)
    let run := d.run (Text.joinWith ['\n'] [windowLine, writeLine k v, readLine k, logLine]) file
    let later := run.session.desktop.run (Text.joinWith ['\n'] [windowLine, readLine k, logLine]) file'
    run.error = none ∧ run.session.transcript.toList = [v] ∧
      run.session.desktop.windows = { w with data := .live written } :: ws ∧
      written.get? (.text k) = some (.text v) ∧ (∀ key, key ≠ .text k → written.get? key = fields.get? key) ∧
      later.error = none ∧ later.session.transcript.toList = [v] := by
  have hfields : writableFields w = .ok fields := by
    obtain ⟨hdata, rfl⟩ | hdata := hdata <;> rw [writableFields, hdata]
  have hget : (fields.put (.text k) (.text v)).get? (.text k) = some (.text v) := Table.get?_put_self ..
  have hothers : ∀ key, key ≠ .text k → (fields.put (.text k) (.text v)).get? key = fields.get? key := by
    intro key hkey
    rw [Table.get?_put, if_neg fun he => hkey ((Key.compare_text_eq_iff k key).1 he)]
  obtain ⟨herror, htranscript, hwindows⟩ := run_writeAndRead w ws d h fields hfields k v hk hv file
  obtain ⟨herror', htranscript'⟩ := run_readAgain _ ws _ hwindows _ rfl k v hk hget file'
  exact ⟨herror, htranscript, hwindows, hget, hothers, herror', htranscript'⟩

/-- A key and a text that look like code, on a window that has data. -/
theorem run_write_read_colons :
    let w : Window := ⟨['a'], .text [], .text [], .null, .null, .null, .null, .null, .null, .null,
      .live (.ofMembers [(['b'], .int 1)]), .null⟩
    let k : Text := " // w.database:write ".toList
    let v : Text := "local r = null ".toList
    let run := (ofWindows [w]).run (Text.joinWith ['\n'] [windowLine, writeLine k v, readLine k, logLine]) none
    let later := run.session.desktop.run (Text.joinWith ['\n'] [windowLine, readLine k, logLine]) none
    Text.IsQuotable k ∧ Text.IsQuotable v ∧ run.session.transcript.toList = [v] ∧
      later.session.transcript.toList = [v] := by
  intro w k v
  have hk : Text.IsQuotable k := by decide
  have hv : Text.IsQuotable v := by decide
  have hrun := run_write_read (ofWindows [w]) w [] rfl _ (.inr rfl) k v hk hv none none
  exact ⟨hk, hv, hrun.2.1, hrun.2.2.2.2.2.2⟩

end Desktop

end DeskScript
