import DeskScript.Proofs.Desktop.Contents
import DeskScript.Proofs.Desktop.History
import DeskScript.Proofs.Desktop.Resolution
import DeskScript.Window.Members

namespace DeskScript

namespace Desktop

/-- A table holds the values under its keys, and plain data its items and members. -/
inductive Contains (d : Desktop) : Value → Value → Prop where
  | entry (ref : TableRef) (k : Key) (v : Value) (h : (d.fieldsOf ref).get? k = some v) : Contains d (.table ref) v
  | member (members : List (Text × Json)) (name : Text) (j : Json) (h : (name, j) ∈ members) :
      Contains d (.plain (.object members)) (.plain j)
  | item (items : List Json) (j : Json) (h : j ∈ items) : Contains d (.plain (.array items)) (.plain j)

theorem Contains.of_entry {d : Desktop} {ref : TableRef} {e : Key × Value} (he : e ∈ (d.fieldsOf ref).toList) :
    d.Contains (.table ref) e.2 :=
  .entry ref e.1 e.2 ((Table.mem_toList_iff _ _).1 he).2

/-- A value leads to itself and to all that is in it, at any depth. -/
def Reaches (d : Desktop) : Value → Value → Prop := Relation.ReflTransGen d.Contains

theorem plain_of_reaches (d : Desktop) (j : Json) (v : Value) (h : d.Reaches (.plain j) v) : ∃ j', v = .plain j' := by
  induction h with
  | refl => exact ⟨j, rfl⟩
  | tail _ hlast ih =>
    obtain ⟨j', rfl⟩ := ih
    cases hlast <;> exact ⟨_, rfl⟩

end Desktop

/-- If the value is a window, it is one of the first `n`. -/
def Value.Below (n : Nat) (v : Value) : Prop := ∀ m, v = .window m → m < n

def Fields.Below (n : Nat) (fields : Fields) : Prop := ∀ k v, fields.get? k = some v → v.Below n

namespace Value

theorem below_plain (n : Nat) (j : Json) : (plain j).Below n := nofun

theorem below_table (n : Nat) (ref : TableRef) : (table ref).Below n := nofun

theorem Below.mono {n m : Nat} {v : Value} (h : v.Below n) (hle : n ≤ m) : v.Below m :=
  fun i hi => Nat.lt_of_lt_of_le (h i hi) hle

end Value

theorem Fields.below_ofMembers {n : Nat} (members : List (Text × Json)) : (ofMembers members).Below n :=
  all_ofMembers (Value.below_plain n) members

def Window.Bare (w : Window) : Prop := ∀ fields, w.data = .live fields → fields.Below 0

/-- No table of the desktop holds a window that is not there. -/
structure Desktop.Sound (d : Desktop) : Prop where
  data : ∀ w ∈ d.windows, ∀ fields, w.data = .live fields → fields.Below d.windows.length
  replies : ∀ fields ∈ d.replies.toList, fields.Below d.windows.length

namespace Desktop

variable {d : Desktop}

theorem Sound.fieldsOf (hd : d.Sound) (ref : TableRef) : (d.fieldsOf ref).Below d.windows.length := by
  cases ref with
  | data n => exact d.all_fieldsOf_data hd.data n
  | reply r =>
    refine d.all_fieldsOf_reply r fun fields hr => ?_
    rw [Journal.get?_eq] at hr
    exact hd.replies fields (List.mem_of_getElem? hr)

theorem Sound.below_of_reaches (hd : d.Sound) {v u : Value} (hv : v.Below d.windows.length) (h : d.Reaches v u) :
    u.Below d.windows.length := by
  induction h with
  | refl => exact hv
  | tail _ hlast ih =>
    cases hlast with
    | entry ref k _ hu => exact hd.fieldsOf ref k _ hu
    | member | item => exact Value.below_plain _ _

theorem Sound.addWindow (hd : d.Sound) (w : Window) (hw : w.Bare) : (d.addWindow w).Sound where
  data w' hw' fields hfields := by
    obtain hold | hnew := List.mem_append.1 hw'
    · exact Table.All.mono (hd.data w' hold fields hfields) fun v hv => hv.mono (by simp [Desktop.addWindow])
    · obtain rfl := List.mem_singleton.1 hnew
      exact Table.All.mono (hw fields hfields) fun v hv => hv.mono (Nat.zero_le _)
  replies fields hfields :=
    Table.All.mono (hd.replies fields hfields) fun v hv => hv.mono (by simp [Desktop.addWindow])

/-- What an action gives, and leaves behind, names no window that is not there. -/
structure Keeps (d : Desktop) (v : Value) (d' : Desktop) : Prop where
  sound : d'.Sound
  value : v.Below d.windows.length
  length : d'.windows.length = d.windows.length

theorem Sound.keeps_self (hd : d.Sound) {v : Value} (hv : v.Below d.windows.length) : d.Keeps v d := ⟨hd, hv, rfl⟩

theorem below_dataValue (m n : Nat) (w : Window) : (dataValue m w).Below n :=
  dataValue_mem (Value.below_plain n) (fun i => Value.below_table n (.data i)) m w

theorem Sound.perform (hd : d.Sound) (n : Nat) (a : Action) (arguments : List Value)
    (harguments : ∀ u ∈ arguments, u.Below d.windows.length) (v : Value) (d' : Desktop)
    (h : d.perform n a arguments = .ok (v, d')) : d.Keeps v d' := by
  have hlength := (d.perform_evolves n a arguments v d' h).length
  obtain ⟨hdata, hv | ⟨fields, hfields, rfl, hreplies⟩⟩ := d.all_of_perform (Value.below_plain _)
    (fun m => Value.below_table _ (.data m)) hd.data n a arguments harguments v d' h
  · exact ⟨⟨hlength ▸ hdata, hlength ▸ hv.2 ▸ hd.replies⟩, hv.1, hlength⟩
  · refine ⟨⟨hlength ▸ hdata, ?_⟩, Value.below_table _ _, hlength⟩
    rw [hlength, hreplies, Journal.toList_push]
    exact List.forall_mem_append.2 ⟨hd.replies, List.forall_mem_singleton.2 hfields⟩

theorem Sound.fills (hd : d.Sound) {d' : Desktop} (h : d.Fills d') : d'.Sound := by
  have hlength := h.evolves.length
  exact ⟨hlength ▸ h.dataAll hd.data, hlength ▸ h.replies ▸ hd.replies⟩

end Desktop

/-- Neither tables nor variables hold a window that is not there. -/
structure Session.Sound (s : Session) : Prop where
  desktop : s.desktop.Sound
  bindings : ∀ name v, s.bindings.get? name = some v → v.Below s.desktop.windows.length

namespace Session

variable {s s' : Session}

theorem Sound.start {d : Desktop} (hd : d.Sound) (file : Option Text) : (Session.start d file).Sound where
  desktop := hd
  bindings name v hv := by
    rw [Session.start, Table.get?_empty] at hv
    cases hv

theorem Sound.of_knows (hs : s.Sound) {v : Value} (h : s.Knows v) : v.Below s.desktop.windows.length := by
  obtain ⟨j, rfl, -⟩ | ⟨name, h⟩ := h
  · exact Value.below_plain _ j
  · exact hs.bindings name v h

theorem Sound.evaluate (hs : s.Sound) (e : Expression) (v : Value) (d : Desktop) (h : s.evaluate e = .ok (v, d)) :
    s.desktop.Keeps v d := by
  obtain ⟨rfl, hv | ⟨pattern, n, -, rfl, hn⟩⟩ | ⟨name, n, a, arguments, -, hperform, harguments, -⟩ :=
    s.evaluate_cases e v d h
  · exact hs.desktop.keeps_self (hs.of_knows hv)
  · refine hs.desktop.keeps_self fun m hm => ?_
    cases hm
    exact ((Desktop.resolve_eq_some_iff _ _ _).1 hn).1.lt_length
  · exact hs.desktop.perform n a arguments (fun u hu => hs.of_knows (harguments u hu)) v d hperform

theorem Move.sound {P : Expression → Prop} (h : Move P s s') (hs : s.Sound) : s'.Sound := by
  cases h with
  | emit | define => exact ⟨hs.desktop, hs.bindings⟩
  | evaluate e v d he hv =>
    have hkeeps := hs.evaluate e v d hv
    refine ⟨hkeeps.sound, fun name u hu => ?_⟩
    exact hkeeps.length ▸ hs.bindings name u hu
  | bind name e v d he hv =>
    have hkeeps := hs.evaluate e v d hv
    refine ⟨hkeeps.sound, fun name' u hu => ?_⟩
    change u.Below d.windows.length
    rw [Session.bind, Table.get?_put] at hu
    rw [hkeeps.length]
    split at hu
    · cases hu
      exact hkeeps.value
    · exact hs.bindings name' u hu
  | fail e failure he hfail =>
    have hfills := (s.fills_of_evaluate_eq_error e failure hfail).2
    refine ⟨hs.desktop.fills hfills, fun name u hu => ?_⟩
    exact hfills.evolves.length ▸ hs.bindings name u hu

/-- Whatever scripts evaluate, they do not get at windows that are not there. -/
theorem Sound.run (hs : s.Sound) (lines : List Line) : ∀ s' ∈ (s.run lines).boundaries, s'.Sound := by
  intro s' hs'
  exact (s.run_anyMoves lines s' hs').keep Session.Sound (fun _ _ hmove h => hmove.sound h) hs

end Session

theorem Member.eq_table_of_toData (m : Member) (fields : Fields) (h : m.toData = .live fields) : m = .table fields := by
  cases m with
  | plain j => cases j <;> cases h
  | table => exact congrArg table (Data.live.inj h)

theorem Member.exists_of_ofJson (name : Text) (j : Json) (fields : Fields) (h : ofJson name j = .table fields) :
    ∃ members, fields = .ofMembers members := by
  unfold ofJson at h
  split at h
  · rename_i members
    split at h
    · exact ⟨members, (Member.table.inj h).symm⟩
    · cases h
  · cases h

namespace Window

theorem exists_parts_of_ofMembers (ms : Members) (w : Window) (h : ofMembers ms = .ok w) :
    ∃ id size position, partOf (ms.get "size" .null) = .ok size ∧ partOf (ms.get "position" .null) = .ok position ∧
      w = {
        id := id
        title := (ms.get "title" .null).orElse (.text [])
        appType := (ms.get "appType" .null).orElse (.text [])
        width := memberOr size "width" (.int 0)
        height := memberOr size "height" (.int 0)
        x := memberOr position "x" (.int 0)
        y := memberOr position "y" (.int 0)
        zIndex := ms.get "zIndex" (.int 0)
        minimized := ms.get "isMinimized" (.bool false)
        maximized := ms.get "isMaximized" (.bool false)
        data := match ms.lookup "data".toList with
          | some m => m.toData
          | none => .absent
        library := ms.get "library" .null } := by
  unfold ofMembers at h
  split at h
  · cases h
  · split at h
    · cases h
    · cases h
    · cases h
    · exact ⟨_, _, _, ‹_›, ‹_›, (Except.ok.inj h).symm⟩

theorem table_mem_of_ofMembers (ms : Members) (w : Window) (h : ofMembers ms = .ok w) (fields : Fields)
    (hfields : w.data = .live fields) : ∃ name, (name, Member.table fields) ∈ ms := by
  obtain ⟨_, _, _, -, -, rfl⟩ := exists_parts_of_ofMembers ms w h
  dsimp only at hfields
  split at hfields
  · rename_i m hm
    obtain ⟨before, after, rfl, -⟩ := List.lookup_eq_some_iff.1 hm
    obtain rfl := m.eq_table_of_toData fields hfields
    exact ⟨"data".toList, List.mem_append_right _ (List.mem_cons_self ..)⟩
  · cases hfields

theorem exists_members_of_ofJson (j : Json) (w : Window) (h : ofJson j = .ok w) (fields : Fields)
    (hfields : w.data = .live fields) : ∃ members, fields = .ofMembers members := by
  cases j with
  | object members =>
    obtain ⟨name, hmem⟩ := table_mem_of_ofMembers _ w h fields hfields
    obtain ⟨⟨name', j⟩, -, he⟩ := List.mem_map.1 hmem
    exact Member.exists_of_ofJson _ _ fields (Prod.mk.inj he).2
  | _ => cases h

theorem bare_of_ofJson (j : Json) (w : Window) (h : ofJson j = .ok w) : w.Bare := by
  intro fields hfields
  obtain ⟨members, rfl⟩ := w.exists_members_of_ofJson j h fields hfields
  exact Fields.below_ofMembers members

end Window

namespace Desktop

theorem sound_ofWindows (ws : List Window) (hws : ∀ w ∈ ws, w.Bare) : (ofWindows ws).Sound where
  data w hw fields hfields := Table.All.mono (hws w hw fields hfields) fun v hv => hv.mono (Nat.zero_le _)
  replies := by
    rw [ofWindows, Journal.toList_empty]
    exact fun w hw => absurd hw List.not_mem_nil

theorem Sound.afterCalls {d : Desktop} (hd : d.Sound) (calls : List HostCall)
    (hcalls : ∀ w ∈ calls.filterMap HostCall.added?, w.Bare) : (d.afterCalls calls).Sound := by
  induction calls generalizing d with
  | nil => exact hd
  | cons c calls ih =>
    have hrun : ∀ source file, (d.run source file).session.desktop.Sound := fun source file =>
      ((Session.Sound.start hd file).run _ _ (Run.session_mem_boundaries _)).desktop
    cases c with
    | execute source => exact ih (hrun source none) hcalls
    | run source file => exact ih (hrun source file) hcalls
    | addWindow w =>
      exact ih (hd.addWindow w (hcalls w (List.mem_cons_self ..))) fun w' hw' => hcalls w' (List.mem_cons_of_mem _ hw')

/-- Windows were read, and their host has run scripts and added windows with no window in their data, as all that are
read. Then, at every boundary of a further run, each window that a variable or the data of a window leads to is one of
the desktop, and no library leads to a window. -/
theorem exists_window_of_reaches (ws : List Window) (hread : ∀ w ∈ ws, ∃ j, Window.ofJson j = .ok w)
    (calls : List HostCall) (hadded : ∀ w ∈ calls.filterMap HostCall.added?, w.Bare) (source : Text)
    (file : Option Text) :
    ∀ s ∈ (((ofWindows ws).afterCalls calls).run source file).boundaries,
      (∀ name v, s.bindings.get? name = some v → ∀ n, s.desktop.Reaches v (.window n) →
        ∃ w, s.desktop.windows[n]? = some w) ∧
      ∀ m w, s.desktop.windows[m]? = some w →
        (∀ n, s.desktop.Reaches (dataValue m w) (.window n) → ∃ w', s.desktop.windows[n]? = some w') ∧
        ∀ n, ¬s.desktop.Reaches (.plain w.library) (.window n) := by
  have hwindows : (ofWindows ws).Sound := sound_ofWindows ws fun w hw => by
    obtain ⟨j, hj⟩ := hread w hw
    exact w.bare_of_ofJson j hj
  have hbefore := hwindows.afterCalls calls hadded
  intro s hs
  have hsound := (Session.Sound.start hbefore file).run _ s hs
  have hthere : ∀ v, v.Below s.desktop.windows.length → ∀ n, s.desktop.Reaches v (.window n) →
      ∃ w, s.desktop.windows[n]? = some w := fun v hv n hn =>
    ⟨_, List.getElem?_eq_getElem (hsound.desktop.below_of_reaches hv hn n rfl)⟩
  refine ⟨fun name v hv => hthere v (hsound.bindings name v hv), fun m w hw => ⟨?_, fun n hn => ?_⟩⟩
  · exact hthere _ (below_dataValue m _ w)
  · obtain ⟨j, hj⟩ := s.desktop.plain_of_reaches _ _ hn
    cases hj

/-- One script writes a window into the data of that window, and another one, after a window was added, gets it back. -/
theorem exists_window_of_reaches_read :
    let w : Window := ⟨['a'], .text [], .text [], .int 0, .int 0, .int 0, .int 0, .int 0, .bool false, .bool false,
      .absent, .null⟩
    let writing : Text := Text.joinWith ['\n'] ["local w = window_Id(a)".toList, "w.database:write(k, w)".toList]
    let reading : Text := Text.joinWith ['\n'] ["local w = window_Id(a)".toList,
      "local r = w.database:read(k)".toList]
    let s := (((ofWindows [w]).afterCalls [.execute writing, .addWindow w]).run reading none).session
    s.window? ['r'] = some 0 ∧
      (∀ name v, s.bindings.get? name = some v → ∀ n, s.desktop.Reaches v (.window n) →
        ∃ w, s.desktop.windows[n]? = some w) ∧
      ∀ m w, s.desktop.windows[m]? = some w →
        (∀ n, s.desktop.Reaches (dataValue m w) (.window n) → ∃ w', s.desktop.windows[n]? = some w') ∧
        ∀ n, ¬s.desktop.Reaches (.plain w.library) (.window n) := by
  intro w writing reading s
  have hread : Window.ofJson (.object [("id".toList, .text ['a'])]) = .ok w := rfl
  have hws : ∀ w' ∈ [w], ∃ j, Window.ofJson j = .ok w' := fun w' hw' => ⟨_, List.mem_singleton.1 hw' ▸ hread⟩
  have hadded : ∀ w' ∈ [HostCall.execute writing, .addWindow w].filterMap HostCall.added?, w'.Bare :=
    fun w' hw' => List.mem_singleton.1 hw' ▸ w.bare_of_ofJson _ hread
  exact ⟨by decide +kernel,
    exists_window_of_reaches [w] hws [.execute writing, .addWindow w] hadded reading none s
      (Run.session_mem_boundaries _)⟩

end Desktop

end DeskScript
