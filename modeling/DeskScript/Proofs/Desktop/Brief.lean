import DeskScript.Proofs.Desktop.LongNumbers
import DeskScript.Proofs.Json.Reading
import DeskScript.Window.Loading

namespace DeskScript

/-- If the value is plain data, no number in it is too long. -/
def Value.Brief (v : Value) : Prop := ∀ j, v = .plain j → j.canWrite = true

theorem Value.brief_plain {j : Json} (h : j.canWrite = true) : (plain j).Brief := fun _ hi => plain.inj hi ▸ h

theorem Value.brief_window (n : Nat) : (window n).Brief := nofun

theorem Value.brief_table (ref : TableRef) : (table ref).Brief := nofun

structure Fields.Brief (fields : Fields) : Prop where
  keys : ∀ k ∈ fields.toList.map Prod.fst, k.canWrite = true
  values : fields.All Value.Brief

namespace Fields

theorem brief_empty : Brief .empty := ⟨List.forall_mem_nil _, Table.all_empty⟩

theorem Brief.put {fields : Fields} (h : fields.Brief) {k : Key} (hk : k.canWrite = true) {v : Value} (hv : v.Brief) :
    Brief (fields.put k v) where
  keys := by
    rw [Table.keys_put]
    split
    · exact h.keys
    · exact List.forall_mem_append.2 ⟨h.keys, List.forall_mem_singleton.2 hk⟩
  values := h.values.put k hv

theorem brief_ofList (entries : List (Key × Value)) (h : ∀ e ∈ entries, e.1.canWrite = true ∧ e.2.Brief) :
    Brief (.ofList entries) := by
  have hadded : ∀ fields : Fields, fields.Brief → Brief (entries.foldl (fun t e => t.put e.1 e.2) fields) := by
    induction entries with
    | nil => exact fun fields hfields => hfields
    | cons e entries ih =>
      intro fields hfields
      have he := h e List.mem_cons_self
      exact ih (fun f hf => h f (List.mem_cons_of_mem _ hf)) _ (hfields.put he.1 he.2)
  exact hadded _ brief_empty

end Fields

structure Window.Brief (w : Window) : Prop where
  title : w.title.canWrite = true
  appType : w.appType.canWrite = true
  width : w.width.canWrite = true
  height : w.height.canWrite = true
  library : w.library.canWrite = true
  fixed : ∀ j, w.data = .fixed j → j.canWrite = true
  live : ∀ fields, w.data = .live fields → fields.Brief

structure Desktop.Brief (d : Desktop) : Prop where
  windows : ∀ w ∈ d.windows, w.Brief
  replies : ∀ i fields, d.replies.get? i = some fields → fields.Brief

structure Session.Brief (s : Session) : Prop where
  desktop : s.desktop.Brief
  bindings : s.bindings.All Value.Brief

namespace Window.Brief

variable {w : Window}

theorem libraryOrDefault (hw : w.Brief) : w.libraryOrDefault.canWrite = true := by
  unfold Window.libraryOrDefault
  split
  · simp [defaultLibrary, Json.canWrite, Json.canWriteMembers, Json.canWriteItems, hw.width, hw.height]
    decide
  · exact hw.library

theorem dataValue (hw : w.Brief) (n : Nat) : (Desktop.dataValue n w).Brief := by
  unfold Desktop.dataValue
  split
  · exact Value.brief_plain rfl
  · exact Value.brief_plain (hw.fixed _ ‹_›)
  · exact Value.brief_table _

theorem writableFields (hw : w.Brief) (fields : Fields) (h : Desktop.writableFields w = .ok fields) :
    fields.Brief := by
  unfold Desktop.writableFields at h
  split at h
  · cases h
    exact Fields.brief_empty
  · cases h
    exact hw.live _ ‹_›
  · cases h

theorem infoFields (hw : w.Brief) (n : Nat) {given : Value} (h : given.Brief) :
    (Desktop.infoFields n w given).Brief := by
  refine Fields.brief_ofList _ fun e he => ?_
  simp only [List.mem_cons, List.not_mem_nil, or_false] at he
  obtain rfl | rfl | rfl | rfl | rfl | rfl := he
  · exact ⟨rfl, Value.brief_plain rfl⟩
  · exact ⟨rfl, Value.brief_plain hw.title⟩
  · exact ⟨rfl, Value.brief_plain hw.appType⟩
  · exact ⟨rfl, Value.brief_plain hw.libraryOrDefault⟩
  · exact ⟨rfl, Value.brief_plain hw.libraryOrDefault⟩
  · refine ⟨rfl, ?_⟩
    dsimp only
    split
    · exact hw.dataValue n
    · exact h

end Window.Brief

namespace Desktop

variable {d d' : Desktop}

namespace Brief

theorem fieldsOf (hd : d.Brief) (ref : TableRef) : (d.fieldsOf ref).Brief := by
  cases ref with
  | data n =>
    unfold Desktop.fieldsOf
    dsimp only
    split
    · rename_i w hw
      split
      · exact (hd.windows w (List.mem_of_getElem? hw)).live _ ‹_›
      · exact Fields.brief_empty
    · exact Fields.brief_empty
  | reply i =>
    change ((d.replies.get? i).getD .empty).Brief
    cases hi : d.replies.get? i with
    | none => exact Fields.brief_empty
    | some fields => exact hd.replies i fields hi

theorem of_reaches (hd : d.Brief) {v u : Value} (hv : v.Brief) (h : d.Reaches v u) : u.Brief := by
  induction h with
  | refl => exact hv
  | tail _ hlast ih =>
    cases hlast with
    | entry ref k _ hu => exact (hd.fieldsOf ref).values k _ hu
    | member members name j hj =>
      have hall := ih _ rfl
      rw [Json.canWrite_object, List.all_eq_true] at hall
      exact Value.brief_plain (hall _ hj)
    | item items j hj =>
      have hall := ih _ rfl
      rw [Json.canWrite_array, List.all_eq_true] at hall
      exact Value.brief_plain (hall _ hj)

theorem not_hasLong (hd : d.Brief) {v : Value} (hv : v.Brief) : ¬d.HasLong v := by
  rintro ⟨u, hreach, hlong⟩
  have hu := hd.of_reaches hv hreach
  cases hlong with
  | number n h => exact Bool.noConfusion (h.symm.trans (hu _ rfl))
  | key ref e he h =>
    exact Bool.noConfusion (h.symm.trans ((hd.fieldsOf ref).keys e.1 (List.mem_map_of_mem he)))

theorem canBeKey (hd : d.Brief) {v : Value} (hv : v.Brief) : d.canBeKey v = true := by
  rw [← Bool.not_eq_false, canBeKey_eq_false_iff]
  exact fun h => hd.not_hasLong hv h.2

theorem canWrite_keyOf {v : Value} (hv : v.Brief) : (d.keyOf v).canWrite = true := by
  cases v with
  | plain j =>
    cases j with
    | int n => exact hv _ rfl
    | _ => rfl
  | window | table => rfl

theorem setWindow (hd : d.Brief) (n : Nat) {w : Window} (hw : w.Brief) : (d.setWindow n w).Brief where
  windows w' hw' := by
    obtain hold | rfl := List.mem_or_eq_of_mem_set hw'
    · exact hd.windows w' hold
    · exact hw
  replies := hd.replies

theorem reply (hd : d.Brief) {fields : Fields} (h : fields.Brief) : (d.reply fields).2.Brief where
  windows := hd.windows
  replies i fields' hi := by
    change (d.replies.push fields).get? i = some fields' at hi
    rw [Journal.get?_push] at hi
    split at hi
    · exact Option.some.inj hi ▸ h
    · exact hd.replies i fields' hi

theorem addWindow (hd : d.Brief) {w : Window} (hw : w.Brief) : (d.addWindow w).Brief where
  windows := List.forall_mem_append.2 ⟨hd.windows, List.forall_mem_singleton.2 hw⟩
  replies := hd.replies

theorem fills (hd : d.Brief) (h : d.Fills d') : d'.Brief := by
  cases h with
  | nothing => exact hd
  | library n w hw members hmembers =>
    have hold := hd.windows w (List.mem_of_getElem? hw)
    exact hd.setWindow n { hold with library := hmembers ▸ hold.libraryOrDefault }
  | data n w hw fields hfields =>
    have hold := hd.windows w (List.mem_of_getElem? hw)
    exact hd.setWindow n { hold with
      fixed := nofun
      live := fun _ he => Data.live.inj he ▸ hold.writableFields fields hfields }

theorem entryUnder {members : List (Text × Json)} (h : (Json.object members).canWrite = true) (k : Key) :
    (entryUnder members k).canWrite = true := by
  rw [Json.canWrite_object, List.all_eq_true] at h
  unfold Desktop.entryUnder
  split
  · rename_i t
    cases hlookup : members.lookup t with
    | none => rfl
    | some j =>
      obtain ⟨before, after, rfl, -⟩ := List.lookup_eq_some_iff.1 hlookup
      exact h (t, j) (by simp)
  · rfl

theorem perform (hd : d.Brief) (n : Nat) (a : Action) (arguments : List Value)
    (harguments : ∀ u ∈ arguments, u.Brief) (v : Value) (h : d.perform n a arguments = .ok (v, d')) :
    v.Brief ∧ d'.Brief := by
  -- An argument that is not given is null.
  have hargument : ∀ i : Nat, (arguments[i]?.getD .null).Brief := by
    intro i
    cases hi : arguments[i]? with
    | none => exact Value.brief_plain rfl
    | some u => exact harguments u (List.mem_of_getElem? hi)
  cases d.performs n a arguments v d' h with
  | nothing => exact ⟨Value.brief_plain rfl, hd⟩
  | info w hw v d' hreply =>
    cases hreply
    exact ⟨Value.brief_table _, hd.reply ((hd.windows w (List.mem_of_getElem? hw)).infoFields n (hargument 0))⟩
  | find w hw members hmembers key hkey hcan =>
    have hlibrary := (hd.windows w (List.mem_of_getElem? hw)).libraryOrDefault
    rw [hmembers] at hlibrary
    exact ⟨Value.brief_plain (entryUnder hlibrary _), hd.fills (.library n w hw members hmembers)⟩
  | read w hw v hread =>
    obtain ⟨-, rfl⟩ | ⟨fields, hfields, -, rfl⟩ := (d.read_eq_ok_iff w _ v).1 hread
    · exact ⟨Value.brief_plain rfl, hd⟩
    · refine ⟨?_, hd⟩
      cases hk : fields.get? (d.keyOf (arguments[0]?.getD .null)) with
      | none => exact Value.brief_plain rfl
      | some v => exact ((hd.windows w (List.mem_of_getElem? hw)).live fields hfields).values _ v hk
  | write w hw fields hfields key value hkey hvalue hcan v d' hreply =>
    cases hreply
    subst hkey hvalue
    have hold := hd.windows w (List.mem_of_getElem? hw)
    have hput := (hold.writableFields fields hfields).put (canWrite_keyOf (d := d) (hargument 0)) (hargument 1)
    have hset := hd.setWindow n (w := { w with data := .live (fields.put _ _) }) { hold with
      fixed := nofun
      live := fun _ he => Data.live.inj he ▸ hput }
    refine ⟨Value.brief_table _, hset.reply (Fields.brief_ofList _ fun e he => ?_)⟩
    simp only [List.mem_cons, List.not_mem_nil, or_false] at he
    obtain rfl | rfl | rfl := he
    · exact ⟨rfl, Value.brief_plain rfl⟩
    · exact ⟨rfl, hargument 0⟩
    · exact ⟨rfl, hargument 1⟩

end Brief

end Desktop

namespace Session

variable {s s' : Session}

namespace Brief

theorem start {d : Desktop} (hd : d.Brief) (file : Option Text) : (Session.start d file).Brief :=
  ⟨hd, Table.all_empty⟩

theorem of_knows (hs : s.Brief) {v : Value} (h : s.Knows v) : v.Brief := by
  obtain ⟨j, rfl, rfl | ⟨t, rfl⟩⟩ | ⟨name, h⟩ := h
  · exact Value.brief_plain rfl
  · exact Value.brief_plain rfl
  · exact hs.bindings name v h

theorem evaluate (hs : s.Brief) (e : Expression) (v : Value) (d : Desktop) (h : s.evaluate e = .ok (v, d)) :
    v.Brief ∧ d.Brief := by
  obtain ⟨rfl, hv | ⟨pattern, n, -, rfl, -⟩⟩ | ⟨name, n, a, arguments, -, hperform, harguments, -⟩ :=
    s.evaluate_cases e v d h
  · exact ⟨hs.of_knows hv, hs.desktop⟩
  · exact ⟨Value.brief_window n, hs.desktop⟩
  · exact hs.desktop.perform n a arguments (fun u hu => hs.of_knows (harguments u hu)) v hperform

end Brief

theorem Move.brief {P : Expression → Prop} (h : Move P s s') (hs : s.Brief) : s'.Brief := by
  cases h with
  | emit | define => exact ⟨hs.desktop, hs.bindings⟩
  | evaluate e v d he hv => exact ⟨(hs.evaluate e v d hv).2, hs.bindings⟩
  | bind name e v d he hv =>
    obtain ⟨hvalue, hd⟩ := hs.evaluate e v d hv
    exact ⟨hd, hs.bindings.put name hvalue⟩
  | fail e failure he hfail => exact ⟨hs.desktop.fills (s.fills_of_evaluate_eq_error e failure hfail).2, hs.bindings⟩

theorem Brief.run (hs : s.Brief) (lines : List Line) : ∀ s' ∈ (s.run lines).boundaries, s'.Brief :=
  fun s' hs' => (s.run_anyMoves lines s' hs').keep Session.Brief (fun _ _ hmove h => hmove.brief h) hs

end Session

namespace Json

theorem canWrite_orElse {j fallback : Json} (h : j.canWrite = true) (hfallback : fallback.canWrite = true) :
    (j.orElse fallback).canWrite = true := by
  unfold orElse
  split
  · exact hfallback
  · exact h

theorem canWrite_memberOr {members : List (Text × Json)} (h : ∀ m ∈ members, m.2.canWrite = true) (name : String)
    {fallback : Json} (hfallback : fallback.canWrite = true) : (memberOr members name fallback).canWrite = true := by
  unfold memberOr
  cases hlookup : members.lookup name.toList with
  | none => exact hfallback
  | some j =>
    obtain ⟨before, after, rfl, -⟩ := List.lookup_eq_some_iff.1 hlookup
    exact h (name.toList, j) (by simp)

end Json

def Member.Brief : Member → Prop
  | plain j => j.canWrite = true
  | table fields => fields.Brief

theorem Member.brief_ofJson (name : Text) (j : Json) (h : j.canWrite = true) : (Member.ofJson name j).Brief := by
  unfold Member.ofJson
  split
  · rename_i members
    split
    · refine Fields.brief_ofList _ fun e he => ?_
      obtain ⟨m, hm, rfl⟩ := List.mem_map.1 he
      rw [Json.canWrite_object, List.all_eq_true] at h
      exact ⟨rfl, Value.brief_plain (h m hm)⟩
    · exact h
  · exact h

namespace Members

variable {ms : Members}

theorem brief_of_lookup (h : ∀ m ∈ ms, m.2.Brief) {name : Text} {m : Member} (hm : ms.lookup name = some m) :
    m.Brief := by
  obtain ⟨before, after, rfl, -⟩ := List.lookup_eq_some_iff.1 hm
  exact h (name, m) (by simp)

theorem canWrite_get (h : ∀ m ∈ ms, m.2.Brief) (name : String) {fallback : Json}
    (hfallback : fallback.canWrite = true) : (ms.get name fallback).canWrite = true := by
  unfold get
  split
  · rename_i m hm
    have hbrief := brief_of_lookup h hm
    cases m with
    | plain j => exact hbrief
    | table fields => rfl
  · exact hfallback

end Members

theorem canWrite_of_partOf {j : Json} (h : j.canWrite = true) (members : List (Text × Json))
    (hpart : partOf j = .ok members) : ∀ m ∈ members, m.2.canWrite = true := by
  have hj : (j.orElse (.object [])).canWrite = true := Json.canWrite_orElse h rfl
  unfold partOf at hpart
  split at hpart
  · rename_i hobject
    cases hpart
    rw [hobject, Json.canWrite_object, List.all_eq_true] at hj
    exact hj
  · cases hpart

namespace Window

theorem brief_of_ofMembers (ms : Members) (hms : ∀ m ∈ ms, m.2.Brief) (w : Window) (h : ofMembers ms = .ok w) :
    w.Brief := by
  obtain ⟨id, size, position, hsize, -, rfl⟩ := exists_parts_of_ofMembers ms w h
  have hsize' := canWrite_of_partOf (Members.canWrite_get hms "size" rfl) size hsize
  have hdata : ∀ m, ms.lookup "data".toList = some m → m.Brief := fun m hm => Members.brief_of_lookup hms hm
  refine ⟨Json.canWrite_orElse (Members.canWrite_get hms _ rfl) rfl,
    Json.canWrite_orElse (Members.canWrite_get hms _ rfl) rfl, Json.canWrite_memberOr hsize' _ rfl,
    Json.canWrite_memberOr hsize' _ rfl, Members.canWrite_get hms _ rfl, fun j hj => ?_, fun fields hfields => ?_⟩
  · dsimp only at hj
    split at hj
    · rename_i m hm
      cases m with
      | plain i =>
        have hi : i.canWrite = true := hdata _ hm
        cases i <;> cases hj <;> exact hi
      | table fields => cases hj
    · cases hj
  · dsimp only at hfields
    split at hfields
    · rename_i m hm
      obtain rfl := m.eq_table_of_toData fields hfields
      exact hdata _ hm
    · cases hfields

theorem brief_of_ofJson (j : Json) (hj : j.canWrite = true) (w : Window) (h : ofJson j = .ok w) : w.Brief := by
  cases j with
  | object members =>
    refine brief_of_ofMembers _ (fun m hm => ?_) w h
    obtain ⟨m, hmem, rfl⟩ := List.mem_map.1 hm
    rw [Json.canWrite_object, List.all_eq_true] at hj
    exact Member.brief_ofJson m.1 m.2 (hj m hmem)
  | _ => cases h

theorem brief_of_windowsOf (j : Json) (hj : j.canWrite = true) (ws : List Window) (h : windowsOf j = .ok ws) :
    ∀ w ∈ ws, w.Brief := by
  have hlisted : (windowsOf.listed j).canWrite = true := by
    unfold windowsOf.listed
    split
    · rw [Json.canWrite_object, List.all_eq_true] at hj
      exact Json.canWrite_memberOr hj _ rfl
    · exact hj
  unfold windowsOf at h
  split at h
  · rename_i items hitems
    rw [hitems, Json.canWrite_array, List.all_eq_true] at hlisted
    intro w hw
    obtain ⟨i, hi, hwindow⟩ :=
      Except.exists_of_mem_of_mapM_eq_ok _ _ _ ((Except.mapError_eq_ok_iff _ _ _).1 h) w hw
    exact brief_of_ofJson i (hlisted i hi) w hwindow
  all_goals
    cases h
    try exact fun w hw => absurd hw List.not_mem_nil

def WasRead (w : Window) : Prop := ∃ t ws, readWindows t = .ok ws ∧ w ∈ ws

theorem WasRead.brief {w : Window} (h : w.WasRead) : w.Brief := by
  obtain ⟨t, ws, hread, hw⟩ := h
  unfold readWindows at hread
  split at hread
  · cases hread
  · exact brief_of_windowsOf _ (Json.canWrite_of_read t _ ‹_›) ws hread w hw

end Window

namespace Desktop

theorem brief_ofWindows (ws : List Window) (hws : ∀ w ∈ ws, w.Brief) : (ofWindows ws).Brief where
  windows := hws
  replies i fields hi := by
    rw [ofWindows, Journal.get?_eq, Journal.toList_empty] at hi
    cases hi

theorem Brief.afterCalls {d : Desktop} (hd : d.Brief) (calls : List HostCall)
    (hcalls : ∀ w ∈ calls.filterMap HostCall.added?, w.Brief) : (d.afterCalls calls).Brief := by
  induction calls generalizing d with
  | nil => exact hd
  | cons c calls ih =>
    have hrun : ∀ source file, (d.run source file).session.desktop.Brief := fun source file =>
      ((Session.Brief.start hd file).run _ _ (Run.session_mem_boundaries _)).desktop
    cases c with
    | execute source => exact ih (hrun source none) hcalls
    | run source file => exact ih (hrun source file) hcalls
    | addWindow w =>
      exact ih (hd.addWindow (hcalls w (List.mem_cons_self ..))) fun w' hw' => hcalls w' (List.mem_cons_of_mem _ hw')

/-- A host that has read all its windows from texts never comes by a number that is too long. -/
theorem brief_afterCalls (ws : List Window) (hread : ∀ w ∈ ws, w.WasRead) (calls : List HostCall)
    (hadded : ∀ w ∈ calls.filterMap HostCall.added?, w.WasRead) : ((ofWindows ws).afterCalls calls).Brief :=
  (brief_ofWindows ws fun w hw => (hread w hw).brief).afterCalls calls fun w hw => (hadded w hw).brief

end Desktop

/-- A run comes to the session, on windows that were read from texts and after whatever else has been run on them. -/
def Session.IsReached (s : Session) : Prop :=
  ∃ ws : List Window, (∀ w ∈ ws, w.WasRead) ∧
    ∃ calls : List HostCall, (∀ w ∈ calls.filterMap HostCall.added?, w.WasRead) ∧
      ∃ (source : Text) (file : Option Text),
        s ∈ (((Desktop.ofWindows ws).afterCalls calls).run source file).boundaries

theorem Session.IsReached.brief {s : Session} (h : s.IsReached) : s.Brief := by
  obtain ⟨ws, hread, calls, hadded, source, file, hs⟩ := h
  exact (Session.Brief.start (Desktop.brief_afterCalls ws hread calls hadded) file).run _ s hs

end DeskScript
