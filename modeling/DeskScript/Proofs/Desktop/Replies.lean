import DeskScript.Proofs.Desktop.References
import DeskScript.Proofs.Desktop.Requests

namespace DeskScript

/-- If the value is a reply, it is one of the first `n`. -/
def Value.Before (n : Nat) (v : Value) : Prop := ∀ r, v = .table (.reply r) → r < n

namespace Value

@[simp] theorem before_plain (n : Nat) (j : Json) : (plain j).Before n := nofun

@[simp] theorem before_text (n : Nat) (t : Text) : (text t).Before n := before_plain n _

@[simp] theorem before_window (n m : Nat) : (window m).Before n := nofun

@[simp] theorem before_data (n m : Nat) : (table (.data m)).Before n := nofun

@[simp] theorem before_reply_iff (n r : Nat) : (table (.reply r)).Before n ↔ r < n := by
  simp [Before]

theorem Before.mono {n m : Nat} {v : Value} (h : v.Before n) (hle : n ≤ m) : v.Before m :=
  fun r hr => Nat.lt_of_lt_of_le (h r hr) hle

end Value

def Window.Unanswered (w : Window) : Prop := w.DataAll (Value.Before 0)

theorem Window.unanswered_of_ofJson (j : Json) (w : Window) (h : ofJson j = .ok w) : w.Unanswered := by
  intro fields hfields
  obtain ⟨members, rfl⟩ := w.exists_members_of_ofJson j h fields hfields
  exact Fields.all_ofMembers (Value.before_plain 0) members

/-- Data holds replies that there are, and a reply those that were there when it was given. -/
structure Desktop.Ordered (d : Desktop) : Prop where
  data : ∀ w ∈ d.windows, w.DataAll (Value.Before d.replies.size)
  replies : ∀ i fields, d.replies.get? i = some fields → fields.All (Value.Before i)

namespace Desktop

variable {d : Desktop}

@[simp] theorem Ordered.fieldsOf_reply (hd : d.Ordered) (i : Nat) : (d.fieldsOf (.reply i)).All (Value.Before i) :=
  d.all_fieldsOf_reply i (hd.replies i)

theorem Ordered.addWindow (hd : d.Ordered) (w : Window) (hw : w.Unanswered) : (d.addWindow w).Ordered where
  data w' hw' := by
    obtain hold | hnew := List.mem_append.1 hw'
    · exact hd.data w' hold
    · obtain rfl := List.mem_singleton.1 hnew
      exact hw.mono fun v hv => hv.mono (Nat.zero_le _)
  replies := hd.replies

/-- Actions with replies that were given keep the order, and give no reply but a new one or one that was given. -/
theorem Ordered.perform (hd : d.Ordered) (n : Nat) (a : Action) (arguments : List Value)
    (harguments : ∀ u ∈ arguments, u.Before d.replies.size) (v : Value) (d' : Desktop)
    (h : d.perform n a arguments = .ok (v, d')) : d'.Ordered ∧ v.Before d'.replies.size := by
  obtain ⟨hdata, ⟨hv, hreplies⟩ | ⟨fields, hfields, rfl, hreplies⟩⟩ := d.all_of_perform (Value.before_plain _)
    (fun _ => nofun) hd.data n a arguments harguments v d' h
  · exact ⟨⟨hreplies ▸ hdata, hreplies ▸ hd.replies⟩, hreplies ▸ hv⟩
  · have hsize : d'.replies.size = d.replies.size + 1 := by
      rw [hreplies]
      rfl
    -- The new reply is the last one, and all that is in it was given before.
    rw [hsize]
    refine ⟨⟨fun w hw => ?_, fun i fields' hi => ?_⟩, ?_⟩
    · rw [hsize]
      exact (hdata w hw).mono fun v hv => hv.mono (Nat.le_succ _)
    · rw [hreplies, Journal.get?_push] at hi
      split at hi
      · rename_i hlast
        cases hi
        exact hlast ▸ hfields
      · exact hd.replies i fields' hi
    · intro r hr
      cases hr
      exact Nat.lt_succ_self _

theorem Ordered.fills (hd : d.Ordered) {d' : Desktop} (h : d.Fills d') : d'.Ordered :=
  ⟨h.replies ▸ h.dataAll hd.data, h.replies ▸ hd.replies⟩

end Desktop

structure Session.Ordered (s : Session) : Prop where
  desktop : s.desktop.Ordered
  bindings : s.bindings.All (Value.Before s.desktop.replies.size)

namespace Session

variable {s s' : Session}

theorem Ordered.start {d : Desktop} (hd : d.Ordered) (file : Option Text) : (Session.start d file).Ordered :=
  ⟨hd, Table.all_empty⟩

theorem Ordered.of_knows (hs : s.Ordered) {v : Value} (h : s.Knows v) : v.Before s.desktop.replies.size := by
  obtain ⟨j, rfl, -⟩ | ⟨name, h⟩ := h
  · exact Value.before_plain _ j
  · exact hs.bindings name v h

theorem Ordered.evaluate (hs : s.Ordered) (e : Expression) (v : Value) (d : Desktop) (h : s.evaluate e = .ok (v, d)) :
    d.Ordered ∧ v.Before d.replies.size ∧ s.desktop.replies.size ≤ d.replies.size := by
  obtain ⟨rfl, hv | ⟨pattern, n, -, rfl, -⟩⟩ | ⟨name, n, a, arguments, -, hperform, harguments, -⟩ :=
    s.evaluate_cases e v d h
  · exact ⟨hs.desktop, hs.of_knows hv, Nat.le_refl _⟩
  · exact ⟨hs.desktop, Value.before_window _ n, Nat.le_refl _⟩
  · obtain ⟨hd, hv⟩ := hs.desktop.perform n a arguments (fun u hu => hs.of_knows (harguments u hu)) v d hperform
    exact ⟨hd, hv, Desktop.size_replies_le (Desktop.perform_replies _ n a arguments v d hperform)⟩

theorem Move.ordered {P : Expression → Prop} (h : Move P s s') (hs : s.Ordered) : s'.Ordered := by
  cases h with
  | emit | define => exact ⟨hs.desktop, hs.bindings⟩
  | evaluate e v d he hv =>
    obtain ⟨hd, -, hle⟩ := hs.evaluate e v d hv
    exact ⟨hd, hs.bindings.mono fun u hu => hu.mono hle⟩
  | bind name e v d he hv =>
    obtain ⟨hd, hv, hle⟩ := hs.evaluate e v d hv
    exact ⟨hd, Table.All.put (hs.bindings.mono fun u hu => hu.mono hle) name hv⟩
  | fail e failure he hfail =>
    have hfills := (s.fills_of_evaluate_eq_error e failure hfail).2
    exact ⟨hs.desktop.fills hfills, hfills.replies ▸ hs.bindings⟩

theorem Ordered.run (hs : s.Ordered) (lines : List Line) : ∀ s' ∈ (s.run lines).boundaries, s'.Ordered := by
  intro s' hs'
  exact (s.run_anyMoves lines s' hs').keep Session.Ordered (fun _ _ hmove h => hmove.ordered h) hs

end Session

namespace Desktop

theorem ordered_ofWindows (ws : List Window) (hws : ∀ w ∈ ws, w.Unanswered) : (ofWindows ws).Ordered where
  data w hw := (hws w hw).mono fun v hv => hv.mono (Nat.zero_le _)
  replies i fields hi := by
    rw [ofWindows, Journal.get?_eq, Journal.toList_empty] at hi
    cases hi

theorem Ordered.afterCalls {d : Desktop} (hd : d.Ordered) (calls : List HostCall)
    (hcalls : ∀ w ∈ calls.filterMap HostCall.added?, w.Unanswered) : (d.afterCalls calls).Ordered := by
  induction calls generalizing d with
  | nil => exact hd
  | cons c calls ih =>
    have hrun : ∀ source file, (d.run source file).session.desktop.Ordered := fun source file =>
      ((Session.Ordered.start hd file).run _ _ (Run.session_mem_boundaries _)).desktop
    cases c with
    | execute source => exact ih (hrun source none) hcalls
    | run source file => exact ih (hrun source file) hcalls
    | addWindow w =>
      exact ih (hd.addWindow w (hcalls w (List.mem_cons_self ..))) fun w' hw' => hcalls w' (List.mem_cons_of_mem _ hw')

/-- Windows were read, and their host has run scripts and added windows with no reply in their data, as all that are
read. Then no reply holds itself or a later one. -/
theorem ordered_afterCalls (ws : List Window) (hread : ∀ w ∈ ws, ∃ j, Window.ofJson j = .ok w) (calls : List HostCall)
    (hadded : ∀ w ∈ calls.filterMap HostCall.added?, w.Unanswered) : ((ofWindows ws).afterCalls calls).Ordered := by
  refine Ordered.afterCalls (ordered_ofWindows ws fun w hw => ?_) calls hadded
  obtain ⟨j, hj⟩ := hread w hw
  exact w.unanswered_of_ofJson j hj

end Desktop

end DeskScript
