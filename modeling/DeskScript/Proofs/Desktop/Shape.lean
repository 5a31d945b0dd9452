import DeskScript.Proofs.Desktop.Rendering
import DeskScript.Proofs.Desktop.Replies
import Mathlib.Data.List.Chain
import Mathlib.Data.Prod.Lex

namespace DeskScript

namespace Value

/-- A bound for the ways into a value that is no data of a window: replies hold earlier ones only, and plain data holds
smaller data. -/
noncomputable def rank : Value → ℕ ×ₗ ℕ
  | plain j => toLex (0, sizeOf j)
  | table (.reply i) => toLex (i + 1, 0)
  | _ => toLex (0, 0)

def table? : Value → Option TableRef
  | table ref => some ref
  | _ => none

theorem table?_eq_some_iff (v : Value) (ref : TableRef) : v.table? = some ref ↔ v = .table ref := by
  cases v <;> simp [table?]

end Value

namespace Desktop

def IsWindowData (d : Desktop) (v : Value) : Prop :=
  ∃ n w fields, d.windows[n]? = some w ∧ w.data = .live fields ∧ v = dataValue n w

/-- The keys of a table, as data, and the names in plain data. -/
inductive HasKey (d : Desktop) : Value → Json → Prop where
  | entry (ref : TableRef) (k : Key) (v : Value) (h : (k, v) ∈ (d.fieldsOf ref).toList) : HasKey d (.table ref) k.toJson
  | member (members : List (Text × Json)) (name : Text) (j : Json) (h : (name, j) ∈ members) :
      HasKey d (.plain (.object members)) (.text name)

variable {d : Desktop}

theorem HasKey.isContainer_eq {v : Value} {k : Json} (h : d.HasKey v k) : k.isContainer = false := by
  cases h with
  | entry ref k => cases k <;> rfl
  | member => rfl

theorem dataValue_of_live (n : Nat) (w : Window) (fields : Fields) (h : w.data = .live fields) :
    dataValue n w = .table (.data n) := by
  rw [dataValue, h]

theorem eq_of_dataValue_eq (m n : Nat) (w : Window) (h : dataValue m w = .table (.data n)) : m = n := by
  unfold dataValue at h
  split at h <;> cases h
  rfl

theorem IsWindowData.existsUnique {u : Value} (h : d.IsWindowData u) :
    ∃! n, ∃ w, d.windows[n]? = some w ∧ dataValue n w = u := by
  obtain ⟨n, w, fields, hw, hfields, rfl⟩ := h
  refine ⟨n, ⟨w, hw, rfl⟩, ?_⟩
  rintro m ⟨w', -, hm⟩
  rw [dataValue_of_live n w fields hfields] at hm
  exact eq_of_dataValue_eq m n w' hm

theorem not_isWindowData_of_reaches_plain {j : Json} {u : Value} (h : d.Reaches (.plain j) u) : ¬d.IsWindowData u := by
  rintro ⟨n, w, fields, -, hfields, rfl⟩
  obtain ⟨j', hj'⟩ := d.plain_of_reaches j _ h
  rw [dataValue_of_live n w fields hfields] at hj'
  cases hj'

theorem isWindowData_of_contains {n : Nat} {u : Value} (h : d.Contains (.table (.data n)) u) :
    d.IsWindowData (.table (.data n)) := by
  cases h with
  | entry ref k _ hk =>
    unfold fieldsOf at hk
    dsimp only at hk
    split at hk
    · rename_i w hw
      split at hk
      · rename_i fields hfields
        exact ⟨n, w, fields, hw, hfields, (dataValue_of_live n w fields hfields).symm⟩
      · rw [Table.get?_empty] at hk
        cases hk
    · rw [Table.get?_empty] at hk
      cases hk

theorem Ordered.rank_lt_of_contains (hd : d.Ordered) {v u : Value} (h : d.Contains v u)
    (hv : ∀ n, v ≠ .table (.data n)) (hu : ∀ n, u ≠ .table (.data n)) : u.rank < v.rank := by
  cases h with
  | entry ref k _ hk =>
    cases ref with
    | data n => exact absurd rfl (hv n)
    | reply i =>
      have hbefore : u.Before i := hd.fieldsOf_reply i k u hk
      cases u with
      | plain | window => exact Prod.Lex.toLex_lt_toLex.2 (.inl (Nat.succ_pos i))
      | table ref =>
        cases ref with
        | data n => exact absurd rfl (hu n)
        | reply r => exact Prod.Lex.toLex_lt_toLex.2 (.inl (Nat.succ_lt_succ (hbefore r rfl)))
  | member members name j hj =>
    have hlt := sizeOf_lt_of_contains (.member (d := d) members name j hj)
    exact Prod.Lex.toLex_lt_toLex.2 (.inr ⟨rfl, hlt⟩)
  | item items j hj =>
    have hlt := sizeOf_lt_of_contains (.item (d := d) items j hj)
    exact Prod.Lex.toLex_lt_toLex.2 (.inr ⟨rfl, hlt⟩)

/-- Ranks would get smaller and smaller on a cycle without the data of a window. -/
theorem Ordered.exists_data_of_isChain (hd : d.Ordered) {v : Value} {vs : List Value}
    (h : (v :: (vs ++ [v])).IsChain d.Contains) : ∃ n, .table (.data n) ∈ v :: vs := by
  by_contra hnone
  have hothers : ∀ u ∈ v :: (vs ++ [v]), ∀ n, u ≠ .table (.data n) := by
    rintro u hu n rfl
    apply hnone
    refine ⟨n, ?_⟩
    simpa [or_comm] using hu
  -- Only from the data of a window can the rank go up again.
  have hranks : ((v :: (vs ++ [v])).map Value.rank).IsChain (· > ·) := by
    rw [List.isChain_map]
    exact h.imp_of_mem_imp fun a b ha hb hab => hd.rank_lt_of_contains hab (hothers a ha) (hothers b hb)
  have hback : v.rank > v.rank := hranks.rel_cons (by simp)
  exact lt_irrefl _ hback

theorem exists_contains_of_isChain {v u : Value} {vs : List Value} (h : (v :: (vs ++ [v])).IsChain d.Contains)
    (hu : u ∈ v :: vs) : ∃ x, d.Contains u x := by
  obtain ⟨before, after, hvs⟩ := List.append_of_mem hu
  have hsplit : v :: (vs ++ [v]) = before ++ u :: (after ++ [v]) := by
    rw [← List.cons_append, hvs, List.append_assoc, List.cons_append]
  rw [hsplit] at h
  have hfrom := h.right_of_append
  cases after with
  | nil => exact ⟨v, hfrom.rel⟩
  | cons x after => exact ⟨x, hfrom.rel⟩

theorem Ordered.exists_windowData_of_isChain (hd : d.Ordered) {v : Value} {vs : List Value}
    (h : (v :: (vs ++ [v])).IsChain d.Contains) : ∃ u ∈ v :: vs, d.IsWindowData u := by
  obtain ⟨n, hn⟩ := hd.exists_data_of_isChain h
  obtain ⟨x, hx⟩ := exists_contains_of_isChain h hn
  exact ⟨_, hn, isWindowData_of_contains hx⟩

theorem getElem?_windows_of_perform (n : Nat) (a : Action) (arguments : List Value) (v : Value) (d' : Desktop)
    (h : d.perform n a arguments = .ok (v, d')) (m : Nat) (hm : m ≠ n) : d'.windows[m]? = d.windows[m]? := by
  cases d.performs n a arguments v d' h with
  | nothing | read => rfl
  | info w hw v d' h =>
    cases h
    rfl
  | find => exact List.getElem?_set_ne hm.symm
  | write w hw fields hfields key value hkey hvalue hcan v d' h =>
    cases h
    exact List.getElem?_set_ne hm.symm

/-- Of the tables that there are, an action changes none but the data of its window. -/
theorem fieldsOf_of_perform (n : Nat) (a : Action) (arguments : List Value) (v : Value) (d' : Desktop)
    (h : d.perform n a arguments = .ok (v, d')) (ref : TableRef) (href : ref ∈ d.tables) (hne : ref ≠ .data n) :
    d'.fieldsOf ref = d.fieldsOf ref := by
  cases ref with
  | data m =>
    have hm : m ≠ n := fun he => hne (congrArg TableRef.data he)
    unfold fieldsOf
    dsimp only
    rw [getElem?_windows_of_perform n a arguments v d' h m hm]
  | reply r =>
    have hr : r < d.replies.size := by simpa [tables] using href
    exact fieldsOf_reply_eq (d.perform_replies n a arguments v d' h) hr

/-- Windows were read, and their host has run scripts and added windows that were read as well. Then, at every boundary
of a further run: where each of some values holds the next one, and the last one the first, one of them is a table that
is the data of a window, whatever else leads to them. Such a table is the data of no other window, and of the tables
that there are, an action on a window changes none but its data. No library leads to the data of a window. Every key,
in a table or in plain data, is null, a truth value, a number or a text. -/
theorem exists_windowData_of_cycle (ws : List Window) (hread : ∀ w ∈ ws, ∃ j, Window.ofJson j = .ok w)
    (calls : List HostCall) (hadded : ∀ w ∈ calls.filterMap HostCall.added?, ∃ j, Window.ofJson j = .ok w)
    (source : Text) (file : Option Text) :
    ∀ s ∈ (((ofWindows ws).afterCalls calls).run source file).boundaries,
      (∀ v vs, (v :: (vs ++ [v])).IsChain s.desktop.Contains → ∃ u ∈ v :: vs, s.desktop.IsWindowData u) ∧
      (∀ u, s.desktop.IsWindowData u → ∃! n, ∃ w, s.desktop.windows[n]? = some w ∧ dataValue n w = u) ∧
      (∀ n a arguments v d', s.desktop.perform n a arguments = .ok (v, d') →
        ∀ ref ∈ s.desktop.tables, ref ≠ .data n → d'.fieldsOf ref = s.desktop.fieldsOf ref) ∧
      (∀ w ∈ s.desktop.windows, ∀ u, s.desktop.Reaches (.plain w.library) u → ¬s.desktop.IsWindowData u) ∧
      ∀ v k, s.desktop.HasKey v k → k.isContainer = false := by
  have hunanswered : ∀ w, (∃ j, Window.ofJson j = .ok w) → w.Unanswered :=
    fun w ⟨j, hj⟩ => w.unanswered_of_ofJson j hj
  have hbefore := ordered_afterCalls ws hread calls fun w hw => hunanswered w (hadded w hw)
  intro s hs
  have hordered := (Session.Ordered.start hbefore file).run _ s hs
  refine ⟨?_, fun u hu => hu.existsUnique, ?_, fun w _ u hu => not_isWindowData_of_reaches_plain hu,
    fun v k h => h.isContainer_eq⟩
  · intro v vs hcycle
    exact hordered.desktop.exists_windowData_of_isChain hcycle
  · intro n a arguments v d' h
    exact fieldsOf_of_perform n a arguments v d' h

/-- Of two windows, each has written into its data what the other one tells of itself. -/
theorem exists_windowData_of_cycle_two :
    let window : Text → Window := fun id => ⟨id, .text [], .text [], .int 0, .int 0, .int 0, .int 0, .int 0,
      .bool false, .bool false, .live .empty, .null⟩
    let ws : List Window := [window ['a'], window ['b']]
    let writing : Text := Text.joinWith ['\n'] ["local a = window_Id(a)".toList, "local b = window_Id(b)".toList,
      "local i = a.info:(null)".toList, "local j = b.info:(null)".toList, "a.database:write(k, j)".toList,
      "b.database:write(k, i)".toList]
    let s := (((ofWindows ws).afterCalls [.execute writing]).run [] none).session
    let vs : List Value := [.table (.reply 1), .table (.data 1), .table (.reply 0)]
    (∀ w ∈ ws, ∃ j, Window.ofJson j = .ok w) ∧
      (.table (.data 0) :: (vs ++ [.table (.data 0)])).IsChain s.desktop.Contains ∧
      ∃ u ∈ .table (.data 0) :: vs, s.desktop.IsWindowData u := by
  intro window ws writing s vs
  have hread : ∀ w ∈ ws, ∃ j, Window.ofJson j = .ok w := by
    intro w hw
    simp only [ws, List.mem_cons, List.not_mem_nil, or_false] at hw
    obtain rfl | rfl := hw
    · exact ⟨.object [("id".toList, .text ['a']), ("data".toList, .object [])], rfl⟩
    · exact ⟨.object [("id".toList, .text ['b']), ("data".toList, .object [])], rfl⟩
  have hholds : ∀ (ref ref' : TableRef) (k : Key), ((s.desktop.fieldsOf ref).get? k).bind Value.table? = some ref' →
      s.desktop.Contains (.table ref) (.table ref') := by
    intro ref ref' k h
    obtain ⟨v, hv, htable⟩ := Option.bind_eq_some_iff.1 h
    rw [Value.table?_eq_some_iff] at htable
    exact .entry ref k _ (htable ▸ hv)
  have hwritten := hholds (.data 0) (.reply 1) (.text ['k']) (by decide +kernel)
  have htold := hholds (.reply 1) (.data 1) (.text "data".toList) (by decide +kernel)
  have hwritten' := hholds (.data 1) (.reply 0) (.text ['k']) (by decide +kernel)
  have htold' := hholds (.reply 0) (.data 0) (.text "data".toList) (by decide +kernel)
  have hcycle : (.table (.data 0) :: (vs ++ [.table (.data 0)])).IsChain s.desktop.Contains := by
    change List.IsChain _ [_, _, _, _, _]
    simp only [List.isChain_cons_cons, List.isChain_singleton, and_true]
    exact ⟨hwritten, htold, hwritten', htold'⟩
  have hthrough := (exists_windowData_of_cycle ws hread [.execute writing] (fun _ => nofun) [] none s
    (Run.session_mem_boundaries _)).1
  exact ⟨hread, hcycle, hthrough _ vs hcycle⟩

end Desktop

end DeskScript
