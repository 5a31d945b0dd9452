import DeskScript.Proofs.Script.Moves
import DeskScript.Proofs.Table

namespace DeskScript

def Window.DataAll (P : Value → Prop) (w : Window) : Prop := ∀ fields, w.data = .live fields → fields.All P

theorem Window.DataAll.mono {P Q : Value → Prop} {w : Window} (h : w.DataAll P) (hPQ : ∀ v, P v → Q v) : w.DataAll Q :=
  fun fields hfields => (h fields hfields).mono hPQ

theorem Fields.all_ofMembers {P : Value → Prop} (hplain : ∀ j, P (.plain j)) (members : List (Text × Json)) :
    (ofMembers members).All P := by
  refine Table.all_ofList _ fun e he => ?_
  obtain ⟨⟨name, j⟩, -, rfl⟩ := List.mem_map.1 he
  exact hplain j

namespace Desktop

variable {P : Value → Prop} (d : Desktop)

theorem all_fieldsOf_data (hwindows : ∀ w ∈ d.windows, w.DataAll P) (n : Nat) : (d.fieldsOf (.data n)).All P := by
  unfold fieldsOf
  dsimp only
  split
  · rename_i w hw
    split
    · exact hwindows w (List.mem_of_getElem? hw) _ ‹_›
    · exact Table.all_empty
  · exact Table.all_empty

theorem all_fieldsOf_reply (i : Nat) (h : ∀ fields, d.replies.get? i = some fields → fields.All P) :
    (d.fieldsOf (.reply i)).All P := by
  change ((d.replies.get? i).getD .empty).All P
  cases hi : d.replies.get? i with
  | none => exact Table.all_empty
  | some fields => exact h fields hi

theorem dataAll_setWindow (hwindows : ∀ w ∈ d.windows, w.DataAll P) (n : Nat) (w : Window) (hw : w.DataAll P) :
    ∀ w' ∈ (d.setWindow n w).windows, w'.DataAll P := by
  intro w' hw'
  obtain hold | rfl := List.mem_or_eq_of_mem_set hw'
  · exact hwindows w' hold
  · exact hw

theorem all_writableFields (w : Window) (hw : w.DataAll P) (fields : Fields) (h : writableFields w = .ok fields) :
    fields.All P := by
  unfold writableFields at h
  split at h
  · cases h
    exact Table.all_empty
  · cases h
    exact hw _ ‹_›
  · cases h

/-- What is stored before a key is made has no new values in it. -/
theorem Fills.dataAll {d d' : Desktop} (h : d.Fills d') (hwindows : ∀ w ∈ d.windows, w.DataAll P) :
    ∀ w ∈ d'.windows, w.DataAll P := by
  cases h with
  | nothing => exact hwindows
  | library n w hw members h =>
    exact d.dataAll_setWindow hwindows n { w with library := .object members } (hwindows w (List.mem_of_getElem? hw))
  | data n w hw fields h =>
    have hfields := all_writableFields w (hwindows w (List.mem_of_getElem? hw)) fields h
    exact d.dataAll_setWindow hwindows n { w with data := .live fields } fun _ h' => by
      cases h'
      exact hfields

variable (hplain : ∀ j, P (.plain j)) (hdata : ∀ n, P (.table (.data n)))

include hplain

theorem read_mem (w : Window) (hw : w.DataAll P) (key v : Value) (h : d.read w key = .ok v) : P v := by
  obtain ⟨-, rfl⟩ | ⟨fields, hfields, -, rfl⟩ := (d.read_eq_ok_iff w key v).1 h
  · exact hplain _
  · cases hk : fields.get? (d.keyOf key) with
    | none => exact hplain _
    | some v => exact hw fields hfields _ v hk

include hdata

theorem dataValue_mem (n : Nat) (w : Window) : P (dataValue n w) := by
  unfold dataValue
  split
  · exact hplain _
  · exact hplain _
  · exact hdata n

theorem all_infoFields (n : Nat) (w : Window) (given : Value) (h : P given) : (infoFields n w given).All P := by
  refine Table.all_ofList _ fun e he => ?_
  simp only [List.mem_cons, List.not_mem_nil, or_false] at he
  obtain rfl | rfl | rfl | rfl | rfl | rfl := he
  · exact hplain _
  · exact hplain _
  · exact hplain _
  · exact hplain _
  · exact hplain _
  · dsimp only
    split
    · exact dataValue_mem hplain hdata n w
    · exact h

/-- Data in `P` stays so under an action with arguments in `P`. The action gives a value in `P`, or one more reply. -/
theorem all_of_perform (hwindows : ∀ w ∈ d.windows, w.DataAll P) (n : Nat) (a : Action) (arguments : List Value)
    (harguments : ∀ u ∈ arguments, P u) (v : Value) (d' : Desktop) (h : d.perform n a arguments = .ok (v, d')) :
    (∀ w ∈ d'.windows, w.DataAll P) ∧
      (P v ∧ d'.replies = d.replies ∨
        ∃ fields, fields.All P ∧ v = .table (.reply d.replies.size) ∧ d'.replies = d.replies.push fields) := by
  -- An argument that is not given is null, which is in `P` as all plain values are.
  have hargument : ∀ i : Nat, P (arguments[i]?.getD .null) := by
    intro i
    cases hi : arguments[i]? with
    | none => exact hplain _
    | some u => exact harguments u (List.mem_of_getElem? hi)
  cases d.performs n a arguments v d' h with
  | nothing => exact ⟨hwindows, .inl ⟨hplain _, rfl⟩⟩
  | info w hw v d' h =>
    cases h
    exact ⟨hwindows, .inr ⟨_, all_infoFields hplain hdata n w _ (hargument 0), rfl, rfl⟩⟩
  | find w hw members h =>
    have hlibrary := d.dataAll_setWindow hwindows n { w with library := .object members }
      (hwindows w (List.mem_of_getElem? hw))
    exact ⟨hlibrary, .inl ⟨hplain _, rfl⟩⟩
  | read w hw v hread =>
    exact ⟨hwindows, .inl ⟨d.read_mem hplain w (hwindows w (List.mem_of_getElem? hw)) _ v hread, rfl⟩⟩
  | write w hw fields hfields key value hkey hvalue hcan v d' h =>
    cases h
    have hold := all_writableFields w (hwindows w (List.mem_of_getElem? hw)) fields hfields
    have hset := d.dataAll_setWindow hwindows n { w with data := .live (fields.put (d.keyOf key) value) }
      fun fields' h' => by
        cases h'
        exact hold.put _ (hvalue ▸ hargument 1)
    refine ⟨hset, .inr ⟨_, Table.all_ofList _ fun e he => ?_, rfl, rfl⟩⟩
    simp only [List.mem_cons, List.not_mem_nil, or_false] at he
    obtain rfl | rfl | rfl := he
    · exact hplain _
    · exact hkey ▸ hargument 0
    · exact hvalue ▸ hargument 1

end Desktop

end DeskScript
