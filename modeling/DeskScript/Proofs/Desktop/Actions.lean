import DeskScript.Desktop.Action

namespace DeskScript

def Data.fields : Data → Fields
  | live fields => fields
  | _ => .empty

namespace Desktop

variable (d : Desktop)

theorem keyFor_eq_ok_iff (v : Value) (k : Key) : d.keyFor v = .ok k ↔ d.canBeKey v = true ∧ d.keyOf v = k := by
  unfold keyFor
  split <;> simp [*]

theorem keyFor_eq_error_iff (v : Value) (e : ScriptError) :
    d.keyFor v = .error e ↔ d.canBeKey v = false ∧ .longNumber = e := by
  unfold keyFor
  split <;> simp [*]

/-- An action on a window that is not there does nothing; the others give a reply, an entry of a library, an entry of
the data, or the reply to a write. -/
inductive Performs (n : Nat) (arguments : List Value) : Action → Value → Desktop → Prop where
  | nothing (a : Action) (hw : d.windows[n]? = none) : Performs n arguments a .null d
  | info (w : Window) (hw : d.windows[n]? = some w) (v : Value) (d' : Desktop)
      (h : d.reply (infoFields n w (arguments[0]?.getD .null)) = (v, d')) : Performs n arguments .info v d'
  | find (w : Window) (hw : d.windows[n]? = some w) (members : List (Text × Json))
      (h : w.libraryOrDefault = .object members) (key : Value) (hkey : key = arguments[0]?.getD .null)
      (hcan : d.canBeKey key = true) :
      Performs n arguments .find (.plain (entryUnder members (d.keyOf key)))
        (d.setWindow n { w with library := .object members })
  | read (w : Window) (hw : d.windows[n]? = some w) (v : Value)
      (h : d.read w (arguments[0]?.getD .null) = .ok v) : Performs n arguments .read v d
  | write (w : Window) (hw : d.windows[n]? = some w) (fields : Fields) (hfields : writableFields w = .ok fields)
      (key value : Value) (hkey : key = arguments[0]?.getD .null) (hvalue : value = arguments[1]?.getD .null)
      (hcan : d.canBeKey key = true) (v : Value) (d' : Desktop)
      (h : (d.setWindow n { w with data := .live (fields.put (d.keyOf key) value) }).reply
        (.ofList [(.text "success".toList, .plain (.bool true)), (.text "key".toList, key),
          (.text "value".toList, value)]) = (v, d')) : Performs n arguments .write v d'

/-- An action fails where something is looked up in a library that is no table, or written to data that is none, or
where the key is a structure with too long a number in it. By then a missing library has been given, and absent data
has become a table. -/
inductive Fails (n : Nat) (arguments : List Value) : Action → Failure Desktop → Prop where
  | noLibrary (w : Window) (hw : d.windows[n]? = some w) (h : ∀ members, w.libraryOrDefault ≠ .object members) :
      Fails n arguments .find ⟨.libraryNotTable w.libraryOrDefault.kind, d⟩
  | findKey (w : Window) (hw : d.windows[n]? = some w) (members : List (Text × Json))
      (h : w.libraryOrDefault = .object members) (hcannot : d.canBeKey (arguments[0]?.getD .null) = false) :
      Fails n arguments .find ⟨.longNumber, d.setWindow n { w with library := .object members }⟩
  | readKey (w : Window) (hw : d.windows[n]? = some w) (fields : Fields) (h : w.data = .live fields)
      (hcannot : d.canBeKey (arguments[0]?.getD .null) = false) : Fails n arguments .read ⟨.longNumber, d⟩
  | notWritable (w : Window) (hw : d.windows[n]? = some w) (j : Json) (h : w.data = .fixed j) :
      Fails n arguments .write ⟨.notWritable w.id, d⟩
  | writeKey (w : Window) (hw : d.windows[n]? = some w) (fields : Fields) (h : writableFields w = .ok fields)
      (hcannot : d.canBeKey (arguments[0]?.getD .null) = false) :
      Fails n arguments .write ⟨.longNumber, d.setWindow n { w with data := .live fields }⟩

theorem read_eq_ok_iff (w : Window) (key v : Value) :
    d.read w key = .ok v ↔ (∀ fields, w.data ≠ .live fields) ∧ .null = v ∨
      ∃ fields, w.data = .live fields ∧ d.canBeKey key = true ∧ (fields.get? (d.keyOf key)).getD .null = v := by
  unfold read
  split
  · rename_i fields hfields
    unfold keyFor
    split <;> simp [Except.map, *]
  · rename_i hno
    replace hno : ∀ fields, w.data ≠ .live fields := hno
    simp [hno]

theorem read_eq_error_iff (w : Window) (key : Value) (e : ScriptError) :
    d.read w key = .error e ↔ ∃ fields, w.data = .live fields ∧ d.canBeKey key = false ∧ .longNumber = e := by
  unfold read
  split
  · rename_i fields hfields
    unfold keyFor
    split <;> simp [Except.map, *]
  · rename_i hno
    simpa using fun fields hfields => absurd hfields (hno fields)

theorem writableFields_eq_error_iff (w : Window) (e : ScriptError) :
    writableFields w = .error e ↔ ∃ j, w.data = .fixed j ∧ .notWritable w.id = e := by
  unfold writableFields
  split <;> simp [*]

theorem fieldsOf_data {d : Desktop} {n : Nat} (w : Window) (hw : d.windows[n]? = some w) :
    d.fieldsOf (.data n) = w.data.fields := by
  unfold fieldsOf
  simp only [hw]
  rfl

theorem fieldsOf_setWindow_of_eq {d : Desktop} {n : Nat} {w w' : Window} (hw : d.windows[n]? = some w)
    (h : w'.data.fields = w.data.fields) (ref : TableRef) : (d.setWindow n w').fieldsOf ref = d.fieldsOf ref := by
  have hn := (List.getElem?_eq_some_iff.1 hw).1
  cases ref with
  | reply r => rfl
  | data m =>
    by_cases hm : n = m
    · subst hm
      have hset : (d.setWindow n w').windows[n]? = some w' := by simp [setWindow, hn]
      rw [fieldsOf_data w' hset, fieldsOf_data w hw, h]
    · unfold fieldsOf
      simp only [setWindow, List.getElem?_set, if_neg hm]

/-- What an action stores before it makes its key: the library that a window has or is given, or the table that its data
is or becomes. -/
inductive Fills : Desktop → Prop where
  | nothing : Fills d
  | library (n : Nat) (w : Window) (hw : d.windows[n]? = some w) (members : List (Text × Json))
      (h : w.libraryOrDefault = .object members) : Fills (d.setWindow n { w with library := .object members })
  | data (n : Nat) (w : Window) (hw : d.windows[n]? = some w) (fields : Fields) (h : writableFields w = .ok fields) :
      Fills (d.setWindow n { w with data := .live fields })

theorem Fills.replies {d d' : Desktop} (h : d.Fills d') : d'.replies = d.replies := by
  cases h <;> rfl

theorem Fills.fieldsOf_eq {d d' : Desktop} (h : d.Fills d') (ref : TableRef) : d'.fieldsOf ref = d.fieldsOf ref := by
  cases h with
  | nothing => rfl
  | library n w hw members hmembers =>
    refine fieldsOf_setWindow_of_eq hw ?_ ref
    rfl
  | data n w hw fields hfields =>
    refine fieldsOf_setWindow_of_eq hw ?_ ref
    unfold writableFields at hfields
    split at hfields <;> cases hfields <;> simp [Data.fields, *]

theorem perform_of_window {d : Desktop} {n : Nat} {w : Window} (hw : d.windows[n]? = some w) (a : Action)
    (arguments : List Value) :
    d.perform n a arguments = match a with
      | .info => .ok (d.reply (infoFields n w (arguments[0]?.getD .null)))
      | .find => d.find n w (arguments[0]?.getD .null)
      | .read => (reading d (d.read w (arguments[0]?.getD .null))).map fun v => (v, d)
      | .write => d.write n w (arguments[0]?.getD .null) (arguments[1]?.getD .null) := by
  cases a <;> simp only [perform, hw]

theorem performs (n : Nat) (a : Action) (arguments : List Value) (v : Value) (d' : Desktop)
    (h : d.perform n a arguments = .ok (v, d')) : d.Performs n arguments a v d' := by
  cases hw : d.windows[n]? with
  | none =>
    simp only [perform, hw] at h
    cases h
    exact .nothing a hw
  | some w =>
    rw [perform_of_window hw] at h
    cases a with
    | info => exact .info w hw v d' (Except.ok.inj h)
    | find =>
      simp only [find] at h
      split at h
      · rename_i members hmembers
        split at h
        · rename_i k hk
          cases h
          obtain ⟨hcan, rfl⟩ := (d.keyFor_eq_ok_iff _ _).1 hk
          exact .find w hw members hmembers _ rfl hcan
        · cases h
      · cases h
    | read =>
      cases hr : d.read w (arguments[0]?.getD .null) with
      | error e => simp [hr, Except.map] at h
      | ok u =>
        simp only [hr, reading_ok, Except.map] at h
        cases h
        exact .read w hw _ hr
    | write =>
      simp only [write] at h
      split at h
      · cases h
      · rename_i fields hfields
        split at h
        · cases h
        · rename_i k hk
          obtain ⟨hcan, rfl⟩ := (d.keyFor_eq_ok_iff _ _).1 hk
          exact .write w hw fields hfields _ _ rfl rfl hcan v d' (Except.ok.inj h)

theorem fails (n : Nat) (a : Action) (arguments : List Value) (failure : Failure Desktop)
    (h : d.perform n a arguments = .error failure) : d.Fails n arguments a failure := by
  cases hw : d.windows[n]? with
  | none =>
    simp only [perform, hw] at h
    cases h
  | some w =>
    rw [perform_of_window hw] at h
    cases a with
    -- Nothing is looked up for it, so it cannot fail.
    | info => cases h
    | find =>
      simp only [find] at h
      split at h
      · rename_i members hmembers
        split at h
        · cases h
        · rename_i e hk
          cases h
          obtain ⟨hcannot, rfl⟩ := (d.keyFor_eq_error_iff _ _).1 hk
          exact .findKey w hw members hmembers hcannot
      · rename_i hno
        cases h
        exact .noLibrary w hw hno
    | read =>
      cases hr : d.read w (arguments[0]?.getD .null) with
      | error e =>
        simp only [hr, reading_error, Except.map] at h
        cases h
        obtain ⟨fields, hfields, hcannot, rfl⟩ := (d.read_eq_error_iff _ _ _).1 hr
        exact .readKey w hw fields hfields hcannot
      | ok u => simp [hr, Except.map] at h
    | write =>
      simp only [write] at h
      split at h
      · rename_i e he
        cases h
        obtain ⟨j, hj, rfl⟩ := (writableFields_eq_error_iff _ _).1 he
        exact .notWritable w hw j hj
      · rename_i fields hfields
        split at h
        · rename_i e hk
          cases h
          obtain ⟨hcannot, rfl⟩ := (d.keyFor_eq_error_iff _ _).1 hk
          exact .writeKey w hw fields hfields hcannot
        · cases h

theorem Fails.perform_eq {d : Desktop} {n : Nat} {arguments : List Value} {a : Action} {failure : Failure Desktop}
    (h : d.Fails n arguments a failure) : d.perform n a arguments = .error failure := by
  have hkey {v : Value} (hcannot : d.canBeKey v = false) : d.keyFor v = .error .longNumber :=
    (d.keyFor_eq_error_iff v _).2 ⟨hcannot, rfl⟩
  cases h with
  | noLibrary w hw h => simp only [perform_of_window hw, find]
  | findKey w hw members h hcannot => simp only [perform_of_window hw, find, h, hkey hcannot]
  | readKey w hw fields h hcannot =>
    have hread := (d.read_eq_error_iff w _ _).2 ⟨fields, h, hcannot, rfl⟩
    simp only [perform_of_window hw, hread, reading_error, Except.map]
  | notWritable w hw j h =>
    simp only [perform_of_window hw, write, (writableFields_eq_error_iff w _).2 ⟨j, h, rfl⟩]
  | writeKey w hw fields h hcannot => simp only [perform_of_window hw, write, h, hkey hcannot]

theorem perform_eq_error_iff (n : Nat) (a : Action) (arguments : List Value) (failure : Failure Desktop) :
    d.perform n a arguments = .error failure ↔ d.Fails n arguments a failure :=
  ⟨d.fails n a arguments failure, Fails.perform_eq⟩

theorem Fails.fills {d : Desktop} {n : Nat} {arguments : List Value} {a : Action} {failure : Failure Desktop}
    (h : d.Fails n arguments a failure) : d.Fills failure.reached := by
  cases h with
  | noLibrary | readKey | notWritable => exact .nothing
  | findKey w hw members h => exact .library n w hw members h
  | writeKey w hw fields h => exact .data n w hw fields h

/-- Only for want of a key does an action fail after it has stored something. -/
theorem Fails.reached_eq {d : Desktop} {n : Nat} {arguments : List Value} {a : Action} {failure : Failure Desktop}
    (h : d.Fails n arguments a failure) (hkey : failure.error ≠ .longNumber) : failure.reached = d := by
  cases h with
  | noLibrary | readKey | notWritable => rfl
  | findKey | writeKey => exact absurd rfl hkey

end Desktop

end DeskScript
