import DeskScript.Proofs.Desktop.Actions
import DeskScript.Proofs.Script.Evaluations
import Mathlib.Data.List.Induction

namespace DeskScript

structure Write where
  window : Nat
  key : Key
  value : Value

namespace Fields

def putAll (fields : Fields) (writes : List Write) : Fields :=
  writes.foldl (fun fields x => fields.put x.key x.value) fields

theorem putAll_concat (fields : Fields) (writes : List Write) (x : Write) :
    fields.putAll (writes ++ [x]) = (fields.putAll writes).put x.key x.value := by
  simp [putAll]

theorem keys_prefix_putAll (fields : Fields) (writes : List Write) :
    fields.toList.map Prod.fst <+: (fields.putAll writes).toList.map Prod.fst := by
  induction writes generalizing fields with
  | nil => exact List.prefix_rfl
  | cons x writes ih =>
    refine List.IsPrefix.trans ?_ (ih (fields.put x.key x.value))
    rw [Table.keys_put]
    split
    · exact List.prefix_rfl
    · exact List.prefix_append _ _

theorem get?_putAll (fields : Fields) (writes : List Write) (k : Key) :
    (fields.putAll writes).get? k = fields.get? k ∨
      ∃ x ∈ writes, x.key.form = k.form ∧ (fields.putAll writes).get? k = some x.value := by
  -- From the end, since the last write under a key is the one that counts.
  induction writes using List.reverseRecOn with
  | nil => exact .inl rfl
  | append_singleton writes x ih =>
    rw [putAll_concat, Table.get?_put]
    split
    · exact .inr ⟨x, by simp, (Key.compare_eq_iff _ _).1 ‹_›, rfl⟩
    · obtain h | ⟨y, hy, hk, h⟩ := ih
      · exact .inl h
      · exact .inr ⟨y, List.mem_append_left _ hy, hk, h⟩

end Fields

namespace Data

/-- Absent data becomes a table when it is written to; what is no table takes no writes. -/
def putAll : Data → List Write → Data
  | absent, [] => absent
  | absent, writes => live (Fields.putAll .empty writes)
  | live fields, writes => live (fields.putAll writes)
  | fixed j, _ => fixed j

@[simp] theorem putAll_nil (data : Data) : data.putAll [] = data := by
  cases data <;> rfl

theorem putAll_append (data : Data) (writes more : List Write) :
    data.putAll (writes ++ more) = (data.putAll writes).putAll more := by
  cases data with
  | absent => cases writes <;> cases more <;> simp [putAll, Fields.putAll]
  | fixed j => rfl
  | live fields => simp [putAll, Fields.putAll]

end Data

def Desktop.write? (d : Desktop) (n : Nat) (a : Action) (arguments : List Value) : Option Write :=
  match a, (d.windows[n]?).map Window.data with
  | .write, some (.fixed _) => none
  | .write, some _ =>
    let key := arguments[0]?.getD .null
    if d.canBeKey key then some ⟨n, d.keyOf key, arguments[1]?.getD .null⟩ else none
  | _, _ => none

def Evaluation.write? (x : Evaluation) : Option Write :=
  match x.expression with
  | .action name a arguments =>
    (x.session.window? name).bind fun n =>
      x.session.desktop.write? n a (arguments.map x.session.argumentValue)
  | _ => none

def Write.onto (n : Nat) (writes : List Write) : List Write := writes.filter fun x => x.window == n

/-- Data before and after writes. Absent data may have become a table for a write that then failed. -/
def Data.Takes (writes : List Write) (data data' : Data) : Prop :=
  data' = data.putAll writes ∨ data = .absent ∧ data' = .live (Fields.putAll .empty writes)

namespace Data.Takes

variable {writes more : List Write} {data data' data'' : Data}

theorem refl (data : Data) : data.Takes [] data := .inl (putAll_nil data).symm

theorem of_live {fields : Fields} (h : Takes writes (.live fields) data') : data' = .live (fields.putAll writes) :=
  h.elim id fun h => nomatch h.1

theorem trans (h : data.Takes writes data') (h' : data'.Takes more data'') : data.Takes (writes ++ more) data'' := by
  obtain rfl | ⟨rfl, rfl⟩ := h
  · obtain rfl | ⟨habsent, rfl⟩ := h'
    · exact .inl (putAll_append ..).symm
    · -- Only no writes leave absent data absent.
      cases data with
      | absent =>
        cases writes with
        | nil => exact .inr ⟨rfl, rfl⟩
        | cons => cases habsent
      | fixed | live => cases habsent
  · exact .inr ⟨rfl, h'.of_live.trans (by simp [Fields.putAll])⟩

end Data.Takes

/-- A window at `n` before and after writes: its data takes them, and it may have been given a library. -/
structure Window.Evolves (n : Nat) (writes : List Write) (w w' : Window) : Prop where
  others : w' = { w with data := w'.data, library := w'.library }
  library : w'.library = w.library ∨ w.library = .null ∧ w'.library = .object w.defaultLibrary
  data : w.data.Takes (Write.onto n writes) w'.data

namespace Window.Evolves

variable {n : Nat} {writes more : List Write} {w w' w'' : Window}

theorem of_onto_eq_nil (h : Write.onto n writes = []) : w.Evolves n writes w :=
  ⟨rfl, .inl rfl, h ▸ .refl _⟩

theorem defaultLibrary_eq (h : w.Evolves n writes w') : w'.defaultLibrary = w.defaultLibrary := by
  rw [h.others]
  rfl

theorem trans (h : w.Evolves n writes w') (h' : w'.Evolves n more w'') : w.Evolves n (writes ++ more) w'' where
  others := by
    rw [h'.others, h.others]
  library := by
    obtain hl | ⟨hl, hl'⟩ := h.library <;> obtain hm | ⟨hm, hm'⟩ := h'.library
    · exact .inl (hm.trans hl)
    · exact .inr ⟨hl ▸ hm, h.defaultLibrary_eq ▸ hm'⟩
    · exact .inr ⟨hl, hm.trans hl'⟩
    · -- A library that was given is not missing.
      rw [hl'] at hm
      cases hm
  data := by
    rw [Write.onto, List.filter_append]
    exact h.data.trans h'.data

end Window.Evolves

theorem Window.exists_evolves_of_mem {writes : List Write} {ws ws' : List Window}
    (hlength : ws'.length = ws.length)
    (hwindows : ∀ (n : Nat) (w : Window), ws[n]? = some w → ∃ w', ws'[n]? = some w' ∧ w.Evolves n writes w')
    {w' : Window} (hw' : w' ∈ ws') : ∃ n, ∃ w ∈ ws, w.Evolves n writes w' := by
  obtain ⟨n, hn⟩ := List.mem_iff_getElem?.1 hw'
  have hlt : n < ws.length := hlength ▸ (List.getElem?_eq_some_iff.1 hn).1
  obtain ⟨w'', hget, h⟩ := hwindows n _ (List.getElem?_eq_getElem hlt)
  obtain rfl : w' = w'' := Option.some.inj (hn.symm.trans hget)
  exact ⟨n, _, List.getElem_mem hlt, h⟩

/-- The windows of a desktop before and after writes, each in its place. -/
structure Desktop.Evolves (writes : List Write) (d d' : Desktop) : Prop where
  length : d'.windows.length = d.windows.length
  targets : ∀ x ∈ writes, x.window < d.windows.length
  windows : ∀ (n : Nat) (w : Window), d.windows[n]? = some w →
    ∃ w', d'.windows[n]? = some w' ∧ w.Evolves n writes w'

namespace Desktop.Evolves

variable {writes more : List Write} {d d' d'' : Desktop}

theorem of_windows_eq (h : d'.windows = d.windows) : Desktop.Evolves [] d d' where
  length := by rw [h]
  targets := by simp
  windows n w hw := ⟨w, h ▸ hw, .of_onto_eq_nil rfl⟩

theorem trans (h : Desktop.Evolves writes d d') (h' : Desktop.Evolves more d' d'') :
    Desktop.Evolves (writes ++ more) d d'' where
  length := h'.length.trans h.length
  targets x hx := by
    obtain hx | hx := List.mem_append.1 hx
    · exact h.targets x hx
    · exact h.length ▸ h'.targets x hx
  windows n w hw := by
    obtain ⟨w', hw', hn⟩ := h.windows n w hw
    obtain ⟨w'', hw'', hn'⟩ := h'.windows n w' hw'
    exact ⟨w'', hw'', hn.trans hn'⟩

theorem of_setWindow (n : Nat) (w w' : Window) (hw : d.windows[n]? = some w) (h : w.Evolves n writes w')
    (hn : ∀ x ∈ writes, x.window = n) : Desktop.Evolves writes d (d.setWindow n w') where
  length := by simp [setWindow]
  targets x hx := by
    rw [hn x hx]
    exact (List.getElem?_eq_some_iff.1 hw).1
  windows m v hv := by
    by_cases hm : n = m
    · subst hm
      obtain rfl : w = v := Option.some.inj (hw.symm.trans hv)
      have hlt : n < d.windows.length := (List.getElem?_eq_some_iff.1 hw).1
      exact ⟨w', by simp [setWindow, hlt], h⟩
    · refine ⟨v, by simpa [setWindow, hm] using hv, .of_onto_eq_nil ?_⟩
      refine List.filter_eq_nil_iff.2 fun x hx => ?_
      simpa [hn x hx] using hm

end Desktop.Evolves

namespace Desktop

theorem library_cases (w : Window) (members : List (Text × Json)) (h : w.libraryOrDefault = .object members) :
    .object members = w.library ∨ w.library = .null ∧ .object members = Json.object w.defaultLibrary := by
  rw [← h]
  unfold Window.libraryOrDefault
  split
  · exact .inr ⟨‹_›, rfl⟩
  · exact .inl rfl

theorem takes_of_writableFields (w : Window) (fields : Fields) (h : writableFields w = .ok fields)
    (writes : List Write) : w.data.Takes writes (.live (fields.putAll writes)) := by
  unfold writableFields at h
  split at h
  · cases h
    exact .inr ⟨‹_›, rfl⟩
  · cases h
    exact .inl (by rw [‹w.data = _›, Data.putAll])
  · cases h

theorem Fills.evolves {d d' : Desktop} (h : d.Fills d') : Desktop.Evolves [] d d' := by
  cases h with
  | nothing => exact .of_windows_eq rfl
  | library n w hw members h => exact .of_setWindow n w _ hw ⟨rfl, library_cases w members h, .refl _⟩ (by simp)
  | data n w hw fields h =>
    exact .of_setWindow n w _ hw ⟨rfl, .inl rfl, takes_of_writableFields w fields h []⟩ (by simp)

theorem write?_write (d : Desktop) (n : Nat) (w : Window) (hw : d.windows[n]? = some w) (fields : Fields)
    (hfields : writableFields w = .ok fields) (arguments : List Value)
    (hcan : d.canBeKey (arguments[0]?.getD .null) = true) :
    d.write? n .write arguments =
      some ⟨n, d.keyOf (arguments[0]?.getD .null), arguments[1]?.getD .null⟩ := by
  cases hdata : w.data with
  | fixed j => simp [writableFields, hdata] at hfields
  | absent | live => simp [write?, hw, hdata, hcan]

theorem perform_evolves (d : Desktop) (n : Nat) (a : Action) (arguments : List Value) (v : Value)
    (d' : Desktop) (h : d.perform n a arguments = .ok (v, d')) :
    Desktop.Evolves (d.write? n a arguments).toList d d' := by
  cases d.performs n a arguments v d' h with
  | nothing _ hw => cases a <;> simpa [write?, hw] using Evolves.of_windows_eq rfl
  | info w hw v d' h =>
    cases h
    exact .of_windows_eq rfl
  | find w hw members hmembers => exact (Fills.library n w hw members hmembers).evolves
  | read => exact .of_windows_eq rfl
  | write w hw fields hfields key value hkey hvalue hcan v d' h =>
    cases h
    subst hkey hvalue
    rw [d.write?_write n w hw fields hfields arguments hcan]
    generalize d.keyOf (arguments[0]?.getD .null) = key, arguments[1]?.getD .null = value
    have htakes : w.data.Takes (Write.onto n [⟨n, key, value⟩]) (.live (fields.put key value)) := by
      simpa [Write.onto, Fields.putAll] using takes_of_writableFields w fields hfields [⟨n, key, value⟩]
    have hset := Evolves.of_setWindow n w { w with data := .live (fields.put key value) } hw ⟨rfl, .inl rfl, htakes⟩
      (by simp)
    -- The reply that a write gives is no window.
    exact ⟨hset.length, hset.targets, hset.windows⟩

theorem write?_eq_none_of_fails {d : Desktop} {n : Nat} {a : Action} {arguments : List Value}
    {failure : Failure Desktop} (h : d.Fails n arguments a failure) : d.write? n a arguments = none := by
  cases h with
  | noLibrary | findKey | readKey => rfl
  | notWritable w hw j hdata => simp [write?, hw, hdata]
  | writeKey w hw fields hfields hcannot => cases hdata : w.data <;> simp [write?, hw, hdata, hcannot]

end Desktop

theorem Session.evaluate_evolves (s : Session) (e : Expression) (v : Value) (d : Desktop)
    (h : s.evaluate e = .ok (v, d)) : Desktop.Evolves (Evaluation.write? ⟨s, e⟩).toList s.desktop d := by
  cases e with
  | null | text | word =>
    cases h
    exact .of_windows_eq rfl
  | window pattern =>
    simp only [evaluate, evaluateWindow] at h
    split at h <;> cases h
    exact .of_windows_eq rfl
  | action name a arguments =>
    simp only [evaluate] at h
    cases hn : s.window? name with
    | none =>
      simp only [hn] at h
      cases h
      -- Without a window the call is null, and so is no write.
      simpa [Evaluation.write?, hn] using Desktop.Evolves.of_windows_eq rfl
    | some n =>
      simp only [hn] at h
      simpa [Evaluation.write?, hn] using Desktop.perform_evolves _ _ _ _ _ _ h
  | info name argument =>
    simp only [evaluate] at h
    split at h
    · cases h
    · exact Desktop.perform_evolves _ _ _ _ _ _ h

/-- An evaluation that fails is no write, though it may have stored something before its key was made. -/
theorem Session.fills_of_evaluate_eq_error (s : Session) (e : Expression) (failure : Failure Desktop)
    (h : s.evaluate e = .error failure) :
    Evaluation.write? ⟨s, e⟩ = none ∧ s.desktop.Fills failure.reached := by
  cases e with
  | null | text | word => cases h
  | window pattern =>
    simp only [evaluate, Except.map_eq_error_iff, reading_eq_error_iff] at h
    obtain ⟨err, -, rfl⟩ := h
    exact ⟨rfl, .nothing⟩
  | action name a arguments =>
    simp only [evaluate] at h
    cases hn : s.window? name with
    | none =>
      simp only [hn] at h
      cases h
    | some n =>
      simp only [hn] at h
      have hfails := s.desktop.fails _ _ _ _ h
      exact ⟨by simpa [Evaluation.write?, hn] using Desktop.write?_eq_none_of_fails hfails, hfails.fills⟩
  | info name argument =>
    simp only [evaluate] at h
    split at h
    · cases h
      exact ⟨rfl, .nothing⟩
    · exact ⟨rfl, (s.desktop.fails _ _ _ _ h).fills⟩

theorem Evaluation.evolves (x : Evaluation) : Desktop.Evolves x.write?.toList x.session.desktop x.after := by
  obtain ⟨s, e⟩ := x
  unfold after
  cases h : s.evaluate e with
  | error failure =>
    obtain ⟨hwrite, hfills⟩ := s.fills_of_evaluate_eq_error e failure h
    rw [hwrite]
    exact hfills.evolves
  | ok r => exact s.evaluate_evolves e r.1 r.2 h

theorem Desktop.Leads.evolves {d d' : Desktop} {xs : List Evaluation} (h : d.Leads xs d') :
    Desktop.Evolves (xs.filterMap Evaluation.write?) d d' := by
  induction xs generalizing d with
  | nil =>
    obtain rfl : d = d' := h
    exact .of_windows_eq rfl
  | cons x xs ih =>
    obtain ⟨rfl, h⟩ := h
    have hx := x.evolves.trans (ih h)
    cases hw : x.write? <;> simpa [hw] using hx

end DeskScript
