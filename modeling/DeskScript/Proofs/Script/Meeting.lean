import DeskScript.Proofs.Desktop.Brief

namespace DeskScript

open Desktop

namespace Session

/-- What a script can get at: what its variables hold, windows, tables, what windows bring, and all that is in these. -/
inductive Meets (s : Session) : Value → Prop where
  | variable (name : Text) (v : Value) (h : s.bindings.get? name = some v) : Meets s v
  | null : Meets s .null
  | text (t : Text) : Meets s (.text t)
  | window (n : Nat) : Meets s (.window n)
  | table (ref : TableRef) : Meets s (.table ref)
  | data (n : Nat) (w : Window) (h : s.desktop.windows[n]? = some w) : Meets s (dataValue n w)
  | library (n : Nat) (w : Window) (h : s.desktop.windows[n]? = some w) : Meets s (.plain w.libraryOrDefault)
  | part (v u : Value) (hv : Meets s v) (h : s.desktop.Contains v u) : Meets s u

variable {s : Session}

theorem Knows.meets {v : Value} (h : s.Knows v) : s.Meets v := by
  obtain ⟨j, rfl, rfl | ⟨t, rfl⟩⟩ | ⟨name, h⟩ := h
  · exact .null
  · exact .text t
  · exact .variable name v h

theorem Brief.of_meets (hs : s.Brief) {v : Value} (h : s.Meets v) : v.Brief := by
  induction h with
  | «variable» name v h => exact hs.bindings name v h
  | null | text => exact Value.brief_plain rfl
  | window n => exact Value.brief_window n
  | table ref => exact Value.brief_table ref
  | data n w h => exact (hs.desktop.windows w (List.mem_of_getElem? h)).dataValue n
  | library n w h => exact Value.brief_plain (hs.desktop.windows w (List.mem_of_getElem? h)).libraryOrDefault
  | part v u _ h ih => exact hs.desktop.of_reaches ih (.single h)

theorem meets_entry (ref : TableRef) (k : Key) : s.Meets (((s.desktop.fieldsOf ref).get? k).getD .null) := by
  cases h : (s.desktop.fieldsOf ref).get? k with
  | none => exact .null
  | some v => exact .part _ _ (.table ref) (.entry ref k v h)

theorem Meets.member {members : List (Text × Json)} (h : s.Meets (.plain (.object members))) (name : Text) :
    s.Meets (.plain ((members.lookup name).getD .null)) := by
  cases hlookup : members.lookup name with
  | none => exact .null
  | some j =>
    obtain ⟨before, after, rfl, -⟩ := List.lookup_eq_some_iff.1 hlookup
    exact .part _ _ h (.member _ name j (by simp))

theorem meets_entryUnder {members : List (Text × Json)} (h : s.Meets (.plain (.object members))) (k : Key) :
    s.Meets (.plain (entryUnder members k)) := by
  cases k with
  | text t => exact h.member t
  | _ => exact .null

theorem meets_of_evaluate (e : Expression) (v : Value) (d : Desktop) (h : s.evaluate e = .ok (v, d)) :
    { s with desktop := d }.Meets v := by
  obtain ⟨rfl, hv | ⟨pattern, n, -, rfl, -⟩⟩ | ⟨name, n, a, arguments, -, hperform, -⟩ := s.evaluate_cases e v d h
  · exact hv.meets
  · exact .window n
  · cases s.desktop.performs n a arguments v d hperform with
    | nothing => exact .null
    | info w hw v d hreply =>
      cases hreply
      exact .table _
    | find w hw members hmembers key =>
      have hn := (List.getElem?_eq_some_iff.1 hw).1
      have hset : (s.desktop.setWindow n { w with library := .object members }).windows[n]? =
          some { w with library := .object members } := by simp [setWindow, hn]
      have hlibrary := Meets.library (s := { s with desktop := _ }) n _ hset
      exact meets_entryUnder hlibrary _
    | read w hw v hread =>
      obtain ⟨-, rfl⟩ | ⟨fields, hfields, -, rfl⟩ := (s.desktop.read_eq_ok_iff w _ v).1 hread
      · exact .null
      · have hdata : s.desktop.fieldsOf (.data n) = fields := by rw [fieldsOf_data w hw, hfields]; rfl
        exact hdata ▸ meets_entry (.data n) _
    | write w hw fields hfields key value hkey hvalue hcan v d hreply =>
      cases hreply
      exact .table _

theorem meets_of_descend {t u : Target} {segment : Text} (ht : ∀ v, t = .value v → s.Meets v)
    (h : descend s.desktop t segment = .ok u) : ∀ v, u = .value v → s.Meets v := by
  unfold descend at h
  split at h
  · cases h
    rintro _ ⟨⟩
    exact meets_entry _ _
  · cases h
    rintro _ ⟨⟩
    exact (ht _ rfl).member segment
  -- An index beyond the end gives null.
  · rename_i items
    split at h
    · obtain ⟨i, -, rfl⟩ := (Except.map_eq_ok_iff _ _ _).1 h
      rintro _ ⟨⟩
      cases hi : items[i]? with
      | none => exact .null
      | some j => exact .part _ _ (ht _ rfl) (.item items j (List.mem_of_getElem? hi))
    · cases h
      rintro _ ⟨⟩
      exact .null
  · cases h
    intro v hv
    unfold member at hv
    split at hv
    · cases hv
    · split_ifs at hv <;> cases hv
      · exact .text _
      · exact .null
  · cases h
    rintro _ ⟨⟩
    exact .null

theorem meets_of_descendAll {t u : Target} (segments : List Text) (ht : ∀ v, t = .value v → s.Meets v)
    (h : descendAll s.desktop t segments = .ok u) : ∀ v, u = .value v → s.Meets v := by
  induction segments generalizing t with
  | nil =>
    cases h
    exact ht
  | cons segment segments ih =>
    rw [descendAll] at h
    cases hstep : descend s.desktop t segment with
    | error e => simp [hstep] at h
    | ok t' =>
      simp only [hstep] at h
      exact ih (meets_of_descend ht hstep) h

theorem meets_of_resolvePath {path : Text} {t : Target} (h : s.resolvePath path = .ok t) :
    ∀ v, t = .value v → s.Meets v := by
  unfold resolvePath at h
  cases hpath : Text.splitOn '.' path with
  | nil =>
    simp only [hpath] at h
    cases h
    rintro _ ⟨⟩
    exact .null
  | cons name segments =>
    simp only [hpath] at h
    refine meets_of_descendAll segments ?_ h
    rintro _ ⟨⟩
    exact (s.knows_lookup name).meets

end Session

end DeskScript
