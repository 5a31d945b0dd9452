import DeskScript.Desktop.Rendering
import DeskScript.Proofs.Except
import Mathlib.Data.List.Perm.Subperm
import Mathlib.Logic.Relation

namespace DeskScript

namespace Desktop

variable (d : Desktop)

def Holds (ref ref' : TableRef) : Prop := ∃ e ∈ (d.fieldsOf ref).toList, e.2 = .table ref'

def tables : List TableRef :=
  (List.range d.windows.length).map .data ++ (List.range d.replies.size).map .reply

@[simp] theorem length_tables : d.tables.length = d.tableCount := by
  simp [tables, tableCount]

theorem mem_tables_of_mem {ref : TableRef} {e : Key × Value} (he : e ∈ (d.fieldsOf ref).toList) : ref ∈ d.tables := by
  cases ref with
  | data n =>
    cases hw : d.windows[n]? with
    | none =>
      simp only [fieldsOf, hw] at he
      cases he
    | some w =>
      have hn := (List.getElem?_eq_some_iff.1 hw).1
      simp [tables, hn]
  | reply r =>
    by_cases hr : r < d.replies.size
    · simp [tables, hr]
    · simp only [fieldsOf, Journal.get?, if_neg hr] at he
      cases he

theorem mem_tables_of_holds {ref ref' : TableRef} (h : d.Holds ref ref') : ref ∈ d.tables :=
  d.mem_tables_of_mem h.choose_spec.1

/-- No more tables than there are can be open at once. -/
theorem length_le_tableCount {opened : List TableRef} (hnodup : opened.Nodup) (hsub : opened ⊆ d.tables) :
    opened.length ≤ d.tableCount := by
  rw [← length_tables]
  exact (List.subperm_of_subset hnodup hsub).length_le

theorem exists_table_of_jsonWithin_eq_circular (fuel : Nat) (opened : List TableRef) (v : Value)
    (h : d.jsonWithin fuel opened v = .error .circular) : ∃ ref, v = .table ref := by
  cases v with
  | plain j => cases fuel <;> cases hj : j.canWrite <;> simp [jsonWithin, hj] at h
  | window n => cases fuel <;> simp [jsonWithin] at h
  | table ref => exact ⟨ref, rfl⟩

/-- The search for the data of `v` below open tables that all lead to it. -/
theorem exists_cycle_of_jsonWithin_eq_circular (fuel : Nat) (opened : List TableRef) (v : Value)
    (hv : d.jsonWithin fuel opened v = .error .circular) (hfuel : opened.length + fuel = d.tableCount + 1)
    (hnodup : opened.Nodup) (hsub : opened ⊆ d.tables)
    (hpath : ∀ o ∈ opened, ∀ ref, v = .table ref → Relation.TransGen d.Holds o ref) :
    ∃ ref ref', v = .table ref ∧ Relation.ReflTransGen d.Holds ref ref' ∧
      Relation.TransGen d.Holds ref' ref' := by
  induction fuel generalizing opened v with
  | zero =>
    -- More tables would be open than there are.
    have hle := d.length_le_tableCount hnodup hsub
    omega
  | succ fuel ih =>
    obtain ⟨ref, rfl⟩ := d.exists_table_of_jsonWithin_eq_circular _ _ _ hv
    by_cases hmem : ref ∈ opened
    · exact ⟨ref, ref, rfl, .refl, hpath ref hmem ref rfl⟩
    · rw [jsonWithin, if_neg (by simpa using hmem), Except.map_eq_error_iff] at hv
      obtain ⟨e, he, hcircular⟩ := Except.exists_of_mapM_eq_error _ _ _ hv
      split at hcircular
      · rw [Except.map_eq_error_iff] at hcircular
        obtain ⟨next, hnext⟩ := d.exists_table_of_jsonWithin_eq_circular _ _ _ hcircular
        have hholds : d.Holds ref next := ⟨e, he, hnext⟩
        have hlength : (ref :: opened).length + fuel = d.tableCount + 1 := by
          rw [List.length_cons]
          omega
        have hsub' : ref :: opened ⊆ d.tables :=
          List.cons_subset.2 ⟨d.mem_tables_of_holds hholds, hsub⟩
        have hpath' : ∀ o ∈ ref :: opened, ∀ r, e.2 = .table r → Relation.TransGen d.Holds o r := by
          intro o ho r hr
          obtain rfl : next = r := by simpa [hnext] using hr
          obtain rfl | ho := List.mem_cons.1 ho
          · exact .single hholds
          · exact (hpath o ho ref rfl).tail hholds
        obtain ⟨r, r', hr, hreach, hcycle⟩ :=
          ih (ref :: opened) e.2 hcircular hlength (List.nodup_cons.2 ⟨hmem, hnodup⟩) hsub' hpath'
        obtain rfl : next = r := by simpa [hnext] using hr
        exact ⟨ref, r', rfl, hreach.head hholds, hcycle⟩
      · cases hcircular

/-- A value that is no data for being circular leads to a table that leads to itself. -/
theorem exists_cycle_of_json_eq_circular (v : Value) (h : d.json v = .error .circular) :
    ∃ ref ref', v = .table ref ∧ Relation.ReflTransGen d.Holds ref ref' ∧
      Relation.TransGen d.Holds ref' ref' :=
  d.exists_cycle_of_jsonWithin_eq_circular _ [] v h (by simp) List.nodup_nil (List.nil_subset _)
    fun o ho => absurd ho List.not_mem_nil

end Desktop

end DeskScript
