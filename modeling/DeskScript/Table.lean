import DeskScript.Journal
import Std.Data.TreeMap

namespace DeskScript

/-- Keys in the order in which they first came, and their values; keys that compare as equal are one key. -/
structure Table (κ α : Type) [Ord κ] where
  order : Journal κ
  values : Std.TreeMap κ α
  mem_values : ∀ k, k ∈ values ↔ ∃ l ∈ order.toList, compare l k = .eq
  distinct : order.toList.Pairwise fun k l => compare k l ≠ .eq

namespace Table

variable {κ α : Type} [Ord κ]

def get? (t : Table κ α) (k : κ) : Option α := t.values[k]?

def toList (t : Table κ α) : List (κ × α) :=
  t.order.toList.filterMap fun k => t.values[k]?.map fun v => (k, v)

theorem distinct_push (t : Table κ α) (k : κ) (h : k ∉ t.values) :
    (t.order.push k).toList.Pairwise fun k l => compare k l ≠ .eq := by
  rw [Journal.toList_push, List.pairwise_append]
  refine ⟨t.distinct, List.pairwise_singleton .., fun l hl m hm => ?_⟩
  rw [List.mem_singleton.1 hm]
  exact fun e => h ((t.mem_values k).2 ⟨l, hl, e⟩)

variable [Std.TransOrd κ]

def empty : Table κ α := ⟨.empty, ∅, by simp, by simp⟩

theorem mem_values_insert (t : Table κ α) (k : κ) (v : α) (h : k ∈ t.values) (k' : κ) :
    k' ∈ t.values.insert k v ↔ ∃ l ∈ t.order.toList, compare l k' = .eq := by
  rw [Std.TreeMap.mem_insert, ← t.mem_values]
  constructor
  · rintro (hk | hk)
    · exact (Std.TreeMap.mem_congr hk).1 h
    · exact hk
  · exact Or.inr

theorem mem_values_push (t : Table κ α) (k : κ) (v : α) (k' : κ) :
    k' ∈ t.values.insert k v ↔ ∃ l ∈ (t.order.push k).toList, compare l k' = .eq := by
  rw [Std.TreeMap.mem_insert, t.mem_values]
  simp [or_and_right, exists_or, or_comm]

def put (t : Table κ α) (k : κ) (v : α) : Table κ α :=
  if h : k ∈ t.values then ⟨t.order, t.values.insert k v, t.mem_values_insert k v h, t.distinct⟩
  else ⟨t.order.push k, t.values.insert k v, t.mem_values_push k v, t.distinct_push k h⟩

def ofList (entries : List (κ × α)) : Table κ α := entries.foldl (fun t e => t.put e.1 e.2) empty

@[simp] theorem get?_empty (k : κ) : (empty : Table κ α).get? k = none := by simp [empty, get?]

theorem values_put (t : Table κ α) (k : κ) (v : α) : (t.put k v).values = t.values.insert k v := by
  unfold put
  split <;> rfl

theorem get?_put (t : Table κ α) (k l : κ) (v : α) :
    (t.put k v).get? l = if compare k l = .eq then some v else t.get? l := by
  simp [get?, values_put, Std.TreeMap.getElem?_insert]

@[simp] theorem get?_put_self (t : Table κ α) (k : κ) (v : α) : (t.put k v).get? k = some v := by
  simp [get?_put]

theorem isSome_get? (t : Table κ α) (k : κ) :
    (t.get? k).isSome ↔ ∃ l ∈ t.order.toList, compare l k = .eq := by
  rw [get?, ← t.mem_values, Std.TreeMap.isSome_getElem?_eq_contains, Std.TreeMap.contains_iff_mem]

theorem keys_toList (t : Table κ α) : t.toList.map Prod.fst = t.order.toList := by
  have h : ∀ k ∈ t.order.toList, ∃ v, t.values[k]? = some v := fun k hk => by
    rw [← Option.isSome_iff_exists]
    exact (t.isSome_get? k).2 ⟨k, hk, Std.ReflCmp.compare_self⟩
  unfold toList
  generalize t.order.toList = keys at h
  induction keys with
  | nil => rfl
  | cons k keys ih =>
    obtain ⟨v, hv⟩ := h k (List.mem_cons_self ..)
    simp [hv, ih fun l hl => h l (List.mem_cons_of_mem _ hl)]

theorem keys_put (t : Table κ α) (k : κ) (v : α) :
    (t.put k v).toList.map Prod.fst =
      if (t.get? k).isSome then t.toList.map Prod.fst else t.toList.map Prod.fst ++ [k] := by
  have hk : k ∈ t.values ↔ (t.get? k).isSome := by rw [t.mem_values, isSome_get?]
  rw [keys_toList, keys_toList]
  unfold put
  by_cases h : k ∈ t.values
  · rw [dif_pos h, if_pos (hk.1 h)]
  · rw [dif_neg h, if_neg fun c => h (hk.2 c)]
    exact Journal.toList_push ..

end Table

end DeskScript
