import DeskScript.Table
import Mathlib.Data.List.Basic

namespace DeskScript.Table

variable {κ α : Type} [Ord κ]

/-- All values in the table are in `P`. -/
def All (P : α → Prop) (t : Table κ α) : Prop := ∀ k v, t.get? k = some v → P v

variable {P Q : α → Prop}

theorem All.mono {t : Table κ α} (h : t.All P) (hPQ : ∀ v, P v → Q v) : t.All Q :=
  fun k v hv => hPQ v (h k v hv)

@[simp] theorem toList_empty : (empty : Table κ α).toList = [] := rfl

theorem mem_toList_iff (t : Table κ α) (e : κ × α) : e ∈ t.toList ↔ e.1 ∈ t.order.toList ∧ t.get? e.1 = some e.2 := by
  obtain ⟨k, v⟩ := e
  simp only [toList, List.mem_filterMap, Option.map_eq_some_iff, Prod.mk.injEq]
  constructor
  · rintro ⟨l, hl, u, hu, rfl, rfl⟩
    exact ⟨hl, hu⟩
  · rintro ⟨hk, hv⟩
    exact ⟨k, hk, v, hv, rfl, rfl⟩

variable [Std.TransOrd κ]

theorem get?_congr (t : Table κ α) {k l : κ} (h : compare k l = .eq) : t.get? k = t.get? l :=
  Std.TreeMap.getElem?_congr h

theorem exists_mem_toList_of_get? (t : Table κ α) (k : κ) (v : α) (h : t.get? k = some v) : ∃ l, (l, v) ∈ t.toList := by
  obtain ⟨l, hl, hlk⟩ := (t.isSome_get? k).1 (Option.isSome_iff_exists.2 ⟨v, h⟩)
  exact ⟨l, (t.mem_toList_iff (l, v)).2 ⟨hl, (t.get?_congr hlk).trans h⟩⟩

theorem toList_put_of_eq_none (t : Table κ α) (k : κ) (v : α) (h : t.get? k = none) :
    (t.put k v).toList = t.toList ++ [(k, v)] := by
  have hk : ¬∃ l ∈ t.order.toList, compare l k = .eq := by
    rw [← t.isSome_get?, h]
    exact Bool.false_ne_true
  have hold : ∀ l ∈ t.order.toList, (t.put k v).get? l = t.get? l := by
    intro l hl
    rw [get?_put, if_neg fun he => hk ⟨l, hl, Std.OrientedCmp.eq_symm he⟩]
  have horder : (t.put k v).order.toList = t.order.toList ++ [k] := by
    rw [← keys_toList, keys_put, h, ← t.keys_toList]
    rfl
  have hlast : (t.put k v).get? k = some v := get?_put_self ..
  rw [toList, horder, List.filterMap_append]
  congr 1
  · exact List.filterMap_congr fun l hl => congrArg _ (hold l hl)
  · change List.filterMap (fun l => ((t.put k v).get? l).map fun u => (l, u)) [k] = _
    rw [List.filterMap_cons, hlast]
    rfl

theorem toList_ofList (entries : List (κ × α)) (h : (entries.map Prod.fst).Pairwise fun k l => compare k l ≠ .eq) :
    (ofList entries).toList = entries := by
  rw [List.pairwise_map] at h
  have hadded : ∀ (t : Table κ α), (∀ e ∈ entries, t.get? e.1 = none) →
      (entries.foldl (fun t e => t.put e.1 e.2) t).toList = t.toList ++ entries := by
    induction entries with
    | nil => exact fun t _ => (List.append_nil _).symm
    | cons e entries ih =>
      obtain ⟨he, hentries⟩ := List.pairwise_cons.1 h
      intro t ht
      have hnone : ∀ f ∈ entries, (t.put e.1 e.2).get? f.1 = none := by
        intro f hf
        rw [get?_put, if_neg (he f hf)]
        exact ht f (List.mem_cons_of_mem _ hf)
      rw [List.foldl_cons, ih hentries _ hnone, t.toList_put_of_eq_none _ _ (ht e (List.mem_cons_self ..)),
        List.append_assoc, List.singleton_append]
  rw [ofList, hadded empty fun e _ => get?_empty _, toList_empty, List.nil_append]

theorem get?_ofList_of_mem (entries : List (κ × α))
    (h : (entries.map Prod.fst).Pairwise fun k l => compare k l ≠ .eq) (e : κ × α) (he : e ∈ entries) :
    (ofList entries).get? e.1 = some e.2 := by
  rw [← toList_ofList entries h, mem_toList_iff] at he
  exact he.2

theorem all_empty : (empty : Table κ α).All P := by
  intro k v hv
  rw [get?_empty] at hv
  cases hv

theorem All.put {t : Table κ α} (h : t.All P) (k : κ) {v : α} (hv : P v) : (t.put k v).All P := by
  intro k' v' hv'
  rw [get?_put] at hv'
  split at hv'
  · cases hv'
    exact hv
  · exact h k' v' hv'

theorem all_ofList (entries : List (κ × α)) (h : ∀ e ∈ entries, P e.2) : (ofList entries).All P := by
  have hadded : ∀ t : Table κ α, t.All P → (entries.foldl (fun t e => t.put e.1 e.2) t).All P := by
    induction entries with
    | nil => exact fun t ht => ht
    | cons e entries ih =>
      intro t ht
      exact ih (fun f hf => h f (List.mem_cons_of_mem _ hf)) _ (ht.put e.1 (h e (List.mem_cons_self ..)))
  exact hadded empty all_empty

end DeskScript.Table
