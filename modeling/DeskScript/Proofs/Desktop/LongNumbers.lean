import DeskScript.Proofs.Desktop.Cycle
import DeskScript.Proofs.Desktop.References

namespace DeskScript

namespace Desktop

/-- What stands at this place has too many digits: the number itself, or a key of the table. -/
inductive IsLong (d : Desktop) : Value → Prop where
  | number (n : Int) (h : Text.canWrite n = false) : IsLong d (.plain (.int n))
  | key (ref : TableRef) (e : Key × Value) (he : e ∈ (d.fieldsOf ref).toList) (h : e.1.canWrite = false) :
      IsLong d (.table ref)

/-- The value leads to a number with too many digits. -/
def HasLong (d : Desktop) (v : Value) : Prop := ∃ u, d.Reaches v u ∧ d.IsLong u

variable (d : Desktop)

theorem hasLong_iff (v : Value) : d.HasLong v ↔ d.IsLong v ∨ ∃ u, d.Contains v u ∧ d.HasLong u := by
  constructor
  · rintro ⟨u, hreach, hlong⟩
    obtain rfl | ⟨u', hu', hreach⟩ := Relation.ReflTransGen.cases_head hreach
    · exact .inl hlong
    · exact .inr ⟨u', hu', u, hreach, hlong⟩
  · rintro (hlong | ⟨u, hu, u', hreach, hlong⟩)
    · exact ⟨v, .refl, hlong⟩
    · exact ⟨u', .head hu hreach, hlong⟩

theorem hasLong_congr {d d' : Desktop} (h : ∀ ref, d'.fieldsOf ref = d.fieldsOf ref) (v : Value) :
    d'.HasLong v ↔ d.HasLong v := by
  have himp : ∀ {d d' : Desktop}, (∀ ref, d'.fieldsOf ref = d.fieldsOf ref) → d'.HasLong v → d.HasLong v := by
    rintro d d' h ⟨u, hreach, hlong⟩
    refine ⟨u, Relation.ReflTransGen.mono (fun a b hab => ?_) _ _ hreach, ?_⟩
    · cases hab with
      | entry ref k _ hk => exact .entry ref k b (h ref ▸ hk)
      | member members name j hj => exact .member members name j hj
      | item items j hj => exact .item items j hj
    · cases hlong with
      | number n hn => exact .number n hn
      | key ref e he hkey => exact .key ref e (h ref ▸ he) hkey
  exact ⟨himp h, himp fun ref => (h ref).symm⟩

theorem not_hasLong_window (n : Nat) : ¬d.HasLong (.window n) := by
  rw [hasLong_iff]
  rintro (h | ⟨u, hu, -⟩)
  · cases h
  · cases hu

theorem sizeOf_lt_of_contains {d : Desktop} {i j : Json} (h : d.Contains (.plain i) (.plain j)) :
    sizeOf j < sizeOf i := by
  cases h with
  | member members name _ h =>
    have hlt := List.sizeOf_lt_of_mem h
    simp only [Prod.mk.sizeOf_spec] at hlt
    simp only [Json.object.sizeOf_spec]
    omega
  | item items _ h =>
    have hlt := List.sizeOf_lt_of_mem h
    simp only [Json.array.sizeOf_spec]
    omega

theorem canWrite_eq_false_iff (j : Json) : j.canWrite = false ↔ d.HasLong (.plain j) := by
  induction hn : sizeOf j using Nat.strongRecOn generalizing j with
  | ind n ih =>
    have hparts : ∀ i, d.Contains (.plain j) (.plain i) → (i.canWrite = false ↔ d.HasLong (.plain i)) :=
      fun i hi => ih (sizeOf i) (hn ▸ sizeOf_lt_of_contains hi) i rfl
    -- A long number is the value itself, or else one of its parts leads to it.
    rw [hasLong_iff]
    cases j with
    | int n =>
      refine ⟨fun h => .inl (.number n h), ?_⟩
      rintro (h | ⟨u, hu, -⟩)
      · cases h
        assumption
      · cases hu
    | array items =>
      rw [Json.canWrite_array, List.all_eq_false]
      constructor
      · rintro ⟨i, hi, h⟩
        have hitem := Contains.item (d := d) items i hi
        exact .inr ⟨_, hitem, (hparts i hitem).1 (Bool.eq_false_iff.2 h)⟩
      · rintro (h | ⟨u, hu, hlong⟩)
        · cases h
        · cases hu with
          | item _ i hi => exact ⟨i, hi, Bool.eq_false_iff.1 ((hparts i (.item items i hi)).2 hlong)⟩
    | object members =>
      rw [Json.canWrite_object, List.all_eq_false]
      constructor
      · rintro ⟨⟨name, i⟩, hi, h⟩
        have hmember := Contains.member (d := d) members name i hi
        exact .inr ⟨_, hmember, (hparts i hmember).1 (Bool.eq_false_iff.2 h)⟩
      · rintro (h | ⟨u, hu, hlong⟩)
        · cases h
        · cases hu with
          | member _ name i hi =>
            exact ⟨(name, i), hi, Bool.eq_false_iff.1 ((hparts i (.member members name i hi)).2 hlong)⟩
    | null | bool | float | text =>
      refine ⟨nofun, ?_⟩
      rintro (h | ⟨u, hu, -⟩)
      · cases h
      · cases hu

theorem jsonWithin_plain (fuel : Nat) (opened : List TableRef) (j : Json) :
    d.jsonWithin fuel opened (.plain j) = if j.canWrite then .ok j else .error .longNumber := by
  cases fuel <;> rfl

theorem not_hasLong_of_jsonWithin_eq_ok (fuel : Nat) (opened : List TableRef) (v : Value) (j : Json)
    (h : d.jsonWithin fuel opened v = .ok j) : ¬d.HasLong v := by
  induction fuel using Nat.strongRecOn generalizing opened v j with
  | ind fuel ih =>
    cases v with
    | plain i =>
      rw [← d.canWrite_eq_false_iff]
      rw [jsonWithin_plain] at h
      cases hcan : i.canWrite with
      | true => exact Bool.noConfusion
      | false => simp [hcan] at h
    | window n => exact d.not_hasLong_window n
    | table ref =>
      cases fuel with
      | zero => cases h
      | succ fuel =>
        rw [jsonWithin] at h
        split at h
        · cases h
        · obtain ⟨members, hmembers, -⟩ := (Except.map_eq_ok_iff _ _ _).1 h
          have hentry := Except.exists_ok_of_mapM_eq_ok _ _ _ hmembers
          -- The table is put into data key by key, so a long number stands in one of the keys or one of the values.
          rw [hasLong_iff]
          rintro (hlong | ⟨u, hu, hlong⟩)
          · cases hlong with
            | key _ e he hkey =>
              obtain ⟨m, hm⟩ := hentry e he
              simp [hkey] at hm
          · cases hu with
            | entry _ k _ hk =>
              obtain ⟨l, hl⟩ := Table.exists_mem_toList_of_get? _ k u hk
              obtain ⟨m, hm⟩ := hentry (l, u) hl
              split at hm
              · obtain ⟨i, hi, -⟩ := (Except.map_eq_ok_iff _ _ _).1 hm
                exact ih fuel (Nat.lt_succ_self _) _ u i hi hlong
              · cases hm

/-- Where no data is found, there is a long number, unless a table is met inside itself first. -/
theorem jsonWithin_eq_error_cases (fuel : Nat) (opened : List TableRef) (v : Value) (e : ScriptError)
    (h : d.jsonWithin fuel opened v = .error e) : e = .circular ∨ e = .longNumber ∧ d.HasLong v := by
  induction fuel using Nat.strongRecOn generalizing opened v with
  | ind fuel ih =>
    cases v with
    | plain i =>
      rw [← d.canWrite_eq_false_iff]
      rw [jsonWithin_plain] at h
      cases hcan : i.canWrite with
      | true => simp [hcan] at h
      | false =>
        simp only [hcan] at h
        exact .inr ⟨(Except.error.inj h).symm, rfl⟩
    | window n => cases fuel <;> cases h
    | table ref =>
      cases fuel with
      | zero => exact .inl (Except.error.inj h).symm
      | succ fuel =>
        rw [jsonWithin] at h
        split at h
        · exact .inl (Except.error.inj h).symm
        · obtain ⟨entry, he, hfail⟩ := Except.exists_of_mapM_eq_error _ _ _ ((Except.map_eq_error_iff _ _ _).1 h)
          split at hfail
          · have hentry := (Except.map_eq_error_iff _ _ _).1 hfail
            obtain rfl | ⟨rfl, hlong⟩ := ih fuel (Nat.lt_succ_self _) _ entry.2 hentry
            · exact .inl rfl
            · exact .inr ⟨rfl, (d.hasLong_iff _).2 (.inr ⟨entry.2, .of_entry he, hlong⟩)⟩
          · rename_i hkey
            have hlong := IsLong.key ref entry he (Bool.eq_false_iff.2 hkey)
            exact .inr ⟨(Except.error.inj hfail).symm, (d.hasLong_iff _).2 (.inl hlong)⟩

/-- Tables that have been opened one inside the other, each of them fit to be put into words, with fuel for those that
there may still be. -/
def Opens : (fuel : Nat) → List TableRef → Prop
  | fuel, [] => fuel = d.tableCount + 1
  | fuel, ref :: opened => ref ∉ opened ∧ opened ⊆ d.tables ∧ d.canWriteWithin (fuel + 1) opened (.table ref) = true ∧
      Opens (fuel + 1) opened

/-- The table has been opened on some way into a value. -/
def IsOpened (ref : TableRef) : Prop := ∃ fuel opened, d.Opens fuel (ref :: opened)

variable {d}

theorem Opens.isOpened_of_mem {fuel : Nat} {opened : List TableRef} (h : d.Opens fuel opened) {ref : TableRef}
    (href : ref ∈ opened) : d.IsOpened ref := by
  induction opened generalizing fuel with
  | nil => cases href
  | cons ref' opened ih =>
    obtain rfl | href := List.mem_cons.1 href
    · exact ⟨fuel, opened, h⟩
    · exact ih h.2.2.2 href

theorem Opens.nodup {fuel : Nat} {opened : List TableRef} (h : d.Opens fuel opened) : opened.Nodup := by
  induction opened generalizing fuel with
  | nil => exact .nil
  | cons ref opened ih => exact List.nodup_cons.2 ⟨h.1, ih h.2.2.2⟩

theorem Opens.length_eq {fuel : Nat} {opened : List TableRef} (h : d.Opens fuel opened) :
    opened.length + fuel = d.tableCount + 1 := by
  induction opened generalizing fuel with
  | nil => exact (Nat.zero_add _).trans h
  | cons ref opened ih =>
    have := ih h.2.2.2
    rw [List.length_cons]
    omega

/-- Whatever is in an opened table is fit to be put into words, and tables in it are opened in their turn. -/
theorem IsOpened.of_entry {ref : TableRef} (h : d.IsOpened ref) {e : Key × Value} (he : e ∈ (d.fieldsOf ref).toList) :
    e.1.canWrite = true ∧ (∀ j, e.2 = .plain j → j.canWrite = true) ∧ ∀ ref', e.2 = .table ref' → d.IsOpened ref' := by
  obtain ⟨fuel, opened, hopens⟩ := h
  have ⟨hnot, hsub, hcan, _⟩ := hopens
  have hentries : ∀ e ∈ (d.fieldsOf ref).toList, e.1.canWrite = true ∧
      d.canWriteWithin fuel (ref :: opened) e.2 = true := by
    simpa [canWriteWithin, hnot] using hcan
  have hentry := hentries e he
  refine ⟨hentry.1, fun j hj => ?_, fun ref' href' => ?_⟩
  · rw [hj] at hentry
    cases fuel <;> exact hentry.2
  · by_cases hmem : ref' ∈ ref :: opened
    · exact hopens.isOpened_of_mem hmem
    · have hsub' : ref :: opened ⊆ d.tables := List.cons_subset.2 ⟨d.mem_tables_of_mem he, hsub⟩
      have hle := d.length_le_tableCount hopens.nodup hsub'
      have hlength := hopens.length_eq
      obtain ⟨fuel, rfl⟩ : ∃ k, fuel = k + 1 := Nat.exists_eq_succ_of_ne_zero (by omega)
      exact ⟨fuel, ref :: opened, hmem, hsub', href' ▸ hentry.2, hopens⟩

/-- A part of what can be put into words. -/
def Fits (d : Desktop) : Value → Prop
  | .plain j => j.canWrite = true
  | .window _ => True
  | .table ref => d.IsOpened ref

theorem Fits.of_contains {v u : Value} (hv : d.Fits v) (h : d.Contains v u) : d.Fits u := by
  cases h with
  | entry ref k _ hk =>
    obtain ⟨l, hl⟩ := Table.exists_mem_toList_of_get? _ k u hk
    obtain ⟨-, hplain, htable⟩ := IsOpened.of_entry hv hl
    cases u with
    | plain j => exact hplain j rfl
    | window n => trivial
    | table ref' => exact htable ref' rfl
  | member members name j hj =>
    rw [Fits, Json.canWrite_object, List.all_eq_true] at hv
    exact hv _ hj
  | item items j hj =>
    rw [Fits, Json.canWrite_array, List.all_eq_true] at hv
    exact hv _ hj

theorem Fits.of_reaches {v u : Value} (hv : d.Fits v) (h : d.Reaches v u) : d.Fits u := by
  induction h with
  | refl => exact hv
  | tail _ hlast ih => exact ih.of_contains hlast

theorem Fits.not_hasLong {v : Value} (hv : d.Fits v) : ¬d.HasLong v := by
  rintro ⟨u, hreach, hlong⟩
  have hu := hv.of_reaches hreach
  cases hlong with
  | number n h => exact Bool.noConfusion (h.symm.trans hu)
  | key ref e he h => exact Bool.noConfusion (h.symm.trans (IsOpened.of_entry hu he).1)

theorem hasLong_of_canWriteWithin_eq_false (fuel : Nat) (opened : List TableRef) (v : Value)
    (h : d.canWriteWithin fuel opened v = false) : d.HasLong v := by
  induction fuel generalizing opened v with
  | zero =>
    cases v with
    | plain j => exact (d.canWrite_eq_false_iff j).1 h
    | window | table => cases h
  | succ fuel ih =>
    cases v with
    | plain j => exact (d.canWrite_eq_false_iff j).1 h
    | window => cases h
    | table ref =>
      rw [canWriteWithin, Bool.or_eq_false_iff, List.all_eq_false] at h
      obtain ⟨-, e, he, hentry⟩ := h
      rw [hasLong_iff]
      cases hkey : e.1.canWrite with
      | false => exact .inl (.key ref e he hkey)
      | true =>
        rw [hkey, Bool.true_and, Bool.not_eq_true] at hentry
        exact .inr ⟨e.2, .of_entry he, ih _ e.2 hentry⟩

variable (d)

/-- A value can be put into words inside a larger one unless it leads to a long number. -/
theorem canWriteWithin_eq_false_iff (v : Value) :
    d.canWriteWithin (d.tableCount + 1) [] v = false ↔ d.HasLong v := by
  refine ⟨hasLong_of_canWriteWithin_eq_false _ _ v, fun hlong => ?_⟩
  by_contra hcan
  rw [Bool.not_eq_false] at hcan
  refine Fits.not_hasLong ?_ hlong
  cases v with
  | plain j => exact hcan
  | window n => trivial
  | table ref => exact ⟨d.tableCount, [], List.not_mem_nil, List.nil_subset _, hcan, rfl⟩

theorem canBeKey_eq_false_iff (v : Value) :
    d.canBeKey v = false ↔ (∀ j, v = .plain j → j.isContainer = true) ∧ d.HasLong v := by
  cases v with
  | plain j =>
    have hplain : (∀ i, Value.plain j = .plain i → i.isContainer = true) ↔ j.isContainer = true :=
      ⟨fun h => h j rfl, fun h i hi => Value.plain.inj hi ▸ h⟩
    rw [hplain, ← canWrite_eq_false_iff, canBeKey]
    simp
  | window | table =>
    rw [canBeKey, canWriteWithin_eq_false_iff]
    · exact (and_iff_right nofun).symm
    · nofun

end Desktop

end DeskScript
