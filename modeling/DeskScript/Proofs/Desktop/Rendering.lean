import DeskScript.Proofs.Script.Meeting

namespace DeskScript

theorem not_transGen_self_of_acc {α : Type} {r : α → α → Prop} {a : α} (h : Acc r a) : ¬Relation.TransGen r a a := by
  intro hcycle
  have hends := h.transGen
  clear h
  induction hends with
  | intro a _ ih => exact ih a hcycle hcycle

namespace Desktop

variable (d : Desktop)

theorem contains_of_holds {ref ref' : TableRef} (h : d.Holds ref ref') : d.Contains (.table ref) (.table ref') := by
  obtain ⟨⟨k, v⟩, he, rfl⟩ := h
  exact .of_entry he

/-- The value leads to a table or a list that holds itself, directly or through others. -/
def IsCircular (v : Value) : Prop := ∃ u, d.Reaches v u ∧ Relation.TransGen d.Contains u u

/-- Whoever goes into the value, and on into what it finds there, comes to an end. -/
def IsGrounded (v : Value) : Prop := Acc (fun u v => d.Contains v u) v

variable {d}

theorem IsGrounded.of_reaches {v u : Value} (hv : d.IsGrounded v) (h : d.Reaches v u) : d.IsGrounded u := by
  induction h with
  | refl => exact hv
  | tail _ hlast ih => exact Acc.inv ih hlast

theorem IsGrounded.not_isCircular {v : Value} (hv : d.IsGrounded v) : ¬d.IsCircular v := by
  rintro ⟨u, hreach, hcycle⟩
  exact not_transGen_self_of_acc (hv.of_reaches hreach) (Relation.transGen_swap.2 hcycle)

variable (d)

theorem isGrounded_plain (j : Json) : d.IsGrounded (.plain j) := by
  induction hn : sizeOf j using Nat.strongRecOn generalizing j with
  | ind n ih =>
    refine ⟨_, fun u hu => ?_⟩
    obtain ⟨i, rfl⟩ := d.plain_of_reaches j u (.single hu)
    exact ih (sizeOf i) (hn ▸ sizeOf_lt_of_contains hu) i rfl

theorem isGrounded_window (n : Nat) : d.IsGrounded (.window n) := ⟨_, nofun⟩

theorem isGrounded_of_jsonWithin_eq_ok (fuel : Nat) (opened : List TableRef) (v : Value) (j : Json)
    (h : d.jsonWithin fuel opened v = .ok j) : d.IsGrounded v := by
  induction fuel generalizing opened v j with
  | zero =>
    cases v with
    | plain j => exact d.isGrounded_plain j
    | window n => exact d.isGrounded_window n
    | table ref => cases h
  | succ fuel ih =>
    cases v with
    | plain j => exact d.isGrounded_plain j
    | window n => exact d.isGrounded_window n
    | table ref =>
      rw [jsonWithin] at h
      split at h
      · cases h
      · obtain ⟨members, hmembers, -⟩ := (Except.map_eq_ok_iff _ _ _).1 h
        -- Data was found for each entry with less fuel, so nothing goes down from it for ever.
        refine ⟨_, fun u hu => ?_⟩
        cases hu with
        | entry _ k _ hk =>
          obtain ⟨l, hl⟩ := Table.exists_mem_toList_of_get? _ k u hk
          obtain ⟨m, hm⟩ := Except.exists_ok_of_mapM_eq_ok _ _ _ hmembers (l, u) hl
          split at hm
          · obtain ⟨i, hi, -⟩ := (Except.map_eq_ok_iff _ _ _).1 hm
            exact ih (ref :: opened) u i hi
          · cases hm

theorem json_eq_error_cases (v : Value) (e : ScriptError) (h : d.json v = .error e) :
    e = .circular ∧ d.IsCircular v ∨ e = .longNumber ∧ d.HasLong v := by
  obtain rfl | hlong := d.jsonWithin_eq_error_cases _ _ v e h
  · obtain ⟨ref, ref', rfl, hreach, hcycle⟩ := d.exists_cycle_of_json_eq_circular v h
    exact .inl ⟨rfl, .table ref', hreach.lift Value.table (fun _ _ => d.contains_of_holds) _ _,
      hcycle.lift Value.table (fun _ _ => d.contains_of_holds) _ _⟩
  · exact .inr hlong

/-- A value is data unless it is circular or a number in it is too long. -/
theorem exists_json_eq_ok_iff (v : Value) : (∃ j, d.json v = .ok j) ↔ ¬d.IsCircular v ∧ ¬d.HasLong v := by
  constructor
  · rintro ⟨j, hj⟩
    exact ⟨(d.isGrounded_of_jsonWithin_eq_ok _ _ v j hj).not_isCircular, d.not_hasLong_of_jsonWithin_eq_ok _ _ v j hj⟩
  · rintro ⟨hcircular, hlong⟩
    cases h : d.json v with
    | ok j => exact ⟨j, rfl⟩
    | error e =>
      obtain ⟨-, hc⟩ | ⟨-, hl⟩ := d.json_eq_error_cases v e h
      · exact absurd hc hcircular
      · exact absurd hl hlong

/-- A circular value; handles and actions lead to nothing. -/
def IsCircularTarget (t : Target) : Prop := ∃ v, t = .value v ∧ d.IsCircular v

def HasLongTarget (t : Target) : Prop := ∃ v, t = .value v ∧ d.HasLong v

theorem renderIn_eq_error_cases (layout : Json.Layout) (t : Target) (e : ScriptError)
    (h : d.renderIn layout t = .error e) :
    e = .circular ∧ d.IsCircularTarget t ∨ e = .longNumber ∧ d.HasLongTarget t := by
  cases t with
  | value v =>
    have hv := d.json_eq_error_cases v e ((Except.map_eq_error_iff _ _ _).1 h)
    exact hv.imp (And.imp_right fun hc => ⟨v, rfl, hc⟩) (And.imp_right fun hl => ⟨v, rfl, hl⟩)
  | handle => cases h
  | action => cases h

theorem exists_renderIn_eq_ok_iff (layout : Json.Layout) (t : Target) :
    (∃ shown, d.renderIn layout t = .ok shown) ↔ ¬d.IsCircularTarget t ∧ ¬d.HasLongTarget t := by
  cases t with
  | value v =>
    have hshown : (∃ shown, d.renderIn layout (.value v) = .ok shown) ↔ ∃ j, d.json v = .ok j := by
      simp only [renderIn, Except.map_eq_ok_iff]
      exact ⟨fun ⟨_, j, hj, _⟩ => ⟨j, hj⟩, fun ⟨j, hj⟩ => ⟨_, j, hj, rfl⟩⟩
    simp [hshown, exists_json_eq_ok_iff, IsCircularTarget, HasLongTarget]
  | handle => exact ⟨fun _ => ⟨nofun, nofun⟩, fun _ => ⟨_, rfl⟩⟩
  | action => exact ⟨fun _ => ⟨nofun, nofun⟩, fun _ => ⟨_, rfl⟩⟩

theorem renderList_eq_error_cases (vs : List Value) (e : ScriptError) (h : d.renderList vs = .error e) :
    e = .circular ∧ (∃ v ∈ vs, d.IsCircular v) ∨ e = .longNumber ∧ ∃ v ∈ vs, d.HasLong v := by
  obtain ⟨v, hv, he⟩ := Except.exists_of_mapM_eq_error _ _ _ ((Except.map_eq_error_iff _ _ _).1 h)
  exact (d.json_eq_error_cases v e he).imp (And.imp_right fun hc => ⟨v, hv, hc⟩)
    (And.imp_right fun hl => ⟨v, hv, hl⟩)

theorem exists_renderList_eq_ok_iff (vs : List Value) :
    (∃ shown, d.renderList vs = .ok shown) ↔ ∀ v ∈ vs, ¬d.IsCircular v ∧ ¬d.HasLong v := by
  simp only [← exists_json_eq_ok_iff]
  constructor
  · rintro ⟨shown, h⟩
    obtain ⟨js, hjs, -⟩ := (Except.map_eq_ok_iff _ _ _).1 h
    exact Except.exists_ok_of_mapM_eq_ok _ _ _ hjs
  · intro h
    cases hjs : vs.mapM d.json with
    | ok js => exact ⟨_, by rw [renderList, hjs]; rfl⟩
    | error e =>
      obtain ⟨v, hv, he⟩ := Except.exists_of_mapM_eq_error _ _ _ hjs
      obtain ⟨j, hj⟩ := h v hv
      cases hj.symm.trans he

theorem eq_error_iff_of_cases {x : Except ScriptError Text} {P Q : Prop} (hQ : ¬Q)
    (hcases : ∀ e, x = .error e → e = .circular ∧ P ∨ e = .longNumber ∧ Q)
    (hok : (∃ t, x = .ok t) ↔ ¬P ∧ ¬Q) (e : ScriptError) : x = .error e ↔ P ∧ e = .circular := by
  constructor
  · intro h
    obtain ⟨he, hP⟩ | ⟨-, hq⟩ := hcases e h
    · exact ⟨hP, he⟩
    · exact absurd hq hQ
  · rintro ⟨hP, rfl⟩
    cases h : x with
    | ok t => exact absurd hP (hok.1 ⟨t, h⟩).1
    | error e' =>
      obtain ⟨rfl, -⟩ | ⟨-, hq⟩ := hcases e' h
      · rfl
      · exact absurd hq hQ

end Desktop

namespace Desktop

/-- In a log as well as on one line, the value is shown unless it leads to a table or a list that holds itself, and
there is no other error. -/
structure ShowsUnlessCircular (d : Desktop) (v : Value) : Prop where
  log_error : ∀ e, d.render (.value v) = .error e ↔ d.IsCircular v ∧ e = .circular
  log_ok : (∃ shown, d.render (.value v) = .ok shown) ↔ ¬d.IsCircular v
  line_error : ∀ e, d.renderCompact (.value v) = .error e ↔ d.IsCircular v ∧ e = .circular
  line_ok : (∃ shown, d.renderCompact (.value v) = .ok shown) ↔ ¬d.IsCircular v

theorem showsUnlessCircular {d : Desktop} {v : Value} (hlong : ¬d.HasLong v) : d.ShowsUnlessCircular v := by
  have htarget : ¬d.HasLongTarget (.value v) := fun ⟨_, he, h⟩ => hlong (Target.value.inj he ▸ h)
  have hcircular : d.IsCircularTarget (.value v) ↔ d.IsCircular v :=
    ⟨fun ⟨_, he, h⟩ => Target.value.inj he ▸ h, fun h => ⟨v, rfl, h⟩⟩
  have hfails := fun layout => eq_error_iff_of_cases htarget (d.renderIn_eq_error_cases layout (.value v))
    (d.exists_renderIn_eq_ok_iff layout (.value v))
  have hshows := fun layout => (d.exists_renderIn_eq_ok_iff layout (.value v)).trans (and_iff_left htarget)
  simp only [hcircular] at hfails hshows
  exact ⟨hfails _, hshows _, hfails _, hshows _⟩

/-- One reply under two keys of the data is shown twice; only the data inside itself is not shown. -/
example :
    let w : Window := ⟨['a'], .text [], .text [], .null, .null, .null, .null, .null, .null, .null, .live .empty, .null⟩
    let shared : Text := Text.joinWith ['\n'] ["local w = window_Id(a)".toList,
      "local r = w.database:write(x, y)".toList, "w.database:write(k, r)".toList, "w.database:write(l, r)".toList,
      "local i = w.info:(null)".toList, "sys.log(i)".toList]
    let nested : Text := Text.joinWith ['\n'] ["local w = window_Id(a)".toList, "local i = w.info:(null)".toList,
      "w.database:write(k, i)".toList, "sys.log(i)".toList]
    ((ofWindows [w]).run shared none).error = none ∧ ((ofWindows [w]).run nested none).error = some .circular := by
  decide +kernel

end Desktop

end DeskScript
