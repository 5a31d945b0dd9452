import DeskScript.Proofs.Desktop.Labels

namespace DeskScript

namespace Key

/-- The whole number that the key is equal to; the truth values are equal to one and zero. -/
def whole? : Key → Option Int
  | bool b => some (if b then 1 else 0)
  | int n => some n
  | float x => x.toInt?
  | _ => none

theorem form_eq_whole_iff (k : Key) (n : Int) : k.form = .whole n ↔ k.whole? = some n := by
  cases k with
  | null | bool | int | text => simp [form, whole?]
  | float x => cases hx : x.toInt? <;> simp [form, whole?, hx]

def ofForm : Form → Key
  | .null => null
  | .whole n => int n
  | .float x => float x
  | .text t => text t

theorem ofForm_form (k : Key) (h : k.whole? = none) : ofForm k.form = k := by
  cases k with
  | null | text => rfl
  | bool | int => cases h
  | float x =>
    change x.toInt? = none at h
    rw [form, h]
    rfl

/-- Two keys are one if they are the same, or equal to the same whole number. -/
theorem form_eq_iff (k l : Key) : k.form = l.form ↔ k = l ∨ ∃ n, k.whole? = some n ∧ l.whole? = some n := by
  constructor
  · intro h
    have hwhole : k.whole? = l.whole? := Option.ext fun n => by
      rw [← form_eq_whole_iff, ← form_eq_whole_iff, h]
    cases hk : k.whole? with
    | none => exact .inl (by rw [← k.ofForm_form hk, h, l.ofForm_form (hwhole ▸ hk)])
    | some n => exact .inr ⟨n, rfl, hwhole ▸ hk⟩
  · rintro (rfl | ⟨n, hk, hl⟩)
    · rfl
    · rw [(k.form_eq_whole_iff n).2 hk, (l.form_eq_whole_iff n).2 hl]

end Key

theorem Fields.get?_putAll_eq (fields : Fields) (writes : List Write) (k : Key) :
    (fields.putAll writes).get? k =
      ((writes.reverse.find? fun x => x.key.form = k.form).map Write.value).or (fields.get? k) := by
  -- From the end, since the last write under a key is the one that counts.
  induction writes using List.reverseRecOn with
  | nil => rfl
  | append_singleton writes x ih =>
    rw [putAll_concat, Table.get?_put, List.reverse_concat, List.find?_cons, ih]
    by_cases hx : x.key.form = k.form
    · rw [if_pos ((Key.compare_eq_iff _ _).2 hx), decide_eq_true hx]
      rfl
    · rw [if_neg fun he => hx ((Key.compare_eq_iff _ _).1 he), decide_eq_false hx]

namespace Data

def IsWritable (data : Data) : Prop := ∀ j, data ≠ .fixed j

variable {data : Data}

theorem IsWritable.putAll (h : data.IsWritable) (writes : List Write) :
    (data.putAll writes).IsWritable ∧ (data.putAll writes).fields = data.fields.putAll writes := by
  cases data with
  | fixed j => exact absurd rfl (h j)
  | absent => cases writes <;> exact ⟨nofun, rfl⟩
  | live fields => exact ⟨nofun, rfl⟩

theorem IsWritable.takes (h : data.IsWritable) {writes : List Write} {data' : Data} (htakes : data.Takes writes data') :
    data'.IsWritable ∧ data'.fields = data.fields.putAll writes := by
  obtain rfl | ⟨rfl, rfl⟩ := htakes
  · exact h.putAll writes
  · exact ⟨nofun, rfl⟩

end Data

namespace Desktop

variable {d : Desktop} {n : Nat}

theorem perform_read (w : Window) (hw : d.windows[n]? = some w) (arguments : List Value) (k : Key)
    (hk : d.keyFor (arguments[0]?.getD .null) = .ok k) :
    d.perform n .read arguments = .ok (((d.fieldsOf (.data n)).get? k).getD .null, d) := by
  have hread : d.read w (arguments[0]?.getD .null) = .ok ((w.data.fields.get? k).getD .null) := by
    unfold read Data.fields
    cases w.data with
    | live fields => rw [hk]; rfl
    | _ => exact congrArg (fun v => Except.ok (Option.getD v Value.null)) (Table.get?_empty _).symm
  rw [fieldsOf_data w hw, perform_of_window hw]
  dsimp only
  rw [hread]
  rfl

theorem perform_read_of_not (w : Window) (hw : d.windows[n]? = some w) (hdata : w.data.IsWritable)
    (arguments : List Value) (hcannot : d.canBeKey (arguments[0]?.getD .null) = false) :
    (w.data = .absent → d.perform n .read arguments = .ok (.null, d)) ∧
      (w.data ≠ .absent → d.perform n .read arguments = .error ⟨.longNumber, d⟩) := by
  have hkey := (d.keyFor_eq_error_iff _ _).2 ⟨hcannot, rfl⟩
  rw [perform_of_window hw]
  dsimp only
  rw [read]
  cases hfields : w.data with
  | fixed j => exact absurd hfields (hdata j)
  | absent => exact ⟨fun _ => rfl, fun h => absurd rfl h⟩
  | live fields =>
    rw [hkey]
    exact ⟨nofun, fun _ => rfl⟩

theorem writableFields_eq_ok (w : Window) (hdata : w.data.IsWritable) : writableFields w = .ok w.data.fields := by
  unfold writableFields Data.fields
  cases hw : w.data with
  | fixed j => exact absurd hw (hdata j)
  | _ => rfl

theorem fieldsOf_setWindow_data (w w' : Window) (hw : d.windows[n]? = some w) :
    (d.setWindow n w').fieldsOf (.data n) = w'.data.fields := by
  refine fieldsOf_data w' ?_
  rw [d.getElem?_setWindow _ _ _ (List.getElem?_eq_some_iff.1 hw).1, if_pos rfl]

/-- Data that can be written to takes a write, and then a reply tells of what was asked for. -/
theorem exists_perform_write (w : Window) (hw : d.windows[n]? = some w) (hdata : w.data.IsWritable)
    (arguments : List Value) (k : Key) (hk : d.keyFor (arguments[0]?.getD .null) = .ok k) :
    let value := arguments[1]?.getD .null
    ∃ (d' : Desktop) (told : Fields), d.perform n .write arguments = .ok (d'.reply told) ∧
      d'.fieldsOf (.data n) = (d.fieldsOf (.data n)).put k value ∧
      told.toList = [(.text "success".toList, .plain (.bool true)),
        (.text "key".toList, arguments[0]?.getD .null), (.text "value".toList, value)] := by
  intro value
  have hkeys : List.Pairwise (fun k l : Key => compare k l ≠ .eq)
      [.text "success".toList, .text "key".toList, .text "value".toList] := by decide +kernel
  refine ⟨d.setWindow n { w with data := .live (w.data.fields.put k value) }, _, ?_, ?_, Table.toList_ofList _ hkeys⟩
  · rw [perform_of_window hw]
    dsimp only
    rw [write, writableFields_eq_ok w hdata]
    dsimp only
    rw [hk]
  · rw [fieldsOf_data w hw, fieldsOf_setWindow_data w _ hw]
    rfl

theorem exists_perform_write_of_not (w : Window) (hw : d.windows[n]? = some w) (hdata : w.data.IsWritable)
    (arguments : List Value) (hcannot : d.canBeKey (arguments[0]?.getD .null) = false) :
    ∃ d', d.perform n .write arguments = .error ⟨.longNumber, d'⟩ ∧ d'.fieldsOf (.data n) = d.fieldsOf (.data n) := by
  refine ⟨d.setWindow n { w with data := .live w.data.fields }, ?_, ?_⟩
  · rw [perform_of_window hw]
    dsimp only
    rw [write, writableFields_eq_ok w hdata]
    dsimp only
    rw [(d.keyFor_eq_error_iff _ _).2 ⟨hcannot, rfl⟩]
  · rw [fieldsOf_data w hw, fieldsOf_setWindow_data w _ hw]
    rfl

def keysAt (d : Desktop) (n : Nat) : List Key := (d.fieldsOf (.data n)).toList.map Prod.fst

/-- The write succeeds and tells of what was asked for, at any later time too. A key that there is keeps its place and
stays as it is, and a new one goes last. -/
theorem exists_reply_of_write (w : Window) (hw : d.windows[n]? = some w) (hdata : w.data.IsWritable)
    (arguments : List Value) (k : Key) (hk : d.keyFor (arguments[0]?.getD .null) = .ok k) :
    ∃ i after, d.perform n .write arguments = .ok (.table (.reply i), after) ∧
      (∀ later, ((after.afterRequests later).fieldsOf (.reply i)).toList =
        [(.text "success".toList, .plain (.bool true)), (.text "key".toList, arguments[0]?.getD .null),
          (.text "value".toList, arguments[1]?.getD .null)]) ∧
      after.keysAt n = if ∃ l ∈ d.keysAt n, l.form = k.form then d.keysAt n else d.keysAt n ++ [k] := by
  obtain ⟨d', told, hwrite, hfields, htold⟩ := exists_perform_write w hw hdata arguments k hk
  refine ⟨d'.replies.size, (d'.reply told).2, hwrite, fun later => ?_, ?_⟩
  · have hlater := (d'.reply told).2.afterRequests_replies later
    rw [fieldsOf_reply_eq hlater (Nat.lt_succ_self _), fieldsOf_reply]
    exact htold
  · change (d'.fieldsOf (.data n)).toList.map Prod.fst = _
    have hknown : ((d.fieldsOf (.data n)).get? k).isSome ↔ ∃ l ∈ d.keysAt n, l.form = k.form := by
      rw [Table.isSome_get?, keysAt, Table.keys_toList]
      simp only [Key.compare_eq_iff]
    rw [hfields, Table.keys_put]
    exact if_congr hknown rfl rfl

end Desktop

def Request.writesTo (n : Nat) (r : Request) : Bool := r.window == n && r.action == .write

namespace Desktop

def writeAt? (d : Desktop) (n : Nat) (r : Request) : Option Write :=
  if r.writesTo n then (d.keyFor r.key).toOption.map fun k => ⟨n, k, r.value⟩ else none

/-- The last of the requests that wrote to the window at `n` under a key like `k`. -/
def lastWrite? (d : Desktop) (n : Nat) (k : Key) (requests : List Request) : Option Request :=
  requests.reverse.find? fun r => (d.writeAt? n r).any fun x => x.key.form = k.form

def writesAt (d : Desktop) (n : Nat) (requests : List Request) : List Write := requests.filterMap (d.writeAt? n)

/-- The request is made with replies that there are, and under a settled key if it writes to the window at `n`. -/
structure Admits (d : Desktop) (n : Nat) (r : Request) : Prop where
  given : ∀ v ∈ r.arguments, v.Before d.replies.size
  settled : r.writesTo n = true → d.IsSettled r.key

/-- Each request is admitted on the desktop that it is made on. -/
def AdmitsAll (d : Desktop) (n : Nat) : List Request → Prop
  | [] => True
  | r :: requests => d.Admits n r ∧ (d.afterRequest r).AdmitsAll n requests

variable {d : Desktop} {n : Nat}

theorem find?_writesAt (k : Key) (requests : List Request) :
    ((d.writesAt n requests).reverse.find? fun x => x.key.form = k.form).map Write.value =
      (d.lastWrite? n k requests).map Request.value := by
  have hvalue : ∀ r x, d.writeAt? n r = some x → x.value = r.value := by
    intro r x hx
    unfold writeAt? at hx
    split at hx
    · obtain ⟨k, -, rfl⟩ := Option.map_eq_some_iff.1 hx
      rfl
    · cases hx
  rw [writesAt, ← List.filterMap_reverse, List.find?_filterMap, lastWrite?]
  cases hfound : requests.reverse.find? fun r => (d.writeAt? n r).any fun x => x.key.form = k.form with
  | none => rfl
  | some r =>
    have hany : (d.writeAt? n r).any (fun x => x.key.form = k.form) = true :=
      (List.find?_eq_some_iff_append.1 hfound).1
    obtain ⟨x, hx, -⟩ := (Option.any_eq_true _ _).1 hany
    simp [hx, hvalue r x hx]

theorem admitsAll_append (requests more : List Request) : d.AdmitsAll n (requests ++ more) ↔
    d.AdmitsAll n requests ∧ (d.afterRequests requests).AdmitsAll n more := by
  induction requests generalizing d with
  | nil => exact (iff_of_eq (true_and _)).symm
  | cons r requests ih => exact (and_congr_right fun _ => ih).trans and_assoc.symm

theorem Ordered.afterRequest (hd : d.Ordered) {r : Request} (hr : d.Admits n r) : (d.afterRequest r).Ordered := by
  cases h : d.perform r.window r.action r.arguments with
  | error failure =>
    rw [d.afterRequest_of_error h]
    exact hd.fills (d.fails _ _ _ _ h).fills
  | ok result =>
    rw [d.afterRequest_of_ok h]
    exact (hd.perform _ _ _ hr.given _ _ h).1

theorem Ordered.afterRequests (hd : d.Ordered) {requests : List Request} (h : d.AdmitsAll n requests) :
    (d.afterRequests requests).Ordered := by
  induction requests generalizing d with
  | nil => exact hd
  | cons r requests ih => exact ih (hd.afterRequest h.1) h.2

theorem fieldsOf_afterRequests (w : Window) (hw : d.windows[n]? = some w) (hdata : w.data.IsWritable)
    (requests : List Request) :
    ∃ w', (d.afterRequests requests).windows[n]? = some w' ∧ w'.data.IsWritable ∧
      (d.afterRequests requests).fieldsOf (.data n) =
        (d.fieldsOf (.data n)).putAll (Write.onto n (d.writesOf requests)) := by
  obtain ⟨w', hw', hevolves⟩ := (d.afterRequests_evolves requests).windows n w hw
  rw [fieldsOf_data w hw, fieldsOf_data w' hw']
  exact ⟨w', hw', hdata.takes hevolves.data⟩

theorem window_of_write? (m : Nat) (a : Action) (arguments : List Value) (x : Write)
    (h : d.write? m a arguments = some x) : x.window = m := by
  unfold write? at h
  split at h
  · cases h
  · dsimp only at h
    split at h
    · cases h
      rfl
    · cases h
  · cases h

theorem onto_write? (w : Window) (hw : d.windows[n]? = some w) (hdata : w.data.IsWritable) (r : Request) :
    Write.onto n (d.write? r.window r.action r.arguments).toList = (d.writeAt? n r).toList := by
  obtain ⟨m, a, arguments⟩ := r
  by_cases hm : m = n
  · subst hm
    cases a with
    | write =>
      have hwritable := writableFields_eq_ok w hdata
      cases hcan : d.canBeKey (arguments[0]?.getD .null) with
      | true =>
        have hkey := (d.keyFor_eq_ok_iff (arguments[0]?.getD .null) _).2 ⟨hcan, rfl⟩
        rw [d.write?_write m w hw _ hwritable arguments hcan]
        simp [writeAt?, Write.onto, Request.writesTo, Request.key, Request.value, hkey, Except.toOption]
      | false =>
        have hkey := (d.keyFor_eq_error_iff (arguments[0]?.getD .null) _).2 ⟨hcan, rfl⟩
        have hnone := write?_eq_none_of_fails (.writeKey w hw _ hwritable hcan)
        simp [hnone, writeAt?, Write.onto, Request.writesTo, Request.key, hkey, Except.toOption]
    | _ => simp [write?, writeAt?, Write.onto, Request.writesTo]
  · have hother : ∀ x ∈ (d.write? m a arguments).toList, ¬(x.window == n) = true := by
      intro x hx
      rw [window_of_write? m a arguments x (Option.mem_toList.1 hx)]
      simpa using hm
    rw [Write.onto, List.filter_eq_nil_iff.2 hother]
    simp [writeAt?, Request.writesTo, hm]

/-- The writes that are carried out on one window are those asked for, under keys that have stayed what they were. -/
theorem onto_writesOf (hd : d.Ordered) (w : Window) (hw : d.windows[n]? = some w) (hdata : w.data.IsWritable)
    (requests : List Request) (hrequests : d.AdmitsAll n requests) :
    Write.onto n (d.writesOf requests) = (d.afterRequests requests).writesAt n requests := by
  induction requests generalizing d w with
  | nil => rfl
  | cons r requests ih =>
    obtain ⟨hr, hrequests⟩ := hrequests
    obtain ⟨w', hw', hdata', -⟩ := fieldsOf_afterRequests w hw hdata [r]
    have hmore := ih (hd.afterRequest hr) w' hw' hdata' hrequests
    have hgrows : d.Grows (d.afterRequests (r :: requests)) := d.grows_afterRequests (r :: requests)
    -- The key of the first request is settled, so it may as well be made at the end.
    have hfirst : d.writeAt? n r = (d.afterRequests (r :: requests)).writeAt? n r := by
      unfold writeAt?
      split
      · rw [hgrows.keyFor_eq hd (hr.settled ‹_›)]
      · rfl
    calc
      _ = Write.onto n (d.write? r.window r.action r.arguments).toList ++
          Write.onto n ((d.afterRequest r).writesOf requests) := List.filter_append ..
      _ = ((d.afterRequests (r :: requests)).writeAt? n r).toList ++
          (d.afterRequests (r :: requests)).writesAt n requests := by
        rw [onto_write? w hw hdata, hmore, hfirst]
        rfl
      _ = (d.afterRequests (r :: requests)).writesAt n (r :: requests) := by
        rw [writesAt, writesAt, List.filterMap_cons]
        cases (d.afterRequests (r :: requests)).writeAt? n r <;> rfl

end Desktop

end DeskScript
