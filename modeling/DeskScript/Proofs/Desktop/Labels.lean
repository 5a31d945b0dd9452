import DeskScript.Proofs.Desktop.Replies

namespace DeskScript.Desktop

/-- More replies may have been given, and windows have kept their ids. -/
structure Grows (d d' : Desktop) : Prop where
  replies : d.replies.toList <+: d'.replies.toList
  ids : d'.windows.map Window.id = d.windows.map Window.id

variable {d d' d'' : Desktop}

theorem Grows.refl (d : Desktop) : d.Grows d := ⟨List.prefix_rfl, rfl⟩

theorem Grows.trans (h : d.Grows d') (h' : d'.Grows d'') : d.Grows d'' :=
  ⟨h.replies.trans h'.replies, h'.ids.trans h.ids⟩

theorem Grows.idOf_eq (h : d.Grows d') (n : Nat) : d'.idOf n = d.idOf n := by
  rw [idOf, idOf, ← List.getElem?_map, ← List.getElem?_map, h.ids]

theorem Grows.windowLabel_eq (h : d.Grows d') (n : Nat) : d'.windowLabel n = d.windowLabel n := by
  unfold windowLabel
  rw [h.idOf_eq]

theorem grows_of_perform (n : Nat) (a : Action) (arguments : List Value) (v : Value)
    (h : d.perform n a arguments = .ok (v, d')) : d.Grows d' where
  replies := d.perform_replies n a arguments v d' h
  ids := perform_map Window.id d n a arguments v d' (fun _ _ _ => rfl) (fun _ _ _ => rfl) h

theorem Fills.grows (h : d.Fills d') : d.Grows d' where
  replies := h.replies ▸ List.prefix_rfl
  ids := by
    cases h with
    | nothing => rfl
    | library n w hw => exact d.map_setWindow Window.id n w _ hw rfl
    | data n w hw => exact d.map_setWindow Window.id n w _ hw rfl

theorem grows_afterRequests (d : Desktop) (requests : List Request) : d.Grows (d.afterRequests requests) :=
  d.afterRequests_keep d.Grows (fun _ n a arguments v _ h hd => hd.trans (grows_of_perform n a arguments v h))
    (fun _ _ h hd => hd.trans h.grows) requests (.refl d)

/-- A value of which no later request changes the key: the replies in it have been given, it is equal to itself, and no
data of a window is in it. -/
structure IsSettled (d : Desktop) (v : Value) : Prop where
  given : v.Before d.replies.size
  comparable : v ≠ .plain (.float .nan)
  noData : ∀ n, ¬d.Reaches v (.table (.data n))

theorem isSettled_plain (d : Desktop) (j : Json) (hj : j ≠ .float .nan) : d.IsSettled (.plain j) where
  given := Value.before_plain _ j
  comparable h := hj (Value.plain.inj h)
  noData n h := by
    obtain ⟨j', hj'⟩ := d.plain_of_reaches j _ h
    cases hj'

theorem isSettled_reply (d : Desktop) (i : Nat) (hi : i < d.replies.size)
    (h : (d.fieldsOf (.reply i)).All fun v => ∃ j, v = .plain j) : d.IsSettled (.table (.reply i)) where
  given r hr := by
    cases hr
    exact hi
  comparable := nofun
  noData n hn := by
    obtain he | ⟨u, hu, hreaches⟩ := Relation.ReflTransGen.cases_head hn
    · cases he
    · cases hu with
      | entry ref k _ hk =>
        obtain ⟨j, rfl⟩ := h k u hk
        obtain ⟨j', hj'⟩ := d.plain_of_reaches j _ hreaches
        cases hj'

theorem isSettled_told (d : Desktop) (n : Nat) (w : Window) (j : Json) (hj : (Value.plain j).isEmpty = false) :
    (d.reply (infoFields n w (.plain j))).2.IsSettled (.table (.reply d.replies.size)) := by
  refine isSettled_reply _ _ (Nat.lt_succ_self _) ?_
  rw [fieldsOf_reply]
  refine Table.all_ofList _ fun e he => ?_
  simp only [List.mem_cons, List.not_mem_nil, or_false, hj] at he
  obtain rfl | rfl | rfl | rfl | rfl | rfl := he <;> exact ⟨_, rfl⟩

/-- What is in a value that is no data of a window, and all of whose replies have been given. -/
theorem Grows.contains_iff (h : d.Grows d') {v u : Value} (hv : v.Before d.replies.size)
    (hdata : ∀ n, v ≠ .table (.data n)) : d'.Contains v u ↔ d.Contains v u := by
  cases v with
  | plain j => constructor <;> rintro (_ | ⟨_, _, _, hm⟩ | ⟨_, _, hm⟩) <;> constructor <;> exact hm
  | window n => exact ⟨nofun, nofun⟩
  | table ref =>
    cases ref with
    | data n => exact absurd rfl (hdata n)
    | reply r =>
      have hfields := fieldsOf_reply_eq h.replies (hv r rfl)
      constructor <;> rintro ⟨_, k, _, hk⟩
      · exact .entry _ k u (hfields ▸ hk)
      · exact .entry _ k u (hfields.symm ▸ hk)

theorem Ordered.before_of_contains (hd : d.Ordered) {n : Nat} {v u : Value} (hv : v.Before n)
    (hdata : ∀ n, v ≠ .table (.data n)) (h : d.Contains v u) : u.Before n := by
  cases h with
  | entry ref k _ hk =>
    cases ref with
    | data n => exact absurd rfl (hdata n)
    | reply r => exact (hd.fieldsOf_reply r k u hk).mono (hv r rfl).le
  | member | item => exact Value.before_plain _ _

theorem IsSettled.of_reaches (hd : d.Ordered) {v u : Value} (hv : d.IsSettled v) (h : d.Reaches v u) :
    u.Before d.replies.size ∧ ∀ n, u ≠ .table (.data n) := by
  refine ⟨?_, fun n hu => hv.noData n (hu ▸ h)⟩
  induction h with
  | refl => exact hv.given
  | tail hreach hlast ih => exact hd.before_of_contains ih (fun n hb => hv.noData n (hb ▸ hreach)) hlast

theorem Grows.reaches_iff (h : d.Grows d') (hd : d.Ordered) {v u : Value} (hv : d.IsSettled v) :
    d'.Reaches v u ↔ d.Reaches v u := by
  constructor
  · intro hreach
    induction hreach with
    | refl => exact .refl
    | tail _ hlast ih =>
      obtain ⟨hbefore, hdata⟩ := hv.of_reaches hd ih
      exact .tail ih ((h.contains_iff hbefore hdata).1 hlast)
  · intro hreach
    induction hreach with
    | refl => exact .refl
    | tail hfirst hlast ih =>
      obtain ⟨hbefore, hdata⟩ := hv.of_reaches hd hfirst
      exact .tail ih ((h.contains_iff hbefore hdata).2 hlast)

theorem Grows.hasLong_iff (h : d.Grows d') (hd : d.Ordered) {v : Value} (hv : d.IsSettled v) :
    d'.HasLong v ↔ d.HasLong v := by
  refine exists_congr fun u => (and_congr_left' (h.reaches_iff hd hv)).trans (and_congr_right fun hreach => ?_)
  obtain ⟨hbefore, hdata⟩ := hv.of_reaches hd hreach
  have hfields : ∀ ref, u = .table ref → d'.fieldsOf ref = d.fieldsOf ref := by
    rintro (n | r) rfl
    · exact absurd rfl (hdata n)
    · exact fieldsOf_reply_eq h.replies (hbefore r rfl)
  constructor <;> rintro (⟨n, hlong⟩ | ⟨ref, e, he, hlong⟩)
  · exact .number n hlong
  · exact .key ref e (hfields ref rfl ▸ he) hlong
  · exact .number n hlong
  · exact .key ref e ((hfields ref rfl).symm ▸ he) hlong

/-- Settled values can be keys at any later time if they can be now. -/
theorem Grows.canBeKey_eq (h : d.Grows d') (hd : d.Ordered) {v : Value} (hv : d.IsSettled v) :
    d'.canBeKey v = d.canBeKey v := by
  have hiff : d'.canBeKey v = false ↔ d.canBeKey v = false := by
    rw [canBeKey_eq_false_iff, canBeKey_eq_false_iff, h.hasLong_iff hd hv]
  cases hcan : d.canBeKey v with
  | false => exact hiff.2 hcan
  | true =>
    rw [← Bool.not_eq_false, hiff, hcan]
    exact Bool.noConfusion

@[simp] theorem labelWithin_plain (d : Desktop) (fuel : Nat) (opened : List TableRef) (rest : Text) (j : Json) :
    d.labelWithin fuel opened rest (.plain j) = j.labelBefore rest := by
  cases fuel <;> rfl

theorem labelWithin_window (d : Desktop) (fuel : Nat) (opened : List TableRef) (rest : Text) (n : Nat) :
    d.labelWithin fuel opened rest (.window n) = d.windowLabel n ++ rest := by
  cases fuel <;> rfl

/-- Tables with the same entries have the same label if their values have. -/
theorem labelWithin_table_congr (fuel fuel' : Nat) (opened : List TableRef) (ref : TableRef)
    (hfields : d'.fieldsOf ref = d.fieldsOf ref)
    (h : ∀ e ∈ (d.fieldsOf ref).toList, ∀ rest,
      d'.labelWithin fuel' (ref :: opened) rest e.2 = d.labelWithin fuel (ref :: opened) rest e.2) (rest : Text) :
    d'.labelWithin (fuel' + 1) opened rest (.table ref) = d.labelWithin (fuel + 1) opened rest (.table ref) := by
  simp only [labelWithin, hfields]
  cases hentries : (d.fieldsOf ref).toList with
  | nil => rfl
  | cons e es =>
    rw [hentries] at h
    have hes : es.foldr (fun e rest => ',' :: ' ' ::
          e.1.labelBefore (':' :: ' ' :: d'.labelWithin fuel' (ref :: opened) rest e.2)) ('}' :: rest) =
        es.foldr (fun e rest => ',' :: ' ' ::
          e.1.labelBefore (':' :: ' ' :: d.labelWithin fuel (ref :: opened) rest e.2)) ('}' :: rest) :=
      List.foldr_ext _ _ _ fun f hf rest => by rw [h f (List.mem_cons_of_mem _ hf)]
    dsimp only
    rw [hes, h e (List.mem_cons_self ..)]

/-- The label of a value that leads to no data of windows. Replies lead to earlier ones only, so none is met inside
itself, and there is fuel for all of them. -/
theorem Grows.labelWithin_eq (h : d.Grows d') (hd : d.Ordered) (fuel fuel' : Nat) (opened : List TableRef)
    (rest : Text) (v : Value) (hv : v.Before d.replies.size) (hdata : ∀ n, ¬d.Reaches v (.table (.data n)))
    (hfuel : v.Before fuel) (hfuel' : v.Before fuel') :
    d'.labelWithin fuel' opened rest v = d.labelWithin fuel opened rest v := by
  induction fuel using Nat.strongRecOn generalizing fuel' opened rest v with
  | ind fuel ih =>
    cases v with
    | plain j => rw [labelWithin_plain, labelWithin_plain]
    | window n => rw [labelWithin_window, labelWithin_window, h.windowLabel_eq]
    | table ref =>
      cases ref with
      | data n => exact absurd .refl (hdata n)
      | reply r =>
        obtain ⟨fuel, rfl⟩ := Nat.exists_eq_succ_of_ne_zero (Nat.ne_zero_of_lt (hfuel r rfl))
        obtain ⟨fuel', rfl⟩ := Nat.exists_eq_succ_of_ne_zero (Nat.ne_zero_of_lt (hfuel' r rfl))
        have hfields := fieldsOf_reply_eq h.replies (hv r rfl)
        refine labelWithin_table_congr fuel fuel' opened _ hfields (fun e he rest => ?_) rest
        have hcontains : d.Contains (.table (.reply r)) e.2 := .of_entry he
        -- What is in a reply was given before it, so there is fuel left for it on both desktops.
        have hbefore : e.2.Before r := hd.fieldsOf_reply r e.1 e.2 ((Table.mem_toList_iff _ _).1 he).2
        exact ih fuel (Nat.lt_succ_self _) fuel' _ rest e.2 (hbefore.mono (hv r rfl).le)
          (fun n hn => hdata n (.head hcontains hn)) (hbefore.mono (Nat.le_of_lt_succ (hfuel r rfl)))
          (hbefore.mono (Nat.le_of_lt_succ (hfuel' r rfl)))

theorem Grows.keyOf_eq (h : d.Grows d') (hd : d.Ordered) {v : Value} (hv : d.IsSettled v) : d'.keyOf v = d.keyOf v := by
  have hfuel : v.Before (d.tableCount + 1) := hv.given.mono (by unfold tableCount; omega)
  have hreplies := size_replies_le h.replies
  have hfuel' : v.Before (d'.tableCount + 1) := hv.given.mono (by unfold tableCount; omega)
  have hlabel := h.labelWithin_eq hd _ _ [] [] v hv.given hv.noData hfuel hfuel'
  cases v with
  | plain j => cases j <;> rfl
  | window n => exact congrArg Key.text hlabel
  | table ref => exact congrArg Key.text hlabel

theorem Grows.keyFor_eq (h : d.Grows d') (hd : d.Ordered) {v : Value} (hv : d.IsSettled v) :
    d'.keyFor v = d.keyFor v := by
  rw [keyFor, keyFor, h.canBeKey_eq hd hv, h.keyOf_eq hd hv]

end DeskScript.Desktop
