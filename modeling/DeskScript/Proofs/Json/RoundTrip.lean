import DeskScript.Proofs.Json.Scalars
import DeskScript.Proofs.Table

namespace DeskScript.Json

structure Layout.IsBlank (l : Layout) : Prop where
  lineBreak : ∀ depth, ∀ c ∈ l.lineBreak depth, isSpace c = true
  colon : ∃ gap : Text, (∀ c ∈ gap, isSpace c = true) ∧ l.colon = ':' :: gap

theorem isBlank_compactLayout : compactLayout.IsBlank where
  lineBreak _ := nofun
  colon := ⟨[], nofun, rfl⟩

theorem isBlank_prettyLayout : prettyLayout.IsBlank where
  lineBreak depth := by
    intro c hc
    obtain rfl | hc := List.mem_cons.1 hc
    · rfl
    · rw [List.eq_of_mem_replicate hc]
      rfl
  colon := ⟨[' '], List.forall_mem_singleton.2 rfl, rfl⟩

/-- Data that writing keeps: no fractions, no whole number beyond the digits that are read, and no two members of one
name. -/
inductive Portable : Json → Prop where
  | null : Portable null
  | bool (b : Bool) : Portable (bool b)
  | int (n : Int) (hn : (Text.ofNat n.natAbs).length ≤ Text.maxDigits) : Portable (int n)
  | text (t : Text) : Portable (text t)
  | array (items : List Json) (hitems : ∀ j ∈ items, Portable j) : Portable (array items)
  | object (members : List (Text × Json)) (hnames : (members.map Prod.fst).Nodup)
      (hmembers : ∀ m ∈ members, Portable m.2) : Portable (object members)

theorem skipSpace_append {gap t : Text} (hgap : ∀ c ∈ gap, isSpace c = true) (ht : ∀ c ∈ t.head?, isSpace c = false) :
    skipSpace (gap ++ t) = t :=
  (Text.takeWhile_dropWhile_append isSpace gap t hgap ht).2

theorem skipSpace_cons {c : Char} (hc : isSpace c = false) (t : Text) : skipSpace (c :: t) = c :: t :=
  List.dropWhile_cons_of_neg (Bool.eq_false_iff.1 hc)

def BeginsValue (t : Text) : Prop := ∃ c u, t = c :: u ∧ isSpace c = false ∧ c ≠ ']'

theorem BeginsValue.head {t : Text} (h : BeginsValue t) : ∀ c ∈ t.head?, isSpace c = false := by
  obtain ⟨c, u, rfl, hc, -⟩ := h
  rintro _ ⟨⟩
  exact hc

theorem BeginsValue.skipSpace_eq {t : Text} (h : BeginsValue t) : skipSpace t = t := by
  obtain ⟨c, u, rfl, hc, -⟩ := h
  exact skipSpace_cons hc u

theorem BeginsValue.of_isDigit {c : Char} (hc : c.isDigit = true) (t : Text) : BeginsValue (c :: t) := by
  refine ⟨c, t, rfl, ?_, ?_⟩
  · rw [Bool.eq_false_iff]
    intro hspace
    simp only [isSpace, Bool.or_eq_true, decide_eq_true_eq] at hspace
    obtain ((rfl | rfl) | rfl) | rfl := hspace <;> cases hc
  · rintro rfl
    cases hc

theorem beginsValue_ofInt (n : Int) (rest : Text) : BeginsValue (Text.ofInt n ++ rest) := by
  obtain ⟨c, digits, hc, h | h⟩ := Text.exists_cons_ofInt n
  · exact h ▸ .of_isDigit hc _
  · exact h ▸ ⟨'-', _, rfl, rfl, by decide⟩

theorem Portable.beginsValue {j : Json} (h : Portable j) (l : Layout) (depth : Nat) (rest : Text) :
    BeginsValue (writeBefore l depth rest j) := by
  cases h with
  | null => exact ⟨'n', _, rfl, rfl, by decide⟩
  | bool b => cases b <;> exact ⟨_, _, rfl, rfl, by decide⟩
  | int n => exact beginsValue_ofInt n rest
  | text t => exact ⟨'"', _, rfl, rfl, by decide⟩
  | array items => cases items <;> exact ⟨'[', _, rfl, rfl, by decide⟩
  | object members => cases members <;> exact ⟨'\x7b', _, rfl, rfl, by decide⟩

theorem endsNumber_lineBreak {l : Layout} (hl : l.IsBlank) (depth : Nat) {c : Char}
    (hc : c.isDigit = false ∧ c ≠ '.' ∧ c ≠ 'e' ∧ c ≠ 'E') (rest : Text) :
    EndsNumber (l.lineBreak depth ++ c :: rest) := by
  have hgap := hl.lineBreak depth
  cases hbreak : l.lineBreak depth with
  | nil => exact endsNumber_cons hc
  | cons b gap =>
    have hb : isSpace b = true := hgap b (hbreak ▸ List.mem_cons_self)
    simp only [isSpace, Bool.or_eq_true, decide_eq_true_eq] at hb
    refine endsNumber_cons ?_
    obtain ((rfl | rfl) | rfl) | rfl := hb <;> decide

mutual

theorem length_le_writeBefore (l : Layout) (depth : Nat) (rest : Text) :
    (j : Json) → rest.length ≤ (writeBefore l depth rest j).length
  | null => Nat.le_add_right _ 4
  | bool _ | int _ | float _ | text _ => by simp [writeBefore]
  | array [] => Nat.le_add_right _ 2
  | array (j :: js) => by
    have hitem := length_le_writeBefore l (depth + 1)
      (writeItemsBefore l (depth + 1) (l.lineBreak depth ++ ']' :: rest) js) j
    have hitems := length_le_writeItemsBefore l (depth + 1) (l.lineBreak depth ++ ']' :: rest) js
    simp only [writeBefore, List.length_append, List.length_cons] at hitems ⊢
    omega
  | object [] => Nat.le_add_right _ 2
  | object ((k, j) :: ms) => by
    have hmember := length_le_writeBefore l (depth + 1)
      (writeMembersBefore l (depth + 1) (l.lineBreak depth ++ '\x7d' :: rest) ms) j
    have hmembers := length_le_writeMembersBefore l (depth + 1) (l.lineBreak depth ++ '\x7d' :: rest) ms
    simp only [writeBefore, List.length_append, List.length_cons] at hmembers ⊢
    omega

theorem length_le_writeItemsBefore (l : Layout) (depth : Nat) (rest : Text) :
    (js : List Json) → rest.length ≤ (writeItemsBefore l depth rest js).length
  | [] => Nat.le_refl _
  | j :: js => by
    have hitem := length_le_writeBefore l depth (writeItemsBefore l depth rest js) j
    have hitems := length_le_writeItemsBefore l depth rest js
    simp only [writeItemsBefore, List.length_append, List.length_cons]
    omega

theorem length_le_writeMembersBefore (l : Layout) (depth : Nat) (rest : Text) :
    (ms : List (Text × Json)) → rest.length ≤ (writeMembersBefore l depth rest ms).length
  | [] => Nat.le_refl _
  | (k, j) :: ms => by
    have hmember := length_le_writeBefore l depth (writeMembersBefore l depth rest ms) j
    have hmembers := length_le_writeMembersBefore l depth rest ms
    simp only [writeMembersBefore, List.length_append, List.length_cons]
    omega

end

/-- The writing gets shorter from one item to the next, if only by the comma. -/
theorem length_item_lt (l : Layout) (depth : Nat) (rest : Text) (j i : Json) (js : List Json) :
    (writeBefore l depth (writeItemsBefore l depth rest js) i).length <
      (writeBefore l depth (writeItemsBefore l depth rest (i :: js)) j).length := by
  have h := length_le_writeBefore l depth (writeItemsBefore l depth rest (i :: js)) j
  refine Nat.lt_of_lt_of_le ?_ h
  rw [writeItemsBefore, List.length_append, List.length_cons]
  omega

theorem length_member_lt (l : Layout) (depth : Nat) (rest : Text) (j : Json) (m : Text × Json)
    (ms : List (Text × Json)) :
    (writeText m.1 ++ l.colon ++ writeBefore l depth (writeMembersBefore l depth rest ms) m.2).length <
      (writeBefore l depth (writeMembersBefore l depth rest (m :: ms)) j).length := by
  have h := length_le_writeBefore l depth (writeMembersBefore l depth rest (m :: ms)) j
  refine Nat.lt_of_lt_of_le ?_ h
  simp only [writeMembersBefore, List.length_append, List.length_cons]
  omega

/-- What is enough fuel for a name and its value is enough for the value. -/
theorem le_of_lt_succ_append {name value : Text} {fuel : Nat} (h : 2 * (name ++ value).length < fuel + 1) :
    2 * value.length ≤ fuel := by
  rw [List.length_append] at h
  omega

theorem readValue_int (fuel : Nat) (n : Int) (rest : Text) :
    readValue (fuel + 1) (Text.ofInt n ++ rest) = readNumber (Text.ofInt n ++ rest) := by
  have hconstant := readConstant?_ofInt n rest
  obtain ⟨c, digits, hc, h | h⟩ := Text.exists_cons_ofInt n
  · rw [h] at hconstant ⊢
    rw [List.cons_append] at hconstant ⊢
    rw [readValue, hconstant]
    all_goals
      rintro _ ⟨⟩
      cases hc
  · rw [h] at hconstant ⊢
    rw [List.cons_append] at hconstant ⊢
    rw [readValue, hconstant]
    all_goals nofun

theorem readValue_array {t u : Text} (fuel : Nat) (hu : skipSpace t = u) (hbegins : BeginsValue u) :
    readValue (fuel + 1) ('[' :: t) = (readItems fuel u).map fun p => (array p.1, p.2) := by
  obtain ⟨c, u', rfl, -, hc⟩ := hbegins
  rw [readValue, hu]
  split
  · rename_i heq
    exact absurd (List.cons.inj heq).1 hc
  · rfl

theorem readValue_object {t u : Text} (fuel : Nat) (hu : skipSpace t = u) (hquote : u.head? = some '"') :
    readValue (fuel + 1) ('\x7b' :: t) =
      (readMembers fuel u).map fun p => (object (Table.ofList p.1).toList, p.2) := by
  obtain ⟨u', rfl⟩ := List.head?_eq_some_iff.1 hquote
  rw [readValue, hu]
  rfl

theorem readItems_last {t r rest : Text} {j : Json} (fuel : Nat) (hj : readValue fuel t = .ok (j, r))
    (hr : skipSpace r = ']' :: rest) : readItems (fuel + 1) t = .ok ([j], rest) := by
  rw [readItems, hj]
  dsimp only
  rw [hr]
  rfl

theorem readItems_more {t r u : Text} {j : Json} (fuel : Nat) (hj : readValue fuel t = .ok (j, ',' :: r))
    (hr : skipSpace r = u) : readItems (fuel + 1) t = (readItems fuel u).map fun p => (j :: p.1, p.2) := by
  rw [readItems, hj]
  dsimp only
  rw [skipSpace_cons rfl, ← hr]
  rfl

section Members

variable {l : Layout} {t r : Text} {j : Json}

theorem skipSpace_colon (hl : l.IsBlank) (ht : BeginsValue t) :
    ∃ u, skipSpace (l.colon ++ t) = ':' :: u ∧ skipSpace u = t := by
  obtain ⟨gap, hgap, hcolon⟩ := hl.colon
  refine ⟨gap ++ t, ?_, skipSpace_append hgap ht.head⟩
  rw [hcolon]
  exact skipSpace_cons rfl _

theorem skipSpace_name (hl : l.IsBlank) (depth : Nat) (k t : Text) :
    skipSpace (l.lineBreak depth ++ writeText k ++ l.colon ++ t) = writeText k ++ l.colon ++ t := by
  simp only [List.append_assoc]
  exact skipSpace_append (hl.lineBreak depth) (by rintro _ ⟨⟩; rfl)

theorem readMembers_last {rest : Text} (hl : l.IsBlank) (fuel : Nat) (k : Text) (ht : BeginsValue t)
    (hj : readValue fuel t = .ok (j, r)) (hr : skipSpace r = '\x7d' :: rest) :
    readMembers (fuel + 1) (writeText k ++ l.colon ++ t) = .ok ([(k, j)], rest) := by
  obtain ⟨u, hcolon, hu⟩ := skipSpace_colon hl ht
  rw [List.append_assoc, writeText_append, readMembers, readText_written]
  simp only [hcolon, hu, hj, hr]

theorem readMembers_more {u : Text} (hl : l.IsBlank) (fuel : Nat) (k : Text) (ht : BeginsValue t)
    (hj : readValue fuel t = .ok (j, ',' :: r)) (hr : skipSpace r = u) :
    readMembers (fuel + 1) (writeText k ++ l.colon ++ t) =
      (readMembers fuel u).map fun p => ((k, j) :: p.1, p.2) := by
  obtain ⟨v, hcolon, hv⟩ := skipSpace_colon hl ht
  have hcomma : skipSpace (',' :: r) = ',' :: r := skipSpace_cons rfl r
  rw [List.append_assoc, writeText_append, readMembers, readText_written]
  simp only [hcolon, hv, hj, hcomma, hr]

end Members

/-- Wherever the value is written, it is read, with fuel for two calls a character. -/
def ReadsBack (l : Layout) (j : Json) : Prop :=
  ∀ (depth : Nat) (rest : Text) (fuel : Nat), EndsNumber rest → 2 * (writeBefore l depth rest j).length ≤ fuel →
    readValue fuel (writeBefore l depth rest j) = .ok (j, rest)

theorem toList_ofList_members (members : List (Text × Json)) (h : (members.map Prod.fst).Nodup) :
    (Table.ofList members).toList = members :=
  Table.toList_ofList members (h.imp fun hne he => hne (Std.compare_eq_iff_eq.1 he))

theorem readsBack_of_succ {l : Layout} {j : Json} (hj : Portable j)
    (h : ∀ (depth : Nat) (rest : Text) (fuel : Nat), EndsNumber rest →
      2 * (writeBefore l depth rest j).length ≤ fuel + 1 →
        readValue (fuel + 1) (writeBefore l depth rest j) = .ok (j, rest)) : ReadsBack l j := by
  intro depth rest fuel hrest hfuel
  cases fuel with
  | zero =>
    obtain ⟨c, u, hc, -⟩ := hj.beginsValue l depth rest
    rw [hc] at hfuel
    cases hfuel
  | succ fuel => exact h depth rest fuel hrest hfuel

section Containers

variable {l : Layout} (hl : l.IsBlank)
include hl

theorem readItems_written (depth closing : Nat) (rest : Text) (j : Json) (js : List Json)
    (hj : ∀ i ∈ j :: js, Portable i ∧ ReadsBack l i) (fuel : Nat)
    (hfuel : 2 * (writeBefore l depth
      (writeItemsBefore l depth (l.lineBreak closing ++ ']' :: rest) js) j).length < fuel) :
    readItems fuel (writeBefore l depth (writeItemsBefore l depth (l.lineBreak closing ++ ']' :: rest) js) j) =
      .ok (j :: js, rest) := by
  -- Every item is followed by the writing of the others, which is shorter, so one call less is enough for them.
  induction js generalizing j fuel with
  | nil =>
    obtain ⟨fuel, rfl⟩ := Nat.exists_eq_succ_of_ne_zero (Nat.ne_zero_of_lt hfuel)
    have hitem := (hj j List.mem_cons_self).2 depth (l.lineBreak closing ++ ']' :: rest) fuel
      (endsNumber_lineBreak hl closing (by decide) rest) (Nat.le_of_lt_succ hfuel)
    exact readItems_last fuel hitem (skipSpace_append (hl.lineBreak closing) (by rintro _ ⟨⟩; rfl))
  | cons i js ih =>
    obtain ⟨fuel, rfl⟩ := Nat.exists_eq_succ_of_ne_zero (Nat.ne_zero_of_lt hfuel)
    have hitem := (hj j List.mem_cons_self).2 depth
      (writeItemsBefore l depth (l.lineBreak closing ++ ']' :: rest) (i :: js)) fuel
      (endsNumber_cons (by decide)) (Nat.le_of_lt_succ hfuel)
    have hbegins := (hj i (List.mem_cons_of_mem _ List.mem_cons_self)).1.beginsValue l depth
      (writeItemsBefore l depth (l.lineBreak closing ++ ']' :: rest) js)
    have hshorter := length_item_lt l depth (l.lineBreak closing ++ ']' :: rest) j i js
    rw [readItems_more fuel hitem (skipSpace_append (hl.lineBreak depth) hbegins.head),
      ih i (fun m hm => hj m (List.mem_cons_of_mem _ hm)) fuel (by omega)]
    rfl

theorem readMembers_written (depth closing : Nat) (rest : Text) (m : Text × Json) (ms : List (Text × Json))
    (hm : ∀ n ∈ m :: ms, Portable n.2 ∧ ReadsBack l n.2) (fuel : Nat)
    (hfuel : 2 * (writeText m.1 ++ l.colon ++ writeBefore l depth
      (writeMembersBefore l depth (l.lineBreak closing ++ '\x7d' :: rest) ms) m.2).length < fuel) :
    readMembers fuel (writeText m.1 ++ l.colon ++
      writeBefore l depth (writeMembersBefore l depth (l.lineBreak closing ++ '\x7d' :: rest) ms) m.2) =
      .ok (m :: ms, rest) := by
  -- As with items: the other members are shorter to write, so one call less is enough for them.
  induction ms generalizing m fuel with
  | nil =>
    obtain ⟨hportable, hreads⟩ := hm m List.mem_cons_self
    obtain ⟨fuel, rfl⟩ := Nat.exists_eq_succ_of_ne_zero (Nat.ne_zero_of_lt hfuel)
    have hvalueFuel := le_of_lt_succ_append hfuel
    have hvalue := hreads depth (l.lineBreak closing ++ '\x7d' :: rest) fuel
      (endsNumber_lineBreak hl closing (by decide) rest) hvalueFuel
    exact readMembers_last hl fuel m.1 (hportable.beginsValue ..) hvalue
      (skipSpace_append (hl.lineBreak closing) (by rintro _ ⟨⟩; rfl))
  | cons n ms ih =>
    obtain ⟨hportable, hreads⟩ := hm m List.mem_cons_self
    obtain ⟨fuel, rfl⟩ := Nat.exists_eq_succ_of_ne_zero (Nat.ne_zero_of_lt hfuel)
    have hvalueFuel := le_of_lt_succ_append hfuel
    have hvalue := hreads depth (writeMembersBefore l depth (l.lineBreak closing ++ '\x7d' :: rest) (n :: ms)) fuel
      (endsNumber_cons (by decide)) hvalueFuel
    have hshorter := length_member_lt l depth (l.lineBreak closing ++ '\x7d' :: rest) m.2 n ms
    rw [readMembers_more hl fuel m.1 (hportable.beginsValue ..) hvalue (skipSpace_name hl depth n.1 _),
      ih n (fun i hi => hm i (List.mem_cons_of_mem _ hi)) fuel (by omega)]
    rfl

theorem readsBack_array (items : List Json) (h : ∀ j ∈ items, Portable j ∧ ReadsBack l j) :
    ReadsBack l (array items) := by
  refine readsBack_of_succ (.array items fun j hj => (h j hj).1) fun depth rest fuel _ hfuel => ?_
  cases items with
  | nil => rfl
  | cons j js =>
    have hbegins := (h j List.mem_cons_self).1.beginsValue l (depth + 1)
      (writeItemsBefore l (depth + 1) (l.lineBreak depth ++ ']' :: rest) js)
    have hskip := skipSpace_append (hl.lineBreak (depth + 1)) hbegins.head
    rw [writeBefore, List.length_append, List.length_cons] at hfuel
    rw [writeBefore, List.cons_append, readValue_array fuel hskip hbegins,
      readItems_written hl (depth + 1) depth rest j js h fuel (by omega)]
    rfl

theorem readsBack_object (members : List (Text × Json)) (hnames : (members.map Prod.fst).Nodup)
    (h : ∀ m ∈ members, Portable m.2 ∧ ReadsBack l m.2) : ReadsBack l (object members) := by
  refine readsBack_of_succ (.object members hnames fun m hm => (h m hm).1) fun depth rest fuel _ hfuel => ?_
  cases members with
  | nil => rfl
  | cons m ms =>
    have hmembers := readMembers_written hl (depth + 1) depth rest m ms h fuel (by
      simp only [writeBefore, List.length_append, List.length_cons] at hfuel ⊢
      omega)
    rw [writeBefore, List.cons_append, List.cons_append, List.cons_append,
      readValue_object fuel (skipSpace_name hl (depth + 1) m.1 _) rfl, hmembers]
    exact congrArg (fun ms => Except.ok (object ms, rest)) (toList_ofList_members (m :: ms) hnames)

end Containers

theorem Portable.readsBack {l : Layout} (hl : l.IsBlank) {j : Json} (h : Portable j) : ReadsBack l j := by
  induction h with
  | null => exact readsBack_of_succ .null fun _ _ _ _ _ => rfl
  | bool b => exact readsBack_of_succ (.bool b) fun _ _ _ _ _ => by cases b <;> rfl
  | int n hn =>
    refine readsBack_of_succ (.int n hn) fun depth rest fuel hrest _ => ?_
    rw [writeBefore, readValue_int, readNumber_ofInt n hrest, if_neg (Nat.not_lt.2 hn)]
  | text t =>
    refine readsBack_of_succ (.text t) fun depth rest fuel _ _ => ?_
    rw [writeBefore, writeText_append, readValue, readText_written]
    rfl
  | array items hitems ih => exact readsBack_array hl items fun j hj => ⟨hitems j hj, ih j hj⟩
  | object members hnames hmembers ih =>
    exact readsBack_object hl members hnames fun m hm => ⟨hmembers m hm, ih m hm⟩

/-- Data that writing keeps is read back from its writing. -/
theorem Portable.read_write {l : Layout} (hl : l.IsBlank) {j : Json} (h : Portable j) : read (write l j) = .ok j := by
  have hbegins : BeginsValue (write l j) := h.beginsValue l 0 []
  have hvalue : readValue (2 * (write l j).length + 2) (write l j) = .ok (j, []) :=
    h.readsBack hl 0 [] _ endsNumber_nil (Nat.le_add_right _ 2)
  rw [read, hbegins.skipSpace_eq, hvalue]
  rfl

theorem read_write_tooManyDigits {l : Layout} (hl : l.IsBlank) (n : Int)
    (hn : Text.maxDigits < (Text.ofNat n.natAbs).length) :
    read (write l (array [int n])) = .error (.tooManyDigits (Text.ofNat n.natAbs).length) := by
  have hbegins := beginsValue_ofInt n (l.lineBreak 0 ++ [']'])
  have hskip := skipSpace_append (hl.lineBreak 1) hbegins.head
  have hnumber := readNumber_ofInt n (endsNumber_lineBreak hl 0 (c := ']') (by decide) [])
  have hwrite : write l (array [int n]) = '[' :: (l.lineBreak 1 ++ (Text.ofInt n ++ (l.lineBreak 0 ++ [']']))) := rfl
  rw [if_pos hn] at hnumber
  rw [read, hwrite, skipSpace_cons rfl, readValue_array _ hskip hbegins, List.length_cons, Nat.mul_add, readItems,
    readValue_int, hnumber]
  rfl

end DeskScript.Json
