import DeskScript.Proofs.Except
import DeskScript.Script.Evaluation
import Mathlib.Data.List.Basic
import Mathlib.Data.List.TakeWhile
import Mathlib.Data.Nat.Digits.Defs

namespace DeskScript

namespace Text

/-- A segment of digits is not too long to be read as an index. -/
def IsReadable (segment : Text) : Prop := isDigits segment = true → segment.length ≤ maxDigits

instance : DecidablePred IsReadable := fun segment =>
  inferInstanceAs (Decidable (isDigits segment = true → segment.length ≤ maxDigits))

/-- The decimals of the text write the number, the first of them with the greatest place value. -/
def Writes (t : Text) (n : Nat) : Prop :=
  ∃ digits : List Nat, t.map decimal? = digits.map some ∧ n = Nat.ofDigits 10 digits.reverse

theorem Writes.unique {t : Text} {n m : Nat} (hn : t.Writes n) (hm : t.Writes m) : n = m := by
  obtain ⟨digits, hdigits, rfl⟩ := hn
  obtain ⟨digits', hdigits', rfl⟩ := hm
  rw [List.map_injective_iff.2 (Option.some_injective Nat) (hdigits.symm.trans hdigits')]

theorem Writes.decimal {t : Text} {n : Nat} (h : t.Writes n) : ∀ c ∈ t, decimal? c ≠ none := by
  obtain ⟨digits, hdigits, -⟩ := h
  intro c hc hnone
  have hmem : none ∈ t.map decimal? := hnone ▸ List.mem_map_of_mem hc
  rw [hdigits] at hmem
  simp at hmem

theorem foldl_eq_ofDigits (t : Text) (n : Nat) :
    t.foldl (fun n c => 10 * n + (decimal? c).getD 0) n =
      Nat.ofDigits 10 ((t.map fun c => (decimal? c).getD 0).reverse ++ [n]) := by
  induction t generalizing n with
  | nil => simp
  | cons c t ih =>
    rw [List.foldl_cons, ih, List.map_cons, List.reverse_cons, List.append_assoc, Nat.ofDigits_append,
      Nat.ofDigits_append]
    simp [Nat.ofDigits_cons, Nat.add_comm]

theorem writes_foldl (t : Text) (h : ∀ c ∈ t, decimal? c ≠ none) :
    t.Writes (t.foldl (fun n c => 10 * n + (decimal? c).getD 0) 0) := by
  refine ⟨t.map fun c => (decimal? c).getD 0, ?_, ?_⟩
  · rw [List.map_map]
    refine List.map_congr_left fun c hc => ?_
    obtain ⟨n, hn⟩ := Option.ne_none_iff_exists'.1 (h c hc)
    simp [hn]
  · rw [foldl_eq_ofDigits, Nat.ofDigits_append, Nat.ofDigits_singleton, Nat.mul_zero, Nat.add_zero]

theorem takeWhile_decimal_eq (t : Text) (h : ∀ c ∈ t, decimal? c ≠ none) :
    (t.takeWhile fun c => (decimal? c).isSome) = t :=
  List.takeWhile_eq_self_iff.2 fun c hc => Option.isSome_iff_ne_none.2 (h c hc)

/-- Not all of a text is decimals if there is a character without a place value. -/
theorem length_takeWhile_decimal_lt_iff (t : Text) :
    (t.takeWhile fun c => (decimal? c).isSome).length < t.length ↔ ∃ c ∈ t, decimal? c = none := by
  constructor
  · intro hlt
    by_contra! hall
    rw [takeWhile_decimal_eq t hall] at hlt
    exact lt_irrefl _ hlt
  · rintro ⟨c, hc, hnone⟩
    by_contra! hle
    have hself := (List.takeWhile_prefix fun c => (decimal? c).isSome).eq_of_length_le hle
    have hsome := List.takeWhile_eq_self_iff.1 hself c hc
    rw [hnone] at hsome
    cases hsome

end Text

namespace Session

open Text

/-- A segment is an index exactly if decimals write it, and no more of them than are read. -/
theorem indexOf_eq_ok_iff (segment : Text) (n : Nat) :
    indexOf segment = .ok n ↔ segment.length ≤ maxDigits ∧ segment.Writes n := by
  dsimp only [indexOf]
  by_cases hall : ∀ c ∈ segment, decimal? c ≠ none
  · rw [takeWhile_decimal_eq segment hall, if_neg (lt_irrefl segment.length)]
    have hwrites := writes_foldl segment hall
    split_ifs with hlong
    · exact ⟨nofun, fun h => absurd hlong (not_lt.2 h.1)⟩
    · rw [Except.ok.injEq]
      exact ⟨fun h => ⟨not_lt.1 hlong, h ▸ hwrites⟩, fun h => hwrites.unique h.2⟩
  · have hlt := (length_takeWhile_decimal_lt_iff segment).2 (by simpa using hall)
    have hno : ¬segment.Writes n := fun h => hall h.decimal
    rw [if_pos hlt]
    split_ifs
    · exact ⟨nofun, fun h => absurd h.2 hno⟩
    · exact ⟨nofun, fun h => absurd h.2 hno⟩

/-- A segment is no index for its decimals, if too many stand at its front, or else for a character that is none. -/
theorem indexOf_eq_error_iff (segment : Text) (e : ScriptError) :
    indexOf segment = .error e ↔
      let decimals := (segment.takeWhile fun c => (decimal? c).isSome).length
      (maxDigits < decimals ∧ e = .longIndex decimals) ∨
        (decimals ≤ maxDigits ∧ (∃ c ∈ segment, decimal? c = none) ∧ e = .badIndex segment) := by
  dsimp only [indexOf]
  rw [← length_takeWhile_decimal_lt_iff]
  split_ifs with hlong hlt
  · simp [hlong, eq_comm]
  · simp [hlong, hlt, not_lt.1 hlong, eq_comm]
  · simp [hlong, hlt]

end Session

namespace Desktop

open Text

variable (d : Desktop)

/-- What stands right under a segment: the entry of a table, the member of an object, the item of an array at the index
that the segment is, and what a window offers. -/
inductive HasPart : Target → Text → Target → Prop where
  | entry (ref : TableRef) (segment : Text) (v : Value) (h : (d.fieldsOf ref).get? (.text segment) = some v) :
      HasPart (.value (.table ref)) segment (.value v)
  | member (members : List (Text × Json)) (segment : Text) (j : Json) (h : members.lookup segment = some j) :
      HasPart (.value (.plain (.object members))) segment (.value (.plain j))
  | item (items : List Json) (segment : Text) (i : Nat) (j : Json) (hdigits : isDigits segment = true)
      (hi : segment.Writes i) (h : items[i]? = some j) :
      HasPart (.value (.plain (.array items))) segment (.value (.plain j))
  | id (n : Nat) : HasPart (.value (.window n)) "id".toList (.value (.text (d.idOf n)))
  | info (n : Nat) : HasPart (.value (.window n)) "info".toList (.action .info n)
  | handle (n : Nat) (segment : Text) (group : Handle) (h : handleNamed? segment = some group) :
      HasPart (.value (.window n)) segment (.handle group n)

/-- In an array, a segment of digits of which one has no place value. -/
def IsNoIndex (t : Target) (segment : Text) : Prop :=
  ∃ items, t = .value (.plain (.array items)) ∧ isDigits segment = true ∧ ∃ c ∈ segment, decimal? c = none

/-- A way along segments, from part to part. What is no part leads to null, and so does all behind it. -/
inductive Walks : Target → List Text → Target → Prop where
  | here (t : Target) : Walks t [] t
  | part {t u v : Target} {segment : Text} {segments : List Text} (h : d.HasPart t segment u)
      (rest : Walks u segments v) : Walks t (segment :: segments) v
  | lost {t : Target} {segment : Text} (segments : List Text) (hnone : ∀ u, ¬d.HasPart t segment u)
      (hindex : ¬IsNoIndex t segment) : Walks t (segment :: segments) .null

/-- The way along the segments ends at one that is no index where it stands. -/
def EndsAt (t : Target) (segments : List Text) (segment : Text) : Prop :=
  ∃ before after u, segments = before ++ segment :: after ∧ d.Walks t before u ∧ IsNoIndex u segment

theorem descend_of_part {t u : Target} {segment : Text} (hreadable : segment.IsReadable)
    (h : d.HasPart t segment u) : Session.descend d t segment = .ok u := by
  cases h with
  | entry ref _ v h => rw [Session.descend, h, Option.getD_some]
  | member members _ j h => rw [Session.descend, h, Option.getD_some]
  | item items _ i j hdigits hi h =>
    rw [Session.descend, if_pos hdigits, (Session.indexOf_eq_ok_iff segment i).2 ⟨hreadable hdigits, hi⟩,
      Except.map, h, Option.getD_some]
  | id n => rfl
  | info n => rfl
  | handle n _ group h => rw [Session.descend, member, h]

theorem descend_of_not_part {t : Target} {segment : Text} (hreadable : segment.IsReadable)
    (hnone : ∀ u, ¬d.HasPart t segment u) (hindex : ¬IsNoIndex t segment) :
    Session.descend d t segment = .ok .null := by
  match t with
  | .value (.table ref) =>
    have hmissing : (d.fieldsOf ref).get? (.text segment) = none :=
      Option.eq_none_iff_forall_ne_some.2 fun v h => hnone _ (.entry ref segment v h)
    rw [Session.descend, hmissing]
    rfl
  | .value (.plain (.object members)) =>
    have hmissing : members.lookup segment = none :=
      Option.eq_none_iff_forall_ne_some.2 fun j h => hnone _ (.member members segment j h)
    rw [Session.descend, hmissing]
    rfl
  | .value (.plain (.array items)) =>
    rw [Session.descend]
    split_ifs with hdigits
    · -- All digits have a place value, so the segment is an index, but not one of an item.
      have hdecimals : ∀ c ∈ segment, decimal? c ≠ none := fun c hc hc' => hindex ⟨items, rfl, hdigits, c, hc, hc'⟩
      have hi := writes_foldl segment hdecimals
      generalize segment.foldl _ 0 = i at hi
      have hmissing : items[i]? = none :=
        Option.eq_none_iff_forall_ne_some.2 fun j h => hnone _ (.item items segment i j hdigits hi h)
      rw [(Session.indexOf_eq_ok_iff segment i).2 ⟨hreadable hdigits, hi⟩, Except.map, hmissing]
      rfl
    · rfl
  | .value (.window n) =>
    have hgroup : handleNamed? segment = none :=
      Option.eq_none_iff_forall_ne_some.2 fun group h => hnone _ (.handle n segment group h)
    have hid : segment ≠ "id".toList := by
      rintro rfl
      exact hnone _ (.id n)
    have hinfo : segment ≠ "info".toList := by
      rintro rfl
      exact hnone _ (.info n)
    rw [Session.descend, member, hgroup]
    dsimp only
    rw [if_neg hid, if_neg hinfo]
  | .value (.plain .null) | .value (.plain (.bool _)) | .value (.plain (.int _)) | .value (.plain (.float _))
  | .value (.plain (.text _)) | .handle _ _ | .action _ _ => rfl

theorem descend_of_isNoIndex {t : Target} {segment : Text} (hreadable : segment.IsReadable)
    (h : IsNoIndex t segment) : Session.descend d t segment = .error (.badIndex segment) := by
  obtain ⟨items, rfl, hdigits, hdecimal⟩ := h
  have hle := (List.takeWhile_prefix fun c => (decimal? c).isSome).length_le.trans (hreadable hdigits)
  have hfails := (Session.indexOf_eq_error_iff segment _).2 (.inr ⟨hle, hdecimal, rfl⟩)
  rw [Session.descend, if_pos hdigits, hfails]
  rfl

theorem descendAll_append (t : Target) (segments more : List Text) :
    Session.descendAll d t (segments ++ more) =
      Session.descendAll d t segments >>= fun u => Session.descendAll d u more := by
  induction segments generalizing t with
  | nil => rfl
  | cons segment segments ih =>
    rw [List.cons_append, Session.descendAll, Session.descendAll]
    cases Session.descend d t segment with
    | error e => rfl
    | ok u => exact ih u

theorem descendAll_null (segments : List Text) : Session.descendAll d .null segments = .ok .null := by
  induction segments with
  | nil => rfl
  | cons segment segments ih => exact ih

theorem descendAll_of_walks {t u : Target} {segments : List Text} (h : d.Walks t segments u)
    (hreadable : ∀ segment ∈ segments, segment.IsReadable) : Session.descendAll d t segments = .ok u := by
  induction h with
  | here t => rfl
  | part h _ ih =>
    obtain ⟨hsegment, hreadable⟩ := List.forall_mem_cons.1 hreadable
    rw [Session.descendAll, d.descend_of_part hsegment h]
    exact ih hreadable
  | lost segments hnone hindex =>
    obtain ⟨hsegment, -⟩ := List.forall_mem_cons.1 hreadable
    rw [Session.descendAll, d.descend_of_not_part hsegment hnone hindex]
    exact d.descendAll_null segments

theorem descendAll_of_endsAt {t : Target} {segments : List Text} {segment : Text} (h : d.EndsAt t segments segment)
    (hreadable : ∀ segment ∈ segments, segment.IsReadable) :
    Session.descendAll d t segments = .error (.badIndex segment) := by
  obtain ⟨before, after, u, rfl, hwalks, hindex⟩ := h
  rw [List.forall_mem_append, List.forall_mem_cons] at hreadable
  obtain ⟨hbefore, hsegment, -⟩ := hreadable
  rw [descendAll_append, d.descendAll_of_walks hwalks hbefore]
  change Session.descendAll d u (segment :: after) = _
  rw [Session.descendAll, d.descend_of_isNoIndex hsegment hindex]

/-- From everywhere, segments lead somewhere, or to one that is no index. -/
theorem walks_or_endsAt (t : Target) (segments : List Text) :
    (∃ u, d.Walks t segments u) ∨ ∃ segment, d.EndsAt t segments segment := by
  induction segments generalizing t with
  | nil => exact .inl ⟨t, .here t⟩
  | cons segment segments ih =>
    by_cases hpart : ∃ u, d.HasPart t segment u
    · obtain ⟨u, hu⟩ := hpart
      obtain ⟨v, hv⟩ | ⟨last, before, after, v, rfl, hwalks, hlast⟩ := ih u
      · exact .inl ⟨v, .part hu hv⟩
      · exact .inr ⟨last, segment :: before, after, v, rfl, .part hu hwalks, hlast⟩
    · by_cases hindex : IsNoIndex t segment
      · exact .inr ⟨segment, [], segments, t, rfl, .here t, hindex⟩
      · -- What is missing does not end the way: all behind it is null.
        exact .inl ⟨.null, .lost segments (fun u hu => hpart ⟨u, hu⟩) hindex⟩

end Desktop

namespace Session

open Text

variable (s : Session)

/-- The path leads from the value of its variable along its segments to the target. -/
def PathLeads (path : Text) (t : Target) : Prop :=
  ∃ name segments, splitOn '.' path = name :: segments ∧ s.desktop.Walks (.value (s.lookup name)) segments t

/-- The path leads to a segment that is no index where it stands. -/
def PathEnds (path segment : Text) : Prop :=
  ∃ name segments, splitOn '.' path = name :: segments ∧
    s.desktop.EndsAt (.value (s.lookup name)) segments segment

variable {s}

theorem PathLeads.resolvePath {path : Text} {t : Target} (h : s.PathLeads path t)
    (hreadable : ∀ segment ∈ (splitOn '.' path).tail, segment.IsReadable) : s.resolvePath path = .ok t := by
  obtain ⟨name, segments, hpath, hwalks⟩ := h
  rw [hpath] at hreadable
  rw [Session.resolvePath, hpath]
  exact s.desktop.descendAll_of_walks hwalks hreadable

theorem PathEnds.resolvePath {path segment : Text} (h : s.PathEnds path segment)
    (hreadable : ∀ segment ∈ (splitOn '.' path).tail, segment.IsReadable) :
    s.resolvePath path = .error (.badIndex segment) := by
  obtain ⟨name, segments, hpath, hends⟩ := h
  rw [hpath] at hreadable
  rw [Session.resolvePath, hpath]
  exact s.desktop.descendAll_of_endsAt hends hreadable

variable (s)

theorem pathLeads_or_pathEnds (path : Text) : (∃ t, s.PathLeads path t) ∨ ∃ segment, s.PathEnds path segment := by
  obtain ⟨name, segments, hpath⟩ := List.exists_cons_of_ne_nil (splitOn_ne_nil '.' path)
  obtain ⟨t, ht⟩ | ⟨segment, hends⟩ := s.desktop.walks_or_endsAt (.value (s.lookup name)) segments
  · exact .inl ⟨t, name, segments, hpath, ht⟩
  · exact .inr ⟨segment, name, segments, hpath, hends⟩

theorem resolvePath_eq_ok_iff (path : Text) (hreadable : ∀ segment ∈ (splitOn '.' path).tail, segment.IsReadable)
    (t : Target) : s.resolvePath path = .ok t ↔ s.PathLeads path t := by
  refine ⟨fun h => ?_, fun h => h.resolvePath hreadable⟩
  obtain ⟨u, hu⟩ | ⟨segment, hends⟩ := s.pathLeads_or_pathEnds path
  · obtain rfl : t = u := Except.ok.inj (h.symm.trans (hu.resolvePath hreadable))
    exact hu
  · rw [hends.resolvePath hreadable] at h
    cases h

theorem resolvePath_eq_error_iff (path : Text) (hreadable : ∀ segment ∈ (splitOn '.' path).tail, segment.IsReadable)
    (e : ScriptError) : s.resolvePath path = .error e ↔ ∃ segment, s.PathEnds path segment ∧ e = .badIndex segment := by
  constructor
  · intro h
    obtain ⟨u, hu⟩ | ⟨segment, hends⟩ := s.pathLeads_or_pathEnds path
    · rw [hu.resolvePath hreadable] at h
      cases h
    · exact ⟨segment, hends, Except.error.inj (h.symm.trans (hends.resolvePath hreadable))⟩
  · rintro ⟨segment, hends, rfl⟩
    exact hends.resolvePath hreadable

end Session

end DeskScript
