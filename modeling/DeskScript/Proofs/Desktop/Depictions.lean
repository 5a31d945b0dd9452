import DeskScript.Proofs.Desktop.Rendering
import DeskScript.Proofs.Json.RoundTrip
import Mathlib.Algebra.Group.Int.Defs

namespace DeskScript

namespace Desktop

variable (d : Desktop)

/-- The data that shows a value: plain data is shown by itself, a window by its id, beside handles of which nothing
shows, and a table by the data of its fields, each under the text that is its key. -/
inductive Depicts : Value → Json → Prop where
  | plain (j : Json) : Depicts (.plain j) j
  | window (n : Nat) :
      Depicts (.window n) (.object [("id".toList, .text (d.idOf n)), ("libary".toList, .object []),
        ("library".toList, .object []), ("database".toList, .object [])])
  | table (ref : TableRef) (members : List (Text × Json))
      (hkeys : (d.fieldsOf ref).toList.map Prod.fst = members.map fun m => Key.text m.1)
      (hparts : ∀ e m, (e, m) ∈ (d.fieldsOf ref).toList.zip members → Depicts e.2 m.2) :
      Depicts (.table ref) (.object members)

/-- The value, apart from what it holds, is of a kind that data shows: no fraction, the members of an object under names
of their own, and the fields of a table under texts. -/
def DataShows : Value → Prop
  | .plain (.float _) => False
  | .plain (.object members) => (members.map Prod.fst).Nodup
  | .table ref => ∀ e ∈ (d.fieldsOf ref).toList, ∃ name, e.1 = .text name
  | _ => True

/-- A value that does not lead to itself, with nothing in it that data does not show. -/
structure IsShowable (v : Value) : Prop where
  acyclic : ¬d.IsCircular v
  parts : ∀ u, d.Reaches v u → d.DataShows u

variable {d}

theorem members_unique {fields : List (Key × Value)} {members members' : List (Text × Json)} {P : Value → Json → Prop}
    (hkeys : fields.map Prod.fst = members.map fun m => Key.text m.1)
    (hkeys' : fields.map Prod.fst = members'.map fun m => Key.text m.1)
    (hunique : ∀ e m, (e, m) ∈ fields.zip members → ∀ j, P e.2 j → m.2 = j)
    (hparts' : ∀ e m, (e, m) ∈ fields.zip members' → P e.2 m.2) : members = members' := by
  induction fields generalizing members members' with
  | nil =>
    rw [List.map_eq_nil_iff.1 hkeys.symm, List.map_eq_nil_iff.1 hkeys'.symm]
  | cons e fields ih =>
    obtain ⟨m, ms, rfl, hm, hms⟩ := List.map_eq_cons_iff.1 hkeys.symm
    obtain ⟨m', ms', rfl, hm', hms'⟩ := List.map_eq_cons_iff.1 hkeys'.symm
    have hname : m.1 = m'.1 := Key.text.inj (hm.trans hm'.symm)
    have hvalue : m.2 = m'.2 := hunique e m List.mem_cons_self _ (hparts' e m' List.mem_cons_self)
    rw [ih hms.symm hms'.symm (fun e m h => hunique e m (List.mem_cons_of_mem _ h))
      fun e m h => hparts' e m (List.mem_cons_of_mem _ h), Prod.ext hname hvalue]

theorem Depicts.unique {v : Value} {i j : Json} (hi : d.Depicts v i) (hj : d.Depicts v j) : i = j := by
  induction hi generalizing j with
  | plain | window =>
    cases hj
    rfl
  | table ref members hkeys _ ih =>
    cases hj with
    | table _ members' hkeys' hparts' =>
      exact congrArg Json.object (members_unique hkeys hkeys' (fun e m h _ hj => ih e m h hj) hparts')

theorem portable_of_dataShows {v : Value} (hv : d.IsGrounded v) (h : ∀ u, d.Reaches v u → d.DataShows u ∧ ¬d.IsLong u)
    (j : Json) (hj : v = .plain j) : j.Portable := by
  induction hv generalizing j with
  | intro v _ ih =>
    subst hj
    have hcontained (i : Json) (hi : d.Contains (.plain j) (.plain i)) : i.Portable :=
      ih (.plain i) hi (fun u hu => h u (.head hi hu)) i rfl
    obtain ⟨hshows, hshort⟩ := h _ .refl
    cases j with
    | null => exact .null
    | bool b => exact .bool b
    | int n => exact .int n (Decidable.not_not.1 fun hn => hshort (.number n (decide_eq_false hn)))
    | float x => exact hshows.elim
    | text t => exact .text t
    | array items => exact .array items fun i hi => hcontained i (.item items i hi)
    | object members => exact .object members hshows fun m hm => hcontained m.2 (.member members m.1 m.2 hm)

theorem portable_of_contains {j i : Json} (hj : j.Portable) (h : d.Contains (.plain j) (.plain i)) : i.Portable := by
  cases h with
  | member members name _ h =>
    cases hj with
    | object _ _ hmembers => exact hmembers (name, i) h
  | item items _ h =>
    cases hj with
    | array _ hitems => exact hitems i h

theorem portable_iff (j : Json) : j.Portable ↔ ∀ u, d.Reaches (.plain j) u → d.DataShows u ∧ ¬d.IsLong u := by
  refine ⟨fun hj u hu => ?_, fun h => portable_of_dataShows (d.isGrounded_plain j) h j rfl⟩
  have hportable : ∃ i, u = .plain i ∧ i.Portable := by
    induction hu with
    | refl => exact ⟨j, rfl, hj⟩
    | @tail _ w hreach hlast ih =>
      obtain ⟨i, rfl, hi⟩ := ih
      obtain ⟨k, rfl⟩ := d.plain_of_reaches i w (.single hlast)
      exact ⟨k, rfl, portable_of_contains hi hlast⟩
  obtain ⟨i, rfl, hi⟩ := hportable
  cases hi with
  | int n hn => exact ⟨trivial, fun | .number _ hlong => of_decide_eq_false hlong hn⟩
  | object members hnames => exact ⟨hnames, nofun⟩
  | null | bool | text | array => exact ⟨trivial, nofun⟩

theorem DataShows.not_isLong {ref : TableRef} (h : d.DataShows (.table ref)) : ¬d.IsLong (.table ref) := by
  rintro (_ | ⟨_, e, he, hlong⟩)
  obtain ⟨name, hname⟩ := h e he
  rw [hname] at hlong
  cases hlong

theorem forall_reaches_table {P : Value → Prop} {ref : TableRef} (hP : P (.table ref))
    (h : ∀ e ∈ (d.fieldsOf ref).toList, ∀ u, d.Reaches e.2 u → P u) : ∀ u, d.Reaches (.table ref) u → P u := by
  intro u hu
  obtain rfl | ⟨w, hw, hu⟩ := hu.cases_head
  · exact hP
  · cases hw with
    | entry _ k _ hk =>
      obtain ⟨l, hl⟩ := Table.exists_mem_toList_of_get? _ k w hk
      exact h (l, w) hl u hu

theorem eq_of_reaches_window {n : Nat} {u : Value} (h : d.Reaches (.window n) u) : u = .window n := by
  obtain rfl | ⟨w, hw, -⟩ := h.cases_head
  · rfl
  · cases hw

theorem forall_reaches_window (n : Nat) : ∀ u, d.Reaches (.window n) u → d.DataShows u ∧ ¬d.IsLong u := by
  intro u hu
  obtain rfl := eq_of_reaches_window hu
  exact ⟨trivial, by rintro ⟨⟩⟩

theorem portable_windowJson (n : Nat) : (d.windowJson n).Portable := by
  have hnames : ["id".toList, "libary".toList, "library".toList, "database".toList].Nodup := by decide
  refine .object _ hnames fun m hm => ?_
  simp only [List.mem_cons, List.not_mem_nil, or_false] at hm
  obtain rfl | rfl | rfl | rfl := hm
  · exact .text _
  all_goals exact .object [] .nil nofun

theorem nodup_names {fields : Fields} {names : List Text} (h : fields.toList.map Prod.fst = names.map Key.text) :
    names.Nodup := by
  have hdistinct := fields.distinct
  rw [← fields.keys_toList, h, List.pairwise_map] at hdistinct
  refine hdistinct.imp ?_
  rintro name _ hne rfl
  exact hne Std.ReflCmp.compare_self

theorem depicts_table {ref : TableRef} {f : Value → Except ScriptError Json} {members : List (Text × Json)}
    (h : ((d.fieldsOf ref).toList.mapM fun (e : Key × Value) =>
      if e.1.canWrite then (f e.2).map fun j => (e.1.memberName, j) else .error .longNumber) = .ok members)
    (hshows : d.DataShows (.table ref))
    (hf : ∀ e ∈ (d.fieldsOf ref).toList, ∀ j, f e.2 = .ok j → d.Depicts e.2 j ∧ j.Portable) :
    d.Depicts (.table ref) (.object members) ∧ (Json.object members).Portable := by
  obtain ⟨hlength, hfound⟩ := List.forall₂_iff_zip.1 ((Except.mapM_eq_ok_iff _ _ _).1 h)
  -- Entries and members stand side by side, so what holds of each pair holds of the whole.
  have hshown : ∀ e m, (e, m) ∈ (d.fieldsOf ref).toList.zip members →
      e.1 = .text m.1 ∧ d.Depicts e.2 m.2 ∧ m.2.Portable := by
    intro e m hzip
    have he := (List.of_mem_zip hzip).1
    obtain ⟨name, hname⟩ := hshows e he
    have hcan : e.1.canWrite = true := hname ▸ rfl
    have hmember := hfound hzip
    rw [if_pos hcan] at hmember
    obtain ⟨j, hj, rfl⟩ := (Except.map_eq_ok_iff _ _ _).1 hmember
    exact ⟨by rw [hname, Key.memberName], hf e he j hj⟩
  have hkeys : (d.fieldsOf ref).toList.map Prod.fst = members.map fun m => Key.text m.1 := by
    rw [← List.forall₂_eq_eq_eq, List.forall₂_map_left_iff, List.forall₂_map_right_iff, List.forall₂_iff_zip]
    exact ⟨hlength, fun hzip => (hshown _ _ hzip).1⟩
  refine ⟨.table ref members hkeys fun e m hzip => (hshown e m hzip).2.1, ?_⟩
  refine .object members (nodup_names (by rw [hkeys, List.map_map]; rfl)) fun m hm => ?_
  rw [← List.map_snd_zip hlength.ge] at hm
  obtain ⟨⟨e, m⟩, hzip, rfl⟩ := List.mem_map.1 hm
  exact (hshown e m hzip).2.2

/-- The search for data finds what shows the value, and writing keeps that. -/
theorem depicts_of_jsonWithin (fuel : Nat) (opened : List TableRef) {v : Value} {j : Json}
    (hfound : d.jsonWithin fuel opened v = .ok j) (h : ∀ u, d.Reaches v u → d.DataShows u ∧ ¬d.IsLong u) :
    d.Depicts v j ∧ j.Portable := by
  cases v with
  | plain i =>
    have hportable := (portable_iff i).2 h
    rw [jsonWithin_plain] at hfound
    split at hfound
    · exact Except.ok.inj hfound ▸ ⟨.plain i, hportable⟩
    · cases hfound
  | window n =>
    obtain rfl : d.windowJson n = j := by cases fuel <;> exact Except.ok.inj hfound
    exact ⟨.window n, portable_windowJson n⟩
  | table ref =>
    cases fuel with
    | zero => cases hfound
    | succ fuel =>
      rw [jsonWithin] at hfound
      split at hfound
      · cases hfound
      · obtain ⟨members, hmembers, rfl⟩ := (Except.map_eq_ok_iff _ _ _).1 hfound
        refine depicts_table hmembers (h _ .refl).1 fun e he j hj => ?_
        exact depicts_of_jsonWithin fuel (ref :: opened) hj fun u hu => h u (.head (.of_entry he) hu)

theorem isContainer_of_json {v : Value} {j : Json} (h : d.json v = .ok j)
    (hstructural : isStructural (.value v) = true) : j.isContainer = true := by
  cases v with
  | plain i =>
    rw [json, jsonWithin_plain] at h
    split at h
    · exact Except.ok.inj h ▸ hstructural
    · cases h
  | window n => exact Except.ok.inj h ▸ rfl
  | table ref =>
    rw [json, jsonWithin] at h
    split at h
    · cases h
    · obtain ⟨members, -, rfl⟩ := (Except.map_eq_ok_iff _ _ _).1 h
      rfl

/-- What a value renders as is read as the data that shows the value. -/
theorem read_renderIn {l : Json.Layout} (hl : l.IsBlank) {v : Value} {j : Json} (h : d.json v = .ok j)
    (hj : j.Portable) (hstructural : isStructural (.value v) = true) :
    ∃ t, d.renderIn l (.value v) = .ok t ∧ Json.read t = .ok j := by
  refine ⟨j.write l, ?_, hj.read_write hl⟩
  rw [renderIn, h]
  exact congrArg Except.ok (if_pos (isContainer_of_json h hstructural))

theorem isShowable_of_json {v : Value} (hfound : (d.json v).isOk = true)
    (h : ∀ u, d.Reaches v u → d.DataShows u ∧ ¬d.IsLong u) : d.IsShowable v ∧ ¬d.HasLong v := by
  have hacyclic : ¬d.IsCircular v := by
    cases hj : d.json v with
    | ok j => exact ((d.exists_json_eq_ok_iff v).1 ⟨j, hj⟩).1
    | error e => simp [hj, Except.isOk, Except.toBool] at hfound
  refine ⟨⟨hacyclic, fun u hu => (h u hu).1⟩, ?_⟩
  rintro ⟨u, hu, hlong⟩
  exact (h u hu).2 hlong

theorem IsShowable.exists_json {v : Value} (hv : d.IsShowable v) (hnumbers : ¬d.HasLong v) :
    ∃ j, d.json v = .ok j ∧ d.Depicts v j ∧ j.Portable := by
  obtain ⟨j, hj⟩ := (d.exists_json_eq_ok_iff v).2 ⟨hv.acyclic, hnumbers⟩
  exact ⟨j, hj, depicts_of_jsonWithin _ [] hj fun u hu => ⟨hv.parts u hu, fun hlong => hnumbers ⟨u, hu, hlong⟩⟩⟩

theorem exists_mapM_json {vs : List Value} (hvs : ∀ v ∈ vs, d.IsShowable v ∧ ¬d.HasLong v) :
    ∃ js, vs.mapM d.json = .ok js ∧ List.Forall₂ d.Depicts vs js ∧ ∀ j ∈ js, j.Portable := by
  induction vs with
  | nil => exact ⟨[], rfl, .nil, nofun⟩
  | cons v vs ih =>
    obtain ⟨hv, hnumbers⟩ := hvs v List.mem_cons_self
    obtain ⟨j, hj, hdepicts, hportable⟩ := hv.exists_json hnumbers
    obtain ⟨js, hjs, hall, hportables⟩ := ih fun u hu => hvs u (List.mem_cons_of_mem _ hu)
    refine ⟨j :: js, ?_, .cons hdepicts hall, List.forall_mem_cons.2 ⟨hportable, hportables⟩⟩
    rw [List.mapM_cons, hj, hjs]
    rfl

/-- Values are given that do not lead to themselves, made of what data shows and of numbers that are short enough. Then
exactly one data shows each table, list or window among them, and that is read from its rendering in a log as well as
from the one on a single line. A list of such values is read back in the same way, value by value. -/
theorem read_render (d : Desktop) (vs : List Value) (hvs : ∀ v ∈ vs, d.IsShowable v ∧ ¬d.HasLong v) :
    (∀ v ∈ vs, isStructural (.value v) = true → ∃ j, (∀ i, d.Depicts v i ↔ i = j) ∧
      (∃ t, d.render (.value v) = .ok t ∧ Json.read t = .ok j) ∧
      ∃ t, d.renderCompact (.value v) = .ok t ∧ Json.read t = .ok j) ∧
    ∃ js, List.Forall₂ d.Depicts vs js ∧ Json.read (Json.array js).pretty = .ok (.array js) ∧
      ∃ t, d.renderList vs = .ok t ∧ Json.read t = .ok (.array js) := by
  constructor
  · intro v hmem hstructural
    obtain ⟨hv, hnumbers⟩ := hvs v hmem
    obtain ⟨j, hj, hdepicts, hportable⟩ := hv.exists_json hnumbers
    refine ⟨j, fun i => ⟨fun hi => hi.unique hdepicts, fun hi => hi ▸ hdepicts⟩, ?_, ?_⟩
    · exact read_renderIn Json.isBlank_prettyLayout hj hportable hstructural
    · exact read_renderIn Json.isBlank_compactLayout hj hportable hstructural
  · obtain ⟨js, hjs, hdepicts, hportable⟩ := exists_mapM_json hvs
    have harray : (Json.array js).Portable := .array js hportable
    refine ⟨js, hdepicts, harray.read_write Json.isBlank_prettyLayout, (Json.array js).compact, ?_,
      harray.read_write Json.isBlank_compactLayout⟩
    rw [renderList, hjs]
    rfl

/-- One reply is the value of two fields, beside the window itself and a list with a sign, a quote and a control
character. -/
theorem read_render_shared :
    let w : Window := ⟨['a'], .text [], .text [], .int 0, .int 0, .int 0, .int 0, .int 0, .bool false, .bool false,
      .live (Table.ofList [(.text ['r'], .table (.reply 0)), (.text ['s'], .table (.reply 0)), (.text ['w'], .window 0),
        (.text ['l'], .plain (.array [.int (-12), .text ['"', '\x01']]))]), .null⟩
    let d : Desktop := ⟨[w], Journal.empty.push (Table.ofList [(.text ['b'], .plain (.bool true))])⟩
    let vs : List Value := [.table (.data 0), .window 0]
    (∀ v ∈ vs, d.IsShowable v ∧ ¬d.HasLong v) ∧ (∀ v ∈ vs, isStructural (.value v) = true) ∧
      (∀ v ∈ vs, isStructural (.value v) = true → ∃ j, (∀ i, d.Depicts v i ↔ i = j) ∧
        (∃ t, d.render (.value v) = .ok t ∧ Json.read t = .ok j) ∧
        ∃ t, d.renderCompact (.value v) = .ok t ∧ Json.read t = .ok j) ∧
      ∃ js, List.Forall₂ d.Depicts vs js ∧ Json.read (Json.array js).pretty = .ok (.array js) ∧
        ∃ t, d.renderList vs = .ok t ∧ Json.read t = .ok (.array js) := by
  intro w d vs
  have hdata : (d.fieldsOf (.data 0)).toList = [(.text ['r'], .table (.reply 0)), (.text ['s'], .table (.reply 0)),
      (.text ['w'], .window 0), (.text ['l'], .plain (.array [.int (-12), .text ['"', '\x01']]))] :=
    Table.toList_ofList _ (by decide)
  have hreply : (d.fieldsOf (.reply 0)).toList = [(.text ['b'], .plain (.bool true))] :=
    Table.toList_ofList _ (by decide)
  have hlist : (Json.array [.int (-12), .text ['"', '\x01']]).Portable := by
    refine .array _ fun j hj => ?_
    obtain rfl | hj := List.mem_cons.1 hj
    · exact .int _ (by decide)
    · exact List.mem_singleton.1 hj ▸ .text _
  have hshared : ∀ u, d.Reaches (.table (.reply 0)) u → d.DataShows u ∧ ¬d.IsLong u := by
    have hshows : d.DataShows (.table (.reply 0)) := by simp [DataShows, hreply]
    refine forall_reaches_table ⟨hshows, hshows.not_isLong⟩ ?_
    rw [hreply]
    exact List.forall_mem_singleton.2 ((portable_iff _).1 (.bool true))
  have hwindow : ∀ u, d.Reaches (.window 0) u → d.DataShows u ∧ ¬d.IsLong u := forall_reaches_window 0
  have hparts : ∀ u, d.Reaches (.table (.data 0)) u → d.DataShows u ∧ ¬d.IsLong u := by
    have hshows : d.DataShows (.table (.data 0)) := by simp [DataShows, hdata]
    refine forall_reaches_table ⟨hshows, hshows.not_isLong⟩ ?_
    rw [hdata]
    simp only [List.forall_mem_cons]
    exact ⟨hshared, hshared, hwindow, (portable_iff _).1 hlist, List.forall_mem_nil _⟩
  have hvs : ∀ v ∈ vs, d.IsShowable v ∧ ¬d.HasLong v :=
    List.forall_mem_cons.2 ⟨isShowable_of_json (by decide +kernel) hparts,
      List.forall_mem_singleton.2 (isShowable_of_json (by decide +kernel) hwindow)⟩
  exact ⟨hvs, by decide, read_render d vs hvs⟩

theorem isShowable_int (d : Desktop) (n : Int) : d.IsShowable (.plain (.array [.int n])) where
  acyclic := (d.isGrounded_plain _).not_isCircular
  parts u hu := by
    obtain rfl | ⟨w, hw, hu⟩ := hu.cases_head
    · trivial
    cases hw with
    | item _ j hj =>
      obtain rfl := List.mem_singleton.1 hj
      obtain rfl | ⟨w, hw, -⟩ := hu.cases_head
      · trivial
      · cases hw

theorem renderIn_of_long (d : Desktop) (l : Json.Layout) (n : Int) (hn : Text.canWrite n = false) :
    d.renderIn l (.value (.plain (.array [.int n]))) = .error .longNumber ∧
      Json.read ('[' :: Text.ofInt n ++ [']']) = .error (.tooManyDigits (Text.ofNat n.natAbs).length) := by
  have hlong : (Json.array [.int n]).canWrite = false := by
    rw [Json.canWrite_array, List.all_eq_false]
    exact ⟨.int n, List.mem_singleton_self _, Bool.eq_false_iff.1 hn⟩
  refine ⟨?_, Json.read_write_tooManyDigits Json.isBlank_compactLayout n (Nat.lt_of_not_le (of_decide_eq_false hn))⟩
  rw [renderIn, json, jsonWithin_plain, hlong]
  rfl

/-- The bound on numbers is needed: neither layout shows a list of one number beyond it. -/
theorem not_read_render_long :
    let d : Desktop := ofWindows []
    let v : Value := .plain (.array [.int (10 ^ Text.maxDigits)])
    d.IsShowable v ∧ isStructural (.value v) = true ∧
      d.render (.value v) = .error .longNumber ∧ d.renderCompact (.value v) = .error .longNumber ∧
      (¬∃ j, d.Depicts v j ∧ ∃ t, d.render (.value v) = .ok t ∧ Json.read t = .ok j) ∧
      (¬∃ j, d.Depicts v j ∧ ∃ t, d.renderCompact (.value v) = .ok t ∧ Json.read t = .ok j) ∧
      ∃ k, Json.read ('[' :: Text.ofInt (10 ^ Text.maxDigits) ++ [']']) = .error (.tooManyDigits k) := by
  intro d v
  have hlong (k : Nat) : 10 ^ k ≤ Int.natAbs (10 ^ k) := (Int.natAbs_pow 10 k).ge
  have hcannot : Text.canWrite (10 ^ Text.maxDigits) = false := by
    rw [← Bool.not_eq_true, Text.canWrite_iff, Nat.not_lt]
    exact hlong _
  have hrefused := fun l => d.renderIn_of_long l _ hcannot
  have hunshown : ∀ l, ¬∃ j, d.Depicts v j ∧ ∃ t, d.renderIn l (.value v) = .ok t ∧ Json.read t = .ok j := by
    rintro l ⟨j, -, t, ht, -⟩
    cases ht.symm.trans (hrefused l).1
  exact ⟨d.isShowable_int _, rfl, (hrefused _).1, (hrefused _).1, hunshown _, hunshown _, _,
    (hrefused Json.compactLayout).2⟩

end Desktop

end DeskScript
