import DeskScript.Proofs.Desktop.LongNumbers

namespace DeskScript

theorem Text.joinWith_cons (sep p : Text) (ps : List Text) :
    Text.joinWith sep (p :: ps) = p ++ ps.flatMap (sep ++ ·) := by
  induction ps generalizing p with
  | nil => simp [Text.joinWith, List.intercalate]
  | cons q ps ih => rw [Text.joinWith_cons_cons, ih, List.flatMap_cons, List.append_assoc, List.append_assoc]

theorem Text.escapeBefore_eq (mark : Char) (rest t : Text) :
    Text.escapeBefore mark rest t = Text.escapeBefore mark [] t ++ rest := by
  induction t with
  | nil => rfl
  | cons c t ih =>
    rw [escapeBefore, escapeBefore, ih]
    unfold quotedCharBefore
    simp only [apply_ite (· ++ rest), List.cons_append, List.append_assoc]

theorem Text.quotedBefore_eq (t rest : Text) : t.quotedBefore rest = t.quoted ++ rest := by
  rw [quoted, quotedBefore, quotedBefore, escapeBefore_eq, escapeBefore_eq _ [_]]
  simp

namespace Json

mutual

def spelling : Json → Text
  | null => "None".toList
  | bool b => if b then "True".toList else "False".toList
  | int n => Text.ofInt n
  | float x => x.toText
  | text t => t.quoted
  | array items => '[' :: Text.joinWith ", ".toList (spellings items) ++ [']']
  | object members => '{' :: Text.joinWith ", ".toList (memberSpellings members) ++ ['}']

def spellings : List Json → List Text
  | [] => []
  | j :: js => spelling j :: spellings js

def memberSpellings : List (Text × Json) → List Text
  | [] => []
  | (k, j) :: ms => (k.quoted ++ ": ".toList ++ spelling j) :: memberSpellings ms

end

mutual

theorem labelBefore_eq (rest : Text) : (j : Json) → j.labelBefore rest = j.spelling ++ rest
  | null => rfl
  | bool b => by cases b <;> rfl
  | int n => rfl
  | float x => rfl
  | text t => t.quotedBefore_eq rest
  | array [] => rfl
  | array (j :: js) => by
    rw [labelBefore, labelBefore_eq _ j, labelItemsBefore_eq _ js, spelling, spellings, Text.joinWith_cons]
    simp
  | object [] => rfl
  | object ((k, j) :: ms) => by
    rw [labelBefore, labelBefore_eq _ j, labelMembersBefore_eq _ ms, Text.quotedBefore_eq, spelling, memberSpellings,
      Text.joinWith_cons]
    simp

theorem labelItemsBefore_eq (rest : Text) :
    (js : List Json) → labelItemsBefore rest js = (spellings js).flatMap (", ".toList ++ ·) ++ rest
  | [] => rfl
  | j :: js => by
    rw [labelItemsBefore, labelBefore_eq _ j, labelItemsBefore_eq _ js, spellings, List.flatMap_cons]
    simp

theorem labelMembersBefore_eq (rest : Text) :
    (ms : List (Text × Json)) → labelMembersBefore rest ms = (memberSpellings ms).flatMap (", ".toList ++ ·) ++ rest
  | [] => rfl
  | (k, j) :: ms => by
    rw [labelMembersBefore, labelBefore_eq _ j, labelMembersBefore_eq _ ms, Text.quotedBefore_eq, memberSpellings,
      List.flatMap_cons]
    simp

end

/-- The label of data is its spelling, but a text is its own label. -/
theorem label_eq (j : Json) (h : ∀ t, j ≠ .text t) : j.label = j.spelling := by
  cases j with
  | text t => exact absurd rfl (h t)
  | _ => simp [label, labelBefore_eq]

end Json

namespace Tree

mutual

/-- A tree in words: its tables with their keys, and dots for a table inside itself. -/
def spelling (d : Desktop) : Tree → Text
  | plain j => j.spelling
  | window n => d.windowLabel n
  | table entries => '{' :: Text.joinWith ", ".toList (entrySpellings d entries) ++ ['}']
  | loop _ => Desktop.loopLabel

def entrySpellings (d : Desktop) : List (Key × Tree) → List Text
  | [] => []
  | (k, t) :: es => (k.toJson.spelling ++ ": ".toList ++ spelling d t) :: entrySpellings d es

end

theorem entrySpellings_eq_map (d : Desktop) (es : List (Key × Tree)) :
    entrySpellings d es = es.map fun e => e.1.toJson.spelling ++ ": ".toList ++ e.2.spelling d := by
  induction es with
  | nil => rfl
  | cons e es ih => rw [entrySpellings, ih, List.map_cons]

end Tree

namespace Desktop

variable (d : Desktop)

theorem unfoldWithin_of_mem (fuel : Nat) (opened : List TableRef) (ref : TableRef) (h : ref ∈ opened) :
    ∃ levels, d.unfoldWithin (fuel + 1) opened (.table ref) = .loop levels := by
  obtain ⟨i, hi⟩ : ∃ i, opened.idxOf? ref = some i :=
    Option.ne_none_iff_exists'.1 fun hnone => List.idxOf?_eq_none_iff.1 hnone h
  exact ⟨i + 1, by rw [unfoldWithin, hi]⟩

theorem unfoldWithin_of_not_mem (fuel : Nat) (opened : List TableRef) (ref : TableRef) (h : ref ∉ opened) :
    d.unfoldWithin (fuel + 1) opened (.table ref) =
      .table ((d.fieldsOf ref).toList.map fun e => (e.1, d.unfoldWithin fuel (ref :: opened) e.2)) := by
  rw [unfoldWithin, List.idxOf?_eq_none_iff.2 h]

def entrySpelling (fuel : Nat) (opened : List TableRef) (e : Key × Value) : Text :=
  e.1.toJson.spelling ++ ": ".toList ++ (d.unfoldWithin fuel opened e.2).spelling d

theorem labelWithin_eq (fuel : Nat) (opened : List TableRef) (rest : Text) (v : Value) :
    d.labelWithin fuel opened rest v = (d.unfoldWithin fuel opened v).spelling d ++ rest := by
  induction fuel generalizing opened rest v with
  | zero =>
    cases v with
    | plain j => exact j.labelBefore_eq rest
    | window | table => rfl
  | succ fuel ih =>
    cases v with
    | plain j => exact j.labelBefore_eq rest
    | window n => rfl
    | table ref =>
      rw [labelWithin]
      -- A table that is open already is only named; any other is opened, with one call less for what is in it.
      by_cases hmem : ref ∈ opened
      · obtain ⟨levels, hlevels⟩ := d.unfoldWithin_of_mem fuel opened ref hmem
        rw [if_pos (List.elem_iff.2 hmem), hlevels, Tree.spelling]
      · have hentry : ∀ (rest : Text) (e : Key × Value),
            e.1.labelBefore (':' :: ' ' :: d.labelWithin fuel (ref :: opened) rest e.2) =
              d.entrySpelling fuel (ref :: opened) e ++ rest := by
          intro rest e
          rw [Key.labelBefore, Json.labelBefore_eq, ih]
          simp [entrySpelling]
        have hentries : ∀ es : List (Key × Value), es.foldr (fun e rest => ',' :: ' ' ::
            e.1.labelBefore (':' :: ' ' :: d.labelWithin fuel (ref :: opened) rest e.2)) ('}' :: rest) =
              (es.map (d.entrySpelling fuel (ref :: opened))).flatMap (", ".toList ++ ·) ++ '}' :: rest := by
          intro es
          induction es with
          | nil => rfl
          | cons e es ihes =>
            rw [List.foldr_cons, ihes, hentry, List.map_cons, List.flatMap_cons]
            simp
        rw [if_neg (by simpa using hmem), d.unfoldWithin_of_not_mem fuel opened ref hmem, Tree.spelling,
          Tree.entrySpellings_eq_map, List.map_map]
        change _ = '{' :: Text.joinWith _ ((d.fieldsOf ref).toList.map (d.entrySpelling fuel (ref :: opened))) ++ _ ++ _
        cases (d.fieldsOf ref).toList with
        | nil => rfl
        | cons e es =>
          dsimp only
          rw [hentries, hentry, List.map_cons, Text.joinWith_cons]
          simp

/-- The key that a value stands for: a scalar for itself, and a structure for its tree in words, unless it leads to a
long number. -/
inductive KeyForm : Value → Key → Prop where
  | null : KeyForm .null .null
  | bool (b : Bool) : KeyForm (.plain (.bool b)) (.bool b)
  | int (n : Int) : KeyForm (.plain (.int n)) (.int n)
  | float (x : Binary64) : KeyForm (.plain (.float x)) (.float x)
  | text (t : Text) : KeyForm (.text t) (.text t)
  | array (items : List Json) (h : ¬d.HasLong (.plain (.array items))) :
      KeyForm (.plain (.array items)) (.text ((d.unfold (.plain (.array items))).spelling d))
  | object (members : List (Text × Json)) (h : ¬d.HasLong (.plain (.object members))) :
      KeyForm (.plain (.object members)) (.text ((d.unfold (.plain (.object members))).spelling d))
  | window (n : Nat) : KeyForm (.window n) (.text ("<WindowObject ".toList ++ (d.idOf n).quoted ++ ['>']))
  | table (ref : TableRef) (h : ¬d.HasLong (.table ref)) :
      KeyForm (.table ref) (.text ((d.unfold (.table ref)).spelling d))

variable {d}

theorem KeyForm.unique {v : Value} {k l : Key} (hk : d.KeyForm v k) (hl : d.KeyForm v l) : k = l := by
  cases hk <;> cases hl <;> rfl

theorem KeyForm.canBeKey {v : Value} {k : Key} (h : d.KeyForm v k) : d.canBeKey v = true := by
  rw [← Bool.not_eq_false, canBeKey_eq_false_iff]
  rintro ⟨hcontainer, hlong⟩
  cases h with
  | null | bool | int | float | text => exact Bool.noConfusion (hcontainer _ rfl)
  | window n => exact d.not_hasLong_window n hlong
  | array _ h | object _ h | table _ h => exact h hlong

variable (d)

theorem keyForm_keyOf (v : Value) (hv : d.canBeKey v = true) : d.KeyForm v (d.keyOf v) := by
  have hlabel : ∀ v, d.labelWithin (d.tableCount + 1) [] [] v = (d.unfold v).spelling d := fun v => by
    rw [labelWithin_eq, List.append_nil, unfold]
  have hlong : (∀ j, v = .plain j → j.isContainer = true) → ¬d.HasLong v := fun hcontainer hlong =>
    Bool.noConfusion (((d.canBeKey_eq_false_iff v).2 ⟨hcontainer, hlong⟩).symm.trans hv)
  -- Only structures ask for their tree, so only for them does it count that there is no long number.
  cases v with
  | plain j =>
    cases j with
    | null => exact .null
    | bool b => exact .bool b
    | int n => exact .int n
    | float x => exact .float x
    | text t => exact .text t
    | array items =>
      change d.KeyForm _ (.text (Json.array items).label)
      rw [Json.label_eq (.array items) nofun]
      exact .array items (hlong fun j hj => by cases hj; rfl)
    | object members =>
      change d.KeyForm _ (.text (Json.object members).label)
      rw [Json.label_eq (.object members) nofun]
      exact .object members (hlong fun j hj => by cases hj; rfl)
  | window n =>
    change d.KeyForm _ (.text (d.labelWithin _ [] [] _))
    rw [hlabel]
    exact .window n
  | table ref =>
    change d.KeyForm _ (.text (d.labelWithin _ [] [] _))
    rw [hlabel]
    exact .table ref (hlong nofun)

theorem keyForm_iff (v : Value) (k : Key) : d.KeyForm v k ↔ d.keyFor v = .ok k := by
  rw [keyFor_eq_ok_iff]
  exact ⟨fun h => ⟨h.canBeKey, (d.keyForm_keyOf v h.canBeKey).unique h⟩, fun h => h.2 ▸ d.keyForm_keyOf v h.1⟩

/-- What stands for no key is a structure that leads to a long number. -/
theorem not_exists_keyForm_iff (v : Value) :
    (¬∃ k, d.KeyForm v k) ↔ (∀ j, v = .plain j → j.isContainer = true) ∧ d.HasLong v := by
  rw [← canBeKey_eq_false_iff, ← Bool.not_eq_true]
  exact not_congr ⟨fun ⟨_, hk⟩ => hk.canBeKey, fun h => ⟨_, d.keyForm_keyOf v h⟩⟩

end Desktop

end DeskScript
