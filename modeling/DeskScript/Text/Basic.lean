namespace DeskScript

/-- A list of code points, none of them a surrogate, so that every text can be printed. Lengths and columns count
them. -/
abbrev Text := List Char

namespace Text

def afterPrefix? : Text → Text → Option Text
  | [], t => some t
  | _ :: _, [] => none
  | a :: p, c :: t => if a = c then afterPrefix? p t else none

def startsWith (p t : Text) : Bool := (afterPrefix? p t).isSome

theorem afterPrefix?_eq_some_iff (p t r : Text) : afterPrefix? p t = some r ↔ t = p ++ r := by
  induction p generalizing t with
  | nil => simp [afterPrefix?, eq_comm]
  | cons a p ih =>
    cases t with
    | nil => simp [afterPrefix?]
    | cons c t => by_cases h : a = c <;> simp [afterPrefix?, h, ih, eq_comm]

/-- The result of `m` at the leftmost place where it has one. -/
def firstMatch {α : Type} (m : Text → Option α) : Text → Option α
  | [] => m []
  | c :: t =>
    match m (c :: t) with
    | some a => some a
    | none => firstMatch m t

def cutAt? (p : Text) : Text → Option (Text × Text)
  | [] => (afterPrefix? p []).map fun r => ([], r)
  | c :: t =>
    match afterPrefix? p (c :: t) with
    | some r => some ([], r)
    | none => (cutAt? p t).map fun (before, after) => (c :: before, after)

def contains (p : Text) : Text → Bool
  | [] => startsWith p []
  | c :: t => startsWith p (c :: t) || contains p t

theorem contains_eq_isSome_cutAt? (p t : Text) : contains p t = (cutAt? p t).isSome := by
  induction t with
  | nil => simp [contains, cutAt?, startsWith]
  | cons c t ih =>
    unfold contains cutAt? startsWith
    split <;> simp_all

theorem cutAt?_eq (p t before after : Text) (h : cutAt? p t = some (before, after)) :
    t = before ++ p ++ after := by
  induction t generalizing before with
  | nil =>
    simp only [cutAt?, Option.map_eq_some_iff, Prod.mk.injEq] at h
    obtain ⟨r, hr, rfl, rfl⟩ := h
    simpa using (afterPrefix?_eq_some_iff p [] _).1 hr
  | cons c t ih =>
    unfold cutAt? at h
    split at h
    · rename_i r hr
      cases h
      simpa using (afterPrefix?_eq_some_iff p (c :: t) _).1 hr
    · simp only [Option.map_eq_some_iff, Prod.mk.injEq] at h
      obtain ⟨⟨b, a⟩, hb, rfl, rfl⟩ := h
      simp [ih b hb]

/-- The pieces between the separators; there is always at least one. -/
def splitOn (sep : Char) : Text → List Text
  | [] => [[]]
  | c :: t =>
    if c = sep then [] :: splitOn sep t
    else
      match splitOn sep t with
      | [] => [[c]]
      | piece :: pieces => (c :: piece) :: pieces

def joinWith (sep : Text) (pieces : List Text) : Text := sep.intercalate pieces

theorem splitOn_ne_nil (sep : Char) (t : Text) : splitOn sep t ≠ [] := by
  cases t with
  | nil => simp [splitOn]
  | cons c t =>
    unfold splitOn
    split
    · simp
    · split <;> simp

theorem splitOn_of_notMem (sep : Char) (t : Text) (h : sep ∉ t) : splitOn sep t = [t] := by
  induction t with
  | nil => rfl
  | cons c t ih =>
    simp only [List.mem_cons, not_or] at h
    simp [splitOn, Ne.symm h.1, ih h.2]

theorem joinWith_cons_cons (sep p q : Text) (ps : List Text) :
    joinWith sep (p :: q :: ps) = p ++ sep ++ joinWith sep (q :: ps) := by
  simp [joinWith, List.intercalate, List.intersperse]

@[simp] theorem joinWith_splitOn (sep : Char) (t : Text) : joinWith [sep] (splitOn sep t) = t := by
  induction t with
  | nil => rfl
  | cons c t ih =>
    obtain ⟨p, ps, hp⟩ := List.exists_cons_of_ne_nil (splitOn_ne_nil sep t)
    rw [hp] at ih
    by_cases hc : c = sep
    · simp [splitOn, hc, hp, joinWith_cons_cons, ih]
    · have hs : splitOn sep (c :: t) = (c :: p) :: ps := by simp [splitOn, hc, hp]
      rw [hs]
      cases ps with
      | nil => simpa [joinWith, List.intercalate] using ih
      | cons q ps =>
        rw [joinWith_cons_cons] at ih ⊢
        exact congrArg (c :: ·) ih

/-- All from the last `c` on is dropped, and `c` with it; nothing if there is none. -/
def beforeLast? (c : Char) (t : Text) : Option Text :=
  match t.reverse.dropWhile (· ≠ c) with
  | [] => none
  | _ :: r => some r.reverse

end Text

end DeskScript
