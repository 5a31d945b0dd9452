namespace DeskScript

/-- A tree in which every way down has the same length. -/
inductive PerfectTree (α : Type) : (height : Nat) → Type where
  | leaf (a : α) : PerfectTree α 0
  | node {height : Nat} (a : α) (left right : PerfectTree α height) : PerfectTree α (height + 1)

namespace PerfectTree

variable {α : Type}

def count : (height : Nat) → Nat
  | 0 => 1
  | height + 1 => 1 + count height + count height

/-- The items from the root on, the left part before the right one, and `rest` after them. -/
def toListBefore : {height : Nat} → PerfectTree α height → List α → List α
  | _, leaf a, rest => a :: rest
  | _, node a l r, rest => a :: l.toListBefore (r.toListBefore rest)

def get? : {height : Nat} → PerfectTree α height → Nat → Option α
  | _, leaf a, i => if i = 0 then some a else none
  | height + 1, node a l r, i =>
    if i = 0 then some a
    else if i - 1 < count height then l.get? (i - 1)
    else r.get? (i - 1 - count height)

theorem toListBefore_eq {height : Nat} (t : PerfectTree α height) (rest : List α) :
    t.toListBefore rest = t.toListBefore [] ++ rest := by
  induction t generalizing rest with
  | leaf a => rfl
  | node a l r ihl ihr =>
    simp only [toListBefore, List.cons_append]
    rw [ihl (r.toListBefore rest), ihl (r.toListBefore []), ihr rest, List.append_assoc]

@[simp] theorem length_toListBefore {height : Nat} (t : PerfectTree α height) :
    (t.toListBefore []).length = count height := by
  induction t with
  | leaf a => rfl
  | node a l r ihl ihr =>
    rw [toListBefore, toListBefore_eq l, List.length_cons, List.length_append, ihl, ihr, count]
    omega

theorem get?_eq {height : Nat} (t : PerfectTree α height) (i : Nat) :
    t.get? i = (t.toListBefore [])[i]? := by
  induction t generalizing i with
  | leaf a => cases i <;> simp [get?, toListBefore]
  | node a l r ihl ihr =>
    cases i with
    | zero => rfl
    | succ i =>
      simp only [get?, toListBefore, Nat.add_one_ne_zero, if_false, Nat.add_sub_cancel,
        List.getElem?_cons_succ]
      rw [toListBefore_eq l, List.getElem?_append, length_toListBefore, ihl, ihr]

end PerfectTree

/-- Trees with the newest items in front; the first two may be of one height. -/
abbrev Forest (α : Type) := List ((height : Nat) × PerfectTree α height)

namespace Forest

variable {α : Type}

def toList : Forest α → List α
  | [] => []
  | ⟨_, t⟩ :: f => t.toListBefore (toList f)

/-- Two trees of one height in front are joined under the new item. -/
def push (a : α) : Forest α → Forest α
  | ⟨h, t⟩ :: ⟨h', t'⟩ :: f =>
    if eq : h' = h then ⟨h + 1, .node a t (eq ▸ t')⟩ :: f
    else ⟨0, .leaf a⟩ :: ⟨h, t⟩ :: ⟨h', t'⟩ :: f
  | f => ⟨0, .leaf a⟩ :: f

def get? : Forest α → Nat → Option α
  | [], _ => none
  | ⟨h, t⟩ :: f, i => if i < PerfectTree.count h then t.get? i else get? f (i - PerfectTree.count h)

theorem toList_push (a : α) (f : Forest α) : (Forest.push a f).toList = a :: f.toList := by
  unfold push
  split
  · split
    · rename_i eq
      subst eq
      rfl
    · rfl
  · rfl

theorem get?_eq (f : Forest α) (i : Nat) : f.get? i = f.toList[i]? := by
  induction f generalizing i with
  | nil => rfl
  | cons t f ih =>
    obtain ⟨h, t⟩ := t
    simp only [get?, toList]
    rw [PerfectTree.toListBefore_eq, List.getElem?_append, PerfectTree.length_toListBefore,
      PerfectTree.get?_eq, ih]

end Forest

/-- A list that grows at its end, in perfect trees so that an item far back is found as fast as a new one is added. -/
structure Journal (α : Type) where
  forest : Forest α
  size : Nat
  size_eq : size = forest.toList.length

namespace Journal

variable {α : Type}

def empty : Journal α := ⟨[], 0, rfl⟩

def push (j : Journal α) (a : α) : Journal α :=
  ⟨Forest.push a j.forest, j.size + 1, by rw [Forest.toList_push, j.size_eq, List.length_cons]⟩

def toList (j : Journal α) : List α := j.forest.toList.reverse

def get? (j : Journal α) (i : Nat) : Option α :=
  if i < j.size then j.forest.get? (j.size - 1 - i) else none

@[simp] theorem toList_empty : (empty : Journal α).toList = [] := rfl

@[simp] theorem toList_push (j : Journal α) (a : α) : (j.push a).toList = j.toList ++ [a] := by
  simp [toList, push, Forest.toList_push]

@[simp] theorem length_toList (j : Journal α) : j.toList.length = j.size := by
  simp [toList, j.size_eq]

theorem get?_eq (j : Journal α) (i : Nat) : j.get? i = j.toList[i]? := by
  have hs := j.size_eq
  unfold get? toList
  by_cases h : i < j.size
  · rw [if_pos h, List.getElem?_reverse (by omega), hs, Forest.get?_eq]
  · rw [if_neg h, List.getElem?_eq_none]
    simp
    omega

theorem get?_push (j : Journal α) (a : α) (i : Nat) :
    (j.push a).get? i = if i = j.size then some a else j.get? i := by
  rw [get?_eq, get?_eq, toList_push]
  obtain hlt | hge := Nat.lt_or_ge i j.toList.length
  · rw [List.getElem?_append_left hlt, if_neg (by rw [length_toList] at hlt; omega)]
  · rw [List.getElem?_append_right hge, List.getElem?_eq_none hge, List.getElem?_singleton]
    rw [length_toList] at hge ⊢
    exact ite_congr (propext (by omega)) (fun _ => rfl) fun _ => rfl

end Journal

end DeskScript
